import Mathlib.Algebra.Order.Group.Int

/-! Slices that tile a range: each starts where the one before it ended, and together they reach
from one end of the range to the other. -/

namespace Tiles

/-- `slices` tile the range from `lower` to `upper`. -/
def Tile (lower upper : Int) : List (Int × Int) → Prop
  | [] => lower = upper
  | slice :: rest => slice.1 = lower ∧ slice.1 ≤ slice.2 ∧ Tile slice.2 upper rest

variable {lower middle upper : Int} {slices : List (Int × Int)}

theorem Tile.nil (lower : Int) : Tile lower lower [] := rfl

/-- A tiling is continued from where it ends. -/
theorem Tile.append_singleton (h : Tile lower middle slices) (hle : middle ≤ upper) :
    Tile lower upper (slices ++ [(middle, upper)]) := by
  induction slices generalizing lower with
  | nil =>
    cases h
    exact ⟨rfl, hle, rfl⟩
  | cons slice rest ih => exact ⟨h.1, h.2.1, ih h.2.2⟩

theorem Tile.le (h : Tile lower upper slices) : lower ≤ upper := by
  induction slices generalizing lower with
  | nil => exact Int.le_of_eq h
  | cons slice rest ih => exact h.1 ▸ h.2.1.trans (ih h.2.2)

/-- Each slice is within the range. -/
theorem Tile.within (h : Tile lower upper slices) :
    ∀ slice ∈ slices, lower ≤ slice.1 ∧ slice.1 ≤ slice.2 ∧ slice.2 ≤ upper := by
  induction slices generalizing lower with
  | nil => simp
  | cons slice rest ih =>
    intro other hmem
    obtain ⟨hlower, hle, hrest⟩ := h
    rcases List.mem_cons.mp hmem with rfl | hmem
    · exact ⟨hlower.ge, hle, hrest.le⟩
    · obtain ⟨hafter, hother⟩ := ih hrest other hmem
      exact ⟨by omega, hother⟩

/-- No slice reaches past the start of a later one. -/
theorem Tile.pairwise (h : Tile lower upper slices) :
    slices.Pairwise fun slice later => slice.2 ≤ later.1 := by
  induction slices generalizing lower with
  | nil => exact .nil
  | cons slice rest ih =>
    exact .cons (fun later hmem => (h.2.2.within later hmem).1) (ih h.2.2)

end Tiles
