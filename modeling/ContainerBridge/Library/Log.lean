import Mathlib.Logic.Function.Basic

/-! A log that many writers add to, each entry under the name of its writer. A writer that no other
interrupts keeps its entries together. -/

namespace Log

variable {ι α : Type}

/-- No entry of one writer stands between two of another. -/
def Contiguous (log : List (ι × α)) : Prop :=
  ∀ before a middle b after, log = before ++ a :: middle ++ b :: after → a.1 = b.1 →
    ∀ entry ∈ middle, entry.1 = a.1

/-- Every entry of `i` is at the end of the log. -/
def LastBy (log : List (ι × α)) (i : ι) : Prop :=
  ∃ before after, log = before ++ after ∧ (∀ entry ∈ before, entry.1 ≠ i) ∧
    ∀ entry ∈ after, entry.1 = i

theorem Contiguous.nil : Contiguous ([] : List (ι × α)) := by
  intro before a middle b after h
  simp at h

/-- A writer that has written nothing may start. -/
theorem LastBy.of_absent {log : List (ι × α)} {i : ι} (h : ∀ entry ∈ log, entry.1 ≠ i) :
    LastBy log i := ⟨log, [], by simp, h, by simp⟩

theorem LastBy.append {log : List (ι × α)} {i : ι} (h : LastBy log i) (a : α) :
    LastBy (log ++ [(i, a)]) i := by
  obtain ⟨before, after, rfl, hbefore, hafter⟩ := h
  refine ⟨before, after ++ [(i, a)], by simp, hbefore, ?_⟩
  intro entry hentry
  rcases List.mem_append.mp hentry with hmem | hmem
  · exact hafter entry hmem
  · simp at hmem
    simp [hmem]

/-- What follows an entry of `i` is all by `i`. -/
theorem LastBy.of_mem {log : List (ι × α)} {i : ι} (h : LastBy log i) {before : List (ι × α)}
    {a : ι × α} {rest : List (ι × α)} (hlog : log = before ++ a :: rest) (ha : a.1 = i) :
    ∀ entry ∈ rest, entry.1 = i := by
  obtain ⟨front, back, rfl, hfront, hback⟩ := h
  rcases List.append_eq_append_iff.mp hlog with
    ⟨middle, hbefore, hmiddle⟩ | ⟨middle, hfront', hmiddle⟩
  · intro entry hentry
    exact hback entry (by simp [hmiddle, hentry])
  · cases middle with
    | nil =>
      intro entry hentry
      exact hback entry (by simp at hmiddle; simp [← hmiddle, hentry])
    | cons head tail =>
      obtain ⟨rfl, -⟩ := List.cons.inj hmiddle
      exact absurd ha (hfront a (by simp [hfront']))

/-- The writer whose entries are last may add one. -/
theorem Contiguous.append {log : List (ι × α)} {i : ι} (h : Contiguous log) (hi : LastBy log i)
    (x : α) : Contiguous (log ++ [(i, x)]) := by
  intro before a middle b after hlog hab
  rcases List.eq_nil_or_concat after with rfl | ⟨after, last, rfl⟩
  · have hlog' : log ++ [(i, x)] = (before ++ a :: middle) ++ [b] := by simpa using hlog
    obtain ⟨hrest, hlast⟩ := List.append_inj' hlog' rfl
    cases hlast
    rw [hab]
    exact hi.of_mem hrest hab
  · have hlog' : log ++ [(i, x)] = (before ++ a :: middle ++ b :: after) ++ [last] := by
      simpa using hlog
    exact h before a middle b after (List.append_inj' hlog' rfl).1 hab

end Log
