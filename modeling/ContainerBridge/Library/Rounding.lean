import Mathlib.Algebra.Order.Floor.Ring
import Mathlib.Algebra.Ring.CharZero
import Mathlib.Data.Int.Log
import Mathlib.Tactic.Linarith
import Mathlib.Tactic.FieldSimp
import Mathlib.Tactic.Ring

/-! Rounding to a binary floating-point number, ties to even, with no bound on the exponent. A
number has `p` bits after its first. -/

namespace Rounding

variable {K : Type*} [Field K]

/-- A number whose bits after the first fit, at some exponent. -/
def Representable (p : ℕ) (q : K) : Prop := ∃ m e : ℤ, |m| ≤ 2 ^ (p + 1) ∧ q = m * 2 ^ e

section Representable

variable {p : ℕ} {a : K}

theorem Representable.neg (h : Representable p a) : Representable p (-a) := by
  obtain ⟨m, e, hm, rfl⟩ := h
  exact ⟨-m, e, by rwa [abs_neg], by push_cast; ring⟩

theorem Representable.intCast {n : ℤ} (h : |n| ≤ 2 ^ (p + 1)) : Representable p (n : K) :=
  ⟨n, 0, h, by simp⟩

theorem Representable.zpow (k : ℤ) : Representable p ((2 : K) ^ k) := by
  refine ⟨1, k, ?_, by simp⟩
  rw [abs_one]
  exact one_le_pow₀ one_le_two

end Representable

variable [LinearOrder K] [IsStrictOrderedRing K] [FloorRing K]

/-! ### The nearest integer -/

/-- The nearest integer, and the even one of two as near. -/
def nearest (q : K) : ℤ :=
  let floor := ⌊q⌋
  let rest := q - floor
  if rest < 1 / 2 then floor
  else if 1 / 2 < rest then floor + 1
  else if floor % 2 = 0 then floor
  else floor + 1

theorem nearest_error (q : K) : |(nearest q : K) - q| ≤ 1 / 2 := by
  have hfloor := Int.floor_le q
  have hlt := Int.lt_floor_add_one q
  unfold nearest
  dsimp only
  rw [abs_le]
  split_ifs <;> push_cast <;> constructor <;> linarith

/-- Two integers less than one apart are equal. -/
theorem eq_of_abs_sub_lt {m n : ℤ} (h : |(m : K) - n| < 1) : m = n := by
  have hcast : |m - n| < 1 := by exact_mod_cast h
  have hzero : m - n = 0 := Int.abs_lt_one_iff.mp hcast
  omega

/-- No integer is nearer. -/
theorem nearest_le (q : K) (n : ℤ) : |(nearest q : K) - q| ≤ |(n : K) - q| := by
  have herror := nearest_error q
  by_cases hnear : |(n : K) - q| < 1 / 2
  · have hsame : nearest q = n := by
      apply eq_of_abs_sub_lt (K := K)
      calc |(nearest q : K) - n| = |((nearest q : K) - q) - ((n : K) - q)| := by ring_nf
        _ ≤ |(nearest q : K) - q| + |(n : K) - q| := abs_sub _ _
        _ < 1 := by linarith
    rw [hsame]
  · exact le_trans herror (not_lt.mp hnear)

theorem nearest_eq {q : K} {n : ℤ} (h : |(n : K) - q| < 1 / 2) : nearest q = n := by
  have hle := nearest_le q n
  apply eq_of_abs_sub_lt (K := K)
  calc |(nearest q : K) - n| = |((nearest q : K) - q) - ((n : K) - q)| := by ring_nf
    _ ≤ |(nearest q : K) - q| + |(n : K) - q| := abs_sub _ _
    _ < 1 := by linarith

@[simp] theorem nearest_intCast (n : ℤ) : nearest (n : K) = n :=
  nearest_eq (by simp)

theorem le_nearest {q : K} {n : ℤ} (h : (n : K) ≤ q) : n ≤ nearest q := by
  by_contra hlt
  have hnext : (nearest q : K) + 1 ≤ n := by exact_mod_cast Int.add_one_le_iff.mpr (not_le.mp hlt)
  have herror := (abs_le.mp (nearest_error q)).1
  linarith

theorem nearest_le_of_le {q : K} {n : ℤ} (h : q ≤ n) : nearest q ≤ n := by
  by_contra hlt
  have hnext : (n : K) + 1 ≤ nearest q := by exact_mod_cast Int.add_one_le_iff.mpr (not_le.mp hlt)
  have herror := (abs_le.mp (nearest_error q)).2
  linarith

/-- A number is as near to its neighbours as the opposite number is to theirs. -/
theorem nearest_neg (q : K) : nearest (-q) = -nearest q := by
  by_cases hwhole : ((⌊q⌋ : ℤ) : K) = q
  · have hleft : nearest (-q) = -⌊q⌋ := by
      rw [← hwhole, ← Int.cast_neg, nearest_intCast, Int.floor_intCast]
    have hright : nearest q = ⌊q⌋ := by
      rw [← hwhole, nearest_intCast, Int.floor_intCast]
    rw [hleft, hright]
  · have hfloor : ⌊-q⌋ = -⌊q⌋ - 1 := by
      rw [Int.floor_eq_iff]
      have hle := lt_of_le_of_ne (Int.floor_le q) hwhole
      have hlt := Int.lt_floor_add_one q
      push_cast
      constructor <;> linarith
    unfold nearest
    dsimp only
    rw [hfloor]
    push_cast
    have hhigh : -q - (-(⌊q⌋ : K) - 1) < 1 / 2 ↔ 1 / 2 < q - ⌊q⌋ := by
      constructor <;> intro h <;> linarith
    have hlow : 1 / 2 < -q - (-(⌊q⌋ : K) - 1) ↔ q - ⌊q⌋ < 1 / 2 := by
      constructor <;> intro h <;> linarith
    rw [if_congr hhigh rfl rfl, if_congr hlow rfl rfl]
    split_ifs <;> first | omega | (exfalso; linarith)

/-! ### Numbers of some precision -/

section Precision

variable (p : ℕ)

/-- The unit of the last bit of a number of this magnitude. -/
def ulp (q : K) : K := 2 ^ (Int.log 2 |q| - p)

/-- The nearest number of this precision, and of two as near the one whose last bit is even. -/
def rounded (q : K) : K := nearest (q / ulp p q) * ulp p q

variable {p} {a b q x : K}

theorem ulp_pos (q : K) : 0 < ulp p q := zpow_pos two_pos _

theorem zpow_log_le (hq : q ≠ 0) : (2 : K) ^ Int.log 2 |q| ≤ |q| := by
  have hle := Int.zpow_log_le_self one_lt_two (abs_pos.mpr hq)
  simpa using hle

theorem lt_zpow_log (q : K) : |q| < (2 : K) ^ (Int.log 2 |q| + 1) := by
  have hlt := Int.lt_zpow_succ_log_self (R := K) one_lt_two |q|
  simpa using hlt

omit [IsStrictOrderedRing K] in
theorem zpow_eq_mul_ulp (q : K) : (2 : K) ^ Int.log 2 |q| = 2 ^ p * ulp p q := by
  unfold ulp
  rw [← zpow_natCast, ← zpow_add₀ two_ne_zero]
  congr 1
  omega

/-- Numbers that are not below the binade of another are multiples of its last unit. -/
theorem Representable.multiple (ha : Representable p a) (h : (2 : K) ^ Int.log 2 |q| ≤ |a|) :
    ∃ n : ℤ, a = n * ulp p q := by
  obtain ⟨m, e, hm, rfl⟩ := ha
  rcases le_or_gt (Int.log 2 |q| - p) e with hle | hlt
  · obtain ⟨k, hk⟩ := Int.le.dest hle
    refine ⟨m * 2 ^ k, ?_⟩
    unfold ulp
    push_cast
    rw [mul_assoc, ← zpow_natCast, ← zpow_add₀ two_ne_zero]
    congr 2
    omega
  · -- All the bits are needed to reach the binade, so the number is a power of two.
    have habs : |(m : K) * 2 ^ e| = |m| * 2 ^ e := by
      have hpos : (0 : K) < 2 ^ e := zpow_pos two_pos e
      rw [abs_mul, abs_of_pos hpos, Int.cast_abs]
    have hbits : (|m| : K) ≤ 2 ^ (p + 1) := by exact_mod_cast hm
    have hreach : (2 : K) ^ (Int.log 2 |q|) ≤ 2 ^ (e + (p + 1)) := by
      calc (2 : K) ^ Int.log 2 |q| ≤ |m| * 2 ^ e := by rw [← habs]; exact h
        _ ≤ 2 ^ (p + 1) * 2 ^ e := by
          have hpos : (0 : K) ≤ 2 ^ e := (zpow_pos two_pos e).le
          rw [Int.cast_abs]
          exact mul_le_mul_of_nonneg_right hbits hpos
        _ = 2 ^ (e + (p + 1)) := by
          rw [zpow_add₀ two_ne_zero, mul_comm]
          norm_cast
    have hlog : Int.log 2 |q| ≤ e + (p + 1) := (zpow_le_zpow_iff_right₀ one_lt_two).mp hreach
    have he : Int.log 2 |q| - p = e + 1 := by omega
    have hm2 : |m| = 2 ^ (p + 1) := by
      apply le_antisymm hm
      have hge : (2 : K) ^ (p + 1) * 2 ^ e ≤ |m| * 2 ^ e := by
        calc (2 : K) ^ (p + 1) * 2 ^ e = 2 ^ Int.log 2 |q| := by
              rw [← zpow_natCast, ← zpow_add₀ two_ne_zero]
              congr 1
              push_cast
              omega
          _ ≤ |m| * 2 ^ e := by rw [← habs]; exact h
      have hcast := le_of_mul_le_mul_right hge (zpow_pos two_pos e)
      exact_mod_cast hcast
    have heven : (2 : ℤ) ∣ m := by
      rw [← dvd_abs, hm2]
      exact Dvd.intro_left (2 ^ p) (by ring)
    obtain ⟨n, rfl⟩ := heven
    refine ⟨n, ?_⟩
    unfold ulp
    rw [he, zpow_add₀ two_ne_zero]
    push_cast
    ring

/-! ### Rounding -/

theorem rounded_sub (q : K) (n : ℤ) :
    |(n : K) * ulp p q - q| = |(n : K) - q / ulp p q| * ulp p q := by
  have hpos := ulp_pos (p := p) q
  rw [← abs_of_pos hpos, ← abs_mul, abs_of_pos hpos]
  congr 1
  field_simp

theorem rounded_error (q : K) : |rounded p q - q| ≤ ulp p q / 2 := by
  unfold rounded
  rw [rounded_sub]
  have herror := mul_le_mul_of_nonneg_right (nearest_error (q / ulp p q)) (ulp_pos (p := p) q).le
  linarith

@[simp] theorem rounded_zero : rounded p (0 : K) = 0 := by
  unfold rounded
  rw [zero_div]
  have hzero : nearest (0 : K) = 0 := by simpa using nearest_intCast (K := K) 0
  rw [hzero]
  simp

theorem rounded_representable (q : K) : Representable p (rounded p q) := by
  refine ⟨nearest (q / ulp p q), Int.log 2 |q| - p, ?_, rfl⟩
  have hpos := ulp_pos (p := p) q
  have hsmall : |q / ulp p q| ≤ ((2 ^ (p + 1) : ℤ) : K) := by
    rw [abs_div, abs_of_pos hpos, div_le_iff₀ hpos]
    have hlt := lt_zpow_log q
    rw [zpow_add₀ two_ne_zero, zpow_eq_mul_ulp (p := p)] at hlt
    push_cast
    rw [pow_succ]
    simp only [zpow_one] at hlt
    linarith
  rw [abs_le] at hsmall ⊢
  constructor
  · apply le_nearest
    push_cast at hsmall ⊢
    exact hsmall.1
  · exact nearest_le_of_le hsmall.2

/-- No number of the precision is nearer. -/
theorem rounded_nearest (ha : Representable p a) : |rounded p q - q| ≤ |a - q| := by
  have hmultiple : ∀ n : ℤ, |rounded p q - q| ≤ |(n : K) * ulp p q - q| := by
    intro n
    unfold rounded
    rw [rounded_sub, rounded_sub]
    exact mul_le_mul_of_nonneg_right (nearest_le _ n) (ulp_pos q).le
  rcases eq_or_ne q 0 with rfl | hq
  · rw [rounded_zero, sub_zero, abs_zero]
    exact abs_nonneg _
  · rcases le_or_gt ((2 : K) ^ Int.log 2 |q|) |a| with hle | hlt
    · obtain ⟨n, hn⟩ := ha.multiple hle
      rw [hn]
      exact hmultiple n
    · -- Below the binade nothing is as near as the binade's own end.
      have hend := zpow_log_le hq
      have hlow := hmultiple (-2 ^ p)
      have hhigh := hmultiple (2 ^ p)
      push_cast at hlow hhigh
      rw [neg_mul, ← zpow_eq_mul_ulp] at hlow
      rw [← zpow_eq_mul_ulp] at hhigh
      have hfar : |q| - (2 : K) ^ Int.log 2 |q| ≤ |a - q| := by
        have htriangle := abs_sub_abs_le_abs_sub q a
        rw [abs_sub_comm] at htriangle
        linarith
      refine le_trans ?_ hfar
      generalize (2 : K) ^ Int.log 2 |q| = edge at hend hlow hhigh
      rcases le_or_gt 0 q with hpos | hneg
      · rw [abs_of_nonneg hpos] at hend ⊢
        rwa [abs_sub_comm edge, abs_of_nonneg (sub_nonneg.mpr hend)] at hhigh
      · rw [abs_of_neg hneg] at hend ⊢
        have hsign : 0 ≤ -edge - q := by linarith
        rw [abs_of_nonneg hsign] at hlow
        linarith

theorem rounded_of_representable (h : Representable p q) : rounded p q = q := by
  have hnear := rounded_nearest (q := q) h
  rw [sub_self, abs_zero] at hnear
  exact sub_eq_zero.mp (abs_nonpos_iff.mp hnear)

/-- Rounding keeps the order to the numbers of the precision. -/
theorem le_rounded (ha : Representable p a) (h : a ≤ q) : a ≤ rounded p q := by
  by_contra hlt
  have hnear := rounded_nearest (q := q) ha
  rw [abs_of_nonpos (by linarith), abs_of_nonpos (by linarith)] at hnear
  linarith

theorem rounded_le (hb : Representable p b) (h : q ≤ b) : rounded p q ≤ b := by
  by_contra hlt
  have hnear := rounded_nearest (q := q) hb
  rw [abs_of_nonneg (by linarith), abs_of_nonneg (by linarith)] at hnear
  linarith

theorem le_abs_rounded {k : ℤ} (h : (2 : K) ^ k ≤ |q|) : (2 : K) ^ k ≤ |rounded p q| := by
  rcases le_abs'.mp h with hneg | hpos
  · exact le_abs'.mpr (.inl (rounded_le (Representable.zpow k).neg hneg))
  · exact le_abs'.mpr (.inr (le_rounded (Representable.zpow k) hpos))

theorem abs_rounded_le {k : ℤ} (h : |q| ≤ 2 ^ k) : |rounded p q| ≤ 2 ^ k := by
  rw [abs_le] at h ⊢
  exact ⟨le_rounded (Representable.zpow k).neg h.1, rounded_le (Representable.zpow k) h.2⟩

/-- A number within half its last unit of another, and not below the other's binade, is rounded to
it. -/
theorem rounded_eq (hx : Representable p x) (hne : x ≠ 0) (hbinade : (2 : K) ^ Int.log 2 |x| ≤ |q|)
    (hnear : |x - q| < ulp p x / 2) : rounded p q = x := by
  have hclose := rounded_nearest (q := q) hx
  obtain ⟨m, hm⟩ := (rounded_representable (p := p) q).multiple (le_abs_rounded hbinade)
  obtain ⟨n, hn⟩ := hx.multiple (zpow_log_le hne)
  have hpos := ulp_pos (p := p) x
  have hdiff : |rounded p q - x| < ulp p x := by
    calc |rounded p q - x| = |(rounded p q - q) - (x - q)| := by ring_nf
      _ ≤ |rounded p q - q| + |x - q| := abs_sub _ _
      _ < ulp p x := by linarith
  have hunits : |(m : K) - n| < 1 := by
    have hscaled : |(m : K) - n| * ulp p x = |rounded p q - x| := by
      rw [hm, ← abs_of_pos hpos, ← abs_mul, abs_of_pos hpos, sub_mul, ← hn]
    rw [← hscaled] at hdiff
    exact (mul_lt_iff_lt_one_left hpos).mp hdiff
  rw [hm, eq_of_abs_sub_lt hunits]
  exact hn.symm

theorem le_log {k : ℤ} (h : (2 : K) ^ k ≤ |q|) : k ≤ Int.log 2 |q| := by
  have hlt : (2 : K) ^ k < 2 ^ (Int.log 2 |q| + 1) := lt_of_le_of_lt h (lt_zpow_log q)
  have hexponent := (zpow_lt_zpow_iff_right₀ (one_lt_two (α := K))).mp hlt
  omega

theorem ulp_le {k : ℤ} (h : |q| < 2 ^ (k + 1)) (hq : q ≠ 0) : ulp p q ≤ 2 ^ (k - p) := by
  have hlog : (2 : K) ^ Int.log 2 |q| < 2 ^ (k + 1) := lt_of_le_of_lt (zpow_log_le hq) h
  have hexponent := (zpow_lt_zpow_iff_right₀ (one_lt_two (α := K))).mp hlog
  exact zpow_le_zpow_right₀ one_le_two (by omega)

theorem le_ulp {k : ℤ} (h : (2 : K) ^ k ≤ |q|) : (2 : K) ^ (k - p) ≤ ulp p q := by
  have hlog := le_log h
  exact zpow_le_zpow_right₀ one_le_two (by omega)

/-- The error of a number below a power of two, the power itself included. -/
theorem rounded_error_le {k : ℤ} (h : |q| ≤ 2 ^ (k + 1)) : |rounded p q - q| ≤ 2 ^ (k - p) / 2 := by
  have hpos : (0 : K) < 2 ^ (k - p) := zpow_pos two_pos _
  rcases eq_or_ne q 0 with rfl | hq
  · rw [rounded_zero, sub_zero, abs_zero]
    linarith
  · rcases lt_or_eq_of_le h with hlt | hedge
    · have herror := rounded_error (p := p) q
      have hulp := ulp_le (p := p) hlt hq
      linarith
    · have hexact : Representable p q := by
        rcases abs_choice q with hsign | hsign
        · rw [← hsign, hedge]
          exact Representable.zpow _
        · rw [← neg_neg q, ← hsign, hedge]
          exact (Representable.zpow _).neg
      rw [rounded_of_representable hexact, sub_self, abs_zero]
      linarith

/-- A number from some magnitude on is an integer. -/
theorem Representable.integer (hx : Representable p x) (h : (2 : K) ^ (p : ℤ) ≤ |x|) :
    ∃ n : ℤ, x = n := by
  have hne : x ≠ 0 := by
    rintro rfl
    rw [abs_zero] at h
    exact absurd h (not_le.mpr (zpow_pos two_pos _))
  obtain ⟨n, hn⟩ := hx.multiple (zpow_log_le hne)
  obtain ⟨k, hk⟩ := Int.le.dest (le_log h)
  refine ⟨n * 2 ^ k, hn.trans ?_⟩
  unfold ulp
  push_cast
  rw [← zpow_natCast]
  congr 2
  omega

/-! ### Another origin -/

/-- A number that is not too large counts units no larger than `2 ^ j`. -/
theorem Representable.grid {j : ℤ} (ha : Representable p a) (h : |a| ≤ 2 ^ (p + 1 + j)) :
    ∃ m e : ℤ, e ≤ j ∧ |m| ≤ 2 ^ (p + 1) ∧ a = m * 2 ^ e := by
  obtain ⟨m, e, hm, rfl⟩ := ha
  rcases le_or_gt e j with hle | hlt
  · exact ⟨m, e, hle, hm, rfl⟩
  · obtain ⟨k, hk⟩ := Int.le.dest hlt.le
    have hsplit : (m : K) * 2 ^ e = (m * 2 ^ k : ℤ) * 2 ^ j := by
      push_cast
      rw [mul_assoc, ← zpow_natCast, ← zpow_add₀ two_ne_zero]
      congr 2
      omega
    refine ⟨m * 2 ^ k, j, le_rfl, ?_, hsplit⟩
    have hpos : (0 : K) < 2 ^ j := zpow_pos two_pos j
    rw [hsplit, abs_mul, abs_of_pos hpos, zpow_add₀ two_ne_zero, ← Int.cast_abs] at h
    have hcast := le_of_mul_le_mul_right h hpos
    exact_mod_cast hcast

/-- A sum of two numbers whose units are alike is exact where it is no larger than one of them. -/
theorem Representable.add {c : K} {j n : ℤ} (ha : Representable p a) (hc : c = n * 2 ^ j)
    (hsize : |a| ≤ 2 ^ (p + 1 + j)) (h : |a + c| ≤ |a|) : Representable p (a + c) := by
  obtain ⟨m, e, he, hm, rfl⟩ := ha.grid hsize
  obtain ⟨k, hk⟩ := Int.le.dest he
  have hsum : (m : K) * 2 ^ e + c = (m + n * 2 ^ k : ℤ) * 2 ^ e := by
    rw [hc]
    push_cast
    rw [add_mul, mul_assoc (n : K), ← zpow_natCast, ← zpow_add₀ two_ne_zero]
    congr 3
    omega
  refine ⟨m + n * 2 ^ k, e, ?_, hsum⟩
  have hpos : (0 : K) < 2 ^ e := zpow_pos two_pos e
  rw [hsum, abs_mul, abs_mul, abs_of_pos hpos] at h
  have hle := le_of_mul_le_mul_right h hpos
  exact le_trans (by exact_mod_cast hle) hm

/-- A number counted from another origin and back is what it is after a second such change. -/
theorem origin_settles {c : K} {j n : ℤ} (hc : c = n * 2 ^ j) (hpos : 0 < c)
    (hhalf : Representable p (c / 2)) {there back : K} (hthere : Representable p there)
    (hback : rounded p (there + c) = back) (hsizeThere : |there| ≤ 2 ^ (p + 1 + j))
    (hsizeBack : |back| ≤ 2 ^ (p + 1 + j)) : rounded p (rounded p (back - c) + c) = back := by
  rcases le_or_gt there (-(c / 2)) with hlow | hhigh
  · -- The way back was exact, so the way there is taken again.
    have hexact : Representable p (there + c) := by
      refine hthere.add hc hsizeThere ?_
      rw [abs_of_nonpos (by linarith : there ≤ 0), abs_le]
      constructor <;> linarith
    rw [rounded_of_representable hexact] at hback
    have hsame : back - c = there := by
      rw [← hback]
      ring
    rw [hsame, rounded_of_representable hthere, hback, rounded_of_representable]
    rwa [hback] at hexact
  · -- The way there is exact from here on.
    have hge : c / 2 ≤ back := by
      rw [← hback]
      exact le_rounded hhalf (by linarith)
    have hrepresentable : Representable p back := hback ▸ rounded_representable _
    have hexact : Representable p (back + -c) := by
      refine hrepresentable.add (n := -n) ?_ hsizeBack ?_
      · rw [hc]
        push_cast
        ring
      · rw [abs_of_nonneg (by linarith : 0 ≤ back), abs_le]
        constructor <;> linarith
    rw [← sub_eq_add_neg] at hexact
    rw [rounded_of_representable hexact, sub_add_cancel, rounded_of_representable hrepresentable]

end Precision

end Rounding
