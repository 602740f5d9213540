import ContainerBridge.Library.Rounding
import ContainerBridge.Runtime.Duration
import Mathlib.Tactic.NormNum

/-! A duration that crosses as a number of seconds. A double has fewer digits than a long duration
has nanoseconds, so what comes back can be another one, but that one then crosses as it is. -/

namespace ContainerBridge

open Rounding

theorem binary64_eq {q : ℚ} (h : 0 ≤ q) : binary64 q = rounded 52 q := by
  unfold binary64
  split
  · rename_i hle
    have hzero : q = 0 := le_antisymm hle h
    rw [hzero, rounded_zero]
  · unfold rounded ulp
    rw [abs_of_nonneg h]
    rfl

namespace Duration

/-- The duration in nanoseconds. -/
def total (duration : Duration) : ℕ := duration.secs.toNat * nanosPerSec + duration.nanos.toNat

/-- The fraction of a second, as `as_secs_f64` adds it. -/
def fraction (duration : Duration) : ℚ := rounded 52 (duration.nanos.toNat / nanosPerSec)

/-- The number of seconds that a duration crosses as. -/
def seconds (duration : Duration) : ℚ :=
  rounded 52 (rounded 52 (duration.secs.toNat : ℚ) + duration.fraction)

theorem rounded_nonneg {q : ℚ} (h : 0 ≤ q) : 0 ≤ rounded 52 q := by
  have hzero : Representable 52 (0 : ℚ) := by
    have hcast := Representable.intCast (p := 52) (K := ℚ) (n := 0) (by decide)
    simpa using hcast
  exact le_rounded hzero h

theorem fraction_nonneg (duration : Duration) : 0 ≤ duration.fraction :=
  rounded_nonneg (by positivity)

theorem asSecsF64_eq (duration : Duration) : duration.asSecsF64 = .finite duration.seconds := by
  have hsecs : (0 : ℚ) ≤ duration.secs.toNat := Nat.cast_nonneg _
  have hnanos : (0 : ℚ) ≤ duration.nanos.toNat / nanosPerSec := by positivity
  unfold asSecsF64 seconds fraction
  rw [binary64_eq hsecs, binary64_eq hnanos,
    binary64_eq (add_nonneg (rounded_nonneg hsecs) (rounded_nonneg hnanos))]

theorem eq_of_total {a b : Duration} (h : a.total = b.total) : a = b := by
  obtain ⟨secs, nanos, hnanos⟩ := a
  obtain ⟨secs', nanos', hnanos'⟩ := b
  unfold total nanosPerSec at h
  unfold nanosPerSec at hnanos hnanos'
  dsimp only at h
  have hsecs : secs = secs' := UInt64.toNat_inj.mp (by omega)
  have hnanos : nanos = nanos' := UInt32.toNat_inj.mp (by omega)
  subst hsecs hnanos
  rfl

theorem total_ofNat {n : ℕ} (hfits : n / nanosPerSec < 2 ^ 64)
    (hnanos : (UInt32.ofNat (n % nanosPerSec)).toNat < nanosPerSec) :
    total ⟨.ofNat (n / nanosPerSec), .ofNat (n % nanosPerSec), hnanos⟩ = n := by
  have hmod : n % nanosPerSec < nanosPerSec := Nat.mod_lt _ (by decide)
  have hsmall : n % nanosPerSec < 2 ^ 32 := lt_trans hmod (by decide)
  unfold total
  dsimp only
  rw [UInt64.toNat_ofNat_of_lt' hfits, UInt32.toNat_ofNat_of_lt' hsmall]
  exact Nat.div_add_mod' n nanosPerSec

/-- The duration that `try_from_secs_f64` makes is the nearest, in nanoseconds. -/
theorem tryFromSecsF64_eq_some {value : ℚ} {duration : Duration} :
    tryFromSecsF64 (.finite value) = some duration ↔
      0 ≤ value ∧ nearest (value * nanosPerSec) = duration.total := by
  unfold tryFromSecsF64
  dsimp only
  split
  · rename_i hneg
    constructor
    · intro h
      cases h
    · rintro ⟨hnonneg, -⟩
      exact absurd hneg (not_lt.mpr hnonneg)
  · rename_i hnonneg
    rw [not_lt] at hnonneg
    have hnanos : 0 ≤ nearest (value * nanosPerSec) := by
      refine le_nearest ?_
      push_cast
      positivity
    have hcast : nearest (value * nanosPerSec) = (roundEven (value * nanosPerSec)).toNat :=
      (Int.toNat_of_nonneg hnanos).symm
    rw [hcast]
    split
    · rename_i hfits
      rw [Option.some.injEq]
      constructor
      · rintro rfl
        exact ⟨hnonneg, by rw [total_ofNat hfits]⟩
      · rintro ⟨-, h⟩
        exact eq_of_total ((total_ofNat hfits _).trans (Int.ofNat.inj h))
    · rename_i hlarge
      constructor
      · intro h
        cases h
      · rintro ⟨-, h⟩
        have htotal := Int.ofNat.inj h
        have hsecs := duration.secs.toNat_lt
        have hfraction := duration.nanos_lt
        unfold total at htotal
        rw [htotal] at hlarge
        unfold nanosPerSec at hlarge hfraction
        omega

/-! ### What is exact -/

theorem total_cast (duration : Duration) :
    (duration.total : ℚ) / nanosPerSec =
      duration.secs.toNat + duration.nanos.toNat / nanosPerSec := by
  unfold total nanosPerSec
  push_cast
  ring

/-- The fraction is off by a rounding below one. -/
theorem fraction_error (duration : Duration) :
    |duration.fraction - duration.nanos.toNat / nanosPerSec| ≤ 1 / 2 ^ 54 := by
  have hlt : (duration.nanos.toNat : ℚ) < nanosPerSec := by exact_mod_cast duration.nanos_lt
  have hone : |(duration.nanos.toNat : ℚ) / nanosPerSec| ≤ 2 ^ ((-1 : ℤ) + 1) := by
    have hnonneg : (0 : ℚ) ≤ duration.nanos.toNat / nanosPerSec := by positivity
    rw [abs_of_nonneg hnonneg, neg_add_cancel, zpow_zero]
    have hpos : (0 : ℚ) < nanosPerSec := by norm_num [nanosPerSec]
    rw [div_le_one hpos]
    exact hlt.le
  have herror := rounded_error_le (p := 52) hone
  norm_num at herror ⊢
  exact herror

theorem secs_exact {duration : Duration} (h : duration.secs.toNat ≤ 2 ^ 53) :
    rounded 52 (duration.secs.toNat : ℚ) = duration.secs.toNat := by
  have hcast := Representable.intCast (p := 52) (K := ℚ) (n := duration.secs.toNat) (by
    rw [Nat.abs_cast]
    exact_mod_cast h)
  rw [Int.cast_natCast] at hcast
  exact rounded_of_representable hcast

theorem fraction_le_one (duration : Duration) : duration.fraction ≤ 1 := by
  have hrepresentable : Representable 52 (1 : ℚ) := by
    have hpow := Representable.zpow (p := 52) (K := ℚ) 0
    simpa using hpow
  refine rounded_le hrepresentable ?_
  have hlt : (duration.nanos.toNat : ℚ) < nanosPerSec := by exact_mod_cast duration.nanos_lt
  have hpos : (0 : ℚ) < nanosPerSec := by norm_num [nanosPerSec]
  rw [div_le_one hpos]
  exact hlt.le

/-- The sum is no further than the next power of two, where the seconds are not. -/
theorem sum_le {duration : Duration} {k : ℕ} (h : duration.total ≤ 2 ^ k * nanosPerSec) :
    (duration.secs.toNat : ℚ) + duration.fraction ≤ 2 ^ k := by
  have hsecs : duration.secs.toNat < 2 ^ k ∨
      duration.secs.toNat = 2 ^ k ∧ duration.nanos.toNat = 0 := by
    unfold total nanosPerSec at h
    omega
  rcases hsecs with hlt | ⟨hsecs, hnanos⟩
  · have hnext : (duration.secs.toNat : ℚ) + 1 ≤ 2 ^ k := by exact_mod_cast hlt
    have hone := duration.fraction_le_one
    linarith
  · unfold fraction
    rw [hsecs, hnanos, Nat.cast_zero, zero_div, rounded_zero, add_zero]
    push_cast
    rfl

theorem seconds_le {duration : Duration} {k : ℕ} (h : duration.total ≤ 2 ^ k * nanosPerSec) :
    duration.seconds ≤ 2 ^ ((k : ℤ) + 1) := by
  have hsecs : (duration.secs.toNat : ℚ) ≤ 2 ^ (k : ℤ) := by
    have hle : duration.secs.toNat ≤ 2 ^ k := by
      unfold total nanosPerSec at h
      omega
    exact_mod_cast hle
  have hround := rounded_le (Representable.zpow (p := 52) (k : ℤ)) hsecs
  have hone := duration.fraction_le_one
  have hpow : (1 : ℚ) ≤ 2 ^ (k : ℤ) := by
    rw [zpow_natCast]
    exact one_le_pow₀ one_le_two
  refine rounded_le (Representable.zpow _) ?_
  rw [zpow_add₀ two_ne_zero, zpow_one]
  linarith

/-- How far the seconds are from a duration that is not longer than a power of two. -/
theorem seconds_error {duration : Duration} {k : ℕ} (hk : k ≤ 53)
    (h : duration.total ≤ 2 ^ k * nanosPerSec) :
    |duration.seconds - duration.total / nanosPerSec| ≤ 2 ^ ((k : ℤ) - 53) / 2 + 1 / 2 ^ 54 := by
  have hsecs : duration.secs.toNat ≤ 2 ^ 53 := by
    have hle : duration.secs.toNat ≤ 2 ^ k := by
      unfold total nanosPerSec at h
      omega
    exact le_trans hle (Nat.pow_le_pow_right two_pos hk)
  have hnonneg : (0 : ℚ) ≤ duration.secs.toNat + duration.fraction :=
    add_nonneg (Nat.cast_nonneg _) duration.fraction_nonneg
  have hsum : |(duration.secs.toNat : ℚ) + duration.fraction| ≤ 2 ^ (((k : ℤ) - 1) + 1) := by
    rw [abs_of_nonneg hnonneg, sub_add_cancel, zpow_natCast]
    exact sum_le h
  have herror := rounded_error_le (p := 52) hsum
  have hseconds : duration.seconds =
      rounded 52 ((duration.secs.toNat : ℚ) + duration.fraction) := by
    unfold seconds
    rw [secs_exact hsecs]
  have hexponent : ((k : ℤ) - 1 - (52 : ℕ)) = (k : ℤ) - 53 := by
    push_cast
    ring
  rw [← hseconds, hexponent] at herror
  have hfraction := fraction_error duration
  rw [duration.total_cast]
  rw [abs_le] at herror hfraction ⊢
  constructor <;> linarith [herror.1, herror.2, hfraction.1, hfraction.2]

/-- A whole number of seconds that a double holds crosses back as it is. -/
theorem seconds_of_whole {n : ℕ} {duration : Duration} (hn : Representable 52 (n : ℚ))
    (h : duration.total = n * nanosPerSec) : duration.seconds = n := by
  have hlt := duration.nanos_lt
  have hparts : duration.secs.toNat = n ∧ duration.nanos.toNat = 0 := by
    unfold total nanosPerSec at h
    unfold nanosPerSec at hlt
    omega
  unfold seconds fraction
  rw [hparts.1, hparts.2, Nat.cast_zero, zero_div, rounded_zero, add_zero,
    rounded_of_representable hn, rounded_of_representable hn]

/-- Below `2 ^ 23` seconds a double tells each nanosecond from the next. -/
theorem nearest_seconds {duration : Duration} (h : duration.total ≤ 2 ^ 23 * nanosPerSec) :
    nearest (duration.seconds * nanosPerSec) = duration.total := by
  have herror := seconds_error (k := 23) (by norm_num) h
  refine nearest_eq ?_
  have hpos : (nanosPerSec : ℚ) = 1000000000 := by norm_num [nanosPerSec]
  rw [hpos] at herror ⊢
  norm_num [abs_le] at herror
  push_cast
  rw [abs_lt]
  constructor <;> linarith [herror.1, herror.2]

theorem seconds_nonneg (duration : Duration) : 0 ≤ duration.seconds :=
  rounded_nonneg (add_nonneg (rounded_nonneg (Nat.cast_nonneg _)) duration.fraction_nonneg)

theorem tryFromSecsF64_seconds {duration : Duration} (h : duration.secs.toNat < 2 ^ 23) :
    tryFromSecsF64 (.finite duration.seconds) = some duration := by
  have hnanos := duration.nanos_lt
  have htotal : duration.total ≤ 2 ^ 23 * nanosPerSec := by
    unfold nanosPerSec at hnanos
    unfold total nanosPerSec
    omega
  exact tryFromSecsF64_eq_some.mpr ⟨duration.seconds_nonneg, nearest_seconds htotal⟩

section Nearest

variable {value : ℚ} {duration : Duration}
  (hnearest : nearest (value * nanosPerSec) = duration.total)

include hnearest

theorem secs_le (h : |value| < (2 : ℚ) ^ ((52 : ℕ) : ℤ)) : duration.secs.toNat ≤ 2 ^ 53 := by
  have hle : nearest (value * nanosPerSec) ≤ ((2 ^ 52 * nanosPerSec : ℕ) : ℤ) := by
    refine nearest_le_of_le ?_
    have hvalue : value ≤ 2 ^ 52 := by
      have hlt := lt_of_abs_lt h
      rw [zpow_natCast] at hlt
      exact hlt.le
    push_cast
    exact mul_le_mul_of_nonneg_right hvalue (Nat.cast_nonneg _)
  rw [hnearest] at hle
  have htotal : duration.total ≤ 2 ^ 52 * nanosPerSec := by exact_mod_cast hle
  unfold total nanosPerSec at htotal
  omega

/-- The nearest nanosecond is not before a power of two that the seconds have reached. -/
theorem binade_le (h : 2 ^ 23 ≤ value) :
    (2 : ℚ) ^ Int.log 2 |value| ≤ |(duration.secs.toNat : ℚ) + duration.fraction| := by
  have hpos : 0 < value := lt_of_lt_of_le (by norm_num) h
  have hlog : 0 ≤ Int.log 2 |value| := by
    refine le_trans (by norm_num : (0 : ℤ) ≤ 23) (le_log ?_)
    rw [abs_of_pos hpos]
    exact_mod_cast h
  obtain ⟨k, hk⟩ := Int.eq_ofNat_of_zero_le hlog
  have hreached : ((2 ^ k : ℕ) : ℚ) ≤ value := by
    have hle := zpow_log_le hpos.ne'
    rw [hk, zpow_natCast, abs_of_pos hpos] at hle
    exact_mod_cast hle
  have hle : ((2 ^ k * nanosPerSec : ℕ) : ℤ) ≤ nearest (value * nanosPerSec) := by
    refine le_nearest ?_
    push_cast at hreached ⊢
    exact mul_le_mul_of_nonneg_right hreached (Nat.cast_nonneg _)
  rw [hnearest] at hle
  have htotal : 2 ^ k * nanosPerSec ≤ duration.total := by exact_mod_cast hle
  have hnanos := duration.nanos_lt
  have hsecs : 2 ^ k ≤ duration.secs.toNat := by
    unfold total nanosPerSec at htotal
    unfold nanosPerSec at hnanos
    omega
  have hcast : ((2 ^ k : ℕ) : ℚ) ≤ duration.secs.toNat := by exact_mod_cast hsecs
  have hfraction := duration.fraction_nonneg
  rw [hk, zpow_natCast, abs_of_nonneg (by positivity)]
  push_cast at hcast
  linarith

theorem near (h : 2 ^ 23 ≤ value) :
    |value - ((duration.secs.toNat : ℚ) + duration.fraction)| < ulp 52 value / 2 := by
  have hpos : 0 < value := lt_of_lt_of_le (by norm_num) h
  have hulp : (2 : ℚ) ^ ((23 : ℤ) - (52 : ℕ)) ≤ ulp 52 value := by
    refine le_ulp ?_
    rw [abs_of_pos hpos]
    exact_mod_cast h
  have hclose := abs_le.mp (nearest_error (value * nanosPerSec))
  have hfraction := abs_le.mp (fraction_error duration)
  have htotal := duration.total_cast
  rw [hnearest] at hclose
  have hnanos : (nanosPerSec : ℚ) = 1000000000 := by norm_num [nanosPerSec]
  rw [hnanos] at htotal hfraction hclose
  rw [div_eq_iff (by norm_num)] at htotal
  push_cast at hclose
  rw [htotal] at hclose
  norm_num at hulp hfraction hclose
  rw [abs_lt]
  constructor <;> linarith

end Nearest

/-- A double from `2 ^ 23` seconds on, or of whole seconds, is told from every other by its nearest
nanosecond. -/
theorem seconds_of_tryFromSecsF64 {value : ℚ} {duration : Duration}
    (hvalue : Representable 52 value) (hlarge : 2 ^ 23 ≤ value ∨ ∃ n : ℕ, value = n)
    (h : tryFromSecsF64 (.finite value) = some duration) : duration.seconds = value := by
  obtain ⟨hnonneg, hnearest⟩ := tryFromSecsF64_eq_some.mp h
  have hwhole : ∀ n : ℕ, value = n → duration.seconds = value := by
    rintro n rfl
    refine seconds_of_whole hvalue ?_
    have hcast : (n : ℚ) * nanosPerSec = ((n * nanosPerSec : ℕ) : ℤ) := by push_cast; ring
    rw [hcast, nearest_intCast] at hnearest
    exact (Int.ofNat.inj hnearest).symm
  rcases hlarge with hlarge | ⟨n, hn⟩
  · rcases le_or_gt ((2 : ℚ) ^ ((52 : ℕ) : ℤ)) |value| with hhuge | hsmall
    · obtain ⟨n, hn⟩ := hvalue.integer hhuge
      have hcast : (0 : ℚ) ≤ n := hn ▸ hnonneg
      obtain ⟨k, rfl⟩ := Int.eq_ofNat_of_zero_le (by exact_mod_cast hcast)
      exact hwhole k (by rw [hn]; rfl)
    · have hne : value ≠ 0 := by
        have hpos : (0 : ℚ) < 2 ^ 23 := by norm_num
        exact (lt_of_lt_of_le hpos hlarge).ne'
      have hsecs := secs_le hnearest hsmall
      have hsum : duration.seconds =
          rounded 52 ((duration.secs.toNat : ℚ) + duration.fraction) := by
        unfold seconds
        rw [secs_exact hsecs]
      rw [hsum]
      exact rounded_eq hvalue hne (binade_le hnearest hlarge) (near hnearest hlarge)
  · exact hwhole n hn

theorem seconds_representable (duration : Duration) : Representable 52 duration.seconds :=
  rounded_representable _

theorem le_seconds {duration : Duration} (h : 2 ^ 23 ≤ duration.secs.toNat) :
    2 ^ 23 ≤ duration.seconds := by
  have hpow : Representable 52 ((2 : ℚ) ^ 23) := by
    have hzpow := Representable.zpow (p := 52) (K := ℚ) 23
    exact_mod_cast hzpow
  have hcast : (2 : ℚ) ^ 23 ≤ duration.secs.toNat := by exact_mod_cast h
  refine le_rounded hpow ?_
  have hwhole := le_rounded hpow hcast
  have hfraction := duration.fraction_nonneg
  linarith

/-- What a duration comes back as crosses as the same number of seconds. -/
theorem seconds_settle {duration back : Duration}
    (h : tryFromSecsF64 (.finite duration.seconds) = some back) :
    back.seconds = duration.seconds := by
  rcases lt_or_ge duration.secs.toNat (2 ^ 23) with hshort | hlong
  · rw [tryFromSecsF64_seconds hshort, Option.some.injEq] at h
    rw [h]
  · exact seconds_of_tryFromSecsF64 duration.seconds_representable (.inl (le_seconds hlong)) h

end Duration

end ContainerBridge
