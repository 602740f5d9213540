import ContainerBridge.Closure.Error
import ContainerBridge.Runtime.Seconds

/-! Dates, which cross as seconds since 1970 in a double. Rust counts nanoseconds and Swift's `Date`
counts seconds since 2001, so a date is rounded each time it changes its form. -/

namespace ContainerBridge

open Rounding

/-! ### Rust -/

/-- `SystemTime`, as the nanoseconds from 1970 whose whole seconds 64 bits hold. -/
structure SystemTime where
  nanos : ℤ
  le_nanos : -(2 ^ 63 * nanosPerSec) ≤ nanos
  nanos_lt : nanos < 2 ^ 63 * nanosPerSec

/-- A duration of as many nanoseconds, which are few enough wherever one is made. -/
def Duration.ofNanos (n : ℕ) : Duration where
  secs := .ofNat (n / nanosPerSec)
  nanos := .ofNat (n % nanosPerSec)
  nanos_lt := by
    rw [UInt32.toNat_ofNat']
    exact lt_of_le_of_lt (Nat.mod_le _ _) (Nat.mod_lt _ (by decide))

namespace SystemTime

/-- `UNIX_EPOCH.checked_add(after)`. -/
def checkedAdd (after : Duration) : Option SystemTime :=
  if h : (after.total : ℤ) < 2 ^ 63 * nanosPerSec then
    some ⟨after.total, by omega, h⟩
  else none

/-- `UNIX_EPOCH.checked_sub(before)`. -/
def checkedSub (before : Duration) : Option SystemTime :=
  if h : (before.total : ℤ) ≤ 2 ^ 63 * nanosPerSec then
    some ⟨-before.total, by omega, by
      have hpos : (0 : ℤ) < 2 ^ 63 * nanosPerSec := by decide
      omega⟩
  else none

/-- `duration_since(UNIX_EPOCH)`, whose error is the time before it. -/
def durationSince (time : SystemTime) : Except Duration Duration :=
  if 0 ≤ time.nanos then .ok (.ofNanos time.nanos.toNat)
  else .error (.ofNanos (-time.nanos).toNat)

end SystemTime

namespace F64

/-- `-seconds`. -/
def neg : F64 → F64
  | .finite value => .finite (-value)
  | .infinite negative => .infinite !negative
  | .nan => .nan

/-- `seconds < 0.0`. -/
def isNegative : F64 → Bool
  | .finite value => value < 0
  | .infinite negative => negative
  | .nan => false

end F64

namespace Platform

/-- The `SystemTime` of a Swift `Date`, which crosses as seconds since 1970 and is negative before
it. `display` is how Rust prints a double. -/
def systemTime (display : F64 → String) (seconds : F64) : Except Rust.Error SystemTime :=
  let time :=
    if seconds.isNegative then (Duration.tryFromSecsF64 seconds.neg).bind SystemTime.checkedSub
    else (Duration.tryFromSecsF64 seconds).bind SystemTime.checkedAdd
  match time with
  | some time => .ok time
  | none => .error (.failed "read a Swift Date as a SystemTime"
      s!"{display seconds} seconds from 1970 is outside SystemTime's range" none)

/-- A `SystemTime` as a Swift `Date`'s seconds since 1970. -/
def seconds (time : SystemTime) : F64 :=
  match time.durationSince with
  | .ok after => after.asSecsF64
  | .error before => before.asSecsF64.neg

end Platform

/-! ### Swift -/

/-- `Date`, by its seconds since 2001. -/
structure Date where
  timeIntervalSinceReferenceDate : F64

namespace Date

/-- The seconds from 1970 to 2001, where a `Date` counts from. -/
def timeIntervalBetween1970AndReferenceDate : ℚ := 978307200

/-- `Date(timeIntervalSince1970: seconds)`. -/
def init : F64 → Date
  | .finite value =>
    ⟨.finite (rounded 52 (value - timeIntervalBetween1970AndReferenceDate))⟩
  | seconds => ⟨seconds⟩

def timeIntervalSince1970 (date : Date) : F64 :=
  match date.timeIntervalSinceReferenceDate with
  | .finite value =>
    .finite (rounded 52 (value + timeIntervalBetween1970AndReferenceDate))
  | seconds => seconds

end Date

/-! ### What is read of a double -/

theorem Duration.total_ofNanos {n : ℕ} (h : n / nanosPerSec < 2 ^ 64) :
    (ofNanos n).total = n := total_ofNat h _

namespace SystemTime

/-- The seconds that a time crosses as. -/
def seconds (time : SystemTime) : ℚ :=
  if 0 ≤ time.nanos then (Duration.ofNanos time.nanos.toNat).seconds
  else -(Duration.ofNanos (-time.nanos).toNat).seconds

theorem seconds_eq (time : SystemTime) : Platform.seconds time = .finite time.seconds := by
  unfold Platform.seconds durationSince seconds
  split_ifs
  · exact Duration.asSecsF64_eq _
  · show F64.neg (Duration.asSecsF64 _) = _
    rw [Duration.asSecsF64_eq]
    rfl

theorem eq_of_nanos {a b : SystemTime} (h : a.nanos = b.nanos) : a = b := by
  obtain ⟨nanos, _, _⟩ := a
  obtain ⟨nanos', _, _⟩ := b
  dsimp only at h
  subst h
  rfl

/-- A time's distance from 1970 is a duration. -/
theorem total_natAbs (time : SystemTime) :
    (Duration.ofNanos time.nanos.natAbs).total = time.nanos.natAbs := by
  refine Duration.total_ofNanos ?_
  have hle := time.le_nanos
  have hlt := time.nanos_lt
  unfold nanosPerSec at hle hlt ⊢
  omega

theorem seconds_of_nonneg {time : SystemTime} (h : 0 ≤ time.nanos) :
    time.seconds = (Duration.ofNanos time.nanos.natAbs).seconds := by
  have habs : time.nanos.toNat = time.nanos.natAbs := by omega
  unfold seconds
  rw [if_pos h, habs]

theorem seconds_of_neg {time : SystemTime} (h : time.nanos < 0) :
    time.seconds = -(Duration.ofNanos time.nanos.natAbs).seconds := by
  have habs : (-time.nanos).toNat = time.nanos.natAbs := by omega
  unfold seconds
  rw [if_neg (not_le.mpr h), habs]

end SystemTime

namespace SystemTime

theorem checkedAdd_eq_some {after : Duration} {time : SystemTime} :
    checkedAdd after = some time ↔ (after.total : ℤ) = time.nanos := by
  unfold checkedAdd
  split_ifs with h
  · rw [Option.some.injEq]
    constructor
    · rintro rfl
      rfl
    · exact fun hnanos => eq_of_nanos hnanos
  · constructor
    · intro hnone
      cases hnone
    · intro hnanos
      exact absurd (hnanos ▸ time.nanos_lt) h

theorem checkedSub_eq_some {before : Duration} {time : SystemTime} :
    checkedSub before = some time ↔ -(before.total : ℤ) = time.nanos := by
  unfold checkedSub
  split_ifs with h
  · rw [Option.some.injEq]
    constructor
    · rintro rfl
      rfl
    · exact fun hnanos => eq_of_nanos hnanos
  · constructor
    · intro hnone
      cases hnone
    · intro hnanos
      have hle := time.le_nanos
      omega

end SystemTime

namespace Platform

variable {display : F64 → String} {value : ℚ} {time : SystemTime}

theorem systemTime_eq_ok_iff {seconds : F64} :
    systemTime display seconds = .ok time ↔
      (if seconds.isNegative then
        (Duration.tryFromSecsF64 seconds.neg).bind SystemTime.checkedSub
      else (Duration.tryFromSecsF64 seconds).bind SystemTime.checkedAdd) = some time := by
  unfold systemTime
  dsimp only
  split
  · rename_i found hfound
    rw [hfound, Except.ok.injEq, Option.some.injEq]
  · rename_i hnone
    rw [hnone]
    constructor <;> intro h <;> cases h

/-- The time read is the nearest, in nanoseconds, on either side of 1970. -/
theorem systemTime_eq_ok :
    systemTime display (.finite value) = .ok time ↔
      nearest (value * nanosPerSec) = time.nanos := by
  rw [systemTime_eq_ok_iff]
  rcases lt_or_ge value 0 with hneg | hnonneg
  · have hbefore : F64.isNegative (.finite value) = true := decide_eq_true hneg
    rw [if_pos hbefore, Option.bind_eq_some_iff]
    show (∃ before, Duration.tryFromSecsF64 (.finite (-value)) = some before ∧ _) ↔ _
    have hopposite : nearest (-value * nanosPerSec) = -nearest (value * nanosPerSec) := by
      rw [neg_mul, nearest_neg]
    constructor
    · rintro ⟨before, hbefore, htime⟩
      obtain ⟨-, hnearest⟩ := Duration.tryFromSecsF64_eq_some.mp hbefore
      rw [SystemTime.checkedSub_eq_some] at htime
      omega
    · intro hnearest
      have hle : nearest (value * nanosPerSec) ≤ 0 := by
        refine nearest_le_of_le ?_
        push_cast
        exact mul_nonpos_of_nonpos_of_nonneg hneg.le (Nat.cast_nonneg _)
      refine ⟨.ofNanos time.nanos.natAbs, Duration.tryFromSecsF64_eq_some.mpr ⟨by linarith, ?_⟩,
        SystemTime.checkedSub_eq_some.mpr ?_⟩
      · rw [time.total_natAbs]
        omega
      · rw [time.total_natAbs]
        omega
  · have hafter : ¬F64.isNegative (.finite value) = true := by
      show ¬decide (value < 0) = true
      rw [decide_eq_true_eq]
      exact not_lt.mpr hnonneg
    rw [if_neg hafter, Option.bind_eq_some_iff]
    constructor
    · rintro ⟨after, hafter, htime⟩
      obtain ⟨-, hnearest⟩ := Duration.tryFromSecsF64_eq_some.mp hafter
      rw [SystemTime.checkedAdd_eq_some] at htime
      omega
    · intro hnearest
      have hle : 0 ≤ nearest (value * nanosPerSec) := by
        refine le_nearest ?_
        push_cast
        exact mul_nonneg hnonneg (Nat.cast_nonneg _)
      refine ⟨.ofNanos time.nanos.natAbs, Duration.tryFromSecsF64_eq_some.mpr ⟨hnonneg, ?_⟩,
        SystemTime.checkedAdd_eq_some.mpr ?_⟩
      · rw [time.total_natAbs]
        omega
      · rw [time.total_natAbs]
        omega

/-- A time is read of the doubles in the range of 64 bits of seconds, and of no others. -/
theorem exists_systemTime (hvalue : Representable 52 value) :
    (∃ time, systemTime display (.finite value) = .ok time) ↔
      -2 ^ 63 ≤ value ∧ value < 2 ^ 63 := by
  -- From `2 ^ 52` on a double is an integer, so no rounding carries it over the range's ends.
  have hinteger : (2 : ℚ) ^ 52 ≤ |value| → ∃ n : ℤ, value = n ∧
      nearest (value * nanosPerSec) = n * nanosPerSec := by
    intro hlarge
    obtain ⟨n, rfl⟩ := hvalue.integer (by exact_mod_cast hlarge)
    have hcast : (n : ℚ) * nanosPerSec = (n * nanosPerSec : ℤ) := by push_cast; rfl
    exact ⟨n, rfl, by rw [hcast, nearest_intCast]⟩
  have hpos : (0 : ℚ) ≤ nanosPerSec := Nat.cast_nonneg _
  constructor
  · rintro ⟨time, htime⟩
    rw [systemTime_eq_ok] at htime
    have hle := time.le_nanos
    have hlt := time.nanos_lt
    rw [← htime] at hle hlt
    constructor
    · by_contra hbelow
      rw [not_le] at hbelow
      obtain ⟨n, rfl, hnearest⟩ := hinteger (by
        rw [abs_of_neg (by linarith)]
        linarith)
      have hn : n < -2 ^ 63 := by exact_mod_cast hbelow
      rw [hnearest] at hle
      unfold nanosPerSec at hle
      omega
    · by_contra habove
      rw [not_lt] at habove
      have hge : (2 ^ 63 * nanosPerSec : ℤ) ≤ nearest (value * nanosPerSec) := by
        refine le_nearest ?_
        push_cast
        exact mul_le_mul_of_nonneg_right habove hpos
      omega
  · rintro ⟨hle, hlt⟩
    have hlow : (-(2 ^ 63 * nanosPerSec) : ℤ) ≤ nearest (value * nanosPerSec) := by
      refine le_nearest ?_
      push_cast
      rw [← neg_mul]
      exact mul_le_mul_of_nonneg_right hle hpos
    have hhigh : nearest (value * nanosPerSec) < 2 ^ 63 * nanosPerSec := by
      rcases le_or_gt ((2 : ℚ) ^ 52) |value| with hlarge | hsmall
      · obtain ⟨n, rfl, hnearest⟩ := hinteger hlarge
        have hn : n < 2 ^ 63 := by exact_mod_cast hlt
        rw [hnearest]
        unfold nanosPerSec
        omega
      · have hbound : nearest (value * nanosPerSec) ≤ 2 ^ 52 * nanosPerSec := by
          refine nearest_le_of_le ?_
          push_cast
          exact mul_le_mul_of_nonneg_right (lt_of_abs_lt hsmall).le hpos
        unfold nanosPerSec at hbound ⊢
        omega
    exact ⟨⟨_, hlow, hhigh⟩, systemTime_eq_ok.mpr rfl⟩

/-- A double of whole seconds, or at least `2 ^ 23` seconds from 1970, is what the time read of it
crosses as. -/
theorem seconds_of_nearest (hvalue : Representable 52 value)
    (hlarge : 2 ^ 23 ≤ |value| ∨ ∃ n : ℤ, value = n)
    (h : nearest (value * nanosPerSec) = time.nanos) : time.seconds = value := by
  have hpos : (0 : ℚ) ≤ nanosPerSec := Nat.cast_nonneg _
  have hduration : |value| = value ∧ 0 ≤ time.nanos ∨ |value| = -value ∧ time.nanos < 0 := by
    rcases le_or_gt 0 value with hnonneg | hneg
    · refine .inl ⟨abs_of_nonneg hnonneg, ?_⟩
      rw [← h]
      refine le_nearest ?_
      push_cast
      exact mul_nonneg hnonneg hpos
    · refine .inr ⟨abs_of_neg hneg, ?_⟩
      have hone : value ≤ -1 := by
        rcases hlarge with hlarge | ⟨n, rfl⟩
        · rw [abs_of_neg hneg] at hlarge
          linarith
        · have hn : n < 0 := by exact_mod_cast hneg
          have hle : n ≤ -1 := by omega
          exact_mod_cast hle
      have hle : nearest (value * nanosPerSec) ≤ -1 * nanosPerSec := by
        refine nearest_le_of_le ?_
        push_cast
        exact mul_le_mul_of_nonneg_right hone hpos
      unfold nanosPerSec at hle h
      omega
  have hnearest : nearest (|value| * nanosPerSec) =
      (Duration.ofNanos time.nanos.natAbs).total := by
    rw [time.total_natAbs]
    rcases hduration with ⟨habs, hnonneg⟩ | ⟨habs, hneg⟩
    · rw [habs, h]
      omega
    · rw [habs, neg_mul, nearest_neg, h]
      omega
  have hrepresentable : Representable 52 |value| := by
    rcases hduration with ⟨habs, -⟩ | ⟨habs, -⟩
    · rwa [habs]
    · rw [habs]
      exact hvalue.neg
  have hwhole : 2 ^ 23 ≤ |value| ∨ ∃ n : ℕ, |value| = n := by
    refine hlarge.imp id ?_
    rintro ⟨n, rfl⟩
    exact ⟨n.natAbs, by rw [Nat.cast_natAbs, Int.cast_abs]⟩
  have hseconds := Duration.seconds_of_tryFromSecsF64 hrepresentable hwhole
    (Duration.tryFromSecsF64_eq_some.mpr ⟨abs_nonneg _, hnearest⟩)
  rcases hduration with ⟨habs, hnonneg⟩ | ⟨habs, hneg⟩
  · rw [SystemTime.seconds_of_nonneg hnonneg, hseconds, habs]
  · rw [SystemTime.seconds_of_neg hneg, hseconds, habs, neg_neg]

end Platform

namespace F64

/-- A number with the 53 bits of a double, or none. -/
def IsDouble : F64 → Prop
  | .finite value => Representable 52 value
  | .infinite _ => True
  | .nan => True

/-- Seconds from 1970 that `SystemTime` holds. -/
def InRange : F64 → Prop
  | .finite value => -2 ^ 63 ≤ value ∧ value < 2 ^ 63
  | .infinite _ => False
  | .nan => False

/-- Seconds whose neighbours are more than a nanosecond away, or whole ones. -/
def Told : F64 → Prop
  | .finite value => 2 ^ 23 ≤ |value| ∨ ∃ n : ℤ, value = n
  | .infinite _ => False
  | .nan => False

/-- The time is within half a nanosecond of the seconds. -/
def Near (time : SystemTime) : F64 → Prop
  | .finite value => |time.nanos - value * nanosPerSec| ≤ 1 / 2
  | .infinite _ => False
  | .nan => False

end F64

/-- Reading a Swift date succeeds for the doubles within 64 bits of seconds and fails for all
others, infinities and NaN among them. The time is the nearest nanosecond, and sent back it is the
same double, for whole seconds and for any date 97 days or more from 1970. -/
theorem Platform.system_time_reads (display : F64 → String) (date : F64) (h : date.IsDouble) :
    ((∃ time, systemTime display date = .ok time) ↔ date.InRange) ∧
    (¬date.InRange → systemTime display date =
      .error (.failed "read a Swift Date as a SystemTime"
        s!"{display date} seconds from 1970 is outside SystemTime's range" none)) ∧
    ∀ time, systemTime display date = .ok time →
      date.Near time ∧ (date.Told → seconds time = date) := by
  have hrange : (∃ time, systemTime display date = .ok time) ↔ date.InRange := by
    cases date with
    | finite value => exact exists_systemTime h
    | infinite negative =>
      refine iff_of_false ?_ id
      rintro ⟨time, htime⟩
      rw [systemTime_eq_ok_iff] at htime
      cases negative <;> cases htime
    | nan =>
      refine iff_of_false ?_ id
      rintro ⟨time, htime⟩
      rw [systemTime_eq_ok_iff] at htime
      cases htime
  refine ⟨hrange, ?_, ?_⟩
  · intro hout
    cases hread : systemTime display date with
    | ok time => exact absurd (hrange.mp ⟨time, hread⟩) hout
    | error failure =>
      unfold systemTime at hread
      dsimp only at hread
      split at hread
      · cases hread
      · exact hread.symm
  · intro time htime
    have hin := hrange.mp ⟨time, htime⟩
    cases date with
    | finite value =>
      refine ⟨?_, fun htold => ?_⟩
      · show |(time.nanos : ℚ) - value * nanosPerSec| ≤ 1 / 2
        rw [← systemTime_eq_ok.mp htime]
        exact nearest_error _
      · rw [time.seconds_eq, seconds_of_nearest h htold (systemTime_eq_ok.mp htime)]
    | infinite negative => exact hin.elim
    | nan => exact hin.elim

/-- A quarter past a second in 2023. -/
theorem Platform.sample_system_time_reads :
    ∃ time, systemTime (fun _ => "") (.finite (6800000001 / 4)) = .ok time ∧
      seconds time = .finite (6800000001 / 4) := by
  have hdouble : F64.IsDouble (.finite (6800000001 / 4)) :=
    ⟨6800000001, -2, by decide, by norm_num⟩
  obtain ⟨hrange, -, hread⟩ := system_time_reads (fun _ => "") _ hdouble
  obtain ⟨time, htime⟩ := hrange.mpr ⟨by norm_num, by norm_num⟩
  refine ⟨time, htime, (hread time htime).2 (.inl ?_)⟩
  norm_num

/-! ### There and back -/

namespace SystemTime

variable {time : SystemTime}

/-- The seconds that a time, sent to Swift, is read back as. -/
def returned (time : SystemTime) : ℚ :=
  rounded 52 (rounded 52 (time.seconds - Date.timeIntervalBetween1970AndReferenceDate) +
    Date.timeIntervalBetween1970AndReferenceDate)

theorem returned_representable (time : SystemTime) : Representable 52 time.returned :=
  rounded_representable _

theorem timeIntervalSince1970_init (time : SystemTime) :
    (Date.init (Platform.seconds time)).timeIntervalSince1970 = .finite time.returned := by
  rw [time.seconds_eq]
  rfl

/-- How far the seconds are from a time no further from 1970 than a power of two. -/
theorem seconds_error {k : ℕ} (hk : k ≤ 53) (h : |time.nanos| ≤ 2 ^ k * nanosPerSec) :
    |time.seconds - time.nanos / nanosPerSec| ≤ 2 ^ ((k : ℤ) - 53) / 2 + 1 / 2 ^ 54 := by
  have htotal := time.total_natAbs
  have hle : (Duration.ofNanos time.nanos.natAbs).total ≤ 2 ^ k * nanosPerSec := by
    rw [htotal]
    rw [Int.abs_eq_natAbs] at h
    exact_mod_cast h
  have herror := Duration.seconds_error hk hle
  rw [htotal, Nat.cast_natAbs, Int.cast_abs] at herror
  rcases le_or_gt 0 time.nanos with hnonneg | hneg
  · have hcast : (0 : ℚ) ≤ time.nanos := by exact_mod_cast hnonneg
    rwa [seconds_of_nonneg hnonneg, ← abs_of_nonneg hcast]
  · have hcast : (time.nanos : ℚ) < 0 := by exact_mod_cast hneg
    rw [abs_of_neg hcast] at herror
    rw [seconds_of_neg hneg, ← abs_neg]
    rw [neg_div] at herror
    convert herror using 2
    ring

theorem abs_seconds_le {k : ℕ} (h : |time.nanos| ≤ 2 ^ k * nanosPerSec) :
    |time.seconds| ≤ 2 ^ ((k : ℤ) + 1) := by
  have htotal := time.total_natAbs
  have hle : (Duration.ofNanos time.nanos.natAbs).total ≤ 2 ^ k * nanosPerSec := by
    rw [htotal]
    rw [Int.abs_eq_natAbs] at h
    exact_mod_cast h
  have habs : |time.seconds| = (Duration.ofNanos time.nanos.natAbs).seconds := by
    rcases le_or_gt 0 time.nanos with hnonneg | hneg
    · rw [seconds_of_nonneg hnonneg, abs_of_nonneg (Duration.seconds_nonneg _)]
    · rw [seconds_of_neg hneg, abs_neg, abs_of_nonneg (Duration.seconds_nonneg _)]
  rw [habs]
  exact Duration.seconds_le hle

/-- A time within `2 ^ 57` seconds stays within `2 ^ 60` on its way. -/
theorem abs_returned_le (h : |time.nanos| ≤ 2 ^ 57 * nanosPerSec) :
    |rounded 52 (time.seconds - Date.timeIntervalBetween1970AndReferenceDate)| ≤ 2 ^ (60 : ℤ) ∧
      |time.returned| ≤ 2 ^ (60 : ℤ) := by
  have hseconds := abs_seconds_le h
  norm_num at hseconds
  have hthere : |time.seconds - Date.timeIntervalBetween1970AndReferenceDate| ≤ 2 ^ (59 : ℤ) := by
    unfold Date.timeIntervalBetween1970AndReferenceDate
    rw [abs_le] at hseconds ⊢
    norm_num
    constructor <;> linarith [hseconds.1, hseconds.2]
  have hround := abs_rounded_le (p := 52) hthere
  have hback : |rounded 52 (time.seconds - Date.timeIntervalBetween1970AndReferenceDate) +
      Date.timeIntervalBetween1970AndReferenceDate| ≤ 2 ^ (60 : ℤ) := by
    have hbounds := abs_le.mp hround
    unfold Date.timeIntervalBetween1970AndReferenceDate at hbounds ⊢
    norm_num at hbounds
    rw [abs_le]
    norm_num
    constructor <;> linarith [hbounds.1, hbounds.2]
  refine ⟨le_trans hround ?_, abs_rounded_le hback⟩
  norm_num

/-- The origin that Swift counts from is a multiple of `2 ^ 7` seconds, and half of it a double. -/
theorem interval_grid :
    Date.timeIntervalBetween1970AndReferenceDate = (7643025 : ℤ) * (2 : ℚ) ^ (7 : ℤ) ∧
      Representable 52 (Date.timeIntervalBetween1970AndReferenceDate / 2) := by
  constructor
  · norm_num [Date.timeIntervalBetween1970AndReferenceDate]
  · have hhalf := Representable.intCast (p := 52) (K := ℚ) (n := 489153600) (by decide)
    norm_num [Date.timeIntervalBetween1970AndReferenceDate] at hhalf ⊢
    exact hhalf

/-- Close to 1970 nothing is lost on the way from Swift. -/
theorem there_of_near {there : ℚ} (hthere : Representable 52 there)
    (hreturned : rounded 52 (there + Date.timeIntervalBetween1970AndReferenceDate) = time.returned)
    (hnear : |time.returned| < 2 ^ 23) :
    there + Date.timeIntervalBetween1970AndReferenceDate = time.returned := by
  obtain ⟨hgrid, hhalf⟩ := interval_grid
  have hbounds := abs_lt.mp hnear
  have hvalue : Date.timeIntervalBetween1970AndReferenceDate = 978307200 := rfl
  have hhigh : there ≤ -(Date.timeIntervalBetween1970AndReferenceDate / 2) := by
    by_contra hgt
    have hle := le_rounded (q := there + Date.timeIntervalBetween1970AndReferenceDate) hhalf
      (by linarith)
    rw [hreturned, hvalue] at hle
    linarith
  have hlow : -2 ^ 26 - Date.timeIntervalBetween1970AndReferenceDate < there := by
    by_contra hle
    have hpow : Representable 52 (-2 ^ (26 : ℤ) : ℚ) := (Representable.zpow 26).neg
    norm_num at hpow
    have hfar := rounded_le (q := there + Date.timeIntervalBetween1970AndReferenceDate) hpow
      (by linarith)
    rw [hreturned] at hfar
    linarith
  have hsum : Representable 52 (there + Date.timeIntervalBetween1970AndReferenceDate) := by
    rw [hvalue] at hhigh hlow
    refine hthere.add hgrid ?_ ?_
    · rw [abs_of_neg (by linarith)]
      norm_num
      linarith
    · rw [hvalue, abs_of_neg (by linarith : there < 0), abs_le]
      constructor <;> linarith
  rw [rounded_of_representable hsum] at hreturned
  exact hreturned

/-- Close to 1970 the nearest nanosecond is sent as nearly the same seconds. -/
theorem close_of_near {value : ℚ} {back : SystemTime} (hnear : |value| < 2 ^ 23)
    (h : nearest (value * nanosPerSec) = back.nanos) :
    |back.seconds - value| < 1 / 2 ^ 24 := by
  have hbounds := abs_lt.mp hnear
  have hpos : (0 : ℚ) ≤ nanosPerSec := Nat.cast_nonneg _
  have hsmall : |back.nanos| ≤ 2 ^ 23 * nanosPerSec := by
    rw [← h, abs_le]
    constructor
    · refine le_nearest ?_
      push_cast
      rw [← neg_mul]
      exact mul_le_mul_of_nonneg_right hbounds.1.le hpos
    · refine nearest_le_of_le ?_
      push_cast
      exact mul_le_mul_of_nonneg_right hbounds.2.le hpos
  have hseconds := seconds_error (k := 23) (by norm_num) hsmall
  have hnanos := nearest_error (value * nanosPerSec)
  rw [h] at hnanos
  have hvalue : (nanosPerSec : ℚ) = 1000000000 := by norm_num [nanosPerSec]
  rw [hvalue] at hseconds hnanos
  norm_num [abs_le] at hseconds hnanos
  rw [abs_lt]
  norm_num
  constructor <;> linarith [hseconds.1, hseconds.2, hnanos.1, hnanos.2]

/-- Close to 1970 Swift's seconds are coarser than nanoseconds, and the nearest nanosecond is read
back as the same one of them. -/
theorem returned_near {back : SystemTime} (hnear : |time.returned| < 2 ^ 23)
    (h : nearest (time.returned * nanosPerSec) = back.nanos) : back.returned = time.returned := by
  obtain ⟨there, hthere⟩ : ∃ there,
      rounded 52 (time.seconds - Date.timeIntervalBetween1970AndReferenceDate) = there := ⟨_, rfl⟩
  have hrepresentable : Representable 52 there := hthere ▸ rounded_representable _
  have hreturned : rounded 52 (there + Date.timeIntervalBetween1970AndReferenceDate) =
      time.returned := by
    unfold returned
    rw [hthere]
  have hvalue : Date.timeIntervalBetween1970AndReferenceDate = 978307200 := rfl
  have hbounds := abs_lt.mp hnear
  have hexact := there_of_near hrepresentable hreturned hnear
  have hclose := close_of_near hnear h
  rw [hvalue] at hexact
  have habs : |there| = -there := abs_of_neg (by linarith)
  have hulp : (2 : ℚ) ^ ((29 : ℤ) - (52 : ℕ)) ≤ ulp 52 there := by
    refine le_ulp ?_
    rw [habs]
    norm_num
    linarith
  have hlog : (2 : ℚ) ^ Int.log 2 |there| ≤ 2 ^ (29 : ℤ) := by
    have hlt : (2 : ℚ) ^ Int.log 2 |there| < 2 ^ (30 : ℤ) := by
      refine lt_of_le_of_lt (zpow_log_le (by linarith : there < 0).ne) ?_
      rw [habs]
      norm_num
      linarith
    have hexponent := (zpow_lt_zpow_iff_right₀ (one_lt_two (α := ℚ))).mp hlt
    exact zpow_le_zpow_right₀ one_le_two (by omega)
  have hagain : rounded 52 (back.seconds - Date.timeIntervalBetween1970AndReferenceDate) =
      there := by
    rw [hvalue]
    have hbefore := abs_lt.mp hclose
    norm_num at hbefore hulp
    refine rounded_eq hrepresentable (by linarith : there < 0).ne (le_trans hlog ?_) ?_
    · rw [abs_of_neg (by linarith)]
      norm_num
      linarith
    · rw [abs_lt]
      constructor <;> linarith
  unfold returned at hreturned ⊢
  rw [hagain, hreturned]

/-- A time read back is sent and read back as it is. -/
theorem returned_settles {back : SystemTime} (hsize : |time.nanos| ≤ 2 ^ 57 * nanosPerSec)
    (h : nearest (time.returned * nanosPerSec) = back.nanos) : back.returned = time.returned := by
  rcases lt_or_ge |time.returned| (2 ^ 23) with hnear | hfar
  · exact returned_near hnear h
  · obtain ⟨hthere, hback⟩ := abs_returned_le hsize
    have hseconds : back.seconds = time.returned :=
      Platform.seconds_of_nearest time.returned_representable (.inl hfar) h
    obtain ⟨hgrid, hhalf⟩ := interval_grid
    have hpos : 0 < Date.timeIntervalBetween1970AndReferenceDate := by
      norm_num [Date.timeIntervalBetween1970AndReferenceDate]
    show rounded 52 (rounded 52 (back.seconds - _) + _) = _
    rw [hseconds]
    exact origin_settles (j := 7) hgrid hpos hhalf (rounded_representable _) rfl
      (by norm_num at hthere ⊢; exact hthere) (by norm_num at hback ⊢; exact hback)

/-- Up to 2106 a date is moved by a microsecond and a quarter at most. -/
theorem returned_close {back : SystemTime} (hsize : |time.nanos| ≤ 2 ^ 32 * nanosPerSec)
    (h : nearest (time.returned * nanosPerSec) = back.nanos) :
    |back.nanos - time.nanos| < 1250 := by
  obtain ⟨there, hthere⟩ : ∃ there,
      rounded 52 (time.seconds - Date.timeIntervalBetween1970AndReferenceDate) = there := ⟨_, rfl⟩
  have hreturned : rounded 52 (there + Date.timeIntervalBetween1970AndReferenceDate) =
      time.returned := by
    unfold returned
    rw [hthere]
  have hvalue : Date.timeIntervalBetween1970AndReferenceDate = 978307200 := rfl
  have hnanos : (nanosPerSec : ℚ) = 1000000000 := by norm_num [nanosPerSec]
  have hseconds := seconds_error (k := 32) (by norm_num) hsize
  have hcast : |(time.nanos : ℚ)| ≤ 2 ^ 32 * nanosPerSec := by exact_mod_cast hsize
  rw [hvalue] at hthere hreturned
  rw [hnanos] at hseconds hcast
  have htime := abs_le.mp hcast
  norm_num [abs_le] at hseconds
  have hleft := rounded_error_le (p := 52) (k := 32) (q := time.seconds - 978307200) (by
    rw [abs_le]
    norm_num
    constructor <;> linarith [hseconds.1, hseconds.2])
  rw [hthere] at hleft
  norm_num [abs_le] at hleft
  have hright := rounded_error_le (p := 52) (k := 32) (q := there + 978307200) (by
    rw [abs_le]
    norm_num
    constructor <;> linarith [hseconds.1, hseconds.2, hleft.1, hleft.2])
  rw [hreturned] at hright
  norm_num [abs_le] at hright
  have hnearest := nearest_error (time.returned * nanosPerSec)
  rw [h, hnanos] at hnearest
  norm_num [abs_le] at hnearest
  have hmoved : |(back.nanos : ℚ) - time.nanos| < 1250 := by
    rw [abs_lt]
    constructor <;>
      linarith [hseconds.1, hseconds.2, hleft.1, hleft.2, hright.1, hright.2, hnearest.1,
        hnearest.2]
  exact_mod_cast hmoved

/-- Whole seconds are doubles on either side. -/
theorem returned_of_whole {n : ℤ} (h : time.nanos = n * nanosPerSec) (hn : |n| ≤ 2 ^ 52) :
    time.returned = n := by
  have hvalue : Date.timeIntervalBetween1970AndReferenceDate = ((978307200 : ℤ) : ℚ) := by
    norm_num [Date.timeIntervalBetween1970AndReferenceDate]
  have hbounds := abs_le.mp hn
  have hwhole : Representable 52 (n : ℚ) := Representable.intCast (by rw [abs_le]; omega)
  have hseconds : time.seconds = n := by
    refine Platform.seconds_of_nearest hwhole (.inr ⟨n, rfl⟩) ?_
    have hcast : (n : ℚ) * nanosPerSec = (n * nanosPerSec : ℤ) := by push_cast; rfl
    rw [hcast, nearest_intCast, h]
  have hthere : Representable 52 ((n - 978307200 : ℤ) : ℚ) :=
    Representable.intCast (by rw [abs_le]; omega)
  unfold returned
  rw [hseconds, hvalue, ← Int.cast_sub, rounded_of_representable hthere, ← Int.cast_add,
    sub_add_cancel, rounded_of_representable hwhole]

end SystemTime

/-- A time that Rust sends as a `Date` and reads from it again. -/
def Platform.returnedTime (display : F64 → String) (time : SystemTime) :
    Except Rust.Error SystemTime :=
  systemTime display (Date.init (seconds time)).timeIntervalSince1970

/-- A time that Rust sends to Swift and reads back, by however many seconds a `Date` can count, has
moved by less than a microsecond and a quarter from 1833 to 2106, and not at all when it is in whole
seconds that a double can hold. However often it is sent and read again, it does not move any
further. -/
theorem Platform.dates_settle (display : F64 → String) (time : SystemTime)
    (h : |time.nanos| ≤ 2 ^ 57 * nanosPerSec) :
    ∃ back, returnedTime display time = .ok back ∧ returnedTime display back = .ok back ∧
      (|time.nanos| ≤ 2 ^ 32 * nanosPerSec → |back.nanos - time.nanos| < 1250) ∧
      ∀ n : ℤ, time.nanos = n * nanosPerSec → |n| ≤ 2 ^ 52 → back = time := by
  have hreturned : ∀ time, returnedTime display time =
      systemTime display (.finite time.returned) := by
    intro time
    unfold returnedTime
    rw [time.timeIntervalSince1970_init]
  obtain ⟨-, hsize⟩ := time.abs_returned_le h
  obtain ⟨back, hback⟩ : ∃ back, systemTime display (.finite time.returned) = .ok back := by
    refine (exists_systemTime time.returned_representable).mpr ?_
    rw [abs_le] at hsize
    norm_num at hsize
    constructor <;> linarith [hsize.1, hsize.2]
  have hnearest := systemTime_eq_ok.mp hback
  refine ⟨back, ?_, ?_, fun hclose => time.returned_close hclose hnearest, ?_⟩
  · rw [hreturned, hback]
  · rw [hreturned, SystemTime.returned_settles h hnearest, hback]
  · intro n hwhole hn
    have hvalue := SystemTime.returned_of_whole hwhole hn
    have hcast : (n : ℚ) * nanosPerSec = (n * nanosPerSec : ℤ) := by push_cast; rfl
    rw [hvalue, hcast, nearest_intCast] at hnearest
    exact SystemTime.eq_of_nanos (hnearest.symm.trans hwhole.symm)

/-- A time in 2023 with all its nanoseconds, and one in whole seconds. -/
theorem Platform.sample_dates_settle :
    (∃ back, returnedTime (fun _ => "") ⟨1700000000123456789, by decide, by decide⟩ = .ok back ∧
      returnedTime (fun _ => "") back = .ok back ∧ |back.nanos - 1700000000123456789| < 1250) ∧
    returnedTime (fun _ => "") ⟨1700000000000000000, by decide, by decide⟩ =
      .ok ⟨1700000000000000000, by decide, by decide⟩ := by
  obtain ⟨back, hback, hagain, hclose, -⟩ := dates_settle (fun _ => "")
    ⟨1700000000123456789, by decide, by decide⟩ (by decide)
  obtain ⟨same, hsame, -, -, hwhole⟩ := dates_settle (fun _ => "")
    ⟨1700000000000000000, by decide, by decide⟩ (by decide)
  refine ⟨⟨back, hback, hagain, hclose (by decide)⟩, ?_⟩
  rw [hsame, hwhole 1700000000 (by decide) (by decide)]

end ContainerBridge
