import Mathlib.Data.Int.Log
import Mathlib.Data.Rat.Floor

/-! Rust's `Duration`, and the binary floating-point seconds it crosses as. A finite `f64` is the
rational it stands for, and arithmetic on it rounds to 53 bits, ties to even. -/

namespace ContainerBridge

def nanosPerSec : Nat := 1000000000

/-- `Duration`: whole seconds, and nanoseconds below one second. -/
structure Duration where
  secs : UInt64
  nanos : UInt32
  nanos_lt : nanos.toNat < nanosPerSec
  deriving DecidableEq

/-- `Duration::MAX`. -/
def Duration.max : Duration := ⟨.ofNat (2 ^ 64 - 1), 999999999, by decide⟩

/-- Rust's `f64` and Swift's `Double`. -/
inductive F64 where
  | finite (value : ℚ)
  | infinite (negative : Bool)
  | nan
  deriving DecidableEq

/-- The nearest integer, and the even one of two as near. -/
def roundEven (q : ℚ) : ℤ :=
  let floor := ⌊q⌋
  let rest := q - floor
  if rest < 1 / 2 then floor
  else if 1 / 2 < rest then floor + 1
  else if floor % 2 = 0 then floor
  else floor + 1

/-- A positive rational rounded to the 53 bits of an `f64`, for the magnitudes between a nanosecond
and the longest duration, none of which is subnormal or overflows. -/
def binary64 (q : ℚ) : ℚ :=
  if q ≤ 0 then 0
  else
    let ulp : ℚ := 2 ^ (Int.log 2 q - 52)
    roundEven (q / ulp) * ulp

/-- `as_secs_f64`: the seconds and the fraction of one, each rounded, and their sum rounded. -/
def Duration.asSecsF64 (duration : Duration) : F64 :=
  .finite (binary64 (binary64 duration.secs.toNat +
    binary64 (duration.nanos.toNat / nanosPerSec)))

/-- `try_from_secs_f64`, rounded to the nearest nanosecond, and `none` for a number that is
negative, not finite or too large. -/
def Duration.tryFromSecsF64 : F64 → Option Duration
  | .finite value =>
    if value < 0 then none
    else
      let nanos := (roundEven (value * nanosPerSec)).toNat
      if nanos / nanosPerSec < 2 ^ 64 then
        some ⟨.ofNat (nanos / nanosPerSec), .ofNat (nanos % nanosPerSec), by
          rw [UInt32.toNat_ofNat']
          exact lt_of_le_of_lt (Nat.mod_le _ _) (Nat.mod_lt _ (by decide))⟩
      else none
  | .infinite _ => none
  | .nan => none

example : Duration.tryFromSecsF64 (Duration.asSecsF64 ⟨1, 500000000, by decide⟩) =
    some ⟨1, 500000000, by decide⟩ := by decide +kernel

example : Duration.tryFromSecsF64 Duration.max.asSecsF64 = none := by decide +kernel

end ContainerBridge
