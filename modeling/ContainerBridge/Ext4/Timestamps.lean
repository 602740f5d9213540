import Mathlib.Algebra.Order.Floor.Ring
import Mathlib.Data.Rat.Floor

/-! The timestamps of an ext4 inode. A time is packed into one word: the low 32 bits of its seconds,
two bits that count how often these wrapped, and 30 bits of nanoseconds. Arithmetic on the seconds,
a `f64` in the source, is exact here. -/

namespace ContainerBridge

namespace Rust

/-- `as` of a float to an integer, before it is clamped to the integer's range. -/
def truncate (value : ℚ) : Int := if 0 ≤ value then ⌊value⌋ else ⌈value⌉

/-- `value as i64`. -/
def asI64 (value : ℚ) : Int64 := .ofInt (max (-2 ^ 63) (min (truncate value) (2 ^ 63 - 1)))

/-- `value as u32`. -/
def asU32 (value : ℚ) : UInt32 := .ofNat (min (truncate value).toNat (2 ^ 32 - 1))

namespace FileTimestamps

def secondsFrom1970To2001 : ℚ := 978307200

/-- `Date.distantPast`, the first instant of year 1 in Foundation's calendar. -/
def distantPast : ℚ := -63114076800

section Parts

variable (seconds : ℚ)

def whole : Int64 := asI64 ⌊seconds⌋

def base : Int32 := (whole seconds).toInt32

def epoch : UInt64 := (whole seconds - (base seconds).toInt64).toUInt64

def nanoseconds : UInt32 := min (asU32 ((seconds - ⌊seconds⌋) * 1000000000)) 999999999

/-- `base as u32 as u64`. -/
def lowWord : UInt64 := (base seconds).toUInt32.toUInt64

/-- `(nanoseconds as u64) << 34`. -/
def highBits : UInt64 := (nanoseconds seconds).toUInt64 <<< 34

end Parts

/-- Swift's internal `Date.fs()` of a time, by its seconds since 1970. -/
def fs (time : ℚ) : UInt64 :=
  let since2001 := time - secondsFrom1970To2001
  if since2001 = distantPast then 0
  else
    let seconds := since2001 + secondsFrom1970To2001
    if seconds < -0x80000000 then 0x80000000
    else if 0x37fffffff < seconds then 0x37fffffff
    else lowWord seconds ||| epoch seconds ||| highBits seconds

/-- The low 32 bits of the seconds, as an ext4 inode stores them. -/
def lo (time : ℚ) : UInt32 := (fs time).toUInt32

/-- The ext4 extra field. -/
def hi (time : ℚ) : UInt32 := (fs time >>> 32).toUInt32

end FileTimestamps

end Rust

/-! ### Decoding -/

namespace Ext4

/-- The seconds that ext4 reads from a timestamp's two words. -/
def seconds (lo extra : UInt32) : Int := lo.toInt32.toInt + (extra &&& 3).toNat * 2 ^ 32

def nanoseconds (extra : UInt32) : Nat := (extra >>> 2).toNat

/-- The time that ext4 reads, as seconds since 1970. -/
def time (lo extra : UInt32) : ℚ := seconds lo extra + nanoseconds extra / 10 ^ 9

/-- The low field as ext4 extends its sign. -/
theorem toInt_low {word : UInt64} {low : Nat} (h : word.toNat % 2 ^ 32 = low) :
    word.toUInt32.toInt32.toInt = (low : Int).bmod (2 ^ 32) := by
  have hlow : word.toUInt32.toNat = low := by rw [UInt64.toNat_toUInt32, h]
  rw [← Int32.toInt_toBitVec, UInt32.toBitVec_toInt32, BitVec.toInt_eq_toNat_bmod,
    UInt32.toNat_toBitVec, hlow]

/-- A word is read by the fields it is the sum of. -/
theorem read_of_toNat {word : UInt64} {low epoch nanos : Nat} (hlow : low < 2 ^ 32)
    (hepoch : epoch < 4) (h : word.toNat = low + epoch * 2 ^ 32 + nanos * 2 ^ 34) :
    seconds word.toUInt32 (word >>> 32).toUInt32 = (low : Int).bmod (2 ^ 32) + epoch * 2 ^ 32 ∧
      nanoseconds (word >>> 32).toUInt32 = nanos := by
  have hword := word.toNat_lt
  have hextra : (word >>> 32).toUInt32.toNat = epoch + nanos * 4 := by
    rw [UInt64.toNat_toUInt32, UInt64.toNat_shiftRight]
    simp only [UInt64.reduceToNat, Nat.reduceMod, Nat.shiftRight_eq_div_pow]
    omega
  have hthree : ((word >>> 32).toUInt32 &&& 3).toNat = epoch := by
    have hmask := Nat.and_two_pow_sub_one_eq_mod (epoch + nanos * 4) 2
    rw [UInt32.toNat_and, hextra]
    simp only [UInt32.reduceToNat, Nat.reducePow, Nat.reduceSub] at hmask ⊢
    omega
  have hmod : word.toNat % 2 ^ 32 = low := by omega
  constructor
  · rw [seconds, toInt_low hmod, hthree]
  · rw [nanoseconds, UInt32.toNat_shiftRight, hextra]
    simp only [UInt32.reduceToNat, Nat.reduceMod, Nat.shiftRight_eq_div_pow]
    omega

end Ext4

/-! ### Packing -/

namespace Rust

/-- Fields that do not overlap are added by an `or`. -/
theorem or_eq_add {low epoch nanos : Nat} (hlow : low < 2 ^ 32) (hepoch : epoch < 4) :
    low ||| epoch * 2 ^ 32 ||| nanos * 2 ^ 34 = low + epoch * 2 ^ 32 + nanos * 2 ^ 34 := by
  have hfirst : low ||| epoch * 2 ^ 32 = low + epoch * 2 ^ 32 := by
    rw [Nat.or_comm, Nat.mul_comm, ← Nat.two_pow_add_eq_or_of_lt hlow, Nat.add_comm]
  have hlt : low + epoch * 2 ^ 32 < 2 ^ 34 := by omega
  rw [hfirst, Nat.or_comm, Nat.mul_comm nanos, ← Nat.two_pow_add_eq_or_of_lt hlt, Nat.add_comm]

theorem and_shifted {i low high : Nat} (h : low < 2 ^ i) : low &&& high * 2 ^ i = 0 := by
  apply Nat.eq_of_testBit_eq
  intro j
  rw [Nat.testBit_and, Nat.testBit_mul_two_pow, Nat.zero_testBit]
  by_cases hj : j < i
  · simp [Nat.not_le.mpr hj]
  · have hlow : low < 2 ^ j := h.trans_le (Nat.pow_le_pow_right (by decide) (Nat.not_lt.mp hj))
    simp [Nat.testBit_lt_two_pow hlow]

theorem truncate_of_nonneg {value : ℚ} (h : 0 ≤ value) : truncate value = ⌊value⌋ := if_pos h

@[simp] theorem truncate_intCast (value : Int) : truncate value = value := by
  rw [truncate]
  split <;> simp

theorem toInt_asI64 {value : Int} (hlower : -2 ^ 63 ≤ value) (hupper : value < 2 ^ 63) :
    (asI64 value).toInt = value := by
  rw [asI64, truncate_intCast, min_eq_left (by omega), max_eq_right (by omega),
    Int64.toInt_ofInt_of_le (by omega) (by omega)]

namespace FileTimestamps

variable {seconds : ℚ}

/-- The seconds that the word holds. -/
def InRange (seconds : ℚ) : Prop := -0x80000000 ≤ seconds ∧ seconds ≤ 0x37fffffff

theorem InRange.floor (h : InRange seconds) :
    -0x80000000 ≤ ⌊seconds⌋ ∧ ⌊seconds⌋ ≤ 0x37fffffff := by
  obtain ⟨hlower, hupper⟩ := h
  constructor
  · exact Int.le_floor.mpr (by exact_mod_cast hlower)
  · have hle : (⌊seconds⌋ : ℚ) ≤ 0x37fffffff := (Int.floor_le seconds).trans hupper
    exact_mod_cast hle

theorem InRange.whole (h : InRange seconds) : (whole seconds).toInt = ⌊seconds⌋ := by
  have hfloor := h.floor
  exact toInt_asI64 (by omega) (by omega)

theorem base_eq (seconds : ℚ) : (base seconds).toInt = (whole seconds).toInt.bmod (2 ^ 32) :=
  Int64.toInt_toInt32 _

/-- What the low word leaves of the seconds is how often it wrapped. -/
theorem InRange.epoch (h : InRange seconds) :
    ((epoch seconds).toNat : Int) =
      (FileTimestamps.whole seconds).toInt - (base seconds).toInt := by
  have hfloor := h.floor
  have hwhole := h.whole
  have hbase := base_eq seconds
  have hdifference : (FileTimestamps.whole seconds - (base seconds).toInt64).toInt =
      (FileTimestamps.whole seconds).toInt - (base seconds).toInt := by
    rw [Int64.toInt_sub, Int32.toInt_toInt64, Int.bmod_eq_of_le] <;>
      simp only [hbase, hwhole, Int.bmod_def] <;> omega
  have hnonneg : 0 ≤ (FileTimestamps.whole seconds).toInt - (base seconds).toInt := by
    simp only [hbase, hwhole, Int.bmod_def]
    omega
  have hle : 0 ≤ FileTimestamps.whole seconds - (base seconds).toInt64 := by
    rw [Int64.le_iff_toInt_le, hdifference]
    exact hnonneg
  rw [FileTimestamps.epoch, Int64.toNat_toUInt64_of_le hle, Int64.toNatClampNeg, hdifference,
    Int.toNat_of_nonneg hnonneg]

theorem lowWord_eq (seconds : ℚ) :
    ((lowWord seconds).toNat : Int) = (base seconds).toInt % 2 ^ 32 := by
  have hword : (lowWord seconds).toNat = (base seconds).toBitVec.toNat := by
    rw [lowWord, UInt32.toNat_toUInt64]
    rfl
  have hlt := (base seconds).toBitVec.isLt
  rw [hword, ← Int32.toInt_toBitVec, BitVec.toInt_eq_toNat_bmod]
  simp only [Int.bmod_def]
  split <;> omega

/-- The fraction of a second in nanoseconds. -/
theorem nanoseconds_eq (seconds : ℚ) :
    ((nanoseconds seconds).toNat : Int) = ⌊(seconds - ⌊seconds⌋) * 1000000000⌋ ∧
      (nanoseconds seconds).toNat < 10 ^ 9 := by
  have hnonneg : 0 ≤ (seconds - ⌊seconds⌋) * 1000000000 := by
    have := Int.floor_le seconds
    nlinarith
  have hlt : (seconds - ⌊seconds⌋) * 1000000000 < 1000000000 := by
    have := Int.lt_floor_add_one seconds
    nlinarith
  have hfloor : 0 ≤ ⌊(seconds - ⌊seconds⌋) * 1000000000⌋ ∧
      ⌊(seconds - ⌊seconds⌋) * 1000000000⌋ < 1000000000 :=
    ⟨Int.floor_nonneg.mpr hnonneg, Int.floor_lt.mpr (by exact_mod_cast hlt)⟩
  generalize hnanos : ⌊(seconds - ⌊seconds⌋) * 1000000000⌋ = nanos at hfloor ⊢
  have hcast : asU32 ((seconds - ⌊seconds⌋) * 1000000000) = .ofNat nanos.toNat := by
    rw [asU32, truncate_of_nonneg hnonneg, hnanos, min_eq_left (by omega)]
  have htoNat : (UInt32.ofNat nanos.toNat).toNat = nanos.toNat :=
    UInt32.toNat_ofNat_of_lt' (by rw [UInt32.size]; omega)
  have hmin : nanoseconds seconds = .ofNat nanos.toNat := by
    rw [nanoseconds, hcast]
    refine if_pos ?_
    rw [UInt32.le_iff_toNat_le, htoNat]
    simp only [UInt32.reduceToNat]
    omega
  rw [hmin, htoNat]
  omega

/-- The nanoseconds are shifted past the two bits without loss. -/
theorem highBits_eq (seconds : ℚ) :
    (highBits seconds).toNat = (nanoseconds seconds).toNat * 2 ^ 34 := by
  have hlt := (nanoseconds_eq seconds).2
  rw [highBits, UInt64.toNat_shiftLeft, UInt32.toNat_toUInt64]
  simp only [UInt64.reduceToNat, Nat.reduceMod, Nat.shiftLeft_eq]
  omega

/-- The bits that count the wraps. -/
theorem InRange.wraps (h : InRange seconds) :
    ∃ wraps < 4, (FileTimestamps.epoch seconds).toNat = wraps * 2 ^ 32 := by
  have hfloor := h.floor
  have hepoch := h.epoch
  rw [base_eq, h.whole, Int.bmod_def] at hepoch
  refine ⟨(FileTimestamps.epoch seconds).toNat / 2 ^ 32, ?_, ?_⟩ <;> split at hepoch <;> omega

theorem lowWord_lt (seconds : ℚ) : (lowWord seconds).toNat < 2 ^ 32 := by
  have hlow := lowWord_eq seconds
  omega

/-- The time `fs` packs, once it is not the distant past. -/
theorem fs_eq {time : ℚ} (hpast : time ≠ distantPast + secondsFrom1970To2001) :
    fs time = if time < -0x80000000 then 0x80000000
      else if 0x37fffffff < time then 0x37fffffff
      else lowWord time ||| epoch time ||| highBits time := by
  have hne : time - secondsFrom1970To2001 ≠ distantPast := fun h => hpast (by rw [← h]; ring)
  simp only [fs, if_neg hne, sub_add_cancel]

theorem InRange.ne_past (h : InRange seconds) :
    seconds ≠ distantPast + secondsFrom1970To2001 := by
  rintro rfl
  have := h.1
  norm_num [distantPast, secondsFrom1970To2001] at this

theorem InRange.fs (h : InRange seconds) :
    FileTimestamps.fs seconds = lowWord seconds ||| FileTimestamps.epoch seconds |||
      highBits seconds := by
  rw [fs_eq h.ne_past, if_neg (not_lt.mpr h.1), if_neg (not_lt.mpr h.2)]

/-- Within its range, a time is read back as its whole seconds and the nanoseconds of the rest. -/
theorem InRange.read (h : InRange seconds) :
    Ext4.seconds (lo seconds) (hi seconds) = ⌊seconds⌋ ∧
      Ext4.nanoseconds (hi seconds) = (nanoseconds seconds).toNat := by
  obtain ⟨wraps, hwraps, hepoch⟩ := h.wraps
  have hword : (FileTimestamps.fs seconds).toNat =
      (lowWord seconds).toNat + wraps * 2 ^ 32 + (nanoseconds seconds).toNat * 2 ^ 34 := by
    rw [h.fs, UInt64.toNat_or, UInt64.toNat_or, hepoch, highBits_eq,
      or_eq_add (lowWord_lt seconds) hwraps]
  obtain ⟨hseconds, hnanos⟩ := Ext4.read_of_toNat (lowWord_lt seconds) hwraps hword
  refine ⟨?_, hnanos⟩
  have hlow := lowWord_eq seconds
  have hdifference := h.epoch
  rw [hepoch, h.whole] at hdifference
  rw [lo, hi, hseconds, hlow, base_eq, h.whole]
  rw [base_eq, h.whole] at hdifference
  push_cast at hdifference
  simp only [Int.bmod_def] at hdifference ⊢
  omega

/-- What the conversions make of the seconds in range. Only the low word wraps, and the three parts
of the word share no bit. -/
structure Converted (seconds : ℚ) : Prop where
  whole : (whole seconds).toInt = ⌊seconds⌋
  base : (base seconds).toInt = (FileTimestamps.whole seconds).toInt.bmod (2 ^ 32)
  lowWord : ((lowWord seconds).toNat : Int) = (FileTimestamps.base seconds).toInt % 2 ^ 32
  epoch : ((epoch seconds).toNat : Int) =
    (FileTimestamps.whole seconds).toInt - (FileTimestamps.base seconds).toInt
  nanoseconds : ((nanoseconds seconds).toNat : Int) = ⌊(seconds - ⌊seconds⌋) * 1000000000⌋
  highBits : (highBits seconds).toNat = (FileTimestamps.nanoseconds seconds).toNat * 2 ^ 34
  lowWord_epoch : FileTimestamps.lowWord seconds &&& FileTimestamps.epoch seconds = 0
  rest_highBits : (FileTimestamps.lowWord seconds ||| FileTimestamps.epoch seconds) &&&
    FileTimestamps.highBits seconds = 0

theorem InRange.converted (h : InRange seconds) : Converted seconds := by
  obtain ⟨wraps, hwraps, hepoch⟩ := h.wraps
  have hlow := lowWord_lt seconds
  have hrest : (lowWord seconds ||| FileTimestamps.epoch seconds).toNat =
      (lowWord seconds).toNat + wraps * 2 ^ 32 := by
    have hor : (lowWord seconds).toNat ||| wraps * 2 ^ 32 ||| 0 * 2 ^ 34 = _ :=
      or_eq_add hlow hwraps
    rw [UInt64.toNat_or, hepoch]
    simpa using hor
  refine ⟨h.whole, base_eq seconds, lowWord_eq seconds, h.epoch, (nanoseconds_eq seconds).1,
    highBits_eq seconds, ?_, ?_⟩
  · rw [← UInt64.toNat_inj, UInt64.toNat_and, hepoch, and_shifted hlow]
    rfl
  · rw [← UInt64.toNat_inj, UInt64.toNat_and, hrest, highBits_eq, and_shifted (by omega)]
    rfl

/-- The seconds, as the word holds them. -/
def clamped (seconds : ℚ) : ℚ := max (-0x80000000) (min seconds 0x37fffffff)

theorem floor_add_nanoseconds (seconds : ℚ) :
    (⌊seconds⌋ : ℚ) + ⌊(seconds - ⌊seconds⌋) * 1000000000⌋ / 10 ^ 9 =
      ⌊seconds * 10 ^ 9⌋ / 10 ^ 9 := by
  have hfraction : (seconds - ⌊seconds⌋) * 1000000000 =
      seconds * 10 ^ 9 - ((⌊seconds⌋ * 10 ^ 9 : Int) : ℚ) := by
    push_cast
    ring
  rw [hfraction, Int.floor_sub_intCast]
  push_cast
  ring

/-- A time before the range is read back as its start. -/
theorem read_below {time : ℚ} (hpast : time ≠ distantPast + secondsFrom1970To2001)
    (h : time < -0x80000000) :
    Ext4.seconds (lo time) (hi time) = -2 ^ 31 ∧ Ext4.nanoseconds (hi time) = 0 := by
  have hword : fs time = 0x80000000 := by rw [fs_eq hpast, if_pos h]
  rw [lo, hi, hword]
  decide

/-- A time past the range is read back as its end. -/
theorem read_above {time : ℚ} (hpast : time ≠ distantPast + secondsFrom1970To2001)
    (h : 0x37fffffff < time) :
    Ext4.seconds (lo time) (hi time) = 0x37fffffff ∧ Ext4.nanoseconds (hi time) = 0 := by
  have hword : fs time = 0x37fffffff := by
    rw [fs_eq hpast, if_neg (not_lt.mpr (by linarith)), if_pos h]
  rw [lo, hi, hword]
  decide

theorem floor_whole (seconds : Int) :
    (⌊(seconds : ℚ) * 10 ^ 9⌋ : ℚ) / 10 ^ 9 = seconds := by
  have hwhole : (seconds : ℚ) * 10 ^ 9 = ((seconds * 10 ^ 9 : Int) : ℚ) := by push_cast; ring
  rw [hwhole, Int.floor_intCast]
  push_cast
  ring

/-- The time that is read back is the time packed, to the nanosecond below it. -/
theorem time_eq {time : ℚ} (hpast : time ≠ distantPast + secondsFrom1970To2001) :
    Ext4.time (lo time) (hi time) = ⌊clamped time * 10 ^ 9⌋ / 10 ^ 9 := by
  by_cases hlower : time < -0x80000000
  · have hclamped : clamped time = ((-2 ^ 31 : Int) : ℚ) := by
      rw [clamped, max_eq_left ((min_le_left _ _).trans hlower.le)]
      norm_num
    obtain ⟨hseconds, hnanos⟩ := read_below hpast hlower
    rw [Ext4.time, hseconds, hnanos, hclamped, floor_whole]
    simp
  · by_cases hupper : 0x37fffffff < time
    · have hclamped : clamped time = ((0x37fffffff : Int) : ℚ) := by
        rw [clamped, min_eq_right hupper.le]
        norm_num
      obtain ⟨hseconds, hnanos⟩ := read_above hpast hupper
      rw [Ext4.time, hseconds, hnanos, hclamped, floor_whole]
      simp
    · have hrange : InRange time := ⟨not_lt.mp hlower, not_lt.mp hupper⟩
      have hclamped : clamped time = time := by
        rw [clamped, min_eq_left hrange.2, max_eq_right hrange.1]
      obtain ⟨hseconds, hnanos⟩ := hrange.read
      rw [Ext4.time, hseconds, hnanos, hclamped, ← floor_add_nanoseconds,
        ← (nanoseconds_eq time).1, Int.cast_natCast]

theorem time_mono {time later : ℚ} (hpast : time ≠ distantPast + secondsFrom1970To2001)
    (hlater : later ≠ distantPast + secondsFrom1970To2001) (h : time ≤ later) :
    Ext4.time (lo time) (hi time) ≤ Ext4.time (lo later) (hi later) := by
  have hclamped : clamped time ≤ clamped later :=
    max_le_max le_rfl (min_le_min h le_rfl)
  rw [time_eq hpast, time_eq hlater]
  gcongr

/-- A packed time is read back to the nanosecond in its range, and as the nearer end of it outside.
Only the low word's conversions wrap. -/
theorem fs_reads (time : ℚ) (hpast : time ≠ distantPast + secondsFrom1970To2001) :
    (InRange time → Ext4.seconds (lo time) (hi time) = ⌊time⌋ ∧
      (Ext4.nanoseconds (hi time) : Int) = ⌊(time - ⌊time⌋) * 1000000000⌋ ∧
      Ext4.nanoseconds (hi time) < 10 ^ 9 ∧ Converted time) ∧
    (time < -0x80000000 →
      Ext4.seconds (lo time) (hi time) = -2 ^ 31 ∧ Ext4.nanoseconds (hi time) = 0) ∧
    (0x37fffffff < time →
      Ext4.seconds (lo time) (hi time) = 0x37fffffff ∧ Ext4.nanoseconds (hi time) = 0) ∧
    ∀ later, later ≠ distantPast + secondsFrom1970To2001 → time ≤ later →
      Ext4.time (lo time) (hi time) ≤ Ext4.time (lo later) (hi later) := by
  refine ⟨fun hrange => ?_, read_below hpast, read_above hpast, fun later => time_mono hpast⟩
  obtain ⟨hseconds, hnanos⟩ := hrange.read
  have hexact := nanoseconds_eq time
  rw [← hnanos] at hexact
  exact ⟨hseconds, hexact.1, hexact.2, hrange.converted⟩

/-- Half a second past the first second that the low word cannot hold. -/
theorem sample_fs_reads :
    Ext4.seconds (lo (2 ^ 31 + 1 / 2)) (hi (2 ^ 31 + 1 / 2)) = 2 ^ 31 ∧
      (Ext4.nanoseconds (hi (2 ^ 31 + 1 / 2)) : Int) = 500000000 := by
  have hpast : (2 ^ 31 + 1 / 2 : ℚ) ≠ distantPast + secondsFrom1970To2001 := by
    norm_num [distantPast, secondsFrom1970To2001]
  have hrange : InRange (2 ^ 31 + 1 / 2) := ⟨by norm_num, by norm_num⟩
  have hfloor : ⌊(2 ^ 31 + 1 / 2 : ℚ)⌋ = 2 ^ 31 := by
    rw [Int.floor_eq_iff]
    norm_num
  obtain ⟨hseconds, hnanos, -, -⟩ := (fs_reads _ hpast).1 hrange
  refine ⟨hseconds.trans hfloor, hnanos.trans ?_⟩
  rw [hfloor, Int.floor_eq_iff]
  norm_num

/-- Each conversion of the whole seconds keeps its value. -/
def NothingWraps (seconds : ℚ) : Prop :=
  (whole seconds).toInt = ⌊seconds⌋ ∧ (base seconds).toInt = (whole seconds).toInt ∧
    ((lowWord seconds).toNat : Int) = (base seconds).toInt

/-- The low word wraps from 2038 on, which the two bits count. -/
theorem low_word_wraps : ¬∀ seconds, InRange seconds → NothingWraps seconds := by
  intro h
  have hrange : InRange ((2 ^ 31 : Int) : ℚ) := ⟨by norm_num, by norm_num⟩
  obtain ⟨hwhole, hbase, -⟩ := h _ hrange
  rw [base_eq, hwhole, Int.floor_intCast] at hbase
  exact absurd hbase (by decide)

end FileTimestamps

end Rust

end ContainerBridge
