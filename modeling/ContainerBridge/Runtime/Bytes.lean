import ContainerBridge.Runtime.Crossing
import Mathlib.Algebra.Group.Int.Defs
import Mathlib.Algebra.Group.Nat.Defs

/-! Bytes as each language holds them: Rust's vectors, which its allocator bounds, and Swift's
`Data`, whose indices start where it says. -/

namespace ContainerBridge

/-- `Vec<u8>`, which holds no more than `isize::MAX` bytes. -/
structure Rust.ByteVec where
  bytes : List UInt8
  length_lt : bytes.length < 2 ^ 63

/-- `collect` into a `Vec<u8>`, which panics when the allocator cannot hold it. -/
def Rust.ByteVec.collect (bytes : List UInt8) : Crossing ByteVec :=
  if h : bytes.length < 2 ^ 63 then .ok ⟨bytes, h⟩ else .error (.panic "capacity overflow")

namespace Swift

/-- `Data`, whose first byte is at `startIndex`. -/
structure IndexedData where
  startIndex : Int
  bytes : List UInt8
  startIndex_nonneg : 0 ≤ startIndex
  endIndex_lt : startIndex + bytes.length < 2 ^ 63

def IndexedData.endIndex (data : IndexedData) : Int := data.startIndex + data.bytes.length

/-- `Data(values)`, of bytes that crossed. -/
def IndexedData.init (values : Rust.ByteVec) : IndexedData where
  startIndex := 0
  bytes := values.bytes
  startIndex_nonneg := Int.le_refl 0
  endIndex_lt := by simpa using Int.ofNat_lt.mpr values.length_lt

/-- The bytes as a `Vec<u8>`, by `rustVec`. -/
def IndexedData.rustVec (data : IndexedData) : Rust.ByteVec where
  bytes := data.bytes
  length_lt := by
    have := data.startIndex_nonneg
    have := data.endIndex_lt
    omega

/-- `subdata(in: lower..<upper)`, a copy whose indices start at zero. -/
def IndexedData.subdata (data : IndexedData) (lower upper : Int) : Crossing IndexedData :=
  if data.startIndex ≤ lower ∧ upper ≤ data.endIndex then
    let bytes := (data.bytes.drop (lower - data.startIndex).toNat).take (upper - lower).toNat
    .ok {
      startIndex := 0
      bytes
      startIndex_nonneg := Int.le_refl 0
      endIndex_lt := by
        have hle : bytes.length ≤ data.bytes.length :=
          Nat.le_trans (List.length_take_le' _ _) (by simp)
        have := data.startIndex_nonneg
        have := data.endIndex_lt
        omega }
  else .error (.trap "Index out of range")

/-- `Int(value)`, which traps when the value does not fit. -/
def intOf (value : UInt64) : Crossing Int :=
  if value.toNat < 2 ^ 63 then .ok value.toNat
  else .error (.trap "Not enough bits to represent the passed value")

/-- `a + b` of two indices, which traps on overflow. -/
def addIndex (a b : Int) : Crossing Int :=
  if -2 ^ 63 ≤ a + b ∧ a + b < 2 ^ 63 then .ok (a + b)
  else .error (.trap "arithmetic overflow")

/-- `lower..<upper`, which traps when the bounds are out of order. -/
def range (lower upper : Int) : Crossing (Int × Int) :=
  if lower ≤ upper then .ok (lower, upper)
  else .error (.trap "Range requires lowerBound <= upperBound")

end Swift

end ContainerBridge
