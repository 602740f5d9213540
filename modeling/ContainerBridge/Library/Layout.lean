import Mathlib.Algebra.Order.Group.Nat
import Mathlib.Algebra.Order.Ring.Nat

/-! Structs in memory, as C lays them out: each field stands after the one before it, at the next
offset its alignment divides, and the size is rounded up to the widest alignment. Writing a struct
leaves the bytes between its fields as they were. -/

namespace Layout

/-! ### Integers, least significant byte first -/

def toLE : Nat → Nat → List UInt8
  | 0, _ => []
  | width + 1, n => .ofNat n :: toLE width (n / 256)

def ofLE : List UInt8 → Nat
  | [] => 0
  | byte :: bytes => byte.toNat + 256 * ofLE bytes

@[simp] theorem length_toLE (width n : Nat) : (toLE width n).length = width := by
  induction width generalizing n with
  | zero => rfl
  | succ width ih =>
    show (toLE width (n / 256)).length + 1 = width + 1
    rw [ih]

theorem ofLE_toLE {width n : Nat} (h : n < 256 ^ width) : ofLE (toLE width n) = n := by
  induction width generalizing n with
  | zero =>
    have hzero : n = 0 := by simpa using h
    rw [hzero]
    rfl
  | succ width ih =>
    have hrest : n / 256 < 256 ^ width := by
      rw [Nat.pow_succ] at h
      omega
    show (UInt8.ofNat n).toNat + 256 * ofLE (toLE width (n / 256)) = n
    rw [ih hrest, UInt8.toNat_ofNat']
    omega

theorem ofLE_lt (bytes : List UInt8) : ofLE bytes < 256 ^ bytes.length := by
  induction bytes with
  | nil => simp [ofLE]
  | cons byte bytes ih =>
    have hbyte := byte.toNat_lt
    show byte.toNat + 256 * ofLE bytes < 256 ^ (bytes.length + 1)
    rw [Nat.pow_succ]
    omega

theorem toLE_ofLE (bytes : List UInt8) : toLE bytes.length (ofLE bytes) = bytes := by
  induction bytes with
  | nil => rfl
  | cons byte bytes ih =>
    have hbyte := byte.toNat_lt
    have hfirst : UInt8.ofNat (byte.toNat + 256 * ofLE bytes) = byte := by
      apply UInt8.toNat_inj.mp
      rw [UInt8.toNat_ofNat']
      omega
    have hrest : (byte.toNat + 256 * ofLE bytes) / 256 = ofLE bytes := by omega
    show .ofNat (byte.toNat + 256 * ofLE bytes) ::
      toLE bytes.length ((byte.toNat + 256 * ofLE bytes) / 256) = byte :: bytes
    rw [hfirst, hrest, ih]

/-- The unsigned integers. Each is aligned to its width. -/
inductive Scalar where
  | u8 | u16 | u32 | u64
  deriving DecidableEq

namespace Scalar

def width : Scalar → Nat
  | u8 => 1
  | u16 => 2
  | u32 => 4
  | u64 => 8

abbrev Value : Scalar → Type
  | u8 => UInt8
  | u16 => UInt16
  | u32 => UInt32
  | u64 => UInt64

def toNat : (scalar : Scalar) → scalar.Value → Nat
  | u8, value => UInt8.toNat value
  | u16, value => UInt16.toNat value
  | u32, value => UInt32.toNat value
  | u64, value => UInt64.toNat value

def fromNat : (scalar : Scalar) → Nat → scalar.Value
  | u8, n => UInt8.ofNat n
  | u16, n => UInt16.ofNat n
  | u32, n => UInt32.ofNat n
  | u64, n => UInt64.ofNat n

variable (scalar : Scalar)

theorem width_pos : 0 < scalar.width := by
  cases scalar <;> decide

theorem toNat_lt (value : scalar.Value) : scalar.toNat value < 256 ^ scalar.width := by
  cases scalar with
  | u8 => exact UInt8.toNat_lt value
  | u16 => exact UInt16.toNat_lt value
  | u32 => exact UInt32.toNat_lt value
  | u64 => exact UInt64.toNat_lt value

theorem fromNat_toNat (value : scalar.Value) : scalar.fromNat (scalar.toNat value) = value := by
  cases scalar with
  | u8 => exact UInt8.ofNat_toNat
  | u16 => exact UInt16.ofNat_toNat
  | u32 => exact UInt32.ofNat_toNat
  | u64 => exact UInt64.ofNat_toNat

theorem toNat_fromNat {n : Nat} (h : n < 256 ^ scalar.width) :
    scalar.toNat (scalar.fromNat n) = n := by
  cases scalar with
  | u8 => exact UInt8.toNat_ofNat_of_lt' h
  | u16 => exact UInt16.toNat_ofNat_of_lt' h
  | u32 => exact UInt32.toNat_ofNat_of_lt' h
  | u64 => exact UInt64.toNat_ofNat_of_lt' h

def bytes (value : scalar.Value) : List UInt8 := toLE scalar.width (scalar.toNat value)

/-- The value of the first bytes. -/
def ofBytes (memory : List UInt8) : scalar.Value :=
  scalar.fromNat (ofLE (memory.take scalar.width))

@[simp] theorem length_bytes (value : scalar.Value) : (scalar.bytes value).length = scalar.width :=
  length_toLE _ _

theorem ofBytes_append (value : scalar.Value) (rest : List UInt8) :
    scalar.ofBytes (scalar.bytes value ++ rest) = value := by
  unfold ofBytes
  rw [List.take_left' (scalar.length_bytes value)]
  unfold bytes
  rw [ofLE_toLE (scalar.toNat_lt value), fromNat_toNat]

theorem bytes_ofBytes {memory : List UInt8} (h : scalar.width ≤ memory.length) :
    scalar.bytes (scalar.ofBytes memory) = memory.take scalar.width := by
  have hlength : (memory.take scalar.width).length = scalar.width := by
    rw [List.length_take]
    omega
  have hlt := ofLE_lt (memory.take scalar.width)
  rw [hlength] at hlt
  have hround := toLE_ofLE (memory.take scalar.width)
  rw [hlength] at hround
  unfold bytes ofBytes
  rw [toNat_fromNat _ hlt, hround]

/-- The values of the first bytes, one after another. -/
def listOfBytes : Nat → List UInt8 → List scalar.Value
  | 0, _ => []
  | count + 1, memory => scalar.ofBytes memory :: listOfBytes count (memory.drop scalar.width)

@[simp] theorem length_listOfBytes (count : Nat) (memory : List UInt8) :
    (scalar.listOfBytes count memory).length = count := by
  induction count generalizing memory with
  | zero => rfl
  | succ count ih =>
    show (scalar.listOfBytes count _).length + 1 = count + 1
    rw [ih]

@[simp] theorem length_flatMap_bytes (values : List scalar.Value) :
    (values.flatMap scalar.bytes).length = values.length * scalar.width := by
  induction values with
  | nil => simp
  | cons value values ih =>
    rw [List.flatMap_cons, List.length_append, ih, length_bytes, List.length_cons, Nat.succ_mul,
      Nat.add_comm]

theorem listOfBytes_append (values : List scalar.Value) (rest : List UInt8) :
    scalar.listOfBytes values.length (values.flatMap scalar.bytes ++ rest) = values := by
  induction values with
  | nil => rfl
  | cons value values ih =>
    rw [List.flatMap_cons, List.append_assoc]
    show scalar.ofBytes (scalar.bytes value ++ _) ::
      scalar.listOfBytes values.length ((scalar.bytes value ++ _).drop scalar.width) = _
    rw [ofBytes_append, List.drop_left' (scalar.length_bytes value), ih]

theorem flatMap_listOfBytes {count : Nat} {memory : List UInt8}
    (h : count * scalar.width ≤ memory.length) :
    (scalar.listOfBytes count memory).flatMap scalar.bytes =
      memory.take (count * scalar.width) := by
  induction count generalizing memory with
  | zero => simp [listOfBytes]
  | succ count ih =>
    rw [Nat.succ_mul] at h
    have hrest : count * scalar.width ≤ (memory.drop scalar.width).length := by
      rw [List.length_drop]
      omega
    show (scalar.ofBytes memory :: _).flatMap scalar.bytes = _
    rw [List.flatMap_cons, ih hrest, bytes_ofBytes _ (by omega), Nat.succ_mul,
      Nat.add_comm (count * scalar.width), List.take_add]

end Scalar

/-! ### Fields -/

inductive FieldType where
  | one (scalar : Scalar)
  | array (scalar : Scalar) (count : Nat)
  deriving DecidableEq

namespace FieldType

abbrev Value : FieldType → Type
  | one scalar => scalar.Value
  | array scalar count => Vector scalar.Value count

def align : FieldType → Nat
  | one scalar | array scalar _ => scalar.width

def size : FieldType → Nat
  | one scalar => scalar.width
  | array scalar count => count * scalar.width

def bytes : (type : FieldType) → type.Value → List UInt8
  | one scalar, value => scalar.bytes value
  | array scalar _, values => values.toList.flatMap scalar.bytes

def ofBytes : (type : FieldType) → List UInt8 → type.Value
  | one scalar, memory => scalar.ofBytes memory
  | array scalar count, memory => ⟨(scalar.listOfBytes count memory).toArray, by simp⟩

variable (type : FieldType)

theorem align_pos : 0 < type.align := by
  cases type <;> exact Scalar.width_pos _

@[simp] theorem length_bytes (value : type.Value) : (type.bytes value).length = type.size := by
  cases type with
  | one scalar => exact scalar.length_bytes value
  | array scalar count =>
    show ((Vector.toList value).flatMap scalar.bytes).length = count * scalar.width
    rw [Scalar.length_flatMap_bytes, Vector.length_toList]

theorem ofBytes_append (value : type.Value) (rest : List UInt8) :
    type.ofBytes (type.bytes value ++ rest) = value := by
  cases type with
  | one scalar => exact scalar.ofBytes_append value rest
  | array scalar count =>
    have hvalues := scalar.listOfBytes_append (Vector.toList value) rest
    rw [Vector.length_toList] at hvalues
    apply Vector.toList_inj.mp
    show (scalar.listOfBytes count ((Vector.toList value).flatMap scalar.bytes ++ rest)) =
      Vector.toList value
    exact hvalues

theorem bytes_ofBytes {memory : List UInt8} (h : type.size ≤ memory.length) :
    type.bytes (type.ofBytes memory) = memory.take type.size := by
  cases type with
  | one scalar => exact scalar.bytes_ofBytes h
  | array scalar count => exact scalar.flatMap_listOfBytes h

end FieldType

structure Field where
  name : String
  type : FieldType
  deriving DecidableEq

/-- A struct's value, a value for each of its fields. -/
def Record : List Field → Type
  | [] => Unit
  | field :: fields => field.type.Value × Record fields

/-! ### Memory -/

/-- The next multiple of `align`. -/
def roundUp (offset align : Nat) : Nat := (offset + (align - 1)) / align * align

theorem le_roundUp (offset : Nat) {align : Nat} (h : 0 < align) :
    offset ≤ roundUp offset align := by
  have hmod := Nat.mod_lt (offset + (align - 1)) h
  have hdiv := Nat.div_add_mod' (offset + (align - 1)) align
  unfold roundUp
  omega

theorem roundUp_of_dvd {offset align : Nat} (hpos : 0 < align) (h : align ∣ offset) :
    roundUp offset align = offset := by
  obtain ⟨count, rfl⟩ := h
  unfold roundUp
  rw [Nat.mul_add_div hpos, Nat.div_eq_of_lt (by omega), Nat.add_zero, Nat.mul_comm]

def overwrite (memory : List UInt8) (offset : Nat) (bytes : List UInt8) : List UInt8 :=
  memory.take offset ++ bytes ++ memory.drop (offset + bytes.length)

section Overwrite

variable {memory bytes : List UInt8} {offset : Nat} (h : offset + bytes.length ≤ memory.length)

include h

theorem length_overwrite : (overwrite memory offset bytes).length = memory.length := by
  unfold overwrite
  rw [List.length_append, List.length_append, List.length_take, List.length_drop]
  omega

theorem take_overwrite :
    (overwrite memory offset bytes).take (offset + bytes.length) = memory.take offset ++ bytes := by
  apply List.take_left'
  rw [List.length_append, List.length_take]
  omega

end Overwrite

/-! ### Structs -/

/-- Where the last field ends. -/
def finish : List Field → Nat → Nat
  | [], start => start
  | field :: fields, start => finish fields (roundUp start field.type.align + field.type.size)

def align (fields : List Field) : Nat := fields.foldr (fun field => max field.type.align) 1

def size (fields : List Field) : Nat := roundUp (finish fields 0) (align fields)

/-- The fields' offsets, from `start` on. -/
def offsets : List Field → Nat → List (String × Nat)
  | [], _ => []
  | field :: fields, start =>
    let offset := roundUp start field.type.align
    (field.name, offset) :: offsets fields (offset + field.type.size)

/-- The struct in `memory`, its fields from `start` on. -/
def read : (fields : List Field) → Nat → List UInt8 → Record fields
  | [], _, _ => ()
  | field :: fields, start, memory =>
    let offset := roundUp start field.type.align
    (field.type.ofBytes (memory.drop offset), read fields (offset + field.type.size) memory)

def write : (fields : List Field) → Nat → Record fields → List UInt8 → List UInt8
  | [], _, _, memory => memory
  | field :: fields, start, (value, values), memory =>
    let offset := roundUp start field.type.align
    write fields (offset + field.type.size) values
      (overwrite memory offset (field.type.bytes value))

theorem le_finish (fields : List Field) (start : Nat) : start ≤ finish fields start := by
  induction fields generalizing start with
  | nil => exact Nat.le_refl start
  | cons field fields ih =>
    have hoffset := le_roundUp start field.type.align_pos
    have hrest := ih (roundUp start field.type.align + field.type.size)
    show start ≤ finish fields (roundUp start field.type.align + field.type.size)
    omega

theorem length_write {fields : List Field} {start : Nat} (record : Record fields)
    {memory : List UInt8} (h : finish fields start ≤ memory.length) :
    (write fields start record memory).length = memory.length := by
  induction fields generalizing start memory with
  | nil => rfl
  | cons field fields ih =>
    obtain ⟨value, values⟩ := record
    have hend := le_finish fields (roundUp start field.type.align + field.type.size)
    have hfits : roundUp start field.type.align + (field.type.bytes value).length ≤
        memory.length := by
      rw [FieldType.length_bytes]
      exact hend.trans h
    have hlength := length_overwrite hfits
    show (write fields _ values (overwrite memory _ _)).length = memory.length
    rw [ih values (hlength ▸ h), hlength]

/-- What is before a struct stays as it was. -/
theorem take_write {fields : List Field} {start : Nat} (record : Record fields)
    {memory : List UInt8} (h : finish fields start ≤ memory.length) :
    (write fields start record memory).take start = memory.take start := by
  induction fields generalizing start memory with
  | nil => rfl
  | cons field fields ih =>
    obtain ⟨value, values⟩ := record
    have hstart := le_roundUp start field.type.align_pos
    have hend := le_finish fields (roundUp start field.type.align + field.type.size)
    have hfits : roundUp start field.type.align + (field.type.bytes value).length ≤
        memory.length := by
      rw [FieldType.length_bytes]
      exact hend.trans h
    have hlength := length_overwrite hfits
    have hrest := ih values (hlength ▸ h)
    show (write fields _ values (overwrite memory _ _)).take start = memory.take start
    have htake : ∀ written : List UInt8, written.take start =
        ((written.take (roundUp start field.type.align + field.type.size)).take start) := by
      intro written
      rw [List.take_take, Nat.min_eq_left (by omega)]
    rw [htake, hrest, ← htake]
    have hoverwrite : ∀ bytes : List UInt8, (overwrite memory (roundUp start field.type.align)
        bytes).take start = memory.take start := by
      intro bytes
      unfold overwrite
      rw [List.append_assoc, List.take_append_of_le_length (by rw [List.length_take]; omega),
        List.take_take, Nat.min_eq_left hstart]
    exact hoverwrite _

/-- A struct reads back from the memory it was written to. -/
theorem read_write {fields : List Field} {start : Nat} (record : Record fields)
    {memory : List UInt8} (h : finish fields start ≤ memory.length) :
    read fields start (write fields start record memory) = record := by
  induction fields generalizing start memory with
  | nil => rfl
  | cons field fields ih =>
    obtain ⟨value, values⟩ := record
    have hend := le_finish fields (roundUp start field.type.align + field.type.size)
    have hsize := field.type.length_bytes value
    have hfits : roundUp start field.type.align + (field.type.bytes value).length ≤
        memory.length := by
      rw [hsize]
      exact hend.trans h
    have hlength := length_overwrite hfits
    have hbefore := take_write values (hlength ▸ h)
    have htaken := take_overwrite hfits
    rw [hsize] at htaken
    rw [htaken] at hbefore
    have hrest := ih values (hlength ▸ h)
    refine Prod.ext ?_ hrest
    show field.type.ofBytes ((write fields _ values (overwrite memory _ _)).drop
      (roundUp start field.type.align)) = value
    generalize write fields _ values (overwrite memory _ _) = written at hbefore
    have hdrop : written.drop (roundUp start field.type.align) = field.type.bytes value ++
        written.drop (roundUp start field.type.align + field.type.size) := by
      conv =>
        lhs
        rw [← List.take_append_drop (roundUp start field.type.align + field.type.size) written,
          hbefore, List.append_assoc]
      apply List.drop_left'
      rw [List.length_take]
      omega
    rw [hdrop, FieldType.ofBytes_append]

/-- The `i`th field's value. -/
def get : (fields : List Field) → Record fields → (i : Nat) → (h : i < fields.length) →
    (fields.get ⟨i, h⟩).type.Value
  | _ :: _, (value, _), 0, _ => value
  | _ :: fields, (_, values), i + 1, h => get fields values i (Nat.lt_of_succ_lt_succ h)

@[simp] theorem length_offsets (fields : List Field) (start : Nat) :
    (offsets fields start).length = fields.length := by
  induction fields generalizing start with
  | nil => rfl
  | cons field fields ih =>
    show (offsets fields _).length + 1 = fields.length + 1
    rw [ih]

/-- A field is read from the bytes at its offset. -/
theorem get_read {fields : List Field} (start : Nat) (memory : List UInt8) {i : Nat}
    (h : i < fields.length) : get fields (read fields start memory) i h =
      (fields.get ⟨i, h⟩).type.ofBytes
        (memory.drop ((offsets fields start).get ⟨i, by simpa using h⟩).2) := by
  induction fields generalizing start i with
  | nil => cases h
  | cons field fields ih =>
    cases i with
    | zero => rfl
    | succ i => exact ih _ (Nat.lt_of_succ_lt_succ h)

/-- No bytes are between the fields. -/
def Packed : List Field → Nat → Prop
  | [], _ => True
  | field :: fields, start =>
    field.type.align ∣ start ∧ Packed fields (start + field.type.size)

instance Packed.decidable : (fields : List Field) → (start : Nat) → Decidable (Packed fields start)
  | [], _ => isTrue trivial
  | field :: fields, start =>
    have := Packed.decidable fields (start + field.type.size)
    inferInstanceAs (Decidable (_ ∧ _))

/-- A struct without gaps holds all the bytes it was read from. -/
theorem write_read {fields : List Field} {start : Nat} (hpacked : Packed fields start)
    {bytes memory : List UInt8} (hbytes : bytes.length = finish fields start)
    (hmemory : memory.length = finish fields start) :
    write fields start (read fields start bytes) memory =
      memory.take start ++ bytes.drop start := by
  induction fields generalizing start memory with
  | nil =>
    have hbytes : bytes.length = start := hbytes
    have hmemory : memory.length = start := hmemory
    show memory = _
    rw [List.take_of_length_le (by omega), List.drop_of_length_le (by omega), List.append_nil]
  | cons field fields ih =>
    obtain ⟨haligned, hrest⟩ := hpacked
    have hoffset := roundUp_of_dvd field.type.align_pos haligned
    have hend := le_finish fields (start + field.type.size)
    have hfinish : finish (field :: fields) start = finish fields (start + field.type.size) := by
      show finish fields (roundUp start field.type.align + field.type.size) = _
      rw [hoffset]
    rw [hfinish] at hbytes hmemory
    have hvalue : field.type.bytes (field.type.ofBytes (bytes.drop start)) =
        (bytes.drop start).take field.type.size := by
      apply FieldType.bytes_ofBytes
      rw [List.length_drop]
      omega
    have hsize : (field.type.bytes (field.type.ofBytes (bytes.drop start))).length =
        field.type.size := field.type.length_bytes _
    have hfits : start + (field.type.bytes (field.type.ofBytes (bytes.drop start))).length ≤
        memory.length := by omega
    have hlength := length_overwrite hfits
    have htaken := take_overwrite hfits
    rw [hsize] at htaken
    show write fields (roundUp start field.type.align + field.type.size)
      (read fields (roundUp start field.type.align + field.type.size) bytes)
      (overwrite memory (roundUp start field.type.align)
        (field.type.bytes (field.type.ofBytes (bytes.drop (roundUp start field.type.align))))) = _
    rw [hoffset, ih hrest hbytes (hlength.trans hmemory), htaken, hvalue, List.append_assoc,
      ← List.drop_drop, List.take_append_drop]

/-- The bytes of a struct without gaps are of one value of it, whatever they were written over. -/
theorem write_eq_iff {fields : List Field} (hpacked : Packed fields 0) {bytes memory : List UInt8}
    (hbytes : bytes.length = finish fields 0) (hmemory : memory.length = finish fields 0)
    (record : Record fields) :
    write fields 0 record memory = bytes ↔ record = read fields 0 bytes := by
  constructor
  · rintro rfl
    exact (read_write record hmemory.ge).symm
  · rintro rfl
    exact write_read hpacked hbytes hmemory

end Layout
