import ContainerBridge.Library.Carry
import Mathlib.Data.String.Defs

/-! A call that crosses between Rust and Swift, and what can stop it: a Rust panic, a Swift trap or
a thrown Swift error. The helpers that lend a Rust collection by length and index, and the Swift
helpers that read one, are here. -/

namespace ContainerBridge

open Carry

/-- `BridgeError`: what the bridge itself fails with. -/
inductive BridgeError where
  | noOutcome
  | malformed (what value : String)
  | tooLarge (what : String) (value : Nat)
  | bodyFailed
  | readFailed
  | closed
  deriving DecidableEq

/-- `FileDescriptorOps.EntryType`. -/
inductive EntryType where
  | regular | directory | symlink | other
  deriving DecidableEq

/-- `FileDescriptorOps.Error`. -/
inductive FdOpsError where
  | invalidRelativePath
  | invalidPathComponent
  | cannotFollowSymlink
  | notFound
  | alreadyExists
  | conflict (type : EntryType)
  | systemError (operation : String) (number : Int32)
  deriving DecidableEq

/-- `VolumeSubpath.Error`. -/
inductive VolumeSubpathError where
  | invalid (subpath reason : String)
  | missing (options : List String)
  | notBind
  | resolve (subpath : String) (number : Int32)
  deriving DecidableEq

/-- An error that Swift throws. One that the bridge did not make is known by its text, and by the
type and code the bridge looks for. -/
inductive SwiftError where
  | bridge (error : BridgeError)
  | containerization (description code : String)
  | fdOps (description : String) (error : FdOpsError)
  | volumeSubpath (description : String) (error : VolumeSubpathError)
  | other (description : String)
  deriving DecidableEq

/-- What stops a call before it returns. -/
inductive Stop where
  /-- A Rust panic, `unreachable!` included. -/
  | panic (message : String)
  /-- A failed Swift precondition. -/
  | trap (message : String)
  | thrown (error : SwiftError)
  deriving DecidableEq

/-- A call that crosses, which returns unless something stops it. -/
abbrev Crossing (α : Type) := Except Stop α

instance {α : Type} [DecidableEq α] : DecidableEq (Crossing α)
  | .ok a, .ok b => decidable_of_iff (a = b) (by simp)
  | .error a, .error b => decidable_of_iff (a = b) (by simp)
  | .ok _, .error _ => isFalse nofun
  | .error _, .ok _ => isFalse nofun

variable {α β : Type}

/-- A call that neither panics nor traps. -/
abbrev OnlyThrows (crossing : Crossing α) : Prop :=
  StopsOnly (fun stop => ∃ error, stop = .thrown error) crossing

def Crossing.throw (error : BridgeError) : Crossing α := .error (.thrown (.bridge error))

@[simp] theorem Crossing.onlyThrows_throw (error : BridgeError) :
    OnlyThrows (throw error : Crossing α) := .error ⟨_, rfl⟩

/-- `values[index]` in Rust, which panics past the end. -/
def indexed (values : List α) (index : Nat) : Crossing α :=
  match values[index]? with
  | some value => .ok value
  | none => .error (.panic
      s!"index out of bounds: the len is {values.length} but the index is {index}")

/-- What an optional field holds. Swift asks for it only after `has_`. -/
def present (value : Option α) : Crossing α :=
  match value with
  | some value => .ok value
  | none => .error (.panic "Swift asks for an optional field only after its `has_` getter")

/-- The `N` values Swift sends for a fixed set of fields, `what` naming them in the message if
Swift sends another number. -/
def fixed (n : Nat) (values : List α) (what : String) : Crossing (Vector α n) :=
  if h : values.toArray.size = n then .ok ⟨values.toArray, h⟩
  else .error (.panic s!"Swift sends {n} values for {what}, not {values.length}")

/-- A list Rust lends by index: `xLen`, `xAt`. -/
def list (count : Nat) (element : Nat → Crossing β) : Crossing (List β) :=
  (List.range count).mapM element

/-- A Swift `has ? value : nil`, whose `value` is not reached when `has` is false. -/
def ifPresent (has : Bool) (value : Crossing β) : Crossing (Option β) :=
  if has then some <$> value else .ok none

@[simp] theorem indexed_of_lt {values : List α} {index : Nat} (h : index < values.length) :
    indexed values index = .ok values[index] := by
  simp [indexed, h]

@[simp] theorem present_some (value : α) : present (some value) = .ok value := rfl

theorem list_range' {values : List α} {element : Nat → Crossing β} {f : α → Crossing β}
    (start : Nat) (h : ∀ i (hi : i < values.length), element (start + i) = f values[i]) :
    (List.range' start values.length).mapM element = values.mapM f := by
  induction values generalizing start with
  | nil => rfl
  | cons value values ih =>
    have hhead : element start = f value := h 0 (by simp)
    have htail : (List.range' (start + 1) values.length).mapM element = values.mapM f := by
      refine ih (start + 1) fun i hi => ?_
      rw [Nat.add_assoc, Nat.add_comm 1 i]
      exact h (i + 1) (by simpa using hi)
    simp only [List.length_cons, List.range'_succ, List.mapM_cons, hhead, htail]

/-- A list read by index is the list, each element read as `f` reads it. -/
theorem list_eq_mapM {values : List α} {element : Nat → Crossing β} {f : α → Crossing β}
    (h : ∀ i (hi : i < values.length), element i = f values[i]) :
    list values.length element = values.mapM f := by
  rw [list, List.range_eq_range']
  exact list_range' 0 (by simpa using h)

/-- A list of records lent by index, each element converted on its own. -/
@[simp] theorem list_indexed_bind (values : List α) (f : α → Crossing β) :
    (list values.length fun index => indexed values index >>= f) = values.mapM f :=
  list_eq_mapM fun i hi => by simp [hi]

@[simp] theorem list_indexed (values : List α) :
    list values.length (indexed values) = .ok values := by
  rw [list_eq_mapM (f := fun value => .ok value) fun i hi => by simp [hi]]
  simp

/-- Reading an optional record through `has_x` and `x` converts what it holds. -/
@[simp] theorem ifPresent_present (value : Option α) (f : α → Crossing β) :
    ifPresent value.isSome (present value >>= f) = value.mapM f := by
  cases value <;> rfl

/-- The length `optional_list` and `optional_map` lend, zero when there is nothing. -/
def optionalLen (len : α → Nat) (value : Option α) : Nat := value.elim 0 len

/-- An optional list lent by index converts as the list it holds does. -/
@[simp] theorem ifPresent_list (value : Option (List α)) (f : α → Crossing β) :
    ifPresent value.isSome (list (optionalLen List.length value) fun index =>
      present value >>= fun values => indexed values index >>= f) =
    value.mapM (·.mapM f) := by
  cases value <;> simp [ifPresent, optionalLen]

@[simp] theorem ifPresent_list_indexed (value : Option (List α)) :
    ifPresent value.isSome (list (optionalLen List.length value) fun index =>
      present value >>= fun values => indexed values index) = .ok value := by
  cases value <;> simp [ifPresent, optionalLen]

/-- A case that Rust knows by its `rawValue`, as `raw_values!` declares it: the cases in the order
the bridge lists them, no two with one raw value. -/
class RawRepresentable (α : Type) where
  name : String
  all : List α
  rawValue : α → String
  find_rawValue : ∀ a, all.find? (fun case => rawValue case == rawValue a) = some a

export RawRepresentable (rawValue)

/-- `from_raw_value` in Rust. -/
def fromRawValue [RawRepresentable α] (raw : String) : Option α :=
  (RawRepresentable.all (α := α)).find? fun case => rawValue case == raw

@[simp] theorem fromRawValue_rawValue [RawRepresentable α] (a : α) :
    fromRawValue (rawValue a) = some a := RawRepresentable.find_rawValue a

/-- What the standard libraries do from tables the bridge does not hold: the form by which Swift
compares strings, the order in which a Swift dictionary holds its entries, and the text either
language prints a string or a path as; and the raw values of the enumerations that Rust copies. -/
class Runtime where
  canonical : String → String
  hashed : {α : Type} → List (String × α) → List (String × α)
  hashed_perm : ∀ {α : Type} (entries : List (String × α)), (hashed entries).Perm entries
  debugDescription : String → String
  rustDebug : String → String
  /-- The bytes as text, with those that are not UTF-8 replaced. -/
  lossy : ByteArray → String
  /-- The raw values of Swift's enumeration of which `α` is Rust's copy, in Swift's order:
  `cz_raw_values`. -/
  rawValues : (α : Type) → [RawRepresentable α] → List String

export Runtime (canonical)

/-- Both libraries on ASCII text without quotes, with a dictionary's entries in reverse, and the raw
values that Rust has. -/
@[reducible] def Runtime.ascii : Runtime where
  canonical := id
  hashed := List.reverse
  hashed_perm := List.reverse_perm
  debugDescription text := s!"\"{text}\""
  rustDebug text := s!"\"{text}\""
  lossy bytes := (String.fromUTF8? bytes).getD "\uFFFD"
  rawValues α := (RawRepresentable.all (α := α)).map rawValue

/-- Both libraries on ASCII text and on the two spellings of `é`, which Swift takes for one. -/
@[reducible] def Runtime.accented : Runtime :=
  { Runtime.ascii with canonical := fun text => if text = "e\u0301" then "\u00e9" else text }

/-- A raw value from Swift. It panics if Swift has a case Rust lacks. -/
def fromSwift [Runtime] [RawRepresentable α] (raw : String) : Crossing α :=
  match fromRawValue raw with
  | some case => .ok case
  | none => .error (.panic
      s!"Swift's {RawRepresentable.name α} has a case Rust lacks: {Runtime.rustDebug raw}")

/-- A case of Swift's own enumeration, which its raw value tells from the others. -/
structure Case [Runtime] (α : Type) [RawRepresentable α] where
  rawValue : String
  mem : rawValue ∈ Runtime.rawValues α

/-- The case Rust named by its `rawValue`. -/
def swiftCase [Runtime] [RawRepresentable α] (raw : String) : Crossing (Case α) :=
  if h : raw ∈ Runtime.rawValues α then .ok ⟨raw, h⟩
  else .error (.trap s!"Rust gave {RawRepresentable.name α} the raw value {raw}")

@[simp] theorem fromSwift_rawValue [Runtime] [RawRepresentable α] (a : α) :
    fromSwift (rawValue a) = .ok a := by
  simp [fromSwift]

/-- Swift's enumerations have the raw values that Rust copies of them, in Rust's order. -/
class RawValuesCopied [Runtime] : Prop where
  copied : ∀ (α : Type) [RawRepresentable α],
    Runtime.rawValues α = (RawRepresentable.all (α := α)).map rawValue

theorem RawValuesCopied.ascii : @RawValuesCopied .ascii :=
  let _ := Runtime.ascii
  ⟨fun _ _ => rfl⟩

theorem RawValuesCopied.accented : @RawValuesCopied .accented :=
  let _ := Runtime.accented
  ⟨fun _ _ => rfl⟩

theorem rawValue_mem [Runtime] [RawValuesCopied] [RawRepresentable α] (a : α) :
    rawValue a ∈ Runtime.rawValues α := by
  rw [RawValuesCopied.copied]
  exact List.mem_map_of_mem (List.mem_of_find?_eq_some (RawRepresentable.find_rawValue a))

namespace Case

variable [Runtime] [RawValuesCopied] [RawRepresentable α]

/-- Swift's case of the raw value that Rust's has. -/
def ofRust (a : α) : Case α := ⟨ContainerBridge.rawValue a, rawValue_mem a⟩

theorem exists_ofRust (case : Case α) : ∃ a : α, fromRawValue case.rawValue = some a ∧
    ofRust a = case := by
  obtain ⟨raw, hmem⟩ := case
  have hcopied := hmem
  rw [RawValuesCopied.copied] at hcopied
  obtain ⟨a, -, rfl⟩ := List.mem_map.mp hcopied
  exact ⟨a, fromRawValue_rawValue a, rfl⟩

/-- Rust's case of the raw value that Swift's has. -/
def toRust (case : Case α) : α :=
  (fromRawValue case.rawValue).get (by
    obtain ⟨a, ha, -⟩ := case.exists_ofRust
    rw [ha]
    rfl)

@[simp] theorem toRust_ofRust (a : α) : (ofRust a).toRust = a := by
  simp [toRust, ofRust]

@[simp] theorem ofRust_toRust (case : Case α) : ofRust case.toRust = case := by
  obtain ⟨a, -, rfl⟩ := case.exists_ofRust
  rw [toRust_ofRust]

@[simp] theorem rawValue_ofRust (a : α) : (ofRust a).rawValue = ContainerBridge.rawValue a := rfl

@[simp] theorem fromSwift_case (case : Case α) : fromSwift case.rawValue = .ok case.toRust := by
  obtain ⟨a, -, rfl⟩ := case.exists_ofRust
  simp

end Case

@[simp] theorem swiftCase_rawValue [Runtime] [RawValuesCopied] [RawRepresentable α] (a : α) :
    swiftCase (rawValue a) = .ok (.ofRust a) :=
  dif_pos (rawValue_mem a)

/-- The text of an error, as Swift interpolates it. -/
def BridgeError.description [Runtime] : BridgeError → String
  | .noOutcome => "the bridged task signalled completion without an outcome"
  | .bodyFailed => "the Rust closure failed"
  | .readFailed => "the archive entry's data could not be read"
  | .closed => "the output was closed when its process was deleted"
  | .malformed what value => s!"malformed {what}: {Runtime.debugDescription value}"
  | .tooLarge what value => s!"the {what}, {value}, is larger than Swift's Int can hold"

def SwiftError.description [Runtime] : SwiftError → String
  | .bridge error => error.description
  | .containerization description _ => description
  | .fdOps description _ => description
  | .volumeSubpath description _ => description
  | .other description => description

end ContainerBridge
