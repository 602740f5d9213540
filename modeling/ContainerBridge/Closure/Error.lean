import ContainerBridge.Outcome

/-! The error a Rust caller gets, and how a failed outcome is read as one. -/

namespace ContainerBridge

open Carry

variable [Runtime]

/-- `containerization_error::Code`. -/
inductive Rust.Code where
  | unknown | invalidArgument | internalError | exists | notFound | cancelled | invalidState
  | empty | timeout | unsupported | interrupted
  deriving DecidableEq

def Rust.Code.all : List Code :=
  [.unknown, .invalidArgument, .internalError, .exists, .notFound, .cancelled, .invalidState,
  .empty, .timeout, .unsupported, .interrupted]

def Rust.Code.description : Code → String
  | .unknown => "unknown"
  | .invalidArgument => "invalidArgument"
  | .internalError => "internalError"
  | .exists => "exists"
  | .notFound => "notFound"
  | .cancelled => "cancelled"
  | .invalidState => "invalidState"
  | .empty => "empty"
  | .timeout => "timeout"
  | .unsupported => "unsupported"
  | .interrupted => "interrupted"

/-- The code whose `description` Swift gave. -/
def Rust.Code.fromDescription (description : String) : Option Code :=
  all.find? fun code => code.description == description

omit [Runtime] in
@[simp] theorem Rust.Code.fromDescription_description (code : Code) :
    fromDescription code.description = some code := by
  cases code <;> rfl

omit [Runtime] in
/-- A description is of one code at most, and of none that Rust does not find. -/
theorem Rust.Code.fromDescription_eq_some {description : String} {code : Code} :
    fromDescription description = some code ↔ code.description = description := by
  constructor
  · intro h
    simpa using List.find?_some h
  · rintro rfl
    exact fromDescription_description code

/-- The error that every fallible call in the crate returns. -/
inductive Rust.Error where
  | failed (action message : String) (code : Option Code)
  | fileDescriptorOps (action : String) (error : FdOpsError)
  | volumeSubpath (action : String) (error : VolumeSubpathError)
  | unavailable (action message : String)
  deriving DecidableEq

/-- `FdOpsEntryType`, the entry type as it crosses. -/
inductive FdOpsEntryType where
  | regular | directory | symlink | other

def EntryType.kind : EntryType → FdOpsEntryType
  | .regular => .regular
  | .directory => .directory
  | .symlink => .symlink
  | .other => .other

/-- `into`, from the entry type that crossed. -/
def FdOpsEntryType.into : FdOpsEntryType → EntryType
  | .regular => .regular
  | .directory => .directory
  | .symlink => .symlink
  | .other => .other

omit [Runtime] in
@[simp] theorem EntryType.into_kind (type : EntryType) : type.kind.into = type := by
  cases type <;> rfl

inductive FdOpsErrorKind where
  | invalidRelativePath | invalidPathComponent | cannotFollowSymlink | notFound | alreadyExists
  | conflict | systemError

inductive VolumeSubpathErrorKind where
  | invalid | missing | notBind | resolve

namespace CzOutcome

/-! ### Swift's getters -/

def heldFdOpsErrorKind (outcome : CzOutcome) : Crossing FdOpsErrorKind := do
  match ← outcome.taken FdOpsError with
  | .invalidRelativePath => return .invalidRelativePath
  | .invalidPathComponent => return .invalidPathComponent
  | .cannotFollowSymlink => return .cannotFollowSymlink
  | .notFound => return .notFound
  | .alreadyExists => return .alreadyExists
  | .conflict _ => return .conflict
  | .systemError _ _ => return .systemError

/-- A `conflict`'s entry type. -/
def heldFdOpsErrorEntryType (outcome : CzOutcome) : Crossing FdOpsEntryType := do
  match ← outcome.taken FdOpsError with
  | .conflict type => return type.kind
  | _ => .error (.trap "Rust asks for the entry type only of a conflict")

/-- A `systemError`'s operation. -/
def heldFdOpsErrorOperation (outcome : CzOutcome) : Crossing String := do
  match ← outcome.taken FdOpsError with
  | .systemError operation _ => return operation
  | _ => .error (.trap "Rust asks for the operation only of a system error")

/-- A `systemError`'s `errno`. -/
def heldFdOpsErrorNumber (outcome : CzOutcome) : Crossing Int32 := do
  match ← outcome.taken FdOpsError with
  | .systemError _ number => return number
  | _ => .error (.trap "Rust asks for the number only of a system error")

def heldVolumeSubpathErrorKind (outcome : CzOutcome) : Crossing VolumeSubpathErrorKind := do
  match ← outcome.taken VolumeSubpathError with
  | .invalid _ _ => return .invalid
  | .missing _ => return .missing
  | .notBind => return .notBind
  | .resolve _ _ => return .resolve

/-- An `invalid` or `resolve` error's subpath. -/
def heldVolumeSubpathErrorSubpath (outcome : CzOutcome) : Crossing String := do
  match ← outcome.taken VolumeSubpathError with
  | .invalid subpath _ | .resolve subpath _ => return subpath
  | _ => .error (.trap "Rust asks for the subpath only of an invalid or unresolved subpath")

/-- An `invalid` error's reason. -/
def heldVolumeSubpathErrorReason (outcome : CzOutcome) : Crossing String := do
  match ← outcome.taken VolumeSubpathError with
  | .invalid _ reason => return reason
  | _ => .error (.trap "Rust asks for the reason only of an invalid subpath")

/-- A `missing` error's options. -/
def heldVolumeSubpathErrorOptions (outcome : CzOutcome) : Crossing (List String) := do
  match ← outcome.taken VolumeSubpathError with
  | .missing options => return options
  | _ => .error (.trap "Rust asks for the options only of a missing subpath")

/-- A `resolve` error's `errno`. -/
def heldVolumeSubpathErrorNumber (outcome : CzOutcome) : Crossing Int32 := do
  match ← outcome.taken VolumeSubpathError with
  | .resolve _ number => return number
  | _ => .error (.trap "Rust asks for the number only of an unresolved subpath")

/-! ### Rust's readers -/

/-- The `FileDescriptorOps.Error` a failed outcome threw, if it threw one. -/
def thrownFdOpsError (outcome : CzOutcome) : Crossing (Option FdOpsError) :=
  (holding outcome.fdOpsFailure).optional fun error => do
    match ← error.heldFdOpsErrorKind with
    | .invalidRelativePath => return .invalidRelativePath
    | .invalidPathComponent => return .invalidPathComponent
    | .cannotFollowSymlink => return .cannotFollowSymlink
    | .notFound => return .notFound
    | .alreadyExists => return .alreadyExists
    | .conflict => return .conflict (← error.heldFdOpsErrorEntryType).into
    | .systemError =>
      return .systemError (← error.heldFdOpsErrorOperation) (← error.heldFdOpsErrorNumber)

/-- The `VolumeSubpath.Error` a failed outcome threw, if it threw one. -/
def thrownVolumeSubpathError (outcome : CzOutcome) : Crossing (Option VolumeSubpathError) :=
  (holding outcome.volumeSubpathFailure).optional fun error => do
    match ← error.heldVolumeSubpathErrorKind with
    | .invalid =>
      return .invalid (← error.heldVolumeSubpathErrorSubpath) (← error.heldVolumeSubpathErrorReason)
    | .missing => return .missing (← error.heldVolumeSubpathErrorOptions)
    | .notBind => return .notBind
    | .resolve =>
      return .resolve (← error.heldVolumeSubpathErrorSubpath) (← error.heldVolumeSubpathErrorNumber)

/-- Each getter is asked only of the case that has what it reads. -/
@[simp] theorem thrownFdOpsError_eq (outcome : CzOutcome) :
    outcome.thrownFdOpsError = .ok outcome.fdOpsFailure := by
  rw [thrownFdOpsError, optional_holding]
  refine optionMapM_eq_self (fun error => ?_) _
  cases error <;>
    simp [heldFdOpsErrorKind, heldFdOpsErrorEntryType, heldFdOpsErrorOperation,
      heldFdOpsErrorNumber]

@[simp] theorem thrownVolumeSubpathError_eq (outcome : CzOutcome) :
    outcome.thrownVolumeSubpathError = .ok outcome.volumeSubpathFailure := by
  rw [thrownVolumeSubpathError, optional_holding]
  refine optionMapM_eq_self (fun error => ?_) _
  cases error <;>
    simp [heldVolumeSubpathErrorKind, heldVolumeSubpathErrorSubpath, heldVolumeSubpathErrorReason,
      heldVolumeSubpathErrorOptions, heldVolumeSubpathErrorNumber]

end CzOutcome

namespace Platform

/-- What a failed outcome threw, as a failure of `action`. -/
def error (outcome : CzOutcome) (action message : String) : Crossing Rust.Error := do
  match ← outcome.thrownFdOpsError with
  | some error => return .fileDescriptorOps action error
  | none => match ← outcome.thrownVolumeSubpathError with
    | some error => return .volumeSubpath action error
    | none => return .failed action message (outcome.failureCode.bind Rust.Code.fromDescription)

/-- What a throwing Swift call returned, or what it threw as a failure of `action`. -/
def outcome (outcome : CzOutcome) (action : String) : Crossing (Except Rust.Error CzOutcome) :=
  match outcome.failure with
  | some message => return .error (← error outcome action message)
  | none => .ok (.ok outcome)

/-- Rust's failure of `action` is the error Swift threw: the one Rust knows by its type, in its
case and with its payload, or else the message with the code of that description. -/
def Rebuilt (action : String) : SwiftError → Rust.Error → Prop
  | .fdOps _ error, failure => failure = .fileDescriptorOps action error
  | .volumeSubpath _ error, failure => failure = .volumeSubpath action error
  | .containerization message description, failure =>
    ∃ code, failure = .failed action message code ∧
      ∀ known : Rust.Code, code = some known ↔ known.description = description
  | thrown, failure => failure = .failed action thrown.description none

/-- What a failed outcome holds, in the order Rust asks for it. -/
theorem outcome_failed {returned : CzOutcome} {message : String}
    (h : returned.failure = some message) (action : String) :
    outcome returned action = .ok (.error (
      match returned.fdOpsFailure, returned.volumeSubpathFailure with
      | some error, _ => .fileDescriptorOps action error
      | none, some error => .volumeSubpath action error
      | none, none => .failed action message
        (returned.failureCode.bind Rust.Code.fromDescription))) := by
  simp only [outcome, h, error, CzOutcome.thrownFdOpsError_eq, ok_bind]
  cases returned.fdOpsFailure with
  | some error => rfl
  | none =>
    simp only [CzOutcome.thrownVolumeSubpathError_eq, ok_bind]
    cases returned.volumeSubpathFailure <;> rfl

/-- Whatever Swift threw is rebuilt, by getters that never trap, and what it returned is read as no
error. -/
theorem outcome_rebuilds (action : String) :
    (∀ thrown, ∃ failure, outcome (.init (.error thrown)) action = .ok (.error failure) ∧
      Rebuilt action thrown failure) ∧
    ∀ value, outcome (.init (.ok value)) action = .ok (.ok (.init (.ok value))) := by
  refine ⟨fun thrown => ⟨_, outcome_failed rfl action, ?_⟩, fun value => rfl⟩
  cases thrown with
  | bridge error => rfl
  | containerization message description =>
    exact ⟨_, rfl, fun known => Rust.Code.fromDescription_eq_some⟩
  | fdOps description error => rfl
  | volumeSubpath description error => rfl
  | other description => rfl

end Platform

end ContainerBridge
