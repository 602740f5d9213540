import ContainerBridge.Blocking.Code
import ContainerBridge.Closure.Protocol
import Mathlib.Logic.Relation

/-! A progress handler that Rust gives Swift for a call. Swift delivers batches of events to it from
several threads at once, and waits for each before the call returns. A batch looks for a panic that
was recorded, then calls the handler, and records how that panicked: each a step of its own. -/

namespace ContainerBridge

open Platform
open Blocking (ProgressKind)

/-- Rust's `ProgressEvent`. -/
inductive Rust.ProgressEvent where
  | addItems (value : Int64)
  | addTotalItems (value : Int64)
  | addSize (value : Int64)
  | addTotalSize (value : Int64)

def Rust.ProgressEvent.fromKind (kind : ProgressKind) (value : Int64) : ProgressEvent :=
  match kind with
  | .items => .addItems value
  | .totalItems => .addTotalItems value
  | .size => .addSize value
  | .totalSize => .addTotalSize value

namespace Progress

/-- What an invocation of the handler may do with a batch. -/
abbrev ProgressHandler (P : Type) := List Rust.ProgressEvent → Ran P Unit → Prop

/-- A batch on its way through `Progress::call`. -/
inductive Batch (P : Type) where
  | called (kinds : List ProgressKind) (values : List Int64)
  /-- Found no panic recorded, and has yet to call the handler. -/
  | checked (events : List Rust.ProgressEvent)
  | running (events : List Rust.ProgressEvent)
  /-- The handler panicked, and `catch` has yet to record it. -/
  | unwinding (payload : P)
  | done

/-- What `progressing` is doing: it is in Swift's call, it is to resume a panic, or it has ended. -/
inductive Progressing (P R : Type) where
  | calling
  | returned (value : R)
  | ended (result : Ran P R)

/-- What happens to the handler. -/
inductive Event (P : Type) where
  | started (i : Nat)
  | panicked (i : Nat) (payload : P)
  | recorded (i : Nat) (payload : P)

variable {P R : Type}

def Event.recorded? : Event P → Option P
  | .recorded _ payload => some payload
  | _ => none

structure World (P R : Type) where
  handler : Option (ProgressHandler P)
  panic : Panic P := {}
  batches : Nat → Option (Batch P) := fun _ => none
  progressing : Progressing P R := .calling
  log : List (Event P) := []

namespace World

variable (world : World P R)

def withBatch (i : Nat) (batch : Batch P) : World P R :=
  { world with batches := Function.update world.batches i (some batch) }

def logs (event : Event P) : World P R := { world with log := world.log ++ [event] }

/-- What `catch` does with a payload, the last thing a batch does. -/
def recording (i : Nat) (payload : P) : World P R :=
  logs
    { world.withBatch i .done with panic := (world.panic.catch (.error payload : Ran P Unit)).2 }
    (.recorded i payload)

end World

/-- Whether a step records a panic. -/
inductive Label where
  | records
  | other

/-- `Panic::caught`. -/
def caught (panic : Panic P) : Bool := panic.kept.isSome

/-- `Panic::resume`, and then `returned`. -/
def resume (panic : Panic P) (returned : R) : Ran P R :=
  match panic.kept with
  | some payload => .error payload
  | none => .ok returned

inductive Step : World P R → Label → World P R → Prop
  -- `progressHandler`'s closure, which is `nil` unless there is a handler
  | delivers {world : World P R} {i : Nat} (hcalling : world.progressing = .calling)
      (hhandler : world.handler.isSome) (hnew : world.batches i = none)
      (events : List Blocking.ProgressEvent) :
      Step world .other (world.withBatch i
        (.called (events.map (·.lent)).unzip.1 (events.map (·.lent)).unzip.2))
  | unhandled {world : World P R} {i : Nat} {kinds : List ProgressKind} {values : List Int64}
      (hbatch : world.batches i = some (.called kinds values)) (hhandler : world.handler = none) :
      Step world .other (world.withBatch i .done)
  | skips {world : World P R} {i : Nat} {kinds : List ProgressKind} {values : List Int64}
      (hbatch : world.batches i = some (.called kinds values)) (hhandler : world.handler.isSome)
      (hcaught : caught world.panic) :
      Step world .other (world.withBatch i .done)
  | checks {world : World P R} {i : Nat} {kinds : List ProgressKind} {values : List Int64}
      (hbatch : world.batches i = some (.called kinds values)) (hhandler : world.handler.isSome)
      (hcaught : caught world.panic = false) :
      Step world .other (world.withBatch i
        (.checked ((kinds.zip values).map fun (kind, value) => .fromKind kind value)))
  | starts {world : World P R} {i : Nat} {events : List Rust.ProgressEvent}
      (hbatch : world.batches i = some (.checked events)) :
      Step world .other ((world.withBatch i (.running events)).logs (.started i))
  | returns {world : World P R} {i : Nat} {events : List Rust.ProgressEvent}
      {handler : ProgressHandler P} (hbatch : world.batches i = some (.running events))
      (hhandler : world.handler = some handler) (hran : handler events (.ok ())) :
      Step world .other (world.withBatch i .done)
  | panics {world : World P R} {i : Nat} {events : List Rust.ProgressEvent}
      {handler : ProgressHandler P} {payload : P}
      (hbatch : world.batches i = some (.running events))
      (hhandler : world.handler = some handler) (hran : handler events (.error payload)) :
      Step world .other
        ((world.withBatch i (.unwinding payload)).logs (.panicked i payload))
  | records {world : World P R} {i : Nat} {payload : P}
      (hbatch : world.batches i = some (.unwinding payload)) :
      Step world .records (world.recording i payload)
  | swiftReturns {world : World P R} (hcalling : world.progressing = .calling)
      (hawaited : ∀ i batch, world.batches i = some batch → batch = .done) (value : R) :
      Step world .other { world with progressing := .returned value }
  | resumes {world : World P R} {value : R} (hreturned : world.progressing = .returned value) :
      Step world .other
        { world with progressing := .ended (resume world.panic value), panic := {} }

/-- No batch stands between its check and its handler's start. -/
def World.Clear (world : World P R) : Prop :=
  ∀ i events, world.batches i ≠ some (.checked events)

/-- A world that a call reaches, whatever its handler and its batches do. -/
def World.Reachable (world : World P R) : Prop :=
  ∃ handler, Relation.ReflTransGen (fun before after => ∃ label, Step before label after)
    { handler } world

/-- A world that a call reaches while every panic is recorded with no batch between its check and
its handler's start. -/
def World.ReachableClear (world : World P R) : Prop :=
  ∃ handler, Relation.ReflTransGen
    (fun before after => ∃ label, Step before label after ∧ (label = .records → before.Clear))
    { handler } world

/-- The first panic that was recorded. -/
def World.first (world : World P R) : Option P := (world.log.filterMap Event.recorded?).head?

/-- No invocation of the handler starts once a panic was recorded. -/
def World.Stops (world : World P R) : Prop :=
  ∀ before i payload after, world.log = before ++ .recorded i payload :: after →
    ∀ j, .started j ∉ after

/-- The panic resumed is the first that was recorded, and when none is, no invocation panicked. -/
def World.Resumes (world : World P R) : Prop :=
  ∀ result, world.progressing = .ended result →
    (∀ payload, result = .error payload → world.first = some payload) ∧
      ∀ value, result = .ok value → ∀ i payload, .panicked i payload ∉ world.log

end Progress

end ContainerBridge
