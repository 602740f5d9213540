import ContainerBridge.Library.Log
import ContainerBridge.Stdio.Process
import Mathlib.Logic.Relation

/-! The writers of processes while any number of calls use them at once: writes, closes and deletes.
A writer's lock is held while its handle is written or closed, and every other step of one call may
come between two steps of another. -/

namespace ContainerBridge

open Log

namespace Swift

/-- The bytes of a `Data`. -/
abbrev Data := List UInt8

/-- A `FileWriter`: its handle until it is closed, and which call holds its lock. `log` is what the
handle was given to write, each piece with the call that gave it, and `closes` how often the
handle's `close` was called. -/
structure WriterState where
  handle : Option FileHandle
  lock : Option Nat := none
  log : List (Nat × Data) := []
  closes : Nat := 0

/-- What goes on after a writer's `close`: its caller, or the loop of `Output.close` in the `delete`
of a process. -/
inductive Closer where
  | caller
  | output (process : CzLinuxProcess) (rest : List FileWriter)

inductive Operation where
  | write (writer : FileWriter) (data : Data)
  | close (writer : FileWriter)
  | delete (process : CzLinuxProcess)

/-- Where a call is. -/
inductive Call where
  /-- `write`, before it has the lock. -/
  | write (writer : FileWriter) (data : Data)
  /-- In the handle's `write(contentsOf:)`, with what it has left to write. -/
  | writing (writer : FileWriter) (data rest : Data)
  /-- At the end of the lock. -/
  | wrote (writer : FileWriter) (data : Data) (result : Except SwiftError Unit)
  /-- `close`, before it has the lock. -/
  | close (writer : FileWriter) (closer : Closer)
  | closing (writer : FileWriter) (closer : Closer)
  /-- The handle's `close` has returned or thrown, and `defer` is yet to run. -/
  | closed (writer : FileWriter) (closer : Closer) (result : Except SwiftError Unit)
  /-- In Containerization's `delete`. -/
  | delete (process : CzLinuxProcess)
  /-- In `Output.close`, with the writers it has left. -/
  | outputClosing (process : CzLinuxProcess) (rest : List FileWriter)
  | done (operation : Operation) (result : Except SwiftError Unit)

/-- Where a writer's `close` leaves its caller. `Output.close` ignores what it throws. -/
def Closer.resume (writer : FileWriter) (result : Except SwiftError Unit) : Closer → Call
  | .caller => .done (.close writer) result
  | .output process rest => .outputClosing process rest

/-- What call `i` does to its writer. -/
inductive Acts (i : Nat) (writer : FileWriter) : WriterState → Call → WriterState → Call → Prop
  | enterWrite {state : WriterState} {data : Data} (hlock : state.lock = none)
      (hopen : state.handle ≠ none) :
      Acts i writer state (.write writer data) { state with lock := some i }
        (.writing writer data data)
  | refuseWrite {state : WriterState} {data : Data} (hlock : state.lock = none)
      (hclosed : state.handle = none) :
      Acts i writer state (.write writer data) { state with lock := some i }
        (.wrote writer data (.error (.bridge .closed)))
  -- The handle may write the data in any number of pieces.
  | piece {state : WriterState} {data piece rest : Data} :
      Acts i writer state (.writing writer data (piece ++ rest))
        { state with log := state.log ++ [(i, piece)] } (.writing writer data rest)
  | written {state : WriterState} {data : Data} :
      Acts i writer state (.writing writer data []) state (.wrote writer data (.ok ()))
  | failWrite {state : WriterState} {data rest : Data} (error : SwiftError) :
      Acts i writer state (.writing writer data rest) state (.wrote writer data (.error error))
  | leaveWrite {state : WriterState} {data : Data} {result : Except SwiftError Unit} :
      Acts i writer state (.wrote writer data result) { state with lock := none }
        (.done (.write writer data) result)
  | enterClose {state : WriterState} {closer : Closer} (hlock : state.lock = none) :
      Acts i writer state (.close writer closer) { state with lock := some i }
        (.closing writer closer)
  | closeHandle {state : WriterState} {closer : Closer} (hopen : state.handle ≠ none)
      (result : Except SwiftError Unit) :
      Acts i writer state (.closing writer closer) { state with closes := state.closes + 1 }
        (.closed writer closer result)
  | closeNothing {state : WriterState} {closer : Closer} (hclosed : state.handle = none) :
      Acts i writer state (.closing writer closer) state (.closed writer closer (.ok ()))
  | leaveClose {state : WriterState} {closer : Closer} {result : Except SwiftError Unit} :
      Acts i writer state (.closed writer closer result) { state with handle := none, lock := none }
        (closer.resume writer result)

/-- What the `delete` of a process does between its writers. -/
inductive Deletes : Call → Call → Prop
  | failed {process : CzLinuxProcess} (error : SwiftError) :
      Deletes (.delete process) (.done (.delete process) (.error error))
  | deleted {process : CzLinuxProcess} :
      Deletes (.delete process) (.outputClosing process process.output.writers)
  | next {process : CzLinuxProcess} {writer : FileWriter} {rest : List FileWriter} :
      Deletes (.outputClosing process (writer :: rest)) (.close writer (.output process rest))
  | closed {process : CzLinuxProcess} :
      Deletes (.outputClosing process []) (.done (.delete process) (.ok ()))

/-- The processes that were made, their writers, and every call so far by its number. -/
structure World where
  processes : List CzLinuxProcess := []
  writer : FileWriter → WriterState := fun writer => { handle := some writer.handle }
  calls : Nat → Option Call := fun _ => none

namespace World

variable (world : World)

/-- With `process` among the processes, when there is one. -/
def withMade : Crossing CzLinuxProcess → World
  | .ok process => { world with processes := world.processes ++ [process] }
  | .error _ => world

def withCall (i : Nat) (call : Call) : World :=
  { world with calls := Function.update world.calls i (some call) }

def withWriter (writer : FileWriter) (state : WriterState) : World :=
  { world with writer := Function.update world.writer writer state }

/-- The bridge made `writer` for some process. -/
def Knows (writer : FileWriter) : Prop :=
  ∃ process ∈ world.processes, writer ∈ process.output.writers

/-- What may be called: the writers and the processes there are. -/
def Callable : Call → Prop
  | .write writer _ => world.Knows writer
  | .close writer .caller => world.Knows writer
  | .delete process => process ∈ world.processes
  | _ => False

/-- A host makes objects that no writer has. -/
def Fresh (host : Host) : Prop :=
  ∀ writer, world.Knows writer → ∀ stream, writer.handle.object ≠ host.object stream

@[simp] theorem withMade_writer (made : Crossing CzLinuxProcess) :
    (world.withMade made).writer = world.writer := by cases made <;> rfl

@[simp] theorem withMade_calls (made : Crossing CzLinuxProcess) :
    (world.withMade made).calls = world.calls := by cases made <;> rfl

@[simp] theorem withCall_writer (i : Nat) (call : Call) :
    (world.withCall i call).writer = world.writer := rfl

@[simp] theorem withCall_processes (i : Nat) (call : Call) :
    (world.withCall i call).processes = world.processes := rfl

@[simp] theorem withCall_self (i : Nat) (call : Call) :
    (world.withCall i call).calls i = some call := Function.update_self ..

theorem withCall_ne {i j : Nat} (h : j ≠ i) (call : Call) :
    (world.withCall i call).calls j = world.calls j := Function.update_of_ne h ..

@[simp] theorem withWriter_calls (writer : FileWriter) (state : WriterState) :
    (world.withWriter writer state).calls = world.calls := rfl

@[simp] theorem withWriter_processes (writer : FileWriter) (state : WriterState) :
    (world.withWriter writer state).processes = world.processes := rfl

@[simp] theorem withWriter_self (writer : FileWriter) (state : WriterState) :
    (world.withWriter writer state).writer writer = state := Function.update_self ..

theorem withWriter_ne {writer other : FileWriter} (h : other ≠ writer)
    (state : WriterState) : (world.withWriter writer state).writer other = world.writer other :=
  Function.update_of_ne h ..

end World

variable [Runtime] [External]

/-- One step of one call, a new call, or a process made. -/
inductive Step : World → World → Prop
  | exec {world : World} (host : Host) (hfresh : world.Fresh host) (container : LinuxContainer)
      (configuration : Rust.LinuxProcessConfiguration) :
      Step world (world.withMade (exec container configuration))
  | execWith {world : World} (host : Host) (hfresh : world.Fresh host) (container : LinuxContainer)
      {P : Type} (lent : Lent P Rust.LinuxProcessConfiguration) :
      Step world (world.withMade (execWith container lent))
  | call {world : World} {i : Nat} {call : Call} (hnew : world.calls i = none)
      (hcall : world.Callable call) : Step world (world.withCall i call)
  | acts {world : World} {i : Nat} {writer : FileWriter} {call call' : Call} {state : WriterState}
      (hcall : world.calls i = some call)
      (h : Acts i writer (world.writer writer) call state call') :
      Step world ((world.withWriter writer state).withCall i call')
  | deletes {world : World} {i : Nat} {call call' : Call} (hcall : world.calls i = some call)
      (h : Deletes call call') : Step world (world.withCall i call')

/-- Any number of steps. -/
abbrev Steps : World → World → Prop := Relation.ReflTransGen Step

/-- A world that some run reaches. -/
def World.Reachable (world : World) : Prop := Steps {} world

end Swift

end ContainerBridge
