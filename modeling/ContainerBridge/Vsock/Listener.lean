import ContainerBridge.Closure.Error
import ContainerBridge.Container.External
import Mathlib.Logic.Function.Basic
import Mathlib.Logic.Relation

/-! A vsock listener, whose connections any number of threads take with `next` and any number end
with `finish`. A `next` holds `advancing` while a task advances a copy of the listener's iterator
and writes it back, and lets go of it before it returns; a `finish` takes no lock. -/

namespace ContainerBridge

variable [Runtime]

/-- `VsockListener::next`, from what Swift's `next` returned; `display` is the text of an error. -/
def Rust.VsockListener.next (display : Rust.Error → String) (port : UInt32)
    (returned : CzOutcome) : Crossing (Option Int32) := do
  match ← Platform.outcome returned s!"accept a connection on vsock port {port}" with
  | .ok outcome => outcome.optional fun held => held.taken Int32
  | .error error => .error (.panic (display error))

theorem Rust.VsockListener.next_holding (display : Rust.Error → String) (port : UInt32)
    (descriptor : Option Int32) : next display port (.holding descriptor) = .ok descriptor := by
  have houtcome : ∀ action,
      Platform.outcome (.holding descriptor) action = .ok (.ok (.holding descriptor)) :=
    fun _ => rfl
  cases descriptor <;> simp [next, houtcome]

namespace Vsock

/-- The listener's `AsyncStream`, which every copy of its iterator reads from. `accepted` is every
connection it ever buffered. -/
structure AsyncStream where
  buffer : List FileHandle := []
  accepted : List FileHandle := []
  finished : Bool := false

def AsyncStream.yield (stream : AsyncStream) (connection : FileHandle) : AsyncStream :=
  if stream.finished then stream
  else { stream with
    buffer := stream.buffer ++ [connection], accepted := stream.accepted ++ [connection] }

/-- What the threads share. `advancing` is the call that holds the lock, and `holders` every call
that ever held it, in order. -/
structure CzVsockListener (Iterator : Type) where
  stream : AsyncStream := {}
  advancing : Option Nat := none
  iterator : Iterator
  holders : List Nat := []

/-- The locals of `blocking`, which its detached task shares. -/
structure Locals where
  semaphore : Nat := 0
  outcome : Option (Except SwiftError (Option Int32)) := none
  pending : Bool := true

/-- `guard let outcome else { throw BridgeError.noOutcome }`, and `outcome.get()`. -/
def Locals.get (locals : Locals) : Except SwiftError (Option Int32) :=
  match locals.outcome with
  | none => .error (.bridge .noOutcome)
  | some outcome => outcome

/-- The detached task of a `next`. -/
inductive Task (Iterator : Type) where
  | detached
  /-- Awaits `iterator.next()`, on a copy of the iterator. -/
  | advancing (iterator : Iterator)
  /-- Has yet to run `defer { self.iterator = iterator }`. -/
  | advanced (iterator : Iterator) (connection : Option FileHandle)
  | returned (descriptor : Option Int32)
  /-- Has let go of the body, before it signals. -/
  | finished
  | done

/-- A call of `next` or of `finish`, on a thread of its own. -/
inductive Call (Iterator : Type) where
  /-- `advancing.lock()` -/
  | locking
  | blocking (locals : Locals) (task : Task Iterator)
  /-- Has yet to run `defer { advancing.unlock() }`. -/
  | unlocking (outcome : CzOutcome)
  /-- Has let go of `advancing`, and has yet to return to Rust. -/
  | unlocked (outcome : CzOutcome)
  | returned (descriptor : Crossing (Option Int32))
  /-- `listener.finish()` -/
  | finishing
  | ended
  | finished (result : Except SwiftError Unit)

variable {Iterator : Type} (display : Rust.Error → String) (port : UInt32)

/-- What one step of call `i` does to it and to what is shared. What `iterator.next()` makes of its
own copy is up to the iterator. -/
inductive Acts (i : Nat) : CzVsockListener Iterator → Call Iterator → CzVsockListener Iterator →
    Call Iterator → Prop
  | locks {shared : CzVsockListener Iterator} (hfree : shared.advancing = none) :
      Acts i shared .locking
        { shared with advancing := some i, holders := shared.holders ++ [i] }
        (.blocking {} .detached)
  -- `if let body = pending.take()`, and `var iterator = self.iterator`
  | starts {shared : CzVsockListener Iterator} {locals : Locals} (hpending : locals.pending) :
      Acts i shared (.blocking locals .detached) shared
        (.blocking { locals with pending := false } (.advancing shared.iterator))
  | startsTaken {shared : CzVsockListener Iterator} {locals : Locals}
      (hpending : locals.pending = false) :
      Acts i shared (.blocking locals .detached) shared (.blocking locals .finished)
  | receives {shared : CzVsockListener Iterator} {locals : Locals} {iterator : Iterator}
      {connection : FileHandle} {rest : List FileHandle}
      (hbuffer : shared.stream.buffer = connection :: rest) (iterator' : Iterator) :
      Acts i shared (.blocking locals (.advancing iterator))
        { shared with stream := { shared.stream with buffer := rest } }
        (.blocking locals (.advanced iterator' (some connection)))
  | receivesEnd {shared : CzVsockListener Iterator} {locals : Locals} {iterator : Iterator}
      (hbuffer : shared.stream.buffer = []) (hfinished : shared.stream.finished)
      (iterator' : Iterator) :
      Acts i shared (.blocking locals (.advancing iterator)) shared
        (.blocking locals (.advanced iterator' none))
  -- `defer { self.iterator = iterator }`, once `?.fileDescriptor` is read
  | writesBack {shared : CzVsockListener Iterator} {locals : Locals} {iterator : Iterator}
      {connection : Option FileHandle} :
      Acts i shared (.blocking locals (.advanced iterator connection))
        { shared with iterator }
        (.blocking locals (.returned (connection.map FileHandle.fileDescriptor)))
  | succeeds {shared : CzVsockListener Iterator} {locals : Locals} {descriptor : Option Int32} :
      Acts i shared (.blocking locals (.returned descriptor)) shared
        (.blocking { locals with outcome := some (.ok descriptor) } .finished)
  | signals {shared : CzVsockListener Iterator} {locals : Locals} :
      Acts i shared (.blocking locals .finished) shared
        (.blocking { locals with semaphore := locals.semaphore + 1 } .done)
  -- `semaphore.wait()`, and what `CzOutcome` makes of what `blocking` returns or throws
  | wakes {shared : CzVsockListener Iterator} {locals : Locals} {task : Task Iterator}
      (hsignalled : 0 < locals.semaphore) :
      Acts i shared (.blocking locals task) shared
        (.unlocking (.init (absent <$> locals.get)))
  | unlocks {shared : CzVsockListener Iterator} {outcome : CzOutcome} :
      Acts i shared (.unlocking outcome) { shared with advancing := none } (.unlocked outcome)
  | returns {shared : CzVsockListener Iterator} {outcome : CzOutcome} :
      Acts i shared (.unlocked outcome) shared
        (.returned (Rust.VsockListener.next display port outcome))
  | ends {shared : CzVsockListener Iterator} :
      Acts i shared .finishing { shared with stream := { shared.stream with finished := true } }
        .ended
  | finishes {shared : CzVsockListener Iterator} (result : Except SwiftError Unit) :
      Acts i shared .ended shared (.finished result)

/-- A listener, and every call made of it so far. -/
structure World (Iterator : Type) where
  shared : CzVsockListener Iterator
  calls : Nat → Option (Call Iterator) := fun _ => none

/-- The world once call `i` is `call`, and what is shared is `shared`. -/
def World.withCall (world : World Iterator) (i : Nat) (call : Call Iterator)
    (shared : CzVsockListener Iterator) : World Iterator where
  shared
  calls := Function.update world.calls i (some call)

/-- A step, by the call whose step it is, if it is not a connection that arrives. -/
inductive Step : World Iterator → Option Nat → World Iterator → Prop
  | arrives {world : World Iterator} (connection : FileHandle) :
      Step world none
        { world with
          shared := { world.shared with stream := world.shared.stream.yield connection } }
  | next {world : World Iterator} {i : Nat} (hnew : world.calls i = none) :
      Step world (some i) (world.withCall i .locking world.shared)
  | finish {world : World Iterator} {i : Nat} (hnew : world.calls i = none) :
      Step world (some i) (world.withCall i .finishing world.shared)
  | acts {world : World Iterator} {i : Nat} {call call' : Call Iterator}
      {shared : CzVsockListener Iterator} (hcall : world.calls i = some call)
      (h : Acts display port i world.shared call shared call') :
      Step world (some i) (world.withCall i call' shared)

/-- Any number of steps. -/
def World.Reaches : World Iterator → World Iterator → Prop :=
  Relation.ReflTransGen fun before after => ∃ actor, Step display port before actor after

/-- A world that a listener just made reaches. -/
def World.Reachable (world : World Iterator) : Prop :=
  ∃ iterator, Reaches display port { shared := { iterator } } world

/-- The connection that call `i` has returned. -/
def World.connection (world : World Iterator) (i : Nat) : Option Int32 :=
  match world.calls i with
  | some (.returned (.ok descriptor)) => descriptor
  | _ => none

/-- The connections that `next` calls have returned, in the order they held `advancing`. -/
def World.returned (world : World Iterator) : List Int32 :=
  world.shared.holders.filterMap world.connection

end Vsock

end ContainerBridge
