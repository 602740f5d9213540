import ContainerBridge.Closure.Error
import ContainerBridge.Container.External

/-! The shape of the crate's wrappers: the paths are checked before Swift is asked, and what Swift
returns is read from the outcome once it is known not to have failed. -/

namespace ContainerBridge

open Carry

variable [Runtime]

/-- A path as it crosses to Swift. One that isn't UTF-8 fails, and Swift is never asked. -/
def Platform.path (path : PathBuf) : Except Rust.Error String :=
  match path.path with
  | some text => .ok text
  | none => .error (.failed s!"pass the path {path.lossyPath} to Swift"
      "the path isn't UTF-8, which Swift's String requires" none)

/-! ### Errors -/

namespace Platform

/-- The error Rust makes of one that Swift throws. -/
def rebuilt (action : String) : SwiftError → Rust.Error
  | .fdOps _ error => .fileDescriptorOps action error
  | .volumeSubpath _ error => .volumeSubpath action error
  | .containerization message code => .failed action message (Rust.Code.fromDescription code)
  | thrown => .failed action thrown.description none

theorem outcome_error (thrown : SwiftError) (action : String) :
    outcome (.init (.error thrown)) action = .ok (.error (rebuilt action thrown)) := by
  rw [outcome_failed rfl action]
  cases thrown <;> rfl

theorem outcome_ok (value : Any) (action : String) :
    outcome (.init (.ok value)) action = .ok (.ok (.init (.ok value))) := rfl

theorem rebuilt_rebuilt (action : String) (thrown : SwiftError) :
    Rebuilt action thrown (rebuilt action thrown) := by
  cases thrown with
  | bridge error => rfl
  | containerization message description =>
    exact ⟨_, rfl, fun known => Rust.Code.fromDescription_eq_some⟩
  | fdOps description error => rfl
  | volumeSubpath description error => rfl
  | other description => rfl

end Platform

/-! ### What a call returned -/

/-- An outcome whose value is of one of the types that only its own getters cast to. The outcome
itself then stands for whether the call failed. -/
structure Returned (α : Type) where
  outcome : CzOutcome
  value : Option α

namespace Returned

variable {α : Type}

/-- `CzOutcome { try body() }`. -/
def init (body : Except SwiftError α) : Returned α where
  outcome := .init (body.map fun _ => .absent)
  value := body.toOption

def taken (returned : Returned α) : Crossing α := CzOutcome.cast returned.value

end Returned

namespace Platform

variable {α β : Type}

/-- `platform::outcome(call, action).map(|outcome| read(outcome))`. -/
def wrapped (body : Except SwiftError α) (action : String) (read : Returned α → Crossing β) :
    Crossing (Except Rust.Error β) := do
  let returned := Returned.init body
  match ← outcome returned.outcome action with
  | .error failure => return .error failure
  | .ok _ => return .ok (← read returned)

theorem wrapped_ok (value : α) (action : String) (read : Returned α → Crossing β) :
    wrapped (.ok value) action read = (.ok <$> read (.init (.ok value))) := by
  unfold wrapped
  have hreads : outcome (Returned.init (.ok value)).outcome action = .ok (.ok _) :=
    outcome_ok .absent action
  dsimp only
  rw [hreads, ok_bind]
  cases read (.init (.ok value)) <;> rfl

theorem wrapped_error (thrown : SwiftError) (action : String) (read : Returned α → Crossing β) :
    wrapped (.error thrown) action read = .ok (.error (rebuilt action thrown)) := by
  unfold wrapped
  have hreads : outcome (Returned.init (.error thrown : Except SwiftError α)).outcome action =
      .ok (.error (rebuilt action thrown)) := outcome_error thrown action
  dsimp only
  rw [hreads, ok_bind]
  rfl

end Platform

/-! ### Calls that act on the system -/

/-- A throwing Swift call that acts on the system, and leaves it as it is then. -/
abbrev Throwing (World α : Type) := ExceptT SwiftError (StateM World) α

section Acting

variable {World α β Held : Type}

/-- `CzOutcome { try body() }`. -/
def Swift.outcome (body : Throwing World Held) (world : World) : Returned Held × World :=
  let (result, world) := body.run.run world
  (.init result, world)

namespace Platform

/-- `platform::outcome(call, action).map(|outcome| read(&outcome))`, for a call that acts on the
system. -/
def called (call : World → Returned Held × World) (action : String)
    (read : Returned Held → Crossing β) (world : World) :
    Crossing (Except Rust.Error β × World) := do
  let (returned, world) := call world
  match ← outcome returned.outcome action with
  | .error failure => return (.error failure, world)
  | .ok _ => return (.ok (← read returned), world)

/-- `?` on what is checked before the call. -/
def checked (argument : Except Rust.Error α)
    (call : α → World → Crossing (Except Rust.Error β × World)) (world : World) :
    Crossing (Except Rust.Error β × World) :=
  match argument with
  | .error failure => .ok (.error failure, world)
  | .ok argument => call argument world

omit [Runtime] in
theorem run_map (f : α → β) (body : Throwing World α) (world : World) :
    (f <$> body).run.run world =
      ((body.run.run world).1.map f, (body.run.run world).2) := by
  rw [ExceptT.run_map]
  rfl

/-- A call whose outcome holds what Swift's function returns, as `wrap` boxes it and `read` reads
it. -/
theorem called_eq {body : Throwing World α} {held : Throwing World Held} (wrap : α → Held)
    (f : α → β) (hheld : held = wrap <$> body) {read : Returned Held → Crossing β}
    (hread : ∀ value, read (.init (.ok (wrap value))) = .ok (f value)) (action : String)
    (world : World) : called (Swift.outcome held) action read world =
      .ok (((body.run.run world).1.map f).mapError (rebuilt action), (body.run.run world).2) := by
  subst hheld
  unfold called Swift.outcome
  rw [run_map]
  generalize body.run.run world = ran
  obtain ⟨returned, after⟩ := ran
  dsimp only
  cases returned with
  | error thrown =>
    have hfails : outcome (Returned.init (Except.map wrap (.error thrown))).outcome action =
        .ok (.error (rebuilt action thrown)) := outcome_error thrown action
    rw [hfails, ok_bind]
    rfl
  | ok value =>
    have hreturns : outcome (Returned.init (Except.map wrap (.ok value))).outcome action =
        .ok (.ok _) := outcome_ok .absent action
    have hheld : read (Returned.init (Except.map wrap (.ok value))) = .ok (f value) := hread value
    rw [hreturns, ok_bind]
    dsimp only
    rw [hheld]
    rfl

/-- A call of Swift's function and what boxes its result. -/
theorem called_plain {body : Throwing World β} {rest : β → Throwing World Held} (wrap : β → Held)
    (hrest : ∀ value, rest value = pure (wrap value)) {read : Returned Held → Crossing β}
    (hread : ∀ value, read (.init (.ok (wrap value))) = .ok value) (action : String)
    (world : World) : called (Swift.outcome (body >>= rest)) action read world =
      .ok ((body.run.run world).1.mapError (rebuilt action), (body.run.run world).2) := by
  have hheld : body >>= rest = wrap <$> body := by
    rw [map_eq_pure_bind]
    exact congrArg (body >>= ·) (funext hrest)
  rw [called_eq wrap (fun value => value) hheld hread]
  generalize body.run.run world = ran
  obtain ⟨returned, after⟩ := ran
  cases returned <;> rfl

end Platform

end Acting

end ContainerBridge
