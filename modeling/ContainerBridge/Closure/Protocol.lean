import ContainerBridge.Closure.Error
import ContainerBridge.Library.Callback
import ContainerBridge.Spec.Reading

/-! Rust closures that Swift calls. A panic cannot unwind through Swift and an error is not Swift's
to return, so each is kept where the entry point that called Swift finds it. -/

namespace ContainerBridge

open Carry

namespace Platform

/-- What a Rust closure did: it panicked with a payload, or returned. -/
abbrev Ran (P R : Type) := Except P R

variable {P T : Type}

/-- The panic a closure was stopped by, if one was. -/
structure Panic (P : Type) where
  kept : Option P := none

/-- What the body returned, or `none` if it panicked. The first panic is kept. -/
def Panic.catch {R : Type} (panic : Panic P) : Ran P R → Option R × Panic P
  | .ok returned => (some returned, panic)
  | .error payload => (none, { kept := some (panic.kept.getD payload) })

/-- What a Rust closure that Swift calls threw, or how it panicked. -/
structure Thrown (P : Type) where
  error : Option Rust.Error := none
  panic : Panic P := {}

/-- What a body that Swift calls did. -/
abbrev Body (P : Type) := Ran P (Except Rust.Error Unit)

/-- Whether the body threw. Its error or panic is kept. -/
def Thrown.threw (thrown : Thrown P) (body : Body P) : Bool × Thrown P :=
  match thrown.panic.catch body with
  | (some (.ok ()), panic) => (false, { thrown with panic })
  | (some (.error error), panic) => (true, { error := some error, panic })
  | (none, panic) => (true, { thrown with panic })

theorem Thrown.threw_eq_false (thrown : Thrown P) {body : Body P} :
    (thrown.threw body).1 = false ↔ body = .ok (.ok ()) := by
  rcases body with payload | error | - <;> simp [Thrown.threw, Panic.catch]

/-- What the throwing Swift call returned, or what it threw as a failure of `action`. A panic is
resumed here, and comes before an error of the closure's own, which comes before either. -/
def Thrown.outcome [Runtime] (thrown : Thrown P) (returned : CzOutcome) (action : String) :
    Crossing (Ran P (Except Rust.Error CzOutcome)) :=
  match thrown.panic.kept with
  | some payload => .ok (.error payload)
  | none =>
    match thrown.error with
    | some error => .ok (.ok (.error error))
    | none => .ok <$> Platform.outcome returned action

/-- An `(inout T) throws -> Void` closure. `configure` is gone once it has run. -/
structure Configure (P T : Type) where
  configure : Option (T → Body P × T)
  thrown : Thrown P := {}

/-- Runs the closure on the value Swift filled, the first time only, and says whether it threw. -/
def Configure.call (self : Configure P T) (value : T) : (Bool × T) × Configure P T :=
  match self.configure with
  | some configure =>
    let (body, value) := configure value
    let (threw, thrown) := self.thrown.threw body
    ((threw, value), { configure := none, thrown })
  | none => ((false, value), self)

@[simp] theorem Configure.call_some (configure : T → Body P × T) (thrown : Thrown P) (value : T) :
    (⟨some configure, thrown⟩ : Configure P T).call value =
      (((thrown.threw (configure value).1).1, (configure value).2),
        ⟨none, (thrown.threw (configure value).1).2⟩) := rfl

/-- A `(FileDescriptor) throws -> Void` closure. `body` is gone once it has run. -/
structure WithDescriptor (P : Type) where
  body : Option (Int32 → Body P)
  thrown : Thrown P := {}

/-- Runs the closure on `descriptor`, the first time only, and says whether it threw. -/
def WithDescriptor.call (self : WithDescriptor P) (descriptor : Int32) :
    Bool × WithDescriptor P :=
  match self.body with
  | some body =>
    let (threw, thrown) := self.thrown.threw (body descriptor)
    (threw, { body := none, thrown })
  | none => (false, self)

/-- An entry that `FileDescriptorOps.enumerate(_:_:)` comes to. -/
structure Entry where
  path : String
  entryType : EntryType
  parent : Int32

/-- `FileDescriptorOps.enumerate(_:_:)`'s body, an `FnMut` over a state of its own. -/
structure Enumerate (P S : Type) where
  body : S → Entry → Body P × S
  state : S
  thrown : Thrown P := {}

/-- Runs the closure on one entry, and says whether it threw. -/
def Enumerate.call {S : Type} (self : Enumerate P S) (entry : Entry) : Bool × Enumerate P S :=
  let (body, state) := self.body self.state entry
  let (threw, thrown) := self.thrown.threw body
  (threw, { self with state, thrown })

/-- The `FnOnce` that `ingest` hands Swift, and what it keeps. The glue between the two languages
traps when Swift calls it a second time. -/
structure Ingest (P : Type) where
  body : Option (String → Body P)
  thrown : Thrown P := {}

def Ingest.call (self : Ingest P) (directory : String) : Crossing (Bool × Ingest P) :=
  match self.body with
  | some body =>
    let (threw, thrown) := self.thrown.threw (body directory)
    .ok (threw, { body := none, thrown })
  | none => .error (.trap "Cannot call a Rust FnOnce function twice")

/-! ### The callbacks, and what the body does in each call -/

/-- What the closure does when it is called, or `none` when it has run. -/
def Configure.ran (self : Configure P T) (value : T) : Option (Body P) :=
  self.configure.map fun configure => (configure value).1

def WithDescriptor.ran (self : WithDescriptor P) (descriptor : Int32) : Option (Body P) :=
  self.body.map fun body => body descriptor

def Enumerate.ran {S : Type} (self : Enumerate P S) (entry : Entry) : Option (Body P) :=
  some (self.body self.state entry).1

def Ingest.ran (self : Ingest P) (directory : String) : Option (Body P) :=
  self.body.map fun body => body directory

def Configure.callback :
    Caller.Callback Stop (Configure P T) T (Bool × T) (Option (Body P)) :=
  fun self value => .ok (self.ran value, self.call value)

def WithDescriptor.callback :
    Caller.Callback Stop (WithDescriptor P) Int32 Bool (Option (Body P)) :=
  fun self descriptor => .ok (self.ran descriptor, self.call descriptor)

def Enumerate.callback {S : Type} :
    Caller.Callback Stop (Enumerate P S) Entry Bool (Option (Body P)) :=
  fun self entry => .ok (self.ran entry, self.call entry)

def Ingest.callback : Caller.Callback Stop (Ingest P) String Bool (Option (Body P)) :=
  fun self directory => do return (self.ran directory, ← self.call directory)

/-! ### The entry points

Each hands Swift its closure, and Swift is any caller of it. -/

variable [Runtime]

def configured (configure : T → Body P × T) (call : Caller T (Bool × T) CzOutcome)
    (action : String) : Crossing (Ran P (Except Rust.Error CzOutcome)) := do
  let (_, returned, self) ← call.run Configure.callback { configure := some configure }
  self.thrown.outcome returned action

def withDescriptor (body : Int32 → Body P) (call : Caller Int32 Bool CzOutcome)
    (action : String) : Crossing (Ran P (Except Rust.Error CzOutcome)) := do
  let (_, returned, self) ← call.run WithDescriptor.callback { body := some body }
  self.thrown.outcome returned action

def enumerating {S : Type} (body : S → Entry → Body P × S) (state : S)
    (call : Caller Entry Bool CzOutcome) (action : String) :
    Crossing (Ran P (Except Rust.Error CzOutcome)) := do
  let (_, returned, self) ← call.run Enumerate.callback { body, state }
  self.thrown.outcome returned action

/-- The digests of an outcome, or its failure. -/
def digests : Except Rust.Error CzOutcome → Crossing (Except Rust.Error (List String))
  | .error error => .ok (.error error)
  | .ok outcome => return .ok (← outcome.strings)

/-- The digests of what an entry point returns. -/
def mapDigests (result : Ran P (Except Rust.Error CzOutcome)) :
    Crossing (Ran P (Except Rust.Error (List String))) :=
  match result with
  | .error payload => .ok (.error payload)
  | .ok result => .ok <$> digests result

def ingest (body : String → Body P) (call : Caller String Bool CzOutcome) :
    Crossing (Ran P (Except Rust.Error (List String))) := do
  let (_, returned, self) ← call.run Ingest.callback { body := some body }
  mapDigests (← self.thrown.outcome returned "ingest content")

/-- Swift calls the body of `ingest` again, after the reply that the first call gave it. -/
def CallsAgain (body : String → Body P) : Caller String Bool CzOutcome → Prop
  | .returns _ => False
  | .calls directory next => ∃ again later,
    next (({} : Thrown P).threw (body directory)).1 = .calls again later

/-! ### What the entry points return -/

/-- The payload of a body that panicked. -/
def panicOf : Body P → Option P
  | .error payload => some payload
  | .ok _ => none

/-- The error of a body that returned one. -/
def errorOf : Body P → Option Rust.Error
  | .ok (.error error) => some error
  | _ => none

/-- What an entry point returns after the bodies that ran, when `decoded` is how it reads what Swift
returned: the first panic resumed, else an error of a body's own, else `decoded`. -/
structure Settles {R : Type} (bodies : List (Body P)) (decoded : Crossing (Except Rust.Error R))
    (result : Crossing (Ran P (Except Rust.Error R))) : Prop where
  panicked : ∀ payload, bodies.findSome? panicOf = some payload → result = .ok (.error payload)
  threw : (∀ body ∈ bodies, panicOf body = none) → (∃ body ∈ bodies, errorOf body ≠ none) →
    ∃ body ∈ bodies, ∃ error, errorOf body = some error ∧ result = .ok (.ok (.error error))
  /-- When Swift stops at the first body that throws, the error is that body's. -/
  threwFirst : (∀ body ∈ bodies, panicOf body = none) →
    (∀ body ∈ bodies.dropLast, errorOf body = none) → ∀ error,
    bodies.findSome? errorOf = some error → result = .ok (.ok (.error error))
  decodes : (∀ body ∈ bodies, panicOf body = none ∧ errorOf body = none) →
    result = .ok <$> decoded
  /-- It never returns `Ok` after a body that failed or panicked. -/
  succeeded : ∀ value, result = .ok (.ok (.ok value)) →
    ∀ body ∈ bodies, panicOf body = none ∧ errorOf body = none

theorem Settles.digests {bodies : List (Body P)} {decoded : Crossing (Except Rust.Error CzOutcome)}
    {result : Crossing (Ran P (Except Rust.Error CzOutcome))} (h : Settles bodies decoded result) :
    Settles bodies (decoded >>= Platform.digests) (result >>= mapDigests) where
  panicked payload hpanic := by
    rw [h.panicked payload hpanic]
    rfl
  threw hpanic hthrew := by
    obtain ⟨body, hmem, error, herror, hresult⟩ := h.threw hpanic hthrew
    refine ⟨body, hmem, error, herror, ?_⟩
    rw [hresult]
    rfl
  threwFirst hpanic hbefore error hfirst := by
    rw [h.threwFirst hpanic hbefore error hfirst]
    rfl
  decodes hnone := by
    rw [h.decodes hnone]
    cases decoded <;> rfl
  succeeded value hvalue := by
    obtain ⟨ran, hran, hdigests⟩ := bind_eq_ok.mp hvalue
    rcases ran with payload | error | returned
    · cases hdigests
    · cases hdigests
    · exact h.succeeded returned hran

/-- What is kept after the bodies that ran: the first panic and the last error. -/
def Thrown.after (bodies : List (Body P)) : Thrown P where
  error := bodies.reverse.findSome? errorOf
  panic := { kept := bodies.findSome? panicOf }

omit [Runtime] in
/-- Each body that runs is kept after those before it. -/
theorem Thrown.threw_after (bodies : List (Body P)) (body : Body P) :
    ((Thrown.after bodies).threw body).2 = .after (bodies ++ [body]) := by
  cases hkept : bodies.findSome? panicOf <;> rcases body with payload | error | - <;>
    simp [Thrown.threw, Panic.catch, Thrown.after, List.findSome?_append, List.findSome?_cons,
      hkept, panicOf, errorOf]

/-- What is kept settles what the entry point returns. -/
theorem Thrown.settles_after (bodies : List (Body P)) (returned : CzOutcome) (action : String) :
    Settles bodies (Platform.outcome returned action) ((after bodies).outcome returned action) where
  panicked payload h := by simp [Thrown.outcome, after, h]
  threw hpanic := by
    rintro ⟨body, hmem, hthrew⟩
    have hkept : bodies.findSome? panicOf = none := List.findSome?_eq_none_iff.mpr hpanic
    obtain ⟨error, herror⟩ : ∃ error, bodies.reverse.findSome? errorOf = some error := by
      rw [← Option.isSome_iff_exists, List.findSome?_isSome_iff]
      exact ⟨body, by simpa using hmem, Option.isSome_iff_ne_none.mpr hthrew⟩
    obtain ⟨last, hlast, hlast'⟩ := List.exists_of_findSome?_eq_some herror
    refine ⟨last, by simpa using hlast, error, hlast', ?_⟩
    simp [Thrown.outcome, after, hkept, herror]
  threwFirst hpanic hbefore error hfirst := by
    have hkept : bodies.findSome? panicOf = none := List.findSome?_eq_none_iff.mpr hpanic
    have hlast : bodies.reverse.findSome? errorOf = some error := by
      obtain rfl | ⟨before, last, rfl⟩ := List.eq_nil_or_concat' bodies
      · cases hfirst
      · rw [List.dropLast_concat] at hbefore
        have hlast : errorOf last = some error := by
          simpa [List.findSome?_append, List.findSome?_eq_none_iff.mpr hbefore] using hfirst
        simp [hlast]
    simp [Thrown.outcome, after, hkept, hlast]
  decodes h := by
    have hkept : bodies.findSome? panicOf = none :=
      List.findSome?_eq_none_iff.mpr fun body hmem => (h body hmem).1
    have hlast : bodies.reverse.findSome? errorOf = none :=
      List.findSome?_eq_none_iff.mpr fun body hmem => (h body (by simpa using hmem)).2
    simp [Thrown.outcome, after, hkept, hlast]
  succeeded value hvalue := by
    simp only [Thrown.outcome, after] at hvalue
    split at hvalue
    · cases hvalue
    · next hkept =>
      split at hvalue
      · cases hvalue
      · next hlast =>
        exact fun body hmem => ⟨List.findSome?_eq_none_iff.mp hkept body hmem,
          List.findSome?_eq_none_iff.mp hlast body (by simpa using hmem)⟩

/-- A body that runs once at most, and has not while it is `ready`: what its calls did, and what is
kept of them. -/
structure Once (ready : Bool) (thrown : Thrown P) (calls : List (Option (Body P))) : Prop where
  thrown_eq : thrown = .after (calls.filterMap id)
  ready_eq_nil : ready → calls.filterMap id = []
  length_le : (calls.filterMap id).length ≤ 1

namespace Once

omit [Runtime]

theorem start : Once true ({} : Thrown P) [] where
  thrown_eq := rfl
  ready_eq_nil _ := rfl
  length_le := Nat.zero_le 1

theorem run {thrown : Thrown P} {calls : List (Option (Body P))} (h : Once true thrown calls)
    (body : Body P) : Once false (thrown.threw body).2 (calls ++ [some body]) where
  thrown_eq := by
    rw [h.thrown_eq, Thrown.threw_after, List.filterMap_append]
    rfl
  ready_eq_nil := nofun
  length_le := by
    rw [List.filterMap_append, h.ready_eq_nil rfl]
    exact Nat.le_refl 1

theorem skip {thrown : Thrown P} {calls : List (Option (Body P))} (h : Once false thrown calls) :
    Once false thrown (calls ++ [none]) where
  thrown_eq := by simp [List.filterMap_append, h.thrown_eq]
  ready_eq_nil := nofun
  length_le := by simpa [List.filterMap_append] using h.length_le

end Once

omit [Runtime] in
theorem Configure.once_callback {calls : List (Option (Body P))} {self : Configure P T} {value : T}
    {called : Option (Body P) × (Bool × T) × Configure P T}
    (h : Once self.configure.isSome self.thrown calls) (hcall : callback self value = .ok called) :
    Once called.2.2.configure.isSome called.2.2.thrown (calls ++ [called.1]) := by
  cases hcall
  obtain ⟨configure, thrown⟩ := self
  cases configure with
  | some configure => exact h.run _
  | none => exact h.skip

omit [Runtime] in
theorem WithDescriptor.once_callback {calls : List (Option (Body P))} {self : WithDescriptor P}
    {descriptor : Int32} {called : Option (Body P) × Bool × WithDescriptor P}
    (h : Once self.body.isSome self.thrown calls) (hcall : callback self descriptor = .ok called) :
    Once called.2.2.body.isSome called.2.2.thrown (calls ++ [called.1]) := by
  cases hcall
  obtain ⟨body, thrown⟩ := self
  cases body with
  | some body => exact h.run _
  | none => exact h.skip

omit [Runtime] in
theorem Ingest.once_callback {calls : List (Option (Body P))} {self : Ingest P}
    {directory : String} {called : Option (Body P) × Bool × Ingest P}
    (h : Once self.body.isSome self.thrown calls) (hcall : callback self directory = .ok called) :
    Once called.2.2.body.isSome called.2.2.thrown (calls ++ [called.1]) := by
  obtain ⟨body, thrown⟩ := self
  cases body with
  | some body =>
    cases hcall
    exact h.run _
  | none => cases hcall

omit [Runtime] in
theorem Enumerate.after_callback {S : Type} {calls : List (Option (Body P))}
    {self : Enumerate P S} {entry : Entry} {called : Option (Body P) × Bool × Enumerate P S}
    (h : self.thrown = .after (calls.filterMap id)) (hcall : callback self entry = .ok called) :
    called.2.2.thrown = .after ((calls ++ [called.1]).filterMap id) := by
  cases hcall
  rw [Enumerate.call, h, List.filterMap_append]
  exact Thrown.threw_after _ _

/-! ### What each entry point returns, whatever Swift does -/

theorem configured_settles (configure : T → Body P × T) (call : Caller T (Bool × T) CzOutcome)
    (action : String) : ∃ calls returned self,
      call.run Configure.callback { configure := some configure } = .ok (calls, returned, self) ∧
      (calls.filterMap id).length ≤ 1 ∧
      Settles (calls.filterMap id) (outcome returned action)
        (configured configure call action) := by
  obtain ⟨calls, returned, self, hrun⟩ :=
    call.run_returns Configure.callback (fun _ _ => ⟨_, rfl⟩) { configure := some configure }
  have honce : Once self.configure.isSome self.thrown calls :=
    call.run_preserves (fun calls self => Once self.configure.isSome self.thrown calls)
      (fun _ _ _ _ => Configure.once_callback) .start hrun
  refine ⟨calls, returned, self, hrun, honce.length_le, ?_⟩
  simp only [configured, hrun, ok_bind, honce.thrown_eq]
  exact Thrown.settles_after _ _ _

theorem withDescriptor_settles (body : Int32 → Body P) (call : Caller Int32 Bool CzOutcome)
    (action : String) : ∃ calls returned self,
      call.run WithDescriptor.callback { body := some body } = .ok (calls, returned, self) ∧
      (calls.filterMap id).length ≤ 1 ∧
      Settles (calls.filterMap id) (outcome returned action) (withDescriptor body call action) := by
  obtain ⟨calls, returned, self, hrun⟩ :=
    call.run_returns WithDescriptor.callback (fun _ _ => ⟨_, rfl⟩) { body := some body }
  have honce : Once self.body.isSome self.thrown calls :=
    call.run_preserves (fun calls self => Once self.body.isSome self.thrown calls)
      (fun _ _ _ _ => WithDescriptor.once_callback) .start hrun
  refine ⟨calls, returned, self, hrun, honce.length_le, ?_⟩
  simp only [withDescriptor, hrun, ok_bind, honce.thrown_eq]
  exact Thrown.settles_after _ _ _

theorem enumerating_settles {S : Type} (body : S → Entry → Body P × S) (state : S)
    (call : Caller Entry Bool CzOutcome) (action : String) : ∃ calls returned self,
      call.run Enumerate.callback { body, state } = .ok (calls, returned, self) ∧
      Settles (calls.filterMap id) (outcome returned action)
        (enumerating body state call action) := by
  obtain ⟨calls, returned, self, hrun⟩ :=
    call.run_returns Enumerate.callback (fun _ _ => ⟨_, rfl⟩) { body, state }
  have hafter : self.thrown = .after (calls.filterMap id) :=
    call.run_preserves (fun calls self => self.thrown = .after (calls.filterMap id))
      (fun _ _ _ _ => Enumerate.after_callback) rfl hrun
  refine ⟨calls, returned, self, hrun, ?_⟩
  simp only [enumerating, hrun, ok_bind, hafter]
  exact Thrown.settles_after _ _ _

/-- How `ingest` reads what Swift returned. -/
def ingested (returned : CzOutcome) : Crossing (Except Rust.Error (List String)) :=
  outcome returned "ingest content" >>= digests

/-- Only a second call stops Swift. -/
theorem callsAgain_of_error {body : String → Body P} {call : Caller String Bool CzOutcome}
    {stop : Stop} (h : call.run Ingest.callback { body := some body } = .error stop) :
    CallsAgain body call ∧ stop = .trap "Cannot call a Rust FnOnce function twice" := by
  cases call with
  | returns result => cases h
  | calls directory next =>
    rw [CallsAgain]
    have hfirst : Ingest.callback { body := some body } directory =
      .ok (some (body directory), (({} : Thrown P).threw (body directory)).1,
        { body := none, thrown := (({} : Thrown P).threw (body directory)).2 }) := rfl
    simp only [Caller.run, hfirst, ok_bind] at h
    cases hnext : next (({} : Thrown P).threw (body directory)).1 with
    | returns result =>
      rw [hnext] at h
      cases h
    | calls again later =>
      rw [hnext] at h
      cases h
      exact ⟨⟨again, later, rfl⟩, rfl⟩

/-- Swift's first call runs the body, and a second one never gets as far as Rust. -/
theorem ingest_settles (body : String → Body P) (call : Caller String Bool CzOutcome) :
    (∃ calls returned self,
      call.run Ingest.callback { body := some body } = .ok (calls, returned, self) ∧
      (calls.filterMap id).length ≤ 1 ∧
      Settles (calls.filterMap id) (ingested returned) (ingest body call)) ∨
    (CallsAgain body call ∧
      ingest body call = .error (.trap "Cannot call a Rust FnOnce function twice")) := by
  cases hrun : call.run Ingest.callback { body := some body } with
  | error stop =>
    obtain ⟨hagain, rfl⟩ := callsAgain_of_error hrun
    refine .inr ⟨hagain, ?_⟩
    rw [ingest, hrun]
    rfl
  | ok run =>
    obtain ⟨calls, returned, self⟩ := run
    have honce : Once self.body.isSome self.thrown calls :=
      call.run_preserves (fun calls self => Once self.body.isSome self.thrown calls)
        (fun _ _ _ _ => Ingest.once_callback) .start hrun
    refine .inl ⟨calls, returned, self, rfl, honce.length_le, ?_⟩
    simp only [ingest, hrun, ok_bind, honce.thrown_eq]
    exact (Thrown.settles_after _ _ _).digests

/-- For every body and everything Swift can do with it, each entry point resumes the first panic,
else returns an error of the body's own, else what it reads of what Swift returned; and a `FnOnce`
body runs at most once. Where Swift calls `ingest`'s again, it never returns to Rust. -/
theorem closures_settle :
    (∀ (T : Type) (configure : T → Body P × T) (call : Caller T (Bool × T) CzOutcome)
      (action : String), ∃ calls returned self,
      call.run Configure.callback { configure := some configure } = .ok (calls, returned, self) ∧
      (calls.filterMap id).length ≤ 1 ∧
      Settles (calls.filterMap id) (outcome returned action) (configured configure call action)) ∧
    (∀ (body : Int32 → Body P) (call : Caller Int32 Bool CzOutcome) (action : String),
      ∃ calls returned self,
      call.run WithDescriptor.callback { body := some body } = .ok (calls, returned, self) ∧
      (calls.filterMap id).length ≤ 1 ∧
      Settles (calls.filterMap id) (outcome returned action) (withDescriptor body call action)) ∧
    (∀ (S : Type) (body : S → Entry → Body P × S) (state : S)
      (call : Caller Entry Bool CzOutcome) (action : String), ∃ calls returned self,
      call.run Enumerate.callback { body, state } = .ok (calls, returned, self) ∧
      Settles (calls.filterMap id) (outcome returned action)
        (enumerating body state call action)) ∧
    ∀ (body : String → Body P) (call : Caller String Bool CzOutcome),
      (∃ calls returned self,
        call.run Ingest.callback { body := some body } = .ok (calls, returned, self) ∧
        (calls.filterMap id).length ≤ 1 ∧
        Settles (calls.filterMap id) (ingested returned) (ingest body call)) ∨
      (CallsAgain body call ∧
        ingest body call = .error (.trap "Cannot call a Rust FnOnce function twice")) :=
  ⟨fun _ => configured_settles, withDescriptor_settles, fun _ => enumerating_settles,
    ingest_settles⟩

end Platform

end ContainerBridge
