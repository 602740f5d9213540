import ContainerBridge.Closure.Deliveries
import ContainerBridge.Wrapper

/-! `ContainerManager::create` lends Swift a progress handler and, inside that call, the closure
that configures the container. Both may fail, in any order of their steps, and so may Swift: the
caller is told of one failure, and never of a container when there was one. -/

namespace ContainerBridge

open Carry Platform

namespace Creating

/-- The `create`s that take a progress handler. -/
inductive Create where
  | create (id : String)
  | createWithReference (id reference : String)

/-- The action that a failure is of. -/
def Create.action : Create → String
  | .create id => s!"create {id}"
  | .createWithReference id reference => s!"create {id} from {reference}"

variable [Runtime] {P T Container : Type}

/-- A `create` in flight. -/
structure World (P T Container : Type) where
  progress : Progress.World P (Except Rust.Error (Returned Container))
  configure : Configure P T
  /-- What the closure did in each of Swift's calls of it. -/
  calls : List (Option (Body P)) := []
  /-- What Swift's own `create` did, once it has. -/
  swift : Option (Except SwiftError Container) := none
  /-- The closure's panic, once it has unwound through `progressing`. -/
  unwound : Option P := none

/-- What the closure did each time it ran. -/
def World.bodies (world : World P T Container) : List (Body P) := world.calls.filterMap id

/-- What `create` starts from. -/
def World.start (handler : Option (Progress.ProgressHandler P)) (configuration : T → Body P × T) :
    World P T Container where
  progress := { handler }
  configure := { configure := some configuration }

/-- What `configured` does once Swift has returned. -/
def World.configured (world : World P T Container) (create : Create)
    (body : Except SwiftError Container) : Crossing (Ran P (Except Rust.Error CzOutcome)) :=
  world.configure.thrown.outcome (Returned.init body).outcome create.action

inductive Step (create : Create) : World P T Container → World P T Container → Prop
  -- a batch, on a thread of its own, which Swift waits for
  | delivers {world : World P T Container} {label : Progress.Label}
      {progress : Progress.World P (Except Rust.Error (Returned Container))}
      (hswift : world.swift = none) (hstep : Progress.Step world.progress label progress)
      (hcalling : progress.progressing = .calling) :
      Step create world { world with progress }
  -- Swift calls the closure, which shares nothing with the batches
  | configures {world : World P T Container} (hswift : world.swift = none) (value : T) :
      Step create world { world with
        configure := (world.configure.call value).2
        calls := world.calls ++ [world.configure.ran value] }
  | returns {world : World P T Container} (hswift : world.swift = none)
      (hawaited : ∀ i batch, world.progress.batches i = some batch → batch = .done)
      (body : Except SwiftError Container) :
      Step create world { world with swift := some body }
  -- `configured` returns to `progressing`
  | settles {world : World P T Container} {body : Except SwiftError Container}
      {result : Except Rust.Error CzOutcome} (hswift : world.swift = some body)
      (hcalling : world.progress.progressing = .calling)
      (hconfigured : world.configured create body = .ok (.ok result)) :
      Step create world { world with
        progress := { world.progress with
          progressing := .returned (result.map fun _ => .init body) } }
  -- `configured` unwinds, past where `progressing` resumes a panic of the handler's
  | unwinds {world : World P T Container} {body : Except SwiftError Container} {payload : P}
      (hswift : world.swift = some body) (hcalling : world.progress.progressing = .calling)
      (hconfigured : world.configured create body = .ok (.error payload)) :
      Step create world { world with unwound := some payload }
  -- `progressing` resumes a panic of the handler's, or returns
  | resumes {world : World P T Container} {value : Except Rust.Error (Returned Container)}
      (hreturned : world.progress.progressing = .returned value) :
      Step create world { world with
        progress := { world.progress with
          progressing := .ended (Progress.resume world.progress.panic value), panic := {} } }

/-- A world that a `create` reaches, whatever its handler, its closure and Swift do. -/
def World.Reachable (world : World P T Container) (create : Create)
    (handler : Option (Progress.ProgressHandler P)) (configuration : T → Body P × T) : Prop :=
  Relation.ReflTransGen (Step create) (.start handler configuration) world

/-- `.map(|outcome| outcome.linux_container())`, of what `progressing` ended with. -/
def linuxContainer :
    Ran P (Except Rust.Error (Returned Container)) → Crossing (Ran P (Except Rust.Error Container))
  | .error payload => .ok (.error payload)
  | .ok (.error error) => .ok (.ok (.error error))
  | .ok (.ok returned) => return .ok (.ok (← returned.taken))

/-- What `create` did, once it has ended. -/
def World.result (world : World P T Container) :
    Option (Crossing (Ran P (Except Rust.Error Container))) :=
  match world.unwound, world.progress.progressing with
  | some payload, _ => some (.ok (.error payload))
  | none, .ended result => some (linuxContainer result)
  | none, _ => none

/-- What a caller is told after the closure's bodies, the first panic of the handler's that was
recorded, and what Swift's own `create` did: a panic of the closure's, or else of the handler's, or
else the closure's error, or else what Swift returned or threw. -/
def answer (create : Create) (bodies : List (Body P)) (first : Option P)
    (body : Except SwiftError Container) : Ran P (Except Rust.Error Container) :=
  match (bodies.findSome? panicOf).or first with
  | some payload => .error payload
  | none =>
    match bodies.findSome? errorOf with
    | some error => .ok (.error error)
    | none => .ok (body.mapError (rebuilt create.action))

variable {create : Create} {handler : Option (Progress.ProgressHandler P)}
  {configuration : T → Body P × T} {s t : World P T Container}

/-- What holds of a `create` in every run: its handler's part is a run of `progressing`, its closure
has run once at most, and what it ends with is what was kept of them. -/
structure World.Inv (world : World P T Container) (create : Create)
    (configuration : T → Body P × T) : Prop where
  progress : world.progress.Reachable
  once : Once world.configure.configure.isSome world.configure.thrown world.calls
  lent : ∀ configure ∈ world.configure.configure, configure = configuration
  bodies : ∀ body ∈ world.bodies, ∃ value, body = (configuration value).1
  calling : world.swift = none → world.progress.progressing = .calling ∧ world.unwound = none
  awaited : world.swift ≠ none → ∀ i batch, world.progress.batches i = some batch → batch = .done
  settled : world.progress.progressing ≠ .calling → ∃ body result, world.swift = some body ∧
    world.configured create body = .ok (.ok result) ∧
    ∀ value, world.progress.progressing = .returned value ∨
      world.progress.progressing = .ended (.ok value) → value = result.map fun _ => .init body
  unwound : ∀ payload ∈ world.unwound, ∃ body, world.swift = some body ∧
    world.configured create body = .ok (.error payload)

theorem World.Inv.init : (World.start handler configuration : World P T Container).Inv create
    configuration where
  progress := ⟨handler, .refl⟩
  once := .start
  lent _ h := (Option.some.inj h).symm
  bodies := nofun
  calling _ := ⟨rfl, rfl⟩
  awaited hswift := absurd rfl hswift
  settled hcalling := absurd rfl hcalling
  unwound := nofun

/-- A step of `progressing` in a run of it. -/
theorem reachable_step {label : Progress.Label}
    {before after : Progress.World P (Except Rust.Error (Returned Container))}
    (h : before.Reachable) (hstep : Progress.Step before label after) : after.Reachable := by
  obtain ⟨handler, hrun⟩ := h
  exact ⟨handler, hrun.tail ⟨label, hstep⟩⟩

/-- `progressing` goes on by steps of its own. -/
theorem Step.progress (h : Step create s t) (hs : s.Inv create configuration) :
    t.progress.Reachable := by
  cases h with
  | delivers hswift hstep => exact reachable_step hs.progress hstep
  | configures | returns | unwinds => exact hs.progress
  | settles hswift hcalling =>
    exact reachable_step hs.progress (.swiftReturns hcalling (hs.awaited (by simp [hswift])) _)
  | resumes hreturned => exact reachable_step hs.progress (.resumes hreturned)

omit [Runtime] in
/-- A closure that was called is gone. -/
theorem configure_call (self : Configure P T) (value : T) :
    (self.call value).2.configure = none := by
  obtain ⟨configure, thrown⟩ := self
  cases configure <;> rfl

/-- The closure's part of a step in which Swift calls it. -/
theorem World.Inv.configures (hs : s.Inv create configuration) (hswift : s.swift = none)
    (value : T) :
    World.Inv { s with
      configure := (s.configure.call value).2
      calls := s.calls ++ [s.configure.ran value] } create configuration where
  progress := hs.progress
  once := Configure.once_callback hs.once rfl
  lent configure h := by
    rw [configure_call] at h
    cases h
  bodies body hbody := by
    rw [World.bodies, List.filterMap_append] at hbody
    rcases List.mem_append.mp hbody with hold | hnew
    · exact hs.bodies body hold
    · obtain ⟨held, hheld, rfl⟩ : ∃ held, s.configure.configure = some held ∧
          (held value).1 = body := by
        simpa [Configure.ran] using hnew
      exact ⟨value, by rw [hs.lent held hheld]⟩
  calling := hs.calling
  awaited hreturned := absurd hswift hreturned
  settled hended := absurd (hs.calling hswift).1 hended
  unwound payload h := by
    rw [(hs.calling hswift).2] at h
    cases h

omit [Runtime] in
theorem resume_eq_ok {R : Type} {panic : Panic P} {value returned : R}
    (h : Progress.resume panic value = .ok returned) : returned = value := by
  rw [Progress.resume] at h
  cases hkept : panic.kept with
  | none =>
    rw [hkept] at h
    exact (Except.ok.inj h).symm
  | some payload =>
    rw [hkept] at h
    cases h

theorem Step.inv (h : Step create s t) (hs : s.Inv create configuration) :
    t.Inv create configuration := by
  have hprogress := h.progress hs
  cases h with
  | delivers hswift hstep hcalling =>
    exact { hs with
      progress := hprogress
      calling := fun _ => ⟨hcalling, (hs.calling hswift).2⟩
      awaited := fun hreturned => absurd hswift hreturned
      settled := fun hended => absurd hcalling hended }
  | configures hswift value => exact hs.configures hswift value
  | returns hswift hawaited body =>
    exact { hs with
      calling := nofun
      awaited := fun _ => hawaited
      settled := fun hended => absurd (hs.calling hswift).1 hended
      unwound := by simp [(hs.calling hswift).2] }
  | @settles body result hswift hcalling hconfigured =>
    exact { hs with
      progress := hprogress
      calling := by simp [hswift]
      settled := fun _ => ⟨body, result, hswift, hconfigured, by simp⟩ }
  | @unwinds body payload hswift hcalling hconfigured =>
    exact { hs with
      calling := by simp [hswift]
      unwound := by simpa using ⟨body, hswift, hconfigured⟩ }
  | @resumes value hreturned =>
    obtain ⟨body, result, hswift, hconfigured, hvalue⟩ := hs.settled (by simp [hreturned])
    refine { hs with
      progress := hprogress
      calling := by simp [hswift]
      settled := fun _ => ⟨body, result, hswift, hconfigured, fun other h => ?_⟩ }
    rcases h with hother | hended
    · cases hother
    · rw [resume_eq_ok (Progress.Progressing.ended.inj hended)]
      exact hvalue value (.inl hreturned)

theorem World.Reachable.inv (h : s.Reachable create handler configuration) :
    s.Inv create configuration :=
  Run.preserves .init (fun _ _ _ hstep hs => hstep.inv hs) h

/-! ### What the caller is told -/

variable {bodies : List (Body P)} {first : Option P} {body : Except SwiftError Container}
  {payload : P}

omit [Runtime] in
theorem reverse_of_length_le {α : Type} {list : List α} (h : list.length ≤ 1) :
    list.reverse = list := by
  match list, h with
  | [], _ => rfl
  | [_], _ => rfl

/-- `configured` reads what Swift returned, once it knows what was kept of the closure. -/
theorem World.Inv.configured_eq (hs : s.Inv create configuration)
    (body : Except SwiftError Container) : s.configured create body =
      .ok ((answer create s.bodies none body).map
        (·.map fun _ => (Returned.init body).outcome)) := by
  have hkept : s.configure.thrown = .after s.bodies := hs.once.thrown_eq
  have hreverse : s.bodies.reverse = s.bodies := reverse_of_length_le hs.once.length_le
  rw [World.configured, hkept]
  simp only [Thrown.outcome, Thrown.after, hreverse, answer, Option.or_none]
  cases s.bodies.findSome? panicOf with
  | some payload => rfl
  | none =>
    cases s.bodies.findSome? errorOf with
    | some error => rfl
    | none =>
      cases body with
      | error thrown =>
        have hfails : outcome (Returned.init (.error thrown : Except SwiftError Container)).outcome
            create.action = .ok (.error (rebuilt create.action thrown)) := outcome_error thrown _
        dsimp only
        rw [hfails]
        rfl
      | ok container => rfl

/-- Once Swift has returned nothing is left to happen but the rest of `create`, which ends. -/
theorem World.Inv.ends (hs : s.Inv create configuration) (hswift : s.swift ≠ none) :
    ∃ ended, Relation.ReflTransGen (Step create) s ended ∧ ended.result.isSome := by
  obtain ⟨body, hbody⟩ := Option.ne_none_iff_exists'.mp hswift
  cases hunwound : s.unwound with
  | some payload => exact ⟨s, .refl, by simp [World.result, hunwound]⟩
  | none =>
    cases hprogress : s.progress.progressing with
    | ended ran => exact ⟨s, .refl, by simp [World.result, hunwound, hprogress]⟩
    | returned value =>
      exact ⟨_, .single (.resumes hprogress), by simp [World.result, hunwound]⟩
    | calling =>
      have hconfigured := hs.configured_eq body
      cases hanswer : answer create s.bodies none body with
      | error payload =>
        rw [hanswer] at hconfigured
        exact ⟨_, .single (.unwinds hbody hprogress hconfigured), rfl⟩
      | ok answered =>
        rw [hanswer] at hconfigured
        exact ⟨_, .head (.settles hbody hprogress hconfigured) (.single (.resumes rfl)),
          by simp [World.result, hunwound]⟩

/-- Every panic of the handler's was recorded by the time Swift has returned. -/
theorem World.Inv.recorded (hs : s.Inv create configuration) (hswift : s.swift ≠ none) {i : Nat}
    (h : .panicked i payload ∈ s.progress.log) : .recorded i payload ∈ s.progress.log := by
  rcases hs.progress.inv.panicked i payload h with hunwinding | hrecorded
  · cases hs.awaited hswift i _ hunwinding
  · exact hrecorded

/-- A closure that refuses every value. -/
def refused : Unit → Body String × Unit :=
  fun value => (.ok (.error (.unavailable "configure" "refused")), value)

/-- A closure that takes every value. -/
def accepted : Unit → Body String × Unit := fun value => (.ok (.ok ()), value)

end Creating

end ContainerBridge
