import ContainerBridge.Blocking.Reaching

/-! The rule that a configuration closure makes no call that goes through `blocking`. A pool whose
bodies follow it is never stopped, and one whose bodies do not can be. The closures that the bridge
awaits through `offPool` may make calls. -/

namespace ContainerBridge

namespace Blocking

variable {n : Nat} {V : Type}

mutual

/-- The body's configuration closures are silent, and so are those of the calls it waits for. -/
def Body.Heeds : Body V → Prop
  | .returns _ => True
  | .computes next | .suspends next => ∀ value, (next value).Heeds
  | .offPool closure next => closure.Heeds ∧ ∀ value, (next value).Heeds
  | .configures closure next => closure.Silent ∧ ∀ value, (next value).Heeds

def Closure.Heeds : Closure V → Prop
  | .returns _ => True
  | .computes next => ∀ value, (next value).Heeds
  | .blocking body next => body.Heeds ∧ ∀ result, (next result).Heeds

end

mutual

/-- A body that may come to a configuration closure that makes a call does not heed the rule. -/
theorem Body.Heeds.not_reaches : ∀ {body : Body V}, body.Heeds → ¬body.Reaches
  | _, hheeds, .computes value h | _, hheeds, .suspends value h =>
    Body.Heeds.not_reaches (hheeds value) h
  | _, hheeds, .offPool h => Closure.Heeds.not_reaches hheeds.1 h
  | _, hheeds, .resumed _ h | _, hheeds, .configured _ h => Body.Heeds.not_reaches (hheeds.2 _) h
  | _, hheeds, .configures hloud => hloud hheeds.1

theorem Closure.Heeds.not_reaches : ∀ {closure : Closure V}, closure.Heeds → ¬closure.Reaches
  | _, hheeds, .computes value h => Closure.Heeds.not_reaches (hheeds value) h
  | _, hheeds, .calls h => Body.Heeds.not_reaches hheeds.1 h
  | _, hheeds, .returned _ h => Closure.Heeds.not_reaches (hheeds.2 _) h

end

/-! ### Where the rule bears on the bridge -/

/-- Containerization's `create` heeds the rule but for what its closure does. -/
def ManagerHeeds (manager : ((V → Body V) → Body V) → Body V) : Prop :=
  ∀ configures, (∀ next, (∀ value, (next value).Heeds) → (configures next).Heeds) →
    (manager configures).Heeds

/-- It may come to the closure. -/
def ManagerCalls (manager : ((V → Body V) → Body V) → Body V) : Prop :=
  ∀ configures, (∀ next, (configures next).Reaches) → (manager configures).Reaches

/-- Containerization's `ingest` heeds the rule but for what its closure does. -/
def StoreHeeds (store : (String → (Except SwiftError Unit → Body V) → Body V) → Body V) : Prop :=
  ∀ awaits, (∀ directory next, (∀ result, (next result).Heeds) → (awaits directory next).Heeds) →
    (store awaits).Heeds

theorem create_heeds {manager : ((V → Body V) → Body V) → Body V} {configuration : Closure V}
    (hmanager : ManagerHeeds manager) (hsilent : configuration.Silent) :
    (create manager configuration).Heeds :=
  hmanager _ fun _ hnext => ⟨hsilent, hnext⟩

theorem create_reaches {manager : ((V → Body V) → Body V) → Body V} {configuration : Closure V}
    (hmanager : ManagerCalls manager) (hloud : ¬configuration.Silent) :
    (create manager configuration).Reaches :=
  hmanager _ fun _ => .configures hloud

/-- `ingest`'s closure may make any call whose body heeds the rule. -/
theorem ingest_heeds {store : (String → (Except SwiftError Unit → Body V) → Body V) → Body V}
    (hstore : StoreHeeds store) (threw : V → Bool) {body : String → Closure V}
    (hbody : ∀ directory, (body directory).Heeds) : (ingest store threw body).Heeds :=
  hstore _ fun directory _ hnext => ⟨hbody directory, fun _ => hnext _⟩

/-- So may a progress handler. -/
theorem progressHandler_heeds {handler : Option (RustProgressHandler V)}
    (hhandler : ∀ rust ∈ handler, ∀ kinds values, (rust kinds values).Heeds)
    {awaits : List ProgressEvent → (V → Body V) → Body V} (h : awaits ∈ progressHandler handler)
    (events : List ProgressEvent) {next : V → Body V} (hnext : ∀ value, (next value).Heeds) :
    (awaits events next).Heeds := by
  obtain ⟨rust, hrust, rfl⟩ := Option.map_eq_some_iff.mp h
  exact ⟨hhandler rust hrust _ _, hnext⟩

namespace Pooled

/-- A pool is stopped exactly where each of its threads waits in a call that a configuration closure
made. From there on it runs nothing, whatever else happens, and no call that waits returns; until
then something goes on while a call has not returned. -/
theorem starved_iff_stopped [Inhabited V] {allowed : Body V → Prop} {world : World n V}
    (h : world.Reachable allowed) :
    (world.Starved → ∀ later, Relation.ReflTransGen (Step allowed) world later →
      later.Starved ∧ world.Waiting later) ∧
    (¬world.Starved → ∀ i call, world.calls i = some call → ∃ later, Moves world later) :=
  ⟨fun hstarved _ hrun => hstarved.run h.inv hrun,
    fun hstarved _ _ hcall => h.inv.goes_on hstarved hcall⟩

/-- A `create` whose manager waits before it calls the closure, which makes a call in the end. -/
def Body.sample : Body Unit :=
  create (fun configures => .suspends fun _ => configures fun _ => .returns (.ok ()))
    (.computes fun _ => .blocking (.returns (.ok ())) fun _ => .returns ())

theorem Body.sample_reaches : Body.sample.Reaches :=
  create_reaches (fun _ hnext => .suspends () (hnext _)) fun hsilent => hsilent ()

/-- Such calls have stopped a pool of one thread, and another stays where it is. -/
theorem sample_starved_iff_stopped :
    ∃ world : World 1 Unit, world.Starved ∧
      (world.withCall 1 (some (.init Body.sample))).Starved ∧
      world.Waiting (world.withCall 1 (some (.init Body.sample))) := by
  obtain ⟨world, hreachable, hstopped⟩ :=
    World.exists_stopped (· = Body.sample) (fun _ : Fin 1 => Body.sample)
      (fun _ => ⟨rfl, Body.sample_reaches⟩) 1 (Nat.le_refl 1)
  exact ⟨world, hstopped.starved, (starved_iff_stopped hreachable).1 hstopped.starved _
    (.single (.call (hstopped.idle 1 (Nat.le_refl 1)) rfl))⟩

/-- A pool can be stopped exactly where one of the bodies it is given may come to a configuration
closure that makes a call through `blocking`, which no body that heeds the rule does. As many calls
of such bodies as it has threads can stop it, whatever the bodies do before and after, with each of
them waiting for ever. A `create` heeds the rule with a closure that makes no call, and does not
with one that may make one; the closures of `ingest` and of a progress handler may make any. -/
theorem rule_needed (hn : 0 < n) (allowed : Body V → Prop) :
    ((∃ world : World n V, world.Reachable allowed ∧ world.Starved) ↔
      ∃ body, allowed body ∧ body.Reaches) ∧
    (∀ body : Body V, body.Heeds → ¬body.Reaches) ∧
    (∀ world : World n V, world.Reachable Body.Heeds → ¬world.Starved) ∧
    (∀ bodies : Fin n → Body V, (∀ i, allowed (bodies i) ∧ (bodies i).Reaches) →
      ∃ world : World n V, world.Reachable allowed ∧ world.Starved ∧
        ∀ i < n, ∃ call, world.calls i = some call ∧ call.shared.semaphore = 0) ∧
    (∀ (manager : ((V → Body V) → Body V) → Body V) configuration,
      (ManagerHeeds manager → configuration.Silent → (create manager configuration).Heeds) ∧
      (ManagerCalls manager → ¬configuration.Silent → (create manager configuration).Reaches)) ∧
    (∀ (store : (String → (Except SwiftError Unit → Body V) → Body V) → Body V) threw body,
      StoreHeeds store → (∀ directory, (body directory).Heeds) → (ingest store threw body).Heeds) ∧
    ∀ handler : Option (RustProgressHandler V),
      (∀ rust ∈ handler, ∀ kinds values, (rust kinds values).Heeds) →
      ∀ awaits ∈ progressHandler handler, ∀ events next,
        (∀ value, (next value).Heeds) → (awaits events next).Heeds := by
  refine ⟨⟨?_, ?_⟩, fun _ => Body.Heeds.not_reaches, ?_, World.exists_starved, ?_, ?_, ?_⟩
  · rintro ⟨world, hreachable, hstarved⟩
    exact hreachable.reaches hn hstarved
  · rintro ⟨body, hallowed, hreaches⟩
    obtain ⟨world, hreachable, hstarved, -⟩ :=
      World.exists_starved (n := n) (fun _ => body) fun _ => ⟨hallowed, hreaches⟩
    exact ⟨world, hreachable, hstarved⟩
  · intro world hreachable hstarved
    obtain ⟨body, hheeds, hreaches⟩ := hreachable.reaches hn hstarved
    exact hheeds.not_reaches hreaches
  · exact fun manager configuration => ⟨create_heeds, create_reaches⟩
  · exact fun store threw body hstore hbody => ingest_heeds hstore threw hbody
  · exact fun handler hhandler awaits h events next hnext =>
      progressHandler_heeds hhandler h events hnext

/-- A pool of one thread that such a `create` stops, and an `ingest` whose closure makes a call. -/
theorem sample_rule_needed :
    (∃ world : World 1 Unit, world.Reachable (· = Body.sample) ∧ world.Starved) ∧
    (ingest (fun awaits => awaits "/ingest" .returns) (fun _ => false) fun _ =>
      .blocking (.returns (.ok ())) fun _ => .returns () : Body Unit).Heeds := by
  obtain ⟨hiff, -, -, -, -, hingest, -⟩ := rule_needed Nat.one_pos (· = Body.sample)
  refine ⟨hiff.mpr ⟨_, rfl, Body.sample_reaches⟩, hingest _ _ _ ?_ fun _ => ?_⟩
  · exact fun awaits hawaits => hawaits _ _ fun _ => trivial
  · exact ⟨trivial, fun _ => trivial⟩

end Pooled

end Blocking

end ContainerBridge
