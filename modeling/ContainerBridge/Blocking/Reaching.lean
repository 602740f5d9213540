import ContainerBridge.Blocking.Starved

/-! Where the code of a body may come to a configuration closure that makes a call through
`blocking`. A task in a pool comes to no place that its body, run alone, does not; and one that is
left alone with a thread of the pool stops on it where its body comes to such a closure. -/

namespace ContainerBridge

namespace Blocking

variable {n : Nat} {V : Type}

/-- The closure makes no call that goes through `blocking`. -/
def Closure.Silent : Closure V → Prop
  | .returns _ => True
  | .computes next => ∀ value, (next value).Silent
  | .blocking _ _ => False

mutual

/-- What a body may return or throw when it is run alone, each closure and call where it stands. -/
inductive Body.Returns : Body V → Except SwiftError V → Prop
  | returns (result : Except SwiftError V) : Body.Returns (.returns result) result
  | computes {next : V → Body V} (value : V) {result : Except SwiftError V}
      (h : Body.Returns (next value) result) : Body.Returns (.computes next) result
  | suspends {next : V → Body V} (value : V) {result : Except SwiftError V}
      (h : Body.Returns (next value) result) : Body.Returns (.suspends next) result
  | offPool {closure : Closure V} {next : V → Body V} {value : V} {result : Except SwiftError V}
      (hclosure : Closure.Returns closure value) (h : Body.Returns (next value) result) :
      Body.Returns (.offPool closure next) result
  | configures {closure : Closure V} {next : V → Body V} {value : V} {result : Except SwiftError V}
      (hclosure : Closure.Returns closure value) (h : Body.Returns (next value) result) :
      Body.Returns (.configures closure next) result

inductive Closure.Returns : Closure V → V → Prop
  | returns (value : V) : Closure.Returns (.returns value) value
  | computes {next : V → Closure V} (computed : V) {value : V}
      (h : Closure.Returns (next computed) value) : Closure.Returns (.computes next) value
  | blocking {body : Body V} {next : Except SwiftError V → Closure V} {result : Except SwiftError V}
      {value : V} (hbody : Body.Returns body result) (h : Closure.Returns (next result) value) :
      Closure.Returns (.blocking body next) value

end

mutual

/-- The body, run alone, may come to a configuration closure that may make a call. -/
inductive Body.Reaches : Body V → Prop
  | computes {next : V → Body V} (value : V) (h : Body.Reaches (next value)) :
      Body.Reaches (.computes next)
  | suspends {next : V → Body V} (value : V) (h : Body.Reaches (next value)) :
      Body.Reaches (.suspends next)
  | offPool {closure : Closure V} {next : V → Body V} (h : Closure.Reaches closure) :
      Body.Reaches (.offPool closure next)
  | resumed {closure : Closure V} {next : V → Body V} {value : V}
      (hclosure : Closure.Returns closure value) (h : Body.Reaches (next value)) :
      Body.Reaches (.offPool closure next)
  | configures {closure : Closure V} {next : V → Body V} (h : ¬closure.Silent) :
      Body.Reaches (.configures closure next)
  | configured {closure : Closure V} {next : V → Body V} {value : V}
      (hclosure : Closure.Returns closure value) (h : Body.Reaches (next value)) :
      Body.Reaches (.configures closure next)

/-- Of a closure that runs on a thread of Dispatch's, by the calls it makes. -/
inductive Closure.Reaches : Closure V → Prop
  | computes {next : V → Closure V} (value : V) (h : Closure.Reaches (next value)) :
      Closure.Reaches (.computes next)
  | calls {body : Body V} {next : Except SwiftError V → Closure V} (h : Body.Reaches body) :
      Closure.Reaches (.blocking body next)
  | returned {body : Body V} {next : Except SwiftError V → Closure V} {result : Except SwiftError V}
      (hbody : Body.Returns body result) (h : Closure.Reaches (next result)) :
      Closure.Reaches (.blocking body next)

end

namespace Pooled

/-! ### What a task may come to -/

mutual

def Task.Returns : Task n V → Shared V → Except SwiftError V → Prop
  | .detached, shared, result => ∃ body, shared.pending = some body ∧ body.Returns result
  | .ready code, _, result | .running _ code, _, result => code.Returns result
  | .suspended next, _, result => ∃ value, (next value).Returns result
  | .awaiting closure next, _, result | .configuring _ closure next, _, result =>
    ∃ value, closure.Returns value ∧ (next value).Returns result
  | .finished _, shared, result | .done, shared, result => shared.outcome = some result

def Running.Returns : Running n V → V → Prop
  | .queued code, value | .running code, value => code.Returns value
  | .parked shared task next, value =>
    ∃ result, task.Returns shared result ∧ (next result).Returns value

end

def Running.Silent : Running n V → Prop
  | .running code => code.Silent
  | .queued _ | .parked _ _ _ => False

mutual

def Task.Reaches : Task n V → Shared V → Prop
  | .detached, shared => ∃ body, shared.pending = some body ∧ body.Reaches
  | .ready code, _ | .running _ code, _ => code.Reaches
  | .suspended next, _ => ∃ value, (next value).Reaches
  | .awaiting closure next, _ =>
    closure.Reaches ∨ ∃ value, closure.Returns value ∧ (next value).Reaches
  | .configuring _ closure next, _ =>
    ¬closure.Silent ∨ ∃ value, closure.Returns value ∧ (next value).Reaches
  | .finished _, _ | .done, _ => False

def Running.Reaches : Running n V → Prop
  | .queued code | .running code => code.Reaches
  | .parked shared task next =>
    task.Reaches shared ∨ ∃ result, task.Returns shared result ∧ (next result).Reaches

end

/-- A call that returns returns what its task was to return. -/
theorem Task.Fits.returns {task : Task n V} {shared : Shared V} (hfits : task.Fits shared)
    (hsignalled : 0 < shared.semaphore) : task.Returns shared shared.get := by
  cases hfits.done hsignalled
  obtain ⟨-, result, houtcome⟩ := hfits
  rw [Shared.get, houtcome]
  exact houtcome

mutual

/-- What a task may return after a step, it might before. -/
theorem Call.Step.returns {free : Fin n → Prop} {call call' : Call n V} :
    Call.Step free call call' → call.task.Fits call.shared → ∀ result,
      call'.task.Returns call'.shared result → call.task.Returns call.shared result
  | .start _ hpending, _, _, h => ⟨_, hpending, h⟩
  | .startTaken _ hpending, hfits, _, _ => by
    obtain ⟨body, hbody⟩ := hfits.2
    rw [hpending] at hbody
    cases hbody
  | .resume _, _, _, h => h
  | .computes value, _, _, h => .computes value h
  | .suspends, _, _, ⟨value, h⟩ => .suspends value h
  | .wakes value, _, _, h => ⟨value, h⟩
  | .offPool, _, _, ⟨_, hclosure, h⟩ => .offPool hclosure h
  | .configures, _, _, ⟨_, hclosure, h⟩ => .configures hclosure h
  | .resumed, _, _, h | .configured, _, _, h => ⟨_, .returns _, h⟩
  | .awaited h, hfits, _, ⟨value, hclosure, hnext⟩
  | .configuring h, hfits, _, ⟨value, hclosure, hnext⟩ =>
    ⟨value, Running.Step.returns_of h hfits.1 value hclosure, hnext⟩
  | .finishes, _, _, h => by
    cases h
    exact .returns _
  | .signals, _, _, h => h

theorem Running.Step.returns_of {free : Fin n → Prop} {closure closure' : Running n V} :
    Running.Step free closure closure' → closure.Fits → ∀ value,
      closure'.Returns value → closure.Returns value
  | .dispatched, _, _, h => h
  | .computes computed, _, _, h => .computes computed h
  | .calls, _, _, ⟨_, ⟨_, hpending, hbody⟩, h⟩ => by
    cases hpending
    exact .blocking hbody h
  | .inner h, hfits, _, ⟨result, hcall, hnext⟩ =>
    ⟨result, Call.Step.returns h hfits result hcall, hnext⟩
  | .returns hsignalled, hfits, _, h => ⟨_, Task.Fits.returns hfits hsignalled, h⟩

end

/-- A silent closure stays one: it never waits for a call. -/
theorem Running.Step.silent {free : Fin n → Prop} {closure closure' : Running n V}
    (h : Running.Step free closure closure') (hsilent : closure.Silent) : closure'.Silent := by
  cases h with
  | computes value => exact hsilent value
  | dispatched | calls | inner | returns => exact hsilent.elim

mutual

/-- What a task may come to after a step, it might before. -/
theorem Call.Step.reaches {free : Fin n → Prop} {call call' : Call n V} :
    Call.Step free call call' → call.task.Fits call.shared →
      call'.task.Reaches call'.shared → call.task.Reaches call.shared
  | .start _ hpending, _, h => ⟨_, hpending, h⟩
  | .startTaken _ _, _, h | .finishes, _, h => h.elim
  | .resume _, _, h | .signals, _, h => h
  | .computes value, _, h => .computes value h
  | .suspends, _, ⟨value, h⟩ => .suspends value h
  | .wakes value, _, h => ⟨value, h⟩
  | .offPool, _, .inl h => .offPool h
  | .offPool, _, .inr ⟨_, hclosure, h⟩ => .resumed hclosure h
  | .configures, _, .inl h => .configures h
  | .configures, _, .inr ⟨_, hclosure, h⟩ => .configured hclosure h
  | .resumed, _, h | .configured, _, h => .inr ⟨_, .returns _, h⟩
  | .awaited h, hfits, .inl hclosure => .inl (Running.Step.reaches h hfits.1 hclosure)
  | .configuring h, _, .inl hloud => .inl fun hsilent => hloud (h.silent hsilent)
  | .awaited h, hfits, .inr ⟨value, hclosure, hnext⟩
  | .configuring h, hfits, .inr ⟨value, hclosure, hnext⟩ =>
    .inr ⟨value, h.returns_of hfits.1 value hclosure, hnext⟩

theorem Running.Step.reaches {free : Fin n → Prop} {closure closure' : Running n V} :
    Running.Step free closure closure' → closure.Fits → closure'.Reaches → closure.Reaches
  | .dispatched, _, h => h
  | .computes value, _, h => .computes value h
  | .calls, _, .inl ⟨_, hpending, h⟩ => by
    cases hpending
    exact .calls h
  | .calls, _, .inr ⟨_, ⟨_, hpending, hbody⟩, h⟩ => by
    cases hpending
    exact .returned hbody h
  | .inner h, hfits, .inl hcall => .inl (Call.Step.reaches h hfits hcall)
  | .inner h, hfits, .inr ⟨result, hcall, hnext⟩ =>
    .inr ⟨result, h.returns hfits result hcall, hnext⟩
  | .returns hsignalled, hfits, h => .inr ⟨_, Task.Fits.returns hfits hsignalled, h⟩

end

mutual

/-- A task that has a thread of the pool, on which it runs nothing, has come to a closure that makes
a call. -/
theorem Task.reaches_of_quiet {thread : Fin n} :
    ∀ {task : Task n V} {shared : Shared V}, task.On thread → task.Quiet → task.Reaches shared
  | .awaiting _ _, _, hon, hquiet => .inl (Running.reaches_of_quiet hon hquiet)
  | .configuring _ (.parked _ _ _) _, _, _, _ => .inl id
  | .configuring _ (.queued _) _, _, _, hwaits | .configuring _ (.running _) _, _, _, hwaits
  | .running _ _, _, _, hwaits | .finished _, _, _, hwaits => hwaits.elim
  | .detached, _, hon, _ | .ready _, _, hon, _ | .suspended _, _, hon, _ | .done, _, hon, _ =>
    hon.elim

theorem Running.reaches_of_quiet {thread : Fin n} :
    ∀ {closure : Running n V}, closure.On thread → closure.Quiet → closure.Reaches
  | .parked _ _ _, hon, hquiet => .inl (Task.reaches_of_quiet hon hquiet)
  | .queued _, hon, _ | .running _, hon, _ => hon.elim

end

namespace World

variable {world later : World n V} {allowed : Body V → Prop}

/-- No call may come to a configuration closure that makes a call. -/
def Safe (world : World n V) : Prop :=
  ∀ i call, world.calls i = some call → ¬call.task.Reaches call.shared

theorem Safe.step (hallowed : ∀ body, allowed body → ¬body.Reaches) (hinv : world.Inv)
    (hsafe : world.Safe) (h : Step allowed world later) : later.Safe := by
  cases h with
  | call hidle hbody =>
    refine forall_withCall hsafe ?_
    rintro _ ⟨⟩ ⟨body, hpending, hreaches⟩
    cases hpending
    exact hallowed _ hbody hreaches
  | moves hmoves =>
    cases hmoves with
    | inner hcall hstep =>
      refine forall_withCall hsafe ?_
      rintro _ ⟨⟩ hreaches
      exact hsafe _ _ hcall (hstep.reaches (hinv _ _ hcall) hreaches)
    | returns hcall hsignalled => exact forall_withCall hsafe (by rintro _ ⟨⟩)

/-- A pool that is stopped has a body that may come to such a closure. -/
theorem Reachable.reaches (hn : 0 < n) (h : world.Reachable allowed) (hstarved : world.Starved) :
    ∃ body, allowed body ∧ body.Reaches := by
  by_contra hnone
  have hallowed : ∀ body, allowed body → ¬body.Reaches :=
    fun body hbody hreaches => hnone ⟨body, hbody, hreaches⟩
  have hsafe : world.Inv ∧ world.Safe :=
    Run.preserves (I := fun world => world.Inv ∧ world.Safe)
      ⟨by rintro _ _ ⟨⟩, by rintro _ _ ⟨⟩⟩
      (fun _ _ _ hstep hboth => ⟨hboth.1.step hstep, hboth.2.step hallowed hboth.1 hstep⟩) h
  obtain ⟨i, call, hcall, hon⟩ := not_free_iff.mp (hstarved.taken ⟨0, hn⟩)
  exact hsafe.2 i call hcall (Task.reaches_of_quiet hon (hstarved.quiet i call hcall))

end World

/-! ### A task alone with a thread of the pool -/

mutual

/-- A step needs no more of the pool's threads to be free than those it takes. -/
theorem Call.Step.mono {free free' : Fin n → Prop} (hmono : ∀ thread, free thread → free' thread)
    {call call' : Call n V} : Call.Step free call call' → Call.Step free' call call'
  | .start hfree hpending => .start (hmono _ hfree) hpending
  | .startTaken hfree hpending => .startTaken (hmono _ hfree) hpending
  | .resume hfree => .resume (hmono _ hfree)
  | .computes value => .computes value
  | .suspends => .suspends
  | .wakes value => .wakes value
  | .offPool => .offPool
  | .resumed => .resumed
  | .awaited h => .awaited (Running.Step.mono hmono h)
  | .configures => .configures
  | .configuring h => .configuring (Running.Step.mono hmono h)
  | .configured => .configured
  | .finishes => .finishes
  | .signals => .signals

theorem Running.Step.mono {free free' : Fin n → Prop}
    (hmono : ∀ thread, free thread → free' thread) {closure closure' : Running n V} :
    Running.Step free closure closure' → Running.Step free' closure closure'
  | .dispatched => .dispatched
  | .computes value => .computes value
  | .calls => .calls
  | .inner h => .inner (Call.Step.mono hmono h)
  | .returns hsignalled => .returns hsignalled

end

section

variable (thread : Fin n)

/-- A step of a call that takes no thread of the pool but this one. -/
def Call.Alone (call call' : Call n V) : Prop :=
  call.Step (fun other => other = thread ∧ ¬call.task.On other) call'

def Running.Alone (closure closure' : Running n V) : Prop :=
  closure.Step (fun other => other = thread ∧ ¬closure.On other) closure'

/-- The call has the thread and no other, and waits on it in a call that a closure made. -/
structure Call.Stuck (call : Call n V) : Prop where
  on : ∀ other, call.task.On other ↔ other = thread
  quiet : call.task.Quiet
  semaphore : call.shared.semaphore = 0

structure Running.Stuck (closure : Running n V) : Prop where
  on : ∀ other, closure.On other ↔ other = thread
  quiet : closure.Quiet

variable {thread}

/-- A closure that stops stops the call that awaits it. -/
theorem stops_awaited {closure : Running n V} {shared : Shared V} (hwaits : shared.semaphore = 0)
    (next : V → Body V) (h : Run.Stops (Running.Alone thread) (Running.Stuck thread) closure) :
    Run.Stops (Call.Alone thread) (Call.Stuck thread) ⟨shared, .awaiting closure next⟩ :=
  h.lift (fun closure => (⟨shared, .awaiting closure next⟩ : Call n V)) (fun _ _ => .awaited)
    fun _ hstuck => ⟨hstuck.on, hstuck.quiet, hwaits⟩

theorem comes_awaited {closure closure' : Running n V} {shared : Shared V}
    (hwaits : shared.semaphore = 0) (next : V → Body V)
    (h : Run.Comes (Running.Alone thread) (Running.Stuck thread) closure closure') :
    Run.Comes (Call.Alone thread) (Call.Stuck thread) ⟨shared, .awaiting closure next⟩
      ⟨shared, .awaiting closure' next⟩ :=
  h.lift (fun closure => (⟨shared, .awaiting closure next⟩ : Call n V)) (fun _ _ => .awaited)
    fun _ hstuck => ⟨hstuck.on, hstuck.quiet, hwaits⟩

/-- The closure that a call is in. -/
def Call.within (next : Except SwiftError V → Closure V) (call : Call n V) : Running n V :=
  .parked call.shared call.task next

theorem stops_within {call : Call n V} (next : Except SwiftError V → Closure V)
    (h : Run.Stops (Call.Alone thread) (Call.Stuck thread) call) :
    Run.Stops (Running.Alone thread) (Running.Stuck thread) (call.within next) :=
  h.lift (Call.within next) (fun _ _ => .inner) fun _ hstuck => ⟨hstuck.on, hstuck.quiet⟩

theorem comes_within {call call' : Call n V} (next : Except SwiftError V → Closure V)
    (h : Run.Comes (Call.Alone thread) (Call.Stuck thread) call call') :
    Run.Comes (Running.Alone thread) (Running.Stuck thread) (call.within next)
      (call'.within next) :=
  h.lift (Call.within next) (fun _ _ => .inner) fun _ hstuck => ⟨hstuck.on, hstuck.quiet⟩

/-- A configuration closure that may make a call can stop the thread it runs on. -/
theorem stops_of_not_silent {shared : Shared V} (hwaits : shared.semaphore = 0)
    (next : V → Body V) : ∀ {code : Closure V}, ¬code.Silent →
      Run.Stops (Call.Alone thread) (Call.Stuck thread)
        ⟨shared, .configuring thread (.running code) next⟩
  | .returns _, hloud => absurd trivial hloud
  | .computes _, hloud => by
    obtain ⟨value, hvalue⟩ := not_forall.mp hloud
    exact (stops_of_not_silent hwaits next hvalue).head (.configuring (.computes value))
  | .blocking body after, _ => by
    refine ⟨⟨shared, .configuring thread (.parked (.init body) .detached after) next⟩,
      .single (.configuring .calls), ?_, ⟨rfl, trivial⟩, hwaits⟩
    intro other
    simp [Task.On, Running.On, eq_comm]

/-- A silent one returns what it may return. -/
theorem runs_of_silent {shared : Shared V} (next : V → Body V) :
    ∀ {code : Closure V} {value : V}, code.Returns value → code.Silent →
      Relation.ReflTransGen (Call.Alone thread) ⟨shared, .configuring thread (.running code) next⟩
        ⟨shared, .configuring thread (.running (.returns value)) next⟩
  | _, _, .returns _, _ => .refl
  | _, _, .computes computed h, hsilent =>
    .head (.configuring (.computes computed)) (runs_of_silent next h (hsilent computed))

/-- A closure that makes a call waits in it, and the task of the call starts on the thread. -/
theorem runs_of_calls (body : Body V) (next : Except SwiftError V → Closure V) :
    Relation.ReflTransGen (Running.Alone thread) (.running (.blocking body next))
      (Call.within next ⟨{ Shared.init body with pending := none }, .running thread body⟩) :=
  .head .calls (.single (.inner (.start ⟨rfl, id⟩ rfl)))

/-- A call whose body returns gives what that returns to the closure it is in. -/
theorem runs_of_returns {shared : Shared V} {result : Except SwiftError V}
    (next : Except SwiftError V → Closure V) :
    Relation.ReflTransGen (Running.Alone thread)
      (Call.within next ⟨shared, .running thread (.returns result)⟩) (.running (next result)) :=
  .head (.inner .finishes) (.head (.inner .signals) (.single (.returns (Nat.succ_pos _))))

mutual

/-- A task alone with its thread returns what its code may return, if nothing stops it before. -/
theorem Body.Returns.comes : ∀ {code : Body V} {result : Except SwiftError V},
    code.Returns result → ∀ {shared : Shared V}, shared.semaphore = 0 →
      Run.Comes (Call.Alone thread) (Call.Stuck thread) ⟨shared, .running thread code⟩
        ⟨shared, .running thread (.returns result)⟩
  | _, _, .returns _, _, _ => .refl _
  | _, _, .computes value h, _, hwaits => (Body.Returns.comes h hwaits).head (.computes value)
  | _, _, .suspends value h, _, hwaits =>
    (((Body.Returns.comes h hwaits).head (.resume ⟨rfl, id⟩)).head (.wakes value)).head .suspends
  | _, _, .offPool hclosure h, _, hwaits =>
    have hreturns := comes_awaited hwaits _ (Closure.Returns.comes hclosure)
    have hgoes := ((Body.Returns.comes h hwaits).head (.resume ⟨rfl, id⟩)).head .resumed
    ((hreturns.trans hgoes).head (.awaited .dispatched)).head .offPool
  | .configures closure next, _, .configures hclosure h, shared, hwaits => by
    refine .head ?_ .configures
    by_cases hsilent : closure.Silent
    · have hruns : Relation.ReflTransGen (Call.Alone thread)
          ⟨shared, .configuring thread (.running closure) next⟩ _ :=
        runs_of_silent next hclosure hsilent
      exact ((Body.Returns.comes h hwaits).head .configured).of_run hruns
    · exact .inr (stops_of_not_silent hwaits next hsilent)

theorem Closure.Returns.comes : ∀ {code : Closure V} {value : V}, code.Returns value →
    Run.Comes (Running.Alone thread) (Running.Stuck thread) (.running code)
      (.running (.returns value) : Running n V)
  | _, _, .returns _ => .refl _
  | _, _, .computes computed h => (Closure.Returns.comes h).head (.computes computed)
  | .blocking body next, _, .blocking hbody h =>
    have hreturns := comes_within next (Body.Returns.comes hbody rfl)
    have hgoes := (Closure.Returns.comes h).of_run (runs_of_returns next)
    (hreturns.trans hgoes).of_run (runs_of_calls body next)

end

mutual

/-- A task alone with its thread stops on it, where its code may come to a configuration closure
that makes a call. -/
theorem Body.Reaches.stops : ∀ {code : Body V}, code.Reaches →
    ∀ {shared : Shared V}, shared.semaphore = 0 →
      Run.Stops (Call.Alone thread) (Call.Stuck thread) ⟨shared, .running thread code⟩
  | _, .computes value h, _, hwaits => (Body.Reaches.stops h hwaits).head (.computes value)
  | _, .suspends value h, _, hwaits =>
    (((Body.Reaches.stops h hwaits).head (.resume ⟨rfl, id⟩)).head (.wakes value)).head .suspends
  | .offPool _ next, .offPool h, _, hwaits =>
    ((stops_awaited hwaits next (Closure.Reaches.stops h)).head (.awaited .dispatched)).head
      .offPool
  | .offPool _ next, .resumed hclosure h, _, hwaits =>
    have hreturns := comes_awaited hwaits next (Closure.Returns.comes hclosure)
    have hgoes := ((Body.Reaches.stops h hwaits).head (.resume ⟨rfl, id⟩)).head .resumed
    ((hreturns.stops hgoes).head (.awaited .dispatched)).head .offPool
  | .configures _ next, .configures hloud, _, hwaits =>
    (stops_of_not_silent hwaits next hloud).head .configures
  | .configures closure next, .configured hclosure h, shared, hwaits => by
    refine .head ?_ .configures
    by_cases hsilent : closure.Silent
    · have hruns : Relation.ReflTransGen (Call.Alone thread)
          ⟨shared, .configuring thread (.running closure) next⟩ _ :=
        runs_of_silent next hclosure hsilent
      exact ((Body.Reaches.stops h hwaits).head .configured).of_run hruns
    · exact stops_of_not_silent hwaits next hsilent

theorem Closure.Reaches.stops : ∀ {code : Closure V}, code.Reaches →
    Run.Stops (Running.Alone thread) (Running.Stuck thread) (.running code : Running n V)
  | _, .computes value h => (Closure.Reaches.stops h).head (.computes value)
  | .blocking body next, .calls h =>
    (stops_within next (Body.Reaches.stops h rfl)).of_run (runs_of_calls body next)
  | .blocking body next, .returned hbody h =>
    have hreturns := comes_within next (Body.Returns.comes hbody rfl)
    have hgoes := (Closure.Reaches.stops h).of_run (runs_of_returns next)
    (hreturns.stops hgoes).of_run (runs_of_calls body next)

end

end

/-! ### A pool whose threads are stopped one after the other -/

namespace World

variable {world : World n V} {allowed : Body V → Prop} {i : Nat} {thread : Fin n}

/-- A step of a call that takes no thread but a free one. -/
theorem Reachable.alone {call call' : Call n V} (hfree : world.Free thread)
    (h : (world.withCall i (some call)).Reachable allowed) (hstep : call.Alone thread call') :
    (world.withCall i (some call')).Reachable allowed := by
  have hmono : ∀ other, other = thread ∧ ¬call.task.On other →
      (world.withCall i (some call)).Free other := by
    rintro other ⟨rfl, hon⟩
    exact forall_withCall hfree (by rintro _ ⟨⟩; exact hon)
  have hmoves := h.tail (.moves (.inner (withCall_self ..) (hstep.mono hmono)))
  rwa [withCall_withCall] at hmoves

/-- A call whose body may come to a configuration closure that makes a call can stop on a thread
that is free. -/
theorem Reachable.stops (hfree : world.Free thread) (h : world.Reachable allowed)
    (hidle : world.calls i = none) {body : Body V} (hallowed : allowed body)
    (hreaches : body.Reaches) :
    ∃ call : Call n V, call.Stuck thread ∧ (world.withCall i (some call)).Reachable allowed := by
  have hcall := h.tail (.call hidle hallowed)
  have hstarted := Reachable.alone hfree hcall (.start ⟨rfl, id⟩ rfl)
  have hwaits : { Shared.init body with pending := none }.semaphore = 0 := rfl
  obtain ⟨call, hrun, hstuck⟩ := Body.Reaches.stops hreaches hwaits
  exact ⟨call, hstuck, Run.preserves (I := fun call => (world.withCall i (some call)).Reachable _)
    hstarted (fun _ _ _ hstep hbefore => Reachable.alone hfree hbefore hstep) hrun⟩

/-- The first `k` threads are stopped, each by a call, and there is no other call. -/
structure Stopped (world : World n V) (k : Nat) : Prop where
  stuck : ∀ i : Fin n, i.val < k → ∃ call, world.calls i = some call ∧ call.Stuck i
  idle : ∀ i, k ≤ i → world.calls i = none

theorem Stopped.free {k : Nat} (h : world.Stopped k) (hk : k < n) : world.Free ⟨k, hk⟩ := by
  intro i call hcall hon
  by_cases hlt : i < k
  · obtain ⟨call', hcall', hstuck⟩ := h.stuck ⟨i, by omega⟩ hlt
    rw [hcall] at hcall'
    cases hcall'
    have hsame : k = i := congrArg Fin.val ((hstuck.on _).mp hon)
    omega
  · rw [h.idle i (by omega)] at hcall
    cases hcall

theorem Stopped.starved (h : world.Stopped n) : world.Starved where
  taken thread := by
    obtain ⟨call, hcall, hstuck⟩ := h.stuck thread thread.isLt
    exact not_free_iff.mpr ⟨thread, call, hcall, (hstuck.on thread).mpr rfl⟩
  quiet i call hcall := by
    by_cases hlt : i < n
    · obtain ⟨call', hcall', hstuck⟩ := h.stuck ⟨i, hlt⟩ hlt
      rw [hcall] at hcall'
      cases hcall'
      exact hstuck.quiet
    · rw [h.idle i (by omega)] at hcall
      cases hcall

theorem Stopped.succ {k : Nat} (h : world.Stopped k) (hk : k < n) {call : Call n V}
    (hstuck : call.Stuck ⟨k, hk⟩) : (world.withCall k (some call)).Stopped (k + 1) where
  stuck i hi := by
    by_cases hsame : i.val = k
    · obtain rfl : i = ⟨k, hk⟩ := Fin.ext hsame
      exact ⟨call, withCall_self .., hstuck⟩
    · rw [withCall_of_ne _ hsame]
      exact h.stuck i (by omega)
  idle i hi := by
    rw [withCall_of_ne _ (by omega)]
    exact h.idle i (by omega)

/-- Calls whose bodies may come to such closures can stop the threads one after the other. -/
theorem exists_stopped (allowed : Body V → Prop) (bodies : Fin n → Body V)
    (hbodies : ∀ i, allowed (bodies i) ∧ (bodies i).Reaches) :
    ∀ k ≤ n, ∃ world : World n V, world.Reachable allowed ∧ world.Stopped k := by
  intro k hk
  induction k with
  | zero => exact ⟨{}, .refl, fun _ h => absurd h (Nat.not_lt_zero _), fun _ _ => rfl⟩
  | succ k ih =>
    obtain ⟨world, hreachable, hstopped⟩ := ih (by omega)
    obtain ⟨hallowed, hreaches⟩ := hbodies ⟨k, by omega⟩
    obtain ⟨call, hstuck, hlater⟩ :=
      hreachable.stops (hstopped.free (by omega)) (hstopped.idle k (Nat.le_refl k)) hallowed
        hreaches
    exact ⟨_, hlater, hstopped.succ (by omega) hstuck⟩

/-- As many calls as there are threads, each with such a body, can stop the pool. -/
theorem exists_starved (bodies : Fin n → Body V)
    (hbodies : ∀ i, allowed (bodies i) ∧ (bodies i).Reaches) :
    ∃ world : World n V, world.Reachable allowed ∧ world.Starved ∧
      ∀ i < n, ∃ call, world.calls i = some call ∧ call.shared.semaphore = 0 := by
  obtain ⟨world, hreachable, hstopped⟩ := exists_stopped allowed bodies hbodies n (Nat.le_refl n)
  refine ⟨world, hreachable, hstopped.starved, fun i hi => ?_⟩
  obtain ⟨call, hcall, hstuck⟩ := hstopped.stuck ⟨i, hi⟩ hi
  exact ⟨call, hcall, hstuck.semaphore⟩

end World

end Pooled

end Blocking

end ContainerBridge
