import ContainerBridge.Blocking.Configuring
import ContainerBridge.Library.Run

/-! A pool each of whose threads waits in a call that a configuration closure made on it. It runs
nothing any more, and nothing else ever stops what goes through `blocking`. -/

namespace ContainerBridge

namespace Blocking

namespace Pooled

variable {n : Nat} {V : Type}

/-! ### Semaphores -/

mutual

/-- The semaphore is signalled once the task is done, a detached task has its body, and one that has
finished has set the outcome. -/
def Task.Fits : Task n V → Shared V → Prop
  | .detached, shared => shared.semaphore = 0 ∧ ∃ body, shared.pending = some body
  | .ready _, shared | .running _ _, shared | .suspended _, shared => shared.semaphore = 0
  | .awaiting closure _, shared | .configuring _ closure _, shared =>
    closure.Fits ∧ shared.semaphore = 0
  | .finished _, shared => shared.semaphore = 0 ∧ ∃ result, shared.outcome = some result
  | .done, shared => shared.semaphore = 1 ∧ ∃ result, shared.outcome = some result

def Running.Fits : Running n V → Prop
  | .parked shared task _ => task.Fits shared
  | .queued _ | .running _ => True

end

theorem Task.Fits.done {task : Task n V} {shared : Shared V} (h : task.Fits shared)
    (hsignalled : 0 < shared.semaphore) : task = .done := by
  have hne : shared.semaphore ≠ 0 := Nat.pos_iff_ne_zero.mp hsignalled
  cases task with
  | detached | finished thread => exact absurd h.1 hne
  | ready code | running thread code | suspended next => exact absurd h hne
  | awaiting closure next | configuring thread closure next => exact absurd h.2 hne
  | done => rfl

mutual

theorem Call.Step.fits {free : Fin n → Prop} {call call' : Call n V} :
    Call.Step free call call' → call.task.Fits call.shared → call'.task.Fits call'.shared
  | .start _ _, hfits => hfits.1
  | .startTaken _ hpending, hfits => by
    obtain ⟨body, hbody⟩ := hfits.2
    rw [hpending] at hbody
    cases hbody
  | .resume _, hfits | .computes _, hfits | .suspends, hfits | .wakes _, hfits => hfits
  | .offPool, hfits | .configures, hfits => ⟨trivial, hfits⟩
  | .resumed, hfits | .configured, hfits => hfits.2
  | .awaited h, hfits | .configuring h, hfits => ⟨Running.Step.fits h hfits.1, hfits.2⟩
  | .finishes, hfits => ⟨hfits, _, rfl⟩
  | .signals, hfits => ⟨congrArg (· + 1) hfits.1, hfits.2⟩

theorem Running.Step.fits {free : Fin n → Prop} {closure closure' : Running n V} :
    Running.Step free closure closure' → closure.Fits → closure'.Fits
  | .dispatched, _ | .computes _, _ | .returns _, _ => trivial
  | .calls, _ => ⟨rfl, _, rfl⟩
  | .inner h, hfits => Call.Step.fits h hfits

end

namespace World

variable {world later : World n V} {i : Nat} {call : Call n V} {allowed : Body V → Prop}

def Inv (world : World n V) : Prop :=
  ∀ i call, world.calls i = some call → call.task.Fits call.shared

@[simp]
theorem withCall_self (world : World n V) (i : Nat) (call : Option (Call n V)) :
    (world.withCall i call).calls i = call :=
  Function.update_self ..

@[simp]
theorem withCall_of_ne (world : World n V) {i j : Nat} (hne : j ≠ i) (call : Option (Call n V)) :
    (world.withCall i call).calls j = world.calls j :=
  Function.update_of_ne hne ..

@[simp]
theorem withCall_withCall (world : World n V) (i : Nat) (call call' : Option (Call n V)) :
    (world.withCall i call).withCall i call' = world.withCall i call' :=
  congrArg World.mk (Function.update_idem ..)

/-- What holds of each call holds after one of them is changed. -/
theorem forall_withCall {P : Call n V → Prop} {changed : Option (Call n V)}
    (h : ∀ j other, world.calls j = some other → P other) (hchanged : ∀ call ∈ changed, P call)
    (j : Nat) (other : Call n V) (hother : (world.withCall i changed).calls j = some other) :
    P other := by
  by_cases hsame : j = i
  · subst hsame
    rw [withCall_self] at hother
    exact hchanged other hother
  · rw [withCall_of_ne _ hsame] at hother
    exact h j other hother

theorem Inv.moves (hinv : world.Inv) (h : Moves world later) : later.Inv := by
  cases h with
  | inner hcall hstep =>
    refine forall_withCall hinv ?_
    rintro _ ⟨⟩
    exact hstep.fits (hinv _ _ hcall)
  | returns hcall hsignalled => exact forall_withCall hinv (by rintro _ ⟨⟩)

theorem Inv.step (hinv : world.Inv) (h : Step allowed world later) : later.Inv := by
  cases h with
  | call hidle hallowed =>
    refine forall_withCall hinv ?_
    rintro _ ⟨⟩
    exact ⟨rfl, _, rfl⟩
  | moves h => exact hinv.moves h

theorem Reachable.inv (h : world.Reachable allowed) : world.Inv :=
  Run.preserves (by rintro _ _ ⟨⟩) (fun _ _ _ hstep hinv => hinv.step hstep) h

end World

/-! ### What waits -/

mutual

/-- No thread of the pool runs anything of the task. -/
def Task.Quiet : Task n V → Prop
  | .running _ _ | .finished _ => False
  | .awaiting closure _ => closure.Quiet
  | .configuring _ closure _ => closure.Waits
  | .detached | .ready _ | .suspended _ | .done => True

/-- Of a closure on a thread of Dispatch's. -/
def Running.Quiet : Running n V → Prop
  | .parked _ task _ => task.Quiet
  | .queued _ | .running _ => True

/-- A closure on a thread of the pool waits for a semaphore that is not signalled. -/
def Running.Waits : Running n V → Prop
  | .parked shared task _ => shared.semaphore = 0 ∧ task.Quiet
  | .queued _ | .running _ => False

end

/-- Every thread of the pool waits in a call that a configuration closure made. -/
structure World.Starved (world : World n V) : Prop where
  taken : ∀ thread, ¬world.Free thread
  quiet : ∀ i call, world.calls i = some call → call.task.Quiet

/-- What a step keeps of a call whose task is quiet, while no thread of the pool is free. -/
structure Call.Kept (call call' : Call n V) : Prop where
  quiet : call'.task.Quiet
  semaphore : call'.shared.semaphore = call.shared.semaphore
  on : ∀ thread, call.task.On thread → call'.task.On thread

mutual

theorem Call.Step.kept {free : Fin n → Prop} (hfree : ∀ thread, ¬free thread)
    {call call' : Call n V} :
    Call.Step free call call' → call.task.Fits call.shared → call.task.Quiet → call.Kept call'
  | .start h _, _, _ | .startTaken h _, _, _ | .resume h, _, _ => absurd h (hfree _)
  | .computes _, _, hquiet | .suspends, _, hquiet | .offPool, _, hquiet | .configures, _, hquiet
  | .configured, _, hquiet | .finishes, _, hquiet | .signals, _, hquiet => hquiet.elim
  | .wakes _, _, _ | .resumed, _, _ => ⟨trivial, rfl, fun _ h => h⟩
  | .awaited h, hfits, hquiet =>
    have hclosure := Running.Step.kept hfree h hfits.1 hquiet
    ⟨hclosure.1, rfl, hclosure.2⟩
  | .configuring h, hfits, hquiet =>
    have hclosure := Running.Step.waits hfree h hfits.1 hquiet
    ⟨hclosure.1, rfl, fun thread hon => hon.imp id (hclosure.2 thread)⟩

theorem Running.Step.kept {free : Fin n → Prop} (hfree : ∀ thread, ¬free thread)
    {closure closure' : Running n V} :
    Running.Step free closure closure' → closure.Fits → closure.Quiet →
      closure'.Quiet ∧ ∀ thread, closure.On thread → closure'.On thread
  | .dispatched, _, _ | .computes _, _, _ | .calls, _, _ => ⟨trivial, fun _ h => h⟩
  | .inner h, hfits, hquiet =>
    have hcall := Call.Step.kept hfree h hfits hquiet
    ⟨hcall.quiet, hcall.on⟩
  | .returns hsignalled, hfits, _ => by
    refine ⟨trivial, fun thread hon => ?_⟩
    -- A call that returns is done, so no thread is its task's.
    rw [Task.Fits.done hfits hsignalled] at hon
    exact hon

theorem Running.Step.waits {free : Fin n → Prop} (hfree : ∀ thread, ¬free thread)
    {closure closure' : Running n V} :
    Running.Step free closure closure' → closure.Fits → closure.Waits →
      closure'.Waits ∧ ∀ thread, closure.On thread → closure'.On thread
  | .dispatched, _, hwaits | .computes _, _, hwaits | .calls, _, hwaits => hwaits.elim
  | .inner h, hfits, hwaits =>
    have hcall := Call.Step.kept hfree h hfits hwaits.2
    ⟨⟨hcall.semaphore.trans hwaits.1, hcall.quiet⟩, hcall.on⟩
  | .returns hsignalled, _, hwaits => absurd hwaits.1 (Nat.pos_iff_ne_zero.mp hsignalled)

end

namespace World

variable {world later : World n V} {allowed : Body V → Prop}

/-- The calls that have not been signalled go on waiting. -/
def Waiting (world later : World n V) : Prop :=
  ∀ i call, world.calls i = some call → call.shared.semaphore = 0 →
    ∃ call', later.calls i = some call' ∧ call'.shared.semaphore = 0

theorem not_free_iff {thread : Fin n} :
    ¬world.Free thread ↔ ∃ i call, world.calls i = some call ∧ call.task.On thread := by
  unfold Free
  constructor
  · intro h
    by_contra hnone
    exact h fun i call hcall hon => hnone ⟨i, call, hcall, hon⟩
  · rintro ⟨i, call, hcall, hon⟩ hfree
    exact hfree i call hcall hon

theorem Starved.call (h : world.Starved) {i : Nat} (hidle : world.calls i = none)
    (body : Body V) :
    (world.withCall i (some (.init body))).Starved ∧
      world.Waiting (world.withCall i (some (.init body))) := by
  have hother : ∀ j call, world.calls j = some call →
      (world.withCall i (some (.init body))).calls j = some call := by
    intro j call hcall
    have hne : j ≠ i := by
      rintro rfl
      rw [hidle] at hcall
      cases hcall
    rw [withCall_of_ne _ hne, hcall]
  constructor
  · constructor
    · intro thread
      obtain ⟨j, call, hcall, hon⟩ := not_free_iff.mp (h.taken thread)
      exact not_free_iff.mpr ⟨j, call, hother j call hcall, hon⟩
    · exact forall_withCall h.quiet (by rintro _ ⟨⟩; trivial)
  · intro j call hcall hwaits
    exact ⟨call, hother j call hcall, hwaits⟩

theorem Starved.moves (h : world.Starved) (hinv : world.Inv) (hstep : Moves world later) :
    later.Starved ∧ world.Waiting later := by
  cases hstep with
  | @inner i call call' hcall hstep =>
    have hkept := hstep.kept h.taken (hinv i call hcall) (h.quiet i call hcall)
    constructor
    · constructor
      · intro thread
        obtain ⟨j, other, hother, hon⟩ := not_free_iff.mp (h.taken thread)
        by_cases hsame : j = i
        · subst hsame
          rw [hcall] at hother
          cases hother
          exact not_free_iff.mpr ⟨j, call', withCall_self .., hkept.on thread hon⟩
        · exact not_free_iff.mpr ⟨j, other, by rw [withCall_of_ne _ hsame, hother], hon⟩
      · exact forall_withCall h.quiet (by rintro _ ⟨⟩; exact hkept.quiet)
    · intro j other hother hwaits
      by_cases hsame : j = i
      · subst hsame
        rw [hcall] at hother
        cases hother
        exact ⟨call', withCall_self .., hkept.semaphore.trans hwaits⟩
      · exact ⟨other, by rw [withCall_of_ne _ hsame, hother], hwaits⟩
  | @returns i call hcall hsignalled =>
    have hdone := (hinv i call hcall).done hsignalled
    have hother : ∀ j other, world.calls j = some other → other ≠ call →
        (world.withCall i none).calls j = some other := by
      intro j other hother hne
      have hindex : j ≠ i := by
        rintro rfl
        rw [hcall] at hother
        cases hother
        exact hne rfl
      rw [withCall_of_ne _ hindex, hother]
    constructor
    · constructor
      · intro thread
        obtain ⟨j, other, hcalls, hon⟩ := not_free_iff.mp (h.taken thread)
        refine not_free_iff.mpr ⟨j, other, hother j other hcalls ?_, hon⟩
        rintro rfl
        rw [hdone] at hon
        exact hon
      · exact forall_withCall h.quiet (by rintro _ ⟨⟩)
    · intro j other hcalls hwaits
      refine ⟨other, hother j other hcalls ?_, hwaits⟩
      rintro rfl
      rw [hwaits] at hsignalled
      cases hsignalled

theorem Starved.step (h : world.Starved) (hinv : world.Inv) (hstep : Step allowed world later) :
    later.Starved ∧ world.Waiting later := by
  cases hstep with
  | call hidle hallowed => exact h.call hidle _
  | moves hmoves => exact h.moves hinv hmoves

/-- A starved world stays so. -/
theorem Starved.run (h : world.Starved) (hinv : world.Inv)
    (hrun : Relation.ReflTransGen (Step allowed) world later) :
    later.Starved ∧ world.Waiting later := by
  have hall : later.Inv ∧ later.Starved ∧ world.Waiting later := by
    refine Run.preserves ?_ ?_ hrun
    · exact ⟨hinv, h, fun i call hcall hwaits => ⟨call, hcall, hwaits⟩⟩
    · rintro before after - hstep ⟨hbefore, hstarved, hwaiting⟩
      obtain ⟨hafter, hnext⟩ := hstarved.step hbefore hstep
      refine ⟨hbefore.step hstep, hafter, fun i call hcall hwaits => ?_⟩
      obtain ⟨call', hcall', hwaits'⟩ := hwaiting i call hcall hwaits
      exact hnext i call' hcall' hwaits'
  exact hall.2

end World

/-! ### Something goes on -/

section

variable {free : Fin n → Prop}

theorem step_running [Inhabited V] (shared : Shared V) (thread : Fin n) (code : Body V) :
    ∃ later, Call.Step free ⟨shared, .running thread code⟩ later := by
  cases code with
  | returns result => exact ⟨_, .finishes⟩
  | computes next => exact ⟨_, .computes default⟩
  | suspends next => exact ⟨_, .suspends⟩
  | offPool closure next => exact ⟨_, .offPool⟩
  | configures closure next => exact ⟨_, .configures⟩

/-- A closure that runs goes on, or returns. -/
theorem step_closure [Inhabited V] (code : Closure V) :
    (∃ value, code = .returns value) ∨ ∃ later, Running.Step free (.running code) later := by
  cases code with
  | returns value => exact .inl ⟨value, rfl⟩
  | computes next => exact .inr ⟨_, .computes default⟩
  | blocking body next => exact .inr ⟨_, .calls⟩

mutual

/-- A task that a thread of the pool runs goes on. -/
theorem Task.moves_of_not_quiet [Inhabited V] :
    ∀ {task : Task n V} {shared : Shared V}, ¬task.Quiet →
      ∃ later, Call.Step free ⟨shared, task⟩ later
  | .running thread code, shared, _ => step_running shared thread code
  | .finished _, _, _ => ⟨_, .signals⟩
  | .awaiting _ _, _, hquiet =>
    have ⟨_, hstep⟩ := Running.moves_of_not_quiet hquiet
    ⟨_, .awaited hstep⟩
  | .configuring _ (.queued _) _, _, _ => ⟨_, .configuring .dispatched⟩
  | .configuring _ (.running code) _, _, _ => by
    rcases step_closure code with ⟨value, rfl⟩ | ⟨later, hstep⟩
    · exact ⟨_, .configured⟩
    · exact ⟨_, .configuring hstep⟩
  | .configuring _ (.parked shared task _) _, _, hwaits => by
    by_cases hsignalled : 0 < shared.semaphore
    · exact ⟨_, .configuring (.returns hsignalled)⟩
    · have hzero : shared.semaphore = 0 := Nat.eq_zero_of_not_pos hsignalled
      have hquiet : ¬task.Quiet := fun hquiet => hwaits ⟨hzero, hquiet⟩
      obtain ⟨⟨_, _⟩, hstep⟩ := Task.moves_of_not_quiet hquiet
      exact ⟨_, .configuring (.inner hstep)⟩
  | .detached, _, hquiet | .ready _, _, hquiet | .suspended _, _, hquiet | .done, _, hquiet =>
    absurd trivial hquiet

theorem Running.moves_of_not_quiet [Inhabited V] :
    ∀ {closure : Running n V}, ¬closure.Quiet → ∃ later, Running.Step free closure later
  | .parked _ _ _, hquiet =>
    have ⟨⟨_, _⟩, hstep⟩ := Task.moves_of_not_quiet hquiet
    ⟨_, .inner hstep⟩
  | .queued _, hquiet | .running _, hquiet => absurd trivial hquiet

end

mutual

/-- With a thread of the pool free, a call goes on unless its task is done. -/
theorem Task.Fits.moves [Inhabited V] {thread : Fin n} (hfree : free thread) :
    ∀ {task : Task n V} {shared : Shared V}, task.Fits shared →
      task = .done ∨ ∃ later, Call.Step free ⟨shared, task⟩ later
  | .detached, _, ⟨_, _, hpending⟩ => .inr ⟨_, .start hfree hpending⟩
  | .ready _, _, _ => .inr ⟨_, .resume hfree⟩
  | .running thread code, shared, _ => .inr (step_running shared thread code)
  | .suspended _, _, _ => .inr ⟨_, .wakes default⟩
  | .awaiting _ _, _, hfits => by
    rcases Running.Fits.moves hfree hfits.1 with ⟨value, rfl⟩ | ⟨later, hstep⟩
    · exact .inr ⟨_, .resumed⟩
    · exact .inr ⟨_, .awaited hstep⟩
  | .configuring _ _ _, _, hfits => by
    rcases Running.Fits.moves hfree hfits.1 with ⟨value, rfl⟩ | ⟨later, hstep⟩
    · exact .inr ⟨_, .configured⟩
    · exact .inr ⟨_, .configuring hstep⟩
  | .finished _, _, _ => .inr ⟨_, .signals⟩
  | .done, _, _ => .inl rfl

theorem Running.Fits.moves [Inhabited V] {thread : Fin n} (hfree : free thread) :
    ∀ {closure : Running n V}, closure.Fits →
      (∃ value, closure = .running (.returns value)) ∨ ∃ later, Running.Step free closure later
  | .queued _, _ => .inr ⟨_, .dispatched⟩
  | .running code, _ => by
    rcases step_closure code with ⟨value, rfl⟩ | hstep
    · exact .inl ⟨value, rfl⟩
    · exact .inr hstep
  | .parked shared _ _, hfits => by
    rcases Task.Fits.moves hfree hfits with rfl | ⟨⟨_, _⟩, hstep⟩
    · refine .inr ⟨_, .returns ?_⟩
      rw [show shared.semaphore = 1 from hfits.1]
      exact Nat.one_pos
    · exact .inr ⟨_, .inner hstep⟩

end

end

theorem World.Inv.goes_on [Inhabited V] {world : World n V} (hinv : world.Inv)
    (hstarved : ¬world.Starved) {i : Nat} {call : Call n V} (hcall : world.calls i = some call) :
    ∃ later, Moves world later := by
  by_cases hfree : ∃ thread, world.Free thread
  · obtain ⟨thread, hfree⟩ := hfree
    have hfits := hinv i call hcall
    rcases hfits.moves hfree with hdone | ⟨call', hstep⟩
    · rw [hdone] at hfits
      refine ⟨_, .returns hcall ?_⟩
      rw [show call.shared.semaphore = 1 from hfits.1]
      exact Nat.one_pos
    · exact ⟨_, .inner hcall hstep⟩
  · have hrunning : ∃ j other, world.calls j = some other ∧ ¬other.task.Quiet := by
      by_contra hnone
      refine hstarved ⟨fun thread h => hfree ⟨thread, h⟩, fun j other hother => ?_⟩
      by_contra hquiet
      exact hnone ⟨j, other, hother, hquiet⟩
    obtain ⟨j, other, hother, hquiet⟩ := hrunning
    have hmoves : ∃ later, Call.Step world.Free other later := Task.moves_of_not_quiet hquiet
    obtain ⟨call', hstep⟩ := hmoves
    exact ⟨_, .inner hother hstep⟩

end Pooled

end Blocking

end ContainerBridge
