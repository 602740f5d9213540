import ContainerBridge.Blocking.Pool
import ContainerBridge.Library.Run

/-! What holds of `blocking` in every run: a call that returns has run its body once and returns
what that returned, no thread of the pool waits in a call, and while a call has not returned
something can go on. -/

namespace ContainerBridge

namespace Blocking

variable {n : Nat} {V : Type}

/-! ### What a call is doing -/

/-- The body was taken, and runs or waits. -/
structure Locals.Taken (locals : Locals V) : Prop where
  pending : locals.pending = none
  outcome : locals.outcome = none
  semaphore : locals.semaphore = 0
  runs : locals.runs = 1

/-- The body has run once, and left what it returned in `outcome`. -/
structure Locals.Ran (locals : Locals V) : Prop where
  pending : locals.pending = none
  runs : locals.runs = 1
  outcome : ∃ result, locals.outcome = some result

mutual

/-- What a task has left to run, and is still to be given. -/
def Task.left : Task n V → Locals V → List V → Option (Except SwiftError V × List V)
  | .detached, locals, given => locals.body.run given
  | .ready code, _, given | .running _ code, _, given => code.run given
  | .suspended next, _, given => (Async.suspends next).run given
  | .awaiting closure next, _, given =>
    (closure.left given).bind fun (value, given) => (next value).run given
  | .finished _, locals, given | .done, locals, given => locals.outcome.map (·, given)

/-- Of a closure and the call that it is in. -/
def Awaited.left : Awaited n V → List V → Option (V × List V)
  | .queued code, given | .running _ code, given => code.run given
  | .parked _ locals task next, given =>
    (task.left locals given).bind fun (result, given) => (next result).run given

end

/-- What the call was given leads from the body it was given to what its task has left. -/
def Call.Follows (call : Call n V) : Prop :=
  ∀ given, call.locals.body.run (call.locals.given ++ given) = call.task.left call.locals given

mutual

/-- What holds of a call's locals while its task is where it is. -/
def Task.Fits : Task n V → Locals V → Prop
  | .detached, locals => locals = .init locals.body
  | .ready _, locals | .running _ _, locals | .suspended _, locals => locals.Taken
  | .awaiting closure _, locals => closure.Fits ∧ locals.Taken
  | .finished _, locals => locals.Ran ∧ locals.semaphore = 0
  | .done, locals => locals.Ran ∧ locals.semaphore = 1

/-- Dispatch's threads run the closure, and the call it is in fits. -/
def Awaited.Fits : Awaited n V → Prop
  | .queued _ => True
  | .running thread _ => thread = .dispatch
  | .parked thread locals task _ =>
    thread = .dispatch ∧ task.Fits locals ∧ Call.Follows ⟨locals, task⟩

end

/-- What holds of a call. -/
structure Call.Fits (call : Call n V) : Prop where
  task : call.task.Fits call.locals
  follows : call.Follows

/-- The call has run its body once, to its end, and released it, and `result` is what the body
returns when it is given what the steps of this run gave it. -/
structure Call.Finished (call : Call n V) (result : Except SwiftError V) : Prop where
  task : call.task = .done
  pending : call.locals.pending = none
  runs : call.locals.runs = 1
  outcome : call.locals.outcome = some result
  returns : call.locals.body.run call.locals.given = some (result, [])

/-- A call that a step returns from has finished. -/
def Move.Finished : Move n V → Prop
  | .returns call result => call.Finished result
  | _ => True

/-- The semaphore is signalled only once the body has run. -/
theorem Call.Fits.finished {call : Call n V} (hfits : call.Fits)
    (hsignalled : 0 < call.locals.semaphore) : call.Finished call.locals.get := by
  obtain ⟨locals, task⟩ := call
  have hunsignalled : locals.semaphore ≠ 0 := Nat.pos_iff_ne_zero.mp hsignalled
  obtain ⟨htask, hfollows⟩ := hfits
  cases task with
  | detached => exact absurd (congrArg Locals.semaphore htask) hunsignalled
  | ready code | running thread code | suspended next => exact absurd htask.semaphore hunsignalled
  | awaiting closure next => exact absurd htask.2.semaphore hunsignalled
  | finished thread => exact absurd htask.2 hunsignalled
  | done =>
    obtain ⟨result, houtcome⟩ := htask.1.outcome
    have hget : locals.get = result := by rw [Locals.get, houtcome]
    refine hget ▸ ⟨rfl, htask.1.pending, htask.1.runs, houtcome, ?_⟩
    have hleft : locals.body.run (locals.given ++ []) = locals.outcome.map (·, []) := hfollows []
    rwa [List.append_nil, houtcome] at hleft

/-- A call that has finished has nothing left but its result. -/
theorem Call.Finished.left {call : Call n V} {result : Except SwiftError V}
    (h : call.Finished result) (given : List V) :
    call.task.left call.locals given = some (result, given) := by
  rw [h.task]
  exact congrArg (Option.map _) h.outcome

/-! ### One step -/

/-- A step notes what it gives, and the body of a call is what it was. -/
theorem Call.Step.notes {free : Fin n → Prop} {call call' : Call n V} {move : Move n V}
    (h : Call.Step free call move call') :
    call'.locals.body = call.locals.body ∧
      call'.locals.given = call.locals.given ++ move.given := by
  cases h <;> simp [Locals.noting, Move.given]

theorem Locals.Taken.noting {locals : Locals V} (h : locals.Taken) (move : Move n V) :
    (locals.noting move).Taken :=
  ⟨h.pending, h.outcome, h.semaphore, h.runs⟩

/-- A task that starts has the body of its call. -/
theorem fits_start {locals : Locals V} {body : Async V} (hfits : locals = .init locals.body)
    (hpending : locals.pending = some body) :
    { locals with pending := none, runs := locals.runs + 1 }.Taken ∧ locals.body = body := by
  rw [hfits] at hpending ⊢
  cases hpending
  exact ⟨⟨rfl, rfl, rfl, rfl⟩, rfl⟩

/-- What is left once a step has given what it gives is what is left after the step. -/
theorem Call.Follows.step {free : Fin n → Prop} {call call' : Call n V} {move : Move n V}
    (hfollows : call.Follows) (h : Call.Step free call move call')
    (hleft : ∀ given, call.task.left call.locals (move.given ++ given) =
      call'.task.left call'.locals given) : call'.Follows := by
  intro given
  obtain ⟨hbody, hgiven⟩ := h.notes
  rw [hbody, hgiven, List.append_assoc, hfollows, hleft]

mutual

theorem Call.Step.keeps {free : Fin n → Prop} {call call' : Call n V} {move : Move n V} :
    Call.Step free call move call' → call.task.Fits call.locals →
      call'.task.Fits call'.locals ∧ ∀ given, call.task.left call.locals (move.given ++ given) =
        call'.task.left call'.locals given
  | .start _ hpending, hfits =>
    have hstart := fits_start hfits hpending
    ⟨hstart.1, fun given => congrArg (Async.run · given) hstart.2⟩
  | .startTaken _ hpending, hfits => by
    rw [show Locals.pending _ = some _ from congrArg Locals.pending hfits] at hpending
    cases hpending
  | .resume _, hfits | .suspends, hfits => ⟨hfits, fun _ => rfl⟩
  | .computes value, hfits | .wakes value, hfits => ⟨hfits.noting _, fun _ => rfl⟩
  | .offPool, hfits => ⟨⟨trivial, hfits⟩, fun _ => rfl⟩
  | .resumed, hfits => ⟨hfits.2, fun _ => rfl⟩
  | .awaited h, hfits => by
    obtain ⟨hclosure, hleft⟩ := Awaited.Step.keeps h hfits.1
    refine ⟨⟨hclosure, hfits.2.noting _⟩, fun given => ?_⟩
    rw [Task.left, Task.left, hleft]
  | .finishes, hfits => ⟨⟨⟨hfits.pending, hfits.runs, _, rfl⟩, hfits.semaphore⟩, fun _ => rfl⟩
  | .signals, hfits =>
    ⟨⟨⟨hfits.1.pending, hfits.1.runs, hfits.1.outcome⟩, congrArg (· + 1) hfits.2⟩, fun _ => rfl⟩

theorem Awaited.Step.keeps {free : Fin n → Prop} {closure closure' : Awaited n V}
    {move : Move n V} :
    Awaited.Step free closure move closure' → closure.Fits →
      closure'.Fits ∧ ∀ given, closure.left (move.given ++ given) = closure'.left given
  | .dispatched, _ => ⟨rfl, fun _ => rfl⟩
  | .computes _, hfits => ⟨hfits, fun _ => rfl⟩
  | .calls, hfits => ⟨⟨hfits, rfl, fun _ => rfl⟩, fun _ => rfl⟩
  | .inner h, hfits => by
    obtain ⟨htask, hleft⟩ := Call.Step.keeps h hfits.2.1
    refine ⟨⟨hfits.1, htask, hfits.2.2.step h hleft⟩, fun given => ?_⟩
    rw [Awaited.left, Awaited.left, hleft]
  | .returns hsignalled, hfits => by
    have hfinished := Call.Fits.finished ⟨hfits.2.1, hfits.2.2⟩ hsignalled
    exact ⟨hfits.1, fun given => congrArg (Option.bind · _) (hfinished.left given)⟩

end

theorem Call.Step.fits {free : Fin n → Prop} {call call' : Call n V} {move : Move n V}
    (h : Call.Step free call move call') (hfits : call.Fits) : call'.Fits := by
  obtain ⟨htask, hleft⟩ := h.keeps hfits.task
  exact ⟨htask, hfits.follows.step h hleft⟩

theorem Call.Fits.init (body : Async V) : (Call.init body : Call n V).Fits :=
  ⟨rfl, fun _ => rfl⟩

mutual

/-- A call that returns inside another has finished. -/
theorem Call.Step.finished {free : Fin n → Prop} {call call' : Call n V} {move : Move n V} :
    Call.Step free call move call' → call.task.Fits call.locals → move.Finished
  | .awaited h, hfits => Awaited.Step.finished h hfits.1
  | .start _ _, _ | .startTaken _ _, _ | .resume _, _ | .computes _, _ | .suspends, _ | .wakes _, _
  | .offPool, _ | .resumed, _ | .finishes, _ | .signals, _ => trivial

theorem Awaited.Step.finished {free : Fin n → Prop} {closure closure' : Awaited n V}
    {move : Move n V} :
    Awaited.Step free closure move closure' → closure.Fits → move.Finished
  | .inner h, hfits => Call.Step.finished h hfits.2.1
  | .returns hsignalled, hfits => Call.Fits.finished ⟨hfits.2.1, hfits.2.2⟩ hsignalled
  | .dispatched, _ | .computes _, _ | .calls, _ => trivial

end

mutual

/-- No thread of the pool waits in a call. -/
theorem Task.Fits.not_parks {thread : Fin n} :
    ∀ {task : Task n V} {locals : Locals V}, task.Fits locals → ¬task.Parks (.pool thread)
  | .awaiting _ _, _, hfits => Awaited.Fits.not_parks hfits.1
  | .detached, _, _ | .ready _, _, _ | .running _ _, _, _ | .suspended _, _, _ | .finished _, _, _
  | .done, _, _ => id

theorem Awaited.Fits.not_parks {thread : Fin n} :
    ∀ {closure : Awaited n V}, closure.Fits → ¬closure.Parks (.pool thread)
  | .parked _ _ _ _, hfits => by
    rintro (hsame | hinner)
    · cases hfits.1.symm.trans hsame
    · exact Task.Fits.not_parks hfits.2.1 hinner
  | .queued _, _ | .running _ _, _ => id

end

/-! ### Something can go on -/

mutual

/-- A step needs no more of the pool's threads to be free than those it takes. -/
theorem Call.Step.mono {free free' : Fin n → Prop} (hmono : ∀ thread, free thread → free' thread)
    {call call' : Call n V} {move : Move n V} :
    Call.Step free call move call' → Call.Step free' call move call'
  | .start hfree hpending => .start (hmono _ hfree) hpending
  | .startTaken hfree hpending => .startTaken (hmono _ hfree) hpending
  | .resume hfree => .resume (hmono _ hfree)
  | .computes value => .computes value
  | .suspends => .suspends
  | .wakes value => .wakes value
  | .offPool => .offPool
  | .resumed => .resumed
  | .awaited h => .awaited (Awaited.Step.mono hmono h)
  | .finishes => .finishes
  | .signals => .signals

theorem Awaited.Step.mono {free free' : Fin n → Prop}
    (hmono : ∀ thread, free thread → free' thread) {closure closure' : Awaited n V}
    {move : Move n V} :
    Awaited.Step free closure move closure' → Awaited.Step free' closure move closure'
  | .dispatched => .dispatched
  | .computes value => .computes value
  | .calls => .calls
  | .inner h => .inner (Call.Step.mono hmono h)
  | .returns hsignalled => .returns hsignalled

end

mutual

/-- A call that a closure begins takes no thread of the pool. -/
theorem Call.Step.on_of_calls {free : Fin n → Prop} {thread : Fin n} {call call' : Call n V}
    {move : Move n V} :
    Call.Step free call move call' → move = .calls → call'.task.On thread → call.task.On thread
  | .awaited h, hcalls, hon => Awaited.Step.on_of_calls h hcalls hon
  | .start _ _, hcalls, _ | .startTaken _ _, hcalls, _ | .resume _, hcalls, _
  | .computes _, hcalls, _ | .suspends, hcalls, _ | .wakes _, hcalls, _ | .offPool, hcalls, _
  | .resumed, hcalls, _ | .finishes, hcalls, _ | .signals, hcalls, _ => nomatch hcalls

theorem Awaited.Step.on_of_calls {free : Fin n → Prop} {thread : Fin n}
    {closure closure' : Awaited n V} {move : Move n V} :
    Awaited.Step free closure move closure' → move = .calls → closure'.On thread → closure.On thread
  | .inner h, hcalls, hon => Call.Step.on_of_calls h hcalls hon
  | .calls, _, hon => hon
  | .dispatched, hcalls, _ | .computes _, hcalls, _ | .returns _, hcalls, _ => nomatch hcalls

end

/-- A call can go on; and if that is by a call in a closure, on from there. -/
def Call.Moves (free : Fin n → Prop) (call : Call n V) : Prop :=
  ∃ move call', call.Step free move call' ∧ (move = .calls → ∃ later, call'.Step free .other later)

def Awaited.Moves (free : Fin n → Prop) (closure : Awaited n V) : Prop :=
  ∃ move closure', closure.Step free move closure' ∧
    (move = .calls → ∃ later, closure'.Step free .other later)

section

variable {free : Fin n → Prop}

theorem Awaited.Moves.awaited {closure : Awaited n V} (h : closure.Moves free) (locals : Locals V)
    (next : V → Async V) : Call.Moves free ⟨locals, .awaiting closure next⟩ := by
  obtain ⟨move, closure', hstep, hlater⟩ := h
  refine ⟨move, _, .awaited hstep, fun hcalls => ?_⟩
  obtain ⟨later, hstep'⟩ := hlater hcalls
  exact ⟨_, .awaited hstep'⟩

theorem Call.Moves.inner {locals : Locals V} {task : Task n V} (h : Call.Moves free ⟨locals, task⟩)
    (thread : Thread n) (next : Except SwiftError V → RustCode V) :
    Awaited.Moves free (.parked thread locals task next) := by
  obtain ⟨move, ⟨locals', task'⟩, hstep, hlater⟩ := h
  refine ⟨move, _, .inner hstep, fun hcalls => ?_⟩
  obtain ⟨⟨_, _⟩, hstep'⟩ := hlater hcalls
  exact ⟨_, .inner hstep'⟩

/-- A running task goes on, whatever its code. -/
theorem step_running [Inhabited V] (locals : Locals V) (thread : Fin n) (code : Async V) :
    ∃ move later, Call.Step free ⟨locals, .running thread code⟩ move later ∧ move ≠ .calls := by
  cases code with
  | returns result => exact ⟨_, _, .finishes, nofun⟩
  | computes next => exact ⟨_, _, .computes default, nofun⟩
  | suspends next => exact ⟨_, _, .suspends, nofun⟩
  | offPool closure next => exact ⟨_, _, .offPool, nofun⟩

mutual

/-- A call goes on that has a thread of the pool, with no other. -/
theorem Task.On.step [Inhabited V] {thread : Fin n} :
    ∀ {task : Task n V}, task.On thread → ∀ locals,
      ∃ move later, Call.Step free ⟨locals, task⟩ move later ∧ move ≠ .calls
  | .running _ code, _, locals => step_running locals _ code
  | .finished _, _, _ => ⟨_, _, .signals, nofun⟩
  | .awaiting _ _, hon, _ =>
    have ⟨_, _, hstep, hmove⟩ := Awaited.On.step hon
    ⟨_, _, .awaited hstep, hmove⟩

theorem Awaited.On.step [Inhabited V] {thread : Fin n} :
    ∀ {closure : Awaited n V}, closure.On thread →
      ∃ move later, closure.Step free move later ∧ move ≠ .calls
  | .parked _ locals _ _, hon =>
    have ⟨_, ⟨_, _⟩, hstep, hmove⟩ := Task.On.step hon locals
    ⟨_, _, .inner hstep, hmove⟩

end

mutual

/-- With a thread of the pool free, a call goes on unless its task is done. -/
theorem Task.Fits.moves [Inhabited V] {thread : Fin n} (hfree : free thread) :
    ∀ {task : Task n V} {locals : Locals V}, task.Fits locals →
      task = .done ∨ Call.Moves free ⟨locals, task⟩
  | .detached, _, hfits => .inr ⟨_, _, .start hfree (congrArg Locals.pending hfits), nofun⟩
  | .ready _, _, _ => .inr ⟨_, _, .resume hfree, nofun⟩
  | .running thread code, locals, _ =>
    have ⟨_, _, hstep, hmove⟩ := step_running locals thread code
    .inr ⟨_, _, hstep, fun hcalls => absurd hcalls hmove⟩
  | .suspended _, _, _ => .inr ⟨_, _, .wakes default, nofun⟩
  | .awaiting _ next, locals, hfits => by
    rcases Awaited.Fits.moves hfree hfits.1 with ⟨thread, value, rfl⟩ | hmoves
    · exact .inr ⟨_, _, .resumed, nofun⟩
    · exact .inr (hmoves.awaited locals next)
  | .finished _, _, _ => .inr ⟨_, _, .signals, nofun⟩
  | .done, _, _ => .inl rfl

/-- A closure goes on, or has returned. -/
theorem Awaited.Fits.moves [Inhabited V] {thread : Fin n} (hfree : free thread) :
    ∀ {closure : Awaited n V}, closure.Fits →
      (∃ thread value, closure = .running thread (.returns value)) ∨ closure.Moves free
  | .queued _, _ => .inr ⟨_, _, .dispatched, nofun⟩
  | .running thread (.returns value), _ => .inl ⟨thread, value, rfl⟩
  | .running _ (.computes _), _ => .inr ⟨_, _, .computes default, nofun⟩
  | .running _ (.blocking _ _), _ =>
    .inr ⟨_, _, .calls, fun _ => ⟨_, .inner (.start hfree rfl)⟩⟩
  | .parked thread locals task next, hfits => by
    rcases Task.Fits.moves hfree hfits.2.1 with rfl | hmoves
    · refine .inr ⟨_, _, .returns ?_, nofun⟩
      rw [hfits.2.1.2]
      exact Nat.one_pos
    · exact .inr (hmoves.inner thread next)

end

end

/-! ### Every run -/

namespace World

variable {world later : World n V} {i : Nat} {call : Call n V}

/-- What every reachable world keeps. -/
def Inv (world : World n V) : Prop :=
  ∀ i call, world.calls i = some call → call.Fits

@[simp]
theorem withCall_self (world : World n V) (i : Nat) (call : Option (Call n V)) :
    (world.withCall i call).calls i = call :=
  Function.update_self ..

@[simp]
theorem withCall_of_ne (world : World n V) {i j : Nat} (hne : j ≠ i) (call : Option (Call n V)) :
    (world.withCall i call).calls j = world.calls j :=
  Function.update_of_ne hne ..

@[simp]
theorem withCall_withCall (world : World n V) (i : Nat) (call call' : Option (Call n V)) :
    (world.withCall i call).withCall i call' = world.withCall i call' :=
  congrArg World.mk (Function.update_idem ..)

theorem Inv.withCall (hinv : world.Inv) {changed : Option (Call n V)}
    (hchanged : ∀ call ∈ changed, call.Fits) : (world.withCall i changed).Inv := by
  intro j call hcall
  by_cases hsame : j = i
  · subst hsame
    rw [withCall_self] at hcall
    exact hchanged call hcall
  · rw [withCall_of_ne _ hsame] at hcall
    exact hinv j call hcall

theorem Inv.step {label : Label n V} (hinv : world.Inv) (h : Step world label later) :
    later.Inv := by
  cases h with
  | call hidle body =>
    refine hinv.withCall ?_
    rintro _ ⟨⟩
    exact .init body
  | moves hcall hstep =>
    refine hinv.withCall ?_
    rintro _ ⟨⟩
    exact hstep.fits (hinv _ _ hcall)
  | returns hcall hsignalled => exact hinv.withCall (by rintro _ ⟨⟩)

theorem Reachable.inv (h : world.Reachable) : world.Inv := by
  refine Run.preserves (by rintro _ _ ⟨⟩) ?_ h
  rintro before after _ ⟨label, hstep⟩ hinv
  exact hinv.step hstep

theorem Free.withCall {thread : Fin n} (hfree : world.Free thread) (hon : ¬call.task.On thread) :
    (world.withCall i (some call)).Free thread := by
  intro j other hother
  by_cases hsame : j = i
  · subst hsame
    rw [withCall_self] at hother
    cases hother
    exact hon
  · rw [withCall_of_ne _ hsame] at hother
    exact hfree _ _ hother

/-- A call in a closure leaves the pool's threads as they are. -/
theorem Free.withCall_calls {thread : Fin n} (hfree : world.Free thread) {call' : Call n V}
    {free : Fin n → Prop} (hcall : world.calls i = some call)
    (hstep : call.Step free .calls call') : (world.withCall i (some call')).Free thread :=
  hfree.withCall fun hon => hfree _ _ hcall (hstep.on_of_calls rfl hon)

/-- What holds of a world in which the pool is served. -/
structure Serves (world : World n V) : Prop where
  parks : ∀ thread, ¬world.Parks (.pool thread)
  /-- While a call has not returned, a step other than a Rust thread's call is enabled. Where that
  is a call in a closure, the call made, a step that is no call is. -/
  moves : ∀ i call, world.calls i = some call → ∃ move later,
    Step world (.moves move) later ∧ (move = .calls → ∃ later', Step later (.moves .other) later')
  /-- A call that returns, a Rust thread's or a closure's, has finished. -/
  returns : ∀ call result later, Step world (.moves (.returns call result)) later →
    call.Finished result

theorem Inv.not_parks (hinv : world.Inv) (thread : Fin n) : ¬world.Parks (.pool thread) := by
  rintro ⟨i, call, hcall, hrust | hparks⟩
  · cases hrust
  · exact (hinv i call hcall).task.not_parks hparks

theorem Inv.returns (hinv : world.Inv) {result : Except SwiftError V}
    (h : Step world (.moves (.returns call result)) later) : call.Finished result := by
  cases h with
  | moves hcall hstep => exact hstep.finished (hinv _ _ hcall).task
  | returns hcall hsignalled => exact (hinv _ _ hcall).finished hsignalled

/-- A call whose task can go on goes on in its world. -/
theorem moves_of_call (hcall : world.calls i = some call) (h : call.Moves world.Free) :
    ∃ move later, Step world (.moves move) later ∧
      (move = .calls → ∃ later', Step later (.moves .other) later') := by
  obtain ⟨move, call', hstep, hlater⟩ := h
  refine ⟨move, _, .moves hcall hstep, ?_⟩
  rintro rfl
  obtain ⟨call'', hstep'⟩ := hlater rfl
  exact ⟨_, .moves (withCall_self ..)
    (hstep'.mono fun _ hfree => hfree.withCall_calls hcall hstep)⟩

/-- Either a thread of the pool is free, and every call can go on, or a task runs on it, and that
goes on. -/
theorem Inv.moves [Inhabited V] (hinv : world.Inv) (hcall : world.calls i = some call)
    (thread : Fin n) :
    ∃ move later, Step world (.moves move) later ∧
      (move = .calls → ∃ later', Step later (.moves .other) later') := by
  by_cases hfree : world.Free thread
  · have hfits := (hinv i call hcall).task
    rcases hfits.moves hfree with hdone | hmoves
    · rw [hdone] at hfits
      exact ⟨_, _, .returns hcall (hfits.2 ▸ Nat.one_pos), nofun⟩
    · exact moves_of_call hcall hmoves
  · simp only [Free, not_forall, not_not] at hfree
    obtain ⟨j, other, hother, hon⟩ := hfree
    obtain ⟨move, call', hstep, hmove⟩ := hon.step other.locals
    exact ⟨move, _, .moves hother hstep, fun hcalls => absurd hcalls hmove⟩

end World

/-- In every run of `blocking`, whatever its calls, their bodies and the closures those await: no
thread of the pool waits in a call, a call that returns has run its body once, to its end, released
it and returned what it returned, and while a call has not returned something goes on. -/
theorem blocking_serves [Inhabited V] (hn : 0 < n) {world : World n V} (h : world.Reachable) :
    world.Serves where
  parks := h.inv.not_parks
  moves := fun _ _ hcall => h.inv.moves hcall ⟨0, hn⟩
  returns := fun _ _ _ hstep => h.inv.returns hstep

/-- A body that awaits a closure, which makes a call and goes on from what that computes. -/
def Async.sample : Async Nat :=
  .offPool (.blocking (.computes fun value => .returns (.ok value)) fun result =>
    .returns (result.toOption.getD 0)) fun value => .returns (.ok value)

/-- A pool of one thread, which runs the task of the call that the closure is in; and that call once
it has finished. -/
theorem sample_blocking_serves :
    ∃ world later : World 1 Nat, world.Serves ∧ world.Parks .dispatch ∧ ¬world.Free 0 ∧
      later.Serves ∧ ∃ call : Call 1 Nat, call.Finished (.ok 5) ∧ call.locals.given = [5] := by
  let only (call : Call 1 Nat) : World 1 Nat := World.withCall {} 0 (some call)
  have hfree {call : Call 1 Nat} (hon : ¬call.task.On 0) : (only call).Free 0 :=
    World.Free.withCall (by rintro _ _ ⟨⟩) hon
  have hmoves {call call' : Call 1 Nat} {move : Move 1 Nat} (h : (only call).Reachable)
      (hstep : call.Step (only call).Free move call') : (only call').Reachable := by
    have hlater := h.tail ⟨_, .moves (World.withCall_self ..) hstep⟩
    rwa [World.withCall_withCall] at hlater
  have hcall : (only (.init .sample)).Reachable := .single ⟨_, .call rfl _⟩
  have hstart := hmoves hcall (.start (hfree id) rfl)
  have hawaits := hmoves hstart .offPool
  have hdispatched := hmoves hawaits (.awaited .dispatched)
  have hcalls := hmoves hdispatched (.awaited .calls)
  have hnested := hmoves hcalls (.awaited (.inner (.start (hfree id) rfl)))
  have hcomputes := hmoves hnested (.awaited (.inner (.computes 5)))
  have hfinishes := hmoves hcomputes (.awaited (.inner .finishes))
  have hsignals := hmoves hfinishes (.awaited (.inner .signals))
  have hserves := blocking_serves Nat.one_pos hsignals
  refine ⟨_, _, blocking_serves Nat.one_pos hnested, ?_, ?_, hserves, _,
    hserves.returns _ _ _ (.moves (World.withCall_self ..) (.awaited (.returns Nat.one_pos))), rfl⟩
  · exact ⟨0, _, World.withCall_self .., .inr (.inl rfl)⟩
  · exact fun hfree => hfree 0 _ (World.withCall_self ..) rfl

end Blocking

end ContainerBridge
