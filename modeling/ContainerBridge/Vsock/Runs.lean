import ContainerBridge.Library.Run
import ContainerBridge.Vsock.Listener

/-! What holds of a vsock listener in every run: the calls that held `advancing` have each taken the
next connection there was, or the end of them. -/

namespace ContainerBridge

namespace Vsock

variable [Runtime] {display : Rust.Error → String} {port : UInt32} {Iterator : Type} {i j : Nat}
  {shared shared' : CzVsockListener Iterator} {call call' : Call Iterator} {s t : World Iterator}

/-! ### Where a call is -/

/-- What the task has made of the locals of `blocking`. -/
def Task.Fits (locals : Locals) : Task Iterator → Prop
  | .detached => locals = {}
  | .advancing _ | .advanced _ _ | .returned _ => locals = { pending := false }
  | .finished => ∃ descriptor : Option Int32,
      locals = { pending := false, outcome := some (.ok descriptor) }
  | .done => ∃ descriptor : Option Int32,
      locals = { pending := false, outcome := some (.ok descriptor), semaphore := 1 }

/-- What holds while call `i` is where it is. -/
def Call.Fits (i : Nat) (shared : CzVsockListener Iterator) : Call Iterator → Prop
  | .locking | .finishing => i ∉ shared.holders
  | .blocking locals task =>
    shared.advancing = some i ∧ i ∈ shared.holders ∧ task.Fits locals
  | .unlocking outcome =>
    shared.advancing = some i ∧ i ∈ shared.holders ∧
      ∃ descriptor : Option Int32, outcome = .holding descriptor
  | .unlocked outcome =>
    i ∈ shared.holders ∧ ∃ descriptor : Option Int32, outcome = .holding descriptor
  | .returned result =>
    i ∈ shared.holders ∧ ∃ descriptor : Option Int32, result = .ok descriptor
  | .ended | .finished _ => i ∉ shared.holders ∧ shared.stream.finished

/-- What the call has taken from the stream: a connection's descriptor, or its end. -/
def Call.taken : Call Iterator → Option (Option Int32)
  | .blocking _ (.advanced _ connection) => some (connection.map FileHandle.fileDescriptor)
  | .blocking _ (.returned descriptor) => some descriptor
  | .blocking locals .finished | .blocking locals .done => locals.outcome.bind Except.toOption
  | .unlocking outcome | .unlocked outcome => some (outcome.held Int32)
  | .returned result => result.toOption
  | _ => none

/-- The call has let go of the lock. -/
def Call.LetGo : Call Iterator → Prop
  | .unlocked _ | .returned _ => True
  | _ => False

theorem held_holding (descriptor : Option Int32) :
    (CzOutcome.holding descriptor).held Int32 = descriptor := by
  cases descriptor with
  | none => rfl
  | some descriptor => exact Any.as?_box descriptor

omit [Runtime] in
/-- The semaphore is signalled only once the task has set the outcome. -/
theorem Task.Fits.done {locals : Locals} {task : Task Iterator} (hfits : task.Fits locals)
    (hsignalled : 0 < locals.semaphore) : ∃ descriptor, task = .done ∧
      locals = { pending := false, outcome := some (.ok descriptor), semaphore := 1 } := by
  cases task with
  | done =>
    obtain ⟨descriptor, rfl⟩ := hfits
    exact ⟨descriptor, rfl, rfl⟩
  | finished =>
    obtain ⟨descriptor, rfl⟩ := hfits
    cases hsignalled
  | detached | advancing | advanced | returned =>
    cases hfits
    cases hsignalled

/-- A call in `blocking` has the lock, and has it still while it has yet to unlock it. -/
theorem Acts.fits (h : Acts display port i shared call shared' call') (hfits : call.Fits i shared) :
    call'.Fits i shared' := by
  cases h with
  | locks => exact ⟨rfl, by simp, rfl⟩
  | starts =>
    obtain ⟨hlock, hmem, rfl⟩ := hfits
    exact ⟨hlock, hmem, rfl⟩
  | startsTaken hpending =>
    obtain ⟨-, -, rfl⟩ := hfits
    cases hpending
  | receives | receivesEnd | writesBack => exact hfits
  | succeeds =>
    obtain ⟨hlock, hmem, rfl⟩ := hfits
    exact ⟨hlock, hmem, _, rfl⟩
  | signals =>
    obtain ⟨hlock, hmem, descriptor, rfl⟩ := hfits
    exact ⟨hlock, hmem, descriptor, rfl⟩
  | wakes hsignalled =>
    obtain ⟨hlock, hmem, htask⟩ := hfits
    obtain ⟨descriptor, -, rfl⟩ := htask.done hsignalled
    exact ⟨hlock, hmem, descriptor, rfl⟩
  | unlocks =>
    obtain ⟨-, hmem, hheld⟩ := hfits
    exact ⟨hmem, hheld⟩
  | returns =>
    obtain ⟨hmem, descriptor, rfl⟩ := hfits
    exact ⟨hmem, descriptor, Rust.VsockListener.next_holding ..⟩
  | ends => exact ⟨hfits, rfl⟩
  | finishes => exact hfits

/-- What a step does to the lock: it takes it, lets go of it, or leaves it. -/
theorem Acts.lock (h : Acts display port i shared call shared' call') (hfits : call.Fits i shared) :
    (shared'.advancing = shared.advancing ∧ shared'.holders = shared.holders) ∨
    (call = .locking ∧ shared.advancing = none ∧ shared'.advancing = some i ∧
      shared'.holders = shared.holders ++ [i]) ∨
    (shared.advancing = some i ∧ shared'.advancing = none ∧ shared'.holders = shared.holders ∧
      call'.LetGo) := by
  cases h with
  | locks hfree => exact .inr (.inl ⟨rfl, hfree, rfl, rfl⟩)
  | unlocks => exact .inr (.inr ⟨hfits.1, rfl, rfl, trivial⟩)
  | _ => exact .inl ⟨rfl, rfl⟩

/-- What a step does to the stream: it takes a connection, takes the end, ends it, or leaves it. -/
theorem Acts.stream (h : Acts display port i shared call shared' call')
    (hfits : call.Fits i shared) :
    (shared'.stream = shared.stream ∧ call'.taken = call.taken) ∨
    (∃ connection rest, shared.stream.buffer = connection :: rest ∧
      shared' = { shared with stream := { shared.stream with buffer := rest } } ∧
      shared.advancing = some i ∧
      call.taken = none ∧ call'.taken = some (some connection.fileDescriptor)) ∨
    (shared.stream.buffer = [] ∧ shared.stream.finished ∧ shared' = shared ∧
      shared.advancing = some i ∧ call.taken = none ∧ call'.taken = some none) ∨
    (shared' = { shared with stream := { shared.stream with finished := true } } ∧
      call.taken = none ∧ call' = .ended) := by
  cases h with
  | receives hbuffer => exact .inr (.inl ⟨_, _, hbuffer, rfl, hfits.1, rfl, rfl⟩)
  | receivesEnd hbuffer hfinished =>
    exact .inr (.inr (.inl ⟨hbuffer, hfinished, rfl, hfits.1, rfl, rfl⟩))
  | ends => exact .inr (.inr (.inr ⟨rfl, rfl, rfl⟩))
  | startsTaken hpending =>
    obtain ⟨-, -, rfl⟩ := hfits
    cases hpending
  | wakes hsignalled =>
    obtain ⟨descriptor, rfl, rfl⟩ := hfits.2.2.done hsignalled
    exact .inl ⟨rfl, congrArg some (held_holding descriptor)⟩
  | returns =>
    obtain ⟨-, descriptor, rfl⟩ := hfits
    refine .inl ⟨rfl, ?_⟩
    rw [Call.taken, Call.taken, Rust.VsockListener.next_holding, held_holding]
    rfl
  | _ => exact .inl ⟨rfl, rfl⟩

/-- What a step leaves to a call that did not take it. -/
theorem Call.Fits.frame {other : Call Iterator} (hother : other.Fits j shared) (hne : j ≠ i)
    (h : Acts display port i shared call shared' call') (hfits : call.Fits i shared) :
    other.Fits j shared' := by
  have hlock : shared.advancing = some j → shared'.advancing = some j := by
    intro hheld
    rcases h.lock hfits with ⟨hsame, -⟩ | ⟨-, hfree, -⟩ | ⟨hmine, -⟩
    · rw [hsame, hheld]
    · rw [hfree] at hheld
      cases hheld
    · rw [hheld] at hmine
      exact absurd (Option.some.inj hmine) hne
  have hmem : j ∈ shared'.holders ↔ j ∈ shared.holders := by
    rcases h.lock hfits with ⟨-, hsame⟩ | ⟨-, -, -, hadded⟩ | ⟨-, -, hsame, -⟩
    · rw [hsame]
    · simp [hadded, hne]
    · rw [hsame]
  have hfinished : shared.stream.finished → shared'.stream.finished := by
    intro hended
    rcases h.stream hfits with ⟨hsame, -⟩ | ⟨_, _, -, rfl, -⟩ | ⟨-, -, rfl, -⟩ | ⟨rfl, -⟩
    · rwa [hsame]
    · exact hended
    · exact hended
    · rfl
  cases other with
  | locking | finishing => exact fun hin => hother (hmem.mp hin)
  | blocking locals task => exact ⟨hlock hother.1, hmem.mpr hother.2.1, hother.2.2⟩
  | unlocking outcome => exact ⟨hlock hother.1, hmem.mpr hother.2.1, hother.2.2⟩
  | unlocked | returned => exact ⟨hmem.mpr hother.1, hother.2⟩
  | ended | finished => exact ⟨fun hin => hother.1 (hmem.mp hin), hfinished hother.2⟩

omit [Runtime] in
@[simp] theorem AsyncStream.finished_yield (stream : AsyncStream) (connection : FileHandle) :
    (stream.yield connection).finished = stream.finished := by
  rw [yield]
  split <;> rfl

theorem Call.Fits.arrives (hfits : call.Fits i shared) (connection : FileHandle) :
    call.Fits i { shared with stream := shared.stream.yield connection } := by
  cases call with
  | ended | finished => exact ⟨hfits.1, by simpa using hfits.2⟩
  | _ => exact hfits

/-! ### Who holds the lock -/

namespace World

variable (world : World Iterator)

/-- Call `i` has held the lock and let go of it. -/
def LetGo (i : Nat) : Prop := ∃ call, world.calls i = some call ∧ call.LetGo

/-- Each call that held the lock has let go of it, but the one that holds it. -/
structure Locked : Prop where
  fresh : ∃ n, ∀ i, n ≤ i → world.calls i = none
  absent : ∀ i, world.calls i = none → i ∉ world.shared.holders
  fits : ∀ i call, world.calls i = some call → call.Fits i world.shared
  past : ∃ past, world.shared.holders = past ++ world.shared.advancing.toList ∧
    ∀ i ∈ past, world.LetGo i
  nodup : world.shared.holders.Nodup

end World

@[simp] theorem World.withCall_shared : (s.withCall i call shared).shared = shared := rfl

theorem World.withCall_self : (s.withCall i call shared).calls i = some call :=
  Function.update_self ..

theorem World.withCall_ne (h : j ≠ i) : (s.withCall i call shared).calls j = s.calls j :=
  Function.update_of_ne h _ _

@[simp] theorem World.withCall_withCall :
    (s.withCall i call shared).withCall i call' shared' = s.withCall i call' shared' := by
  simp [withCall]

/-- A call that has let go of the lock does not take it again. -/
theorem World.LetGo.withCall (hs : s.LetGo j) (hi : s.LetGo i → call.LetGo) :
    (s.withCall i call shared).LetGo j := by
  by_cases hji : j = i
  · subst hji
    exact ⟨call, withCall_self, hi hs⟩
  · obtain ⟨other, hother, hletGo⟩ := hs
    exact ⟨other, by rwa [withCall_ne hji], hletGo⟩

/-- A call that takes the lock, lets go of it or leaves it goes where it fits. -/
theorem World.Locked.withCall (hs : s.Locked) (hi : s.LetGo i → call.LetGo)
    (hfits : call.Fits i shared)
    (hframe : ∀ j other, j ≠ i → s.calls j = some other → other.Fits j shared)
    (hlock : (shared.advancing = s.shared.advancing ∧ shared.holders = s.shared.holders) ∨
      (i ∉ s.shared.holders ∧ s.shared.advancing = none ∧ shared.advancing = some i ∧
        shared.holders = s.shared.holders ++ [i]) ∨
      (s.shared.advancing = some i ∧ shared.advancing = none ∧
        shared.holders = s.shared.holders ∧ call.LetGo)) :
    (s.withCall i call shared).Locked where
  fresh := by
    obtain ⟨n, hn⟩ := hs.fresh
    refine ⟨max n (i + 1), fun j hj => ?_⟩
    have hne : j ≠ i := by omega
    rw [withCall_ne hne]
    exact hn j (by omega)
  absent j hj := by
    have hne : j ≠ i := by
      rintro rfl
      rw [withCall_self] at hj
      cases hj
    rw [withCall_ne hne] at hj
    have habsent := hs.absent j hj
    rcases hlock with ⟨-, hsame⟩ | ⟨-, -, -, hadded⟩ | ⟨-, -, hsame, -⟩
    · rwa [withCall_shared, hsame]
    · simp [hadded, habsent, hne]
    · rwa [withCall_shared, hsame]
  fits j other hother := by
    by_cases hji : j = i
    · subst hji
      rw [withCall_self] at hother
      cases hother
      exact hfits
    · rw [withCall_ne hji] at hother
      exact hframe j other hji hother
  past := by
    obtain ⟨past, hpast, hletGo⟩ := hs.past
    have hkept : ∀ j ∈ past, (s.withCall i call shared).LetGo j :=
      fun j hj => (hletGo j hj).withCall hi
    rcases hlock with ⟨hlock, hsame⟩ | ⟨-, hfree, hlock, hadded⟩ | ⟨hheld, hlock, hsame, hends⟩
    · exact ⟨past, by simp only [withCall_shared, hsame, hlock, hpast], hkept⟩
    · exact ⟨past, by simp [hadded, hlock, hpast, hfree], hkept⟩
    · refine ⟨past ++ [i], by simp [hsame, hlock, hpast, hheld], fun j hj => ?_⟩
      rcases List.mem_append.mp hj with hold | hnew
      · exact hkept j hold
      · rw [List.mem_singleton.mp hnew]
        exact ⟨call, withCall_self, hends⟩
  nodup := by
    rcases hlock with ⟨-, hsame⟩ | ⟨habsent, -, -, hadded⟩ | ⟨-, -, hsame, -⟩
    · rw [withCall_shared, hsame]
      exact hs.nodup
    · rw [withCall_shared, hadded, ← List.concat_eq_append, List.nodup_concat]
      exact ⟨habsent, hs.nodup⟩
    · rw [withCall_shared, hsame]
      exact hs.nodup

theorem World.not_letGo_of_none (h : s.calls i = none) : ¬s.LetGo i := by
  rintro ⟨call, hcall, -⟩
  rw [h] at hcall
  cases hcall

theorem Acts.keeps_letGo (h : Acts display port i shared call shared' call') (hletGo : call.LetGo) :
    call'.LetGo := by
  cases h with
  | returns => trivial
  | _ => cases hletGo

/-- What call `i` comes to by a step keeps what it had let go of. -/
theorem World.keeps_letGo (hcall : s.calls i = some call)
    (h : Acts display port i shared call shared' call') : s.LetGo i → call'.LetGo := by
  rintro ⟨before, hbefore, hletGo⟩
  rw [hcall] at hbefore
  cases hbefore
  exact h.keeps_letGo hletGo

theorem Step.locked {actor : Option Nat} (h : Step display port s actor t) (hs : s.Locked) :
    t.Locked := by
  cases h with
  | arrives connection =>
    exact ⟨hs.fresh, hs.absent, fun i call hcall => (hs.fits i call hcall).arrives connection,
      hs.past, hs.nodup⟩
  | @next i hnew =>
    exact hs.withCall (absurd · (World.not_letGo_of_none hnew)) (hs.absent i hnew)
      (fun j other _ => hs.fits j other) (.inl ⟨rfl, rfl⟩)
  | @finish i hnew =>
    exact hs.withCall (absurd · (World.not_letGo_of_none hnew)) (hs.absent i hnew)
      (fun j other _ => hs.fits j other) (.inl ⟨rfl, rfl⟩)
  | @acts i call call' shared hcall h =>
    have hfits := hs.fits i call hcall
    refine hs.withCall (World.keeps_letGo hcall h) (h.fits hfits)
      (fun j other hne hother => (hs.fits j other hother).frame hne h hfits) ?_
    rcases h.lock hfits with hsame | ⟨rfl, hlocks⟩ | hunlocks
    · exact .inl hsame
    · exact .inr (.inl ⟨hfits, hlocks⟩)
    · exact .inr (.inr hunlocks)

/-! ### What was taken from the stream -/

/-- The call has ended the stream. -/
def Call.Ends : Call Iterator → Prop
  | .ended | .finished _ => True
  | _ => False

/-- The descriptor that call `i` has taken. -/
def World.taken (world : World Iterator) (i : Nat) : Option Int32 :=
  ((world.calls i).bind Call.taken).join

/-- The connections are taken in the order they were accepted, and their end after all of them have
been taken, by calls that have let go of the lock. -/
structure World.Delivered (world : World Iterator) : Prop where
  split : world.shared.stream.accepted.map FileHandle.fileDescriptor =
    world.shared.holders.filterMap world.taken ++
      world.shared.stream.buffer.map FileHandle.fileDescriptor
  drained : ∀ i call, world.calls i = some call → call.taken = some none →
    world.shared.stream.finished ∧ world.shared.stream.buffer = [] ∧
      ∀ j descriptor, world.taken j = some descriptor → world.LetGo j
  ended : world.shared.stream.finished → ∃ i call, world.calls i = some call ∧ call.Ends

theorem World.taken_ne (h : j ≠ i) : (s.withCall i call shared).taken j = s.taken j := by
  rw [taken, taken, withCall_ne h]

theorem World.taken_self : (s.withCall i call shared).taken i = call.taken.join := by
  rw [taken, withCall_self]
  rfl

/-- A call whose descriptor stays what it was leaves the order as it was. -/
theorem World.taken_withCall (h : s.taken i = call.taken.join) :
    (s.withCall i call shared).taken = s.taken := by
  funext j
  by_cases hji : j = i
  · rw [hji, taken_self, h]
  · exact taken_ne hji

theorem World.taken_of_calls (h : s.calls i = some call) : s.taken i = call.taken.join := by
  rw [taken, h]
  rfl

theorem World.Locked.mem_of_taken {descriptor : Int32} (hs : s.Locked)
    (h : s.taken i = some descriptor) : i ∈ s.shared.holders := by
  cases hcall : s.calls i with
  | none =>
    rw [taken, hcall] at h
    cases h
  | some call =>
    have hfits := hs.fits i call hcall
    rw [taken_of_calls hcall] at h
    cases call with
    | locking | finishing | ended | finished => cases h
    | blocking | unlocking => exact hfits.2.1
    | unlocked | returned => exact hfits.1

/-- Who holds the lock is the last to have taken it. -/
theorem World.Locked.holders_eq (hs : s.Locked) (hlock : s.shared.advancing = some i) :
    ∃ past, s.shared.holders = past ++ [i] ∧ i ∉ past ∧ ∀ j ∈ past, s.LetGo j := by
  obtain ⟨past, hpast, hletGo⟩ := hs.past
  rw [hlock] at hpast
  refine ⟨past, hpast, ?_, hletGo⟩
  have hnodup := hs.nodup
  rw [hpast] at hnodup
  exact fun hmem => (List.nodup_append.mp hnodup).2.2 i hmem i (List.mem_singleton_self i) rfl

theorem Acts.keeps_ends (h : Acts display port i shared call shared' call') (hends : call.Ends) :
    call'.Ends := by
  cases h with
  | finishes => trivial
  | _ => cases hends

/-- Once a `finish` has ended the stream, that is so whatever other calls do. -/
theorem World.ended_withCall
    (hends : ∀ before, s.calls i = some before → before.Ends → call.Ends)
    (h : ∃ j other, s.calls j = some other ∧ other.Ends) :
    ∃ j other, (s.withCall i call shared).calls j = some other ∧ other.Ends := by
  obtain ⟨j, other, hother, hended⟩ := h
  by_cases hji : j = i
  · subst hji
    exact ⟨j, call, withCall_self, hends other hother hended⟩
  · exact ⟨j, other, by rwa [withCall_ne hji], hended⟩

/-- A call that takes nothing and leaves the stream as it was changes no order. -/
theorem World.Delivered.withCall (hs : s.Delivered) (hi : s.LetGo i → call.LetGo)
    (htaken : (s.calls i).bind Call.taken = call.taken)
    (hends : ∀ before, s.calls i = some before → before.Ends → call.Ends)
    (hstream : shared.stream = s.shared.stream)
    (hholders : shared.holders = s.shared.holders ∨
      shared.holders = s.shared.holders ++ [i] ∧ call.taken = none) :
    (s.withCall i call shared).Delivered where
  split := by
    rw [taken_withCall (congrArg Option.join htaken), withCall_shared, hstream, hs.split]
    rcases hholders with hsame | ⟨hadded, hnone⟩
    · rw [hsame]
    · have hnothing : s.taken i = none := by
        rw [taken, htaken, hnone]
        rfl
      simp [hadded, List.filterMap_append, hnothing]
  drained j other hother hend := by
    have hdrained : s.shared.stream.finished ∧ s.shared.stream.buffer = [] ∧
        ∀ k descriptor, s.taken k = some descriptor → s.LetGo k := by
      by_cases hji : j = i
      · subst hji
        rw [withCall_self] at hother
        cases hother
        rw [hend] at htaken
        obtain ⟨before, hbefore, htook⟩ := Option.bind_eq_some_iff.mp htaken
        exact hs.drained j before hbefore htook
      · exact hs.drained j other (by rwa [withCall_ne hji] at hother) hend
    rw [taken_withCall (congrArg Option.join htaken), withCall_shared, hstream]
    exact ⟨hdrained.1, hdrained.2.1,
      fun k descriptor hk => (hdrained.2.2 k descriptor hk).withCall hi⟩
  ended hfinished := by
    rw [withCall_shared, hstream] at hfinished
    exact ended_withCall hends (hs.ended hfinished)

/-- A connection that arrives is the last to be taken, and after the end it is not accepted. -/
theorem World.Delivered.arrives (hs : s.Delivered) (connection : FileHandle) :
    World.Delivered
      { s with shared := { s.shared with stream := s.shared.stream.yield connection } } where
  split := by
    have hsplit := hs.split
    rw [AsyncStream.yield]
    split
    · exact hsplit
    · simp only [List.map_append, hsplit, List.append_assoc]
      rfl
  drained j other hother hend := by
    obtain ⟨hfinished, hempty, hletGo⟩ := hs.drained j other hother hend
    refine ⟨by simpa using hfinished, ?_, hletGo⟩
    rw [AsyncStream.yield, if_pos hfinished]
    exact hempty
  ended hfinished := hs.ended (by simpa using hfinished)

/-- The call that holds the lock takes the next connection. -/
theorem World.Delivered.receives {connection : FileHandle} {rest : List FileHandle}
    (hs : s.Delivered) (hlocked : s.Locked) (hlock : s.shared.advancing = some i)
    (hbuffer : s.shared.stream.buffer = connection :: rest) (hnone : s.taken i = none)
    (hends : ∀ before, s.calls i = some before → before.Ends → call.Ends)
    (htaken : call.taken = some (some connection.fileDescriptor)) :
    (s.withCall i call
      { s.shared with stream := { s.shared.stream with buffer := rest } }).Delivered where
  split := by
    obtain ⟨past, hpast, hnotin, -⟩ := hlocked.holders_eq hlock
    have hsame : ∀ shared, past.filterMap (s.withCall i call shared).taken =
        past.filterMap s.taken := fun shared =>
      List.filterMap_congr fun j hj => taken_ne (by rintro rfl; exact hnotin hj)
    have hsplit := hs.split
    rw [hbuffer, hpast] at hsplit
    simp [hpast, hsplit, hsame, taken_self, htaken, hnone]
  drained j other hother hend := by
    have hne : j ≠ i := by
      rintro rfl
      rw [withCall_self] at hother
      cases hother
      rw [htaken] at hend
      cases hend
    rw [withCall_ne hne] at hother
    have hempty := (hs.drained j other hother hend).2.1
    rw [hbuffer] at hempty
    cases hempty
  ended hfinished := ended_withCall hends (hs.ended hfinished)

/-- The call that holds the lock takes the end of the connections, which the calls before it have
all taken. -/
theorem World.Delivered.receivesEnd (hs : s.Delivered) (hlocked : s.Locked)
    (hi : s.LetGo i → call.LetGo) (hlock : s.shared.advancing = some i)
    (hbuffer : s.shared.stream.buffer = []) (hfinished : s.shared.stream.finished)
    (hnone : s.taken i = none)
    (hends : ∀ before, s.calls i = some before → before.Ends → call.Ends)
    (htaken : call.taken = some none) : (s.withCall i call s.shared).Delivered where
  split := by
    rw [taken_withCall (by rw [hnone, htaken]; rfl)]
    exact hs.split
  drained j other hother hend := by
    refine ⟨hfinished, hbuffer, fun k descriptor hk => ?_⟩
    rw [taken_withCall (by rw [hnone, htaken]; rfl)] at hk
    obtain ⟨past, hpast, -, hletGo⟩ := hlocked.holders_eq hlock
    have hmem := hlocked.mem_of_taken hk
    rw [hpast] at hmem
    rcases List.mem_append.mp hmem with hbefore | hholder
    · exact (hletGo k hbefore).withCall hi
    · rw [List.mem_singleton.mp hholder, hnone] at hk
      cases hk
  ended hended := ended_withCall hends (hs.ended hended)

theorem World.Delivered.ends (hs : s.Delivered) (hi : ¬s.LetGo i)
    (hnone : (s.calls i).bind Call.taken = none) :
    (s.withCall i .ended
      { s.shared with stream := { s.shared.stream with finished := true } }).Delivered where
  split := by
    rw [taken_withCall (congrArg Option.join hnone)]
    exact hs.split
  drained j other hother hend := by
    have hne : j ≠ i := by
      rintro rfl
      rw [withCall_self] at hother
      cases hother
      cases hend
    rw [withCall_ne hne] at hother
    obtain ⟨-, hempty, hletGo⟩ := hs.drained j other hother hend
    rw [taken_withCall (congrArg Option.join hnone)]
    exact ⟨rfl, hempty, fun k descriptor hk => (hletGo k descriptor hk).withCall (absurd · hi)⟩
  ended _ := ⟨i, _, withCall_self, trivial⟩

theorem World.Delivered.acts (hs : s.Delivered) (hlocked : s.Locked)
    (hcall : s.calls i = some call) (h : Acts display port i s.shared call shared' call') :
    (s.withCall i call' shared').Delivered := by
  have hfits := hlocked.fits i call hcall
  have hi := World.keeps_letGo hcall h
  have hends : ∀ before, s.calls i = some before → before.Ends → call'.Ends := by
    intro before hbefore hended
    rw [hcall] at hbefore
    cases hbefore
    exact h.keeps_ends hended
  have htaken := World.taken_of_calls hcall
  rcases h.stream hfits with ⟨hstream, hsame⟩ |
    ⟨connection, rest, hbuffer, rfl, hlock, hnone, htook⟩ |
    ⟨hbuffer, hfinished, rfl, hlock, hnone, htook⟩ | ⟨rfl, hnone, rfl⟩
  · refine hs.withCall hi (by rw [hcall]; exact hsame.symm) hends hstream ?_
    rcases h.lock hfits with ⟨-, hholders⟩ | ⟨rfl, -, -, hadded⟩ | ⟨-, -, hholders, -⟩
    · exact .inl hholders
    · exact .inr ⟨hadded, hsame⟩
    · exact .inl hholders
  · exact hs.receives hlocked hlock hbuffer (by rw [htaken, hnone]; rfl) hends htook
  · exact hs.receivesEnd hlocked hi hlock hbuffer hfinished (by rw [htaken, hnone]; rfl)
      hends htook
  · exact hs.ends hi (by rw [hcall]; exact hnone)

theorem Step.delivered {actor : Option Nat} (h : Step display port s actor t)
    (hlocked : s.Locked) (hs : s.Delivered) : t.Delivered := by
  cases h with
  | arrives connection => exact hs.arrives connection
  | @next i hnew =>
    exact hs.withCall (absurd · (World.not_letGo_of_none hnew)) (by rw [hnew]; rfl)
      (fun before hbefore => by rw [hnew] at hbefore; cases hbefore) rfl (.inl rfl)
  | @finish i hnew =>
    exact hs.withCall (absurd · (World.not_letGo_of_none hnew)) (by rw [hnew]; rfl)
      (fun before hbefore => by rw [hnew] at hbefore; cases hbefore) rfl (.inl rfl)
  | acts hcall h => exact hs.acts hlocked hcall h

theorem World.Locked.init (iterator : Iterator) :
    World.Locked { shared := { iterator } } where
  fresh := ⟨0, fun _ _ => rfl⟩
  absent _ _ := List.not_mem_nil
  fits i call h := by cases h
  past := ⟨[], rfl, fun i h => absurd h List.not_mem_nil⟩
  nodup := .nil

theorem World.Delivered.init (iterator : Iterator) :
    World.Delivered { shared := { iterator } } where
  split := rfl
  drained i call h := by cases h
  ended h := by cases h

theorem World.Reachable.inv (h : s.Reachable display port) : s.Locked ∧ s.Delivered := by
  obtain ⟨iterator, hrun⟩ := h
  refine Run.preserves ⟨.init iterator, .init iterator⟩ ?_ hrun
  rintro before after - ⟨actor, hstep⟩ ⟨hlocked, hdelivered⟩
  exact ⟨hstep.locked hlocked, hstep.delivered hlocked hdelivered⟩

end Vsock

end ContainerBridge
