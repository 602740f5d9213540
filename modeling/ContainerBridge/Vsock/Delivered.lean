import ContainerBridge.Vsock.Runs

/-! What the `next` calls of a vsock listener return, in every run, and what a call can do without
the others. -/

namespace ContainerBridge

namespace Vsock

variable [Runtime] {display : Rust.Error → String} {port : UInt32} {Iterator : Type} {i j : Nat}
  {shared shared' : CzVsockListener Iterator} {call call' : Call Iterator}
  {s t world : World Iterator}

/-! ### What is returned -/

theorem World.Locked.connection_eq {result : Crossing (Option Int32)} (hs : s.Locked)
    (h : s.calls i = some (.returned result)) : s.connection i = s.taken i := by
  obtain ⟨-, descriptor, rfl⟩ := hs.fits i _ h
  rw [connection, h, taken_of_calls h]
  rfl

theorem World.connection_eq_none (h : ∀ result, s.calls i ≠ some (.returned result)) :
    s.connection i = none := by
  rw [connection]
  split
  · rename_i descriptor hreturned
    exact absurd hreturned (h _)
  · rfl

/-- While no call is on its way back, the call that holds the lock is the only one that may have
taken a connection it has not returned. -/
theorem World.Locked.returned_isPrefix (hs : s.Locked)
    (hback : ∀ i outcome, s.calls i ≠ some (.unlocked outcome)) :
    s.returned <+: s.shared.holders.filterMap s.taken := by
  obtain ⟨past, hpast, hletGo⟩ := hs.past
  have hsame : ∀ i ∈ past, s.connection i = s.taken i := by
    intro i hi
    obtain ⟨call, hcall, hgone⟩ := hletGo i hi
    cases call with
    | unlocked outcome => exact absurd hcall (hback i outcome)
    | returned result => exact hs.connection_eq hcall
    | _ => cases hgone
  rw [returned, hpast, List.filterMap_append, List.filterMap_append, List.filterMap_congr hsame]
  refine (List.prefix_append_right_inj _).mpr ?_
  cases hlock : s.shared.advancing with
  | none => exact List.prefix_rfl
  | some i =>
    by_cases h : ∃ result, s.calls i = some (.returned result)
    · obtain ⟨result, hreturned⟩ := h
      simp [List.filterMap_cons, hs.connection_eq hreturned]
    · simp [connection_eq_none fun result hreturned => h ⟨result, hreturned⟩]

/-- Once the end is taken and no call is on its way back, every connection has been returned. -/
theorem World.Delivered.returned_eq (hs : s.Delivered) (hlocked : s.Locked)
    (hback : ∀ i outcome, s.calls i ≠ some (.unlocked outcome)) (hcall : s.calls i = some call)
    (hend : call.taken = some none) :
    s.returned = s.shared.stream.accepted.map FileHandle.fileDescriptor := by
  obtain ⟨-, hempty, hletGo⟩ := hs.drained i call hcall hend
  rw [hs.split, hempty, List.map_nil, List.append_nil, returned]
  refine List.filterMap_congr fun j _ => ?_
  by_cases hreturned : ∃ result, s.calls j = some (.returned result)
  · obtain ⟨result, hreturned⟩ := hreturned
    exact hlocked.connection_eq hreturned
  · rw [connection_eq_none fun result h => hreturned ⟨result, h⟩]
    cases htaken : s.taken j with
    | none => rfl
    | some descriptor =>
      obtain ⟨other, hother, hgone⟩ := hletGo j descriptor htaken
      cases other with
      | unlocked outcome => exact absurd hother (hback j outcome)
      | returned result => exact absurd ⟨result, hother⟩ hreturned
      | _ => cases hgone

theorem Acts.keeps_taken {descriptor : Int32} (h : Acts display port i shared call shared' call')
    (hfits : call.Fits i shared) (htaken : call.taken.join = some descriptor) :
    call'.taken.join = some descriptor := by
  rcases h.stream hfits with ⟨-, hsame⟩ | ⟨_, _, -, -, -, hnone, -⟩ | ⟨-, -, -, -, hnone, -⟩ |
    ⟨-, hnone, -⟩
  · rwa [hsame]
  all_goals
    rw [hnone] at htaken
    cases htaken

/-- A connection that a call has taken stays that call's. -/
theorem Step.keeps_taken {actor : Option Nat} {descriptor : Int32}
    (h : Step display port s actor t) (hs : s.Locked) (htaken : s.taken j = some descriptor) :
    t.taken j = some descriptor := by
  have hnew : ∀ i, s.calls i = none → j ≠ i := by
    rintro i hnone rfl
    rw [World.taken, hnone] at htaken
    cases htaken
  cases h with
  | arrives => exact htaken
  | next hnone => rw [World.taken_ne (hnew _ hnone), htaken]
  | finish hnone => rw [World.taken_ne (hnew _ hnone), htaken]
  | @acts i call call' shared hcall h =>
    by_cases hji : j = i
    · subst hji
      rw [World.taken_of_calls hcall] at htaken
      rw [World.taken_self, h.keeps_taken (hs.fits j call hcall) htaken]
    · rw [World.taken_ne hji, htaken]

theorem World.Locked.keeps_taken {descriptor : Int32} (hs : s.Locked)
    (hrun : s.Reaches display port t) (htaken : s.taken i = some descriptor) :
    t.taken i = some descriptor := by
  refine (Run.preserves (I := fun t => t.Locked ∧ t.taken i = some descriptor) ⟨hs, htaken⟩ ?_
    hrun).2
  rintro before after - ⟨actor, hstep⟩ ⟨hlocked, hbefore⟩
  exact ⟨hstep.locked hlocked, hstep.keeps_taken hlocked hbefore⟩

/-! ### What a call can do alone -/

/-- Any number of steps of call `i`. -/
def World.Runs (display : Rust.Error → String) (port : UInt32) (i : Nat) :
    World Iterator → World Iterator → Prop :=
  Relation.ReflTransGen (Step display port · (some i) ·)

/-- A `finish` of its own goes on to its end, whoever holds the lock, and leaves every other call
where it is. -/
def World.Finishes (display : Rust.Error → String) (port : UInt32) (world : World Iterator)
    (i : Nat) (result : Except SwiftError Unit) : Prop :=
  ∃ after, Runs display port i world after ∧
    after.calls i = some (.finished result) ∧
    after.shared.advancing = world.shared.advancing ∧
    ∀ j, j ≠ i → after.calls j = world.calls j

theorem World.finishes_of_ended (h : s.calls i = some .ended) (result : Except SwiftError Unit) :
    s.Finishes display port i result :=
  ⟨_, .single (.acts h (.finishes result)), withCall_self, rfl, fun _ => withCall_ne⟩

theorem World.finishes_of_finishing (h : s.calls i = some .finishing)
    (result : Except SwiftError Unit) : s.Finishes display port i result := by
  obtain ⟨after, hrun, hfinished, hlock, hothers⟩ :=
    finishes_of_ended (s := s.withCall i .ended _) withCall_self result
  exact ⟨after, .head (.acts h .ends) hrun, hfinished, hlock,
    fun j hj => (hothers j hj).trans (withCall_ne hj)⟩

theorem World.finishes_of_none (h : s.calls i = none) (result : Except SwiftError Unit) :
    s.Finishes display port i result := by
  obtain ⟨after, hrun, hfinished, hlock, hothers⟩ :=
    finishes_of_finishing (s := s.withCall i .finishing s.shared) withCall_self result
  exact ⟨after, .head (.finish h) hrun, hfinished, hlock,
    fun j hj => (hothers j hj).trans (withCall_ne hj)⟩

/-- Goes on from what a step of call `i` comes to. -/
theorem World.Runs.acts (hcall : s.calls i = some call)
    (h : Acts display port i s.shared call shared call')
    (hrun : Runs display port i (s.withCall i call' shared) t) : Runs display port i s t :=
  .head (.acts hcall h) hrun

/-- A `next` whose task is done wakes with what the task returned, and lets go of the lock. -/
theorem World.runs_of_done {descriptor : Option Int32}
    (h : s.calls i = some (.blocking
      { pending := false, outcome := some (.ok descriptor), semaphore := 1 } .done)) :
    Runs display port i s
      (s.withCall i (.unlocked (.holding descriptor)) { s.shared with advancing := none }) := by
  refine .acts h (.wakes Nat.one_pos) (.acts withCall_self .unlocks ?_)
  rw [withCall_withCall]
  exact .refl

theorem World.runs_of_finished {descriptor : Option Int32}
    (h : s.calls i = some (.blocking
      { pending := false, outcome := some (.ok descriptor) } .finished)) :
    Runs display port i s
      (s.withCall i (.unlocked (.holding descriptor)) { s.shared with advancing := none }) := by
  refine .acts h .signals ?_
  simpa using runs_of_done (s := s.withCall i _ s.shared) withCall_self

theorem World.runs_of_returned {descriptor : Option Int32}
    (h : s.calls i = some (.blocking { pending := false } (.returned descriptor))) :
    Runs display port i s
      (s.withCall i (.unlocked (.holding descriptor)) { s.shared with advancing := none }) := by
  refine .acts h .succeeds ?_
  simpa using runs_of_finished (s := s.withCall i _ s.shared) withCall_self

theorem World.runs_of_advanced {iterator : Iterator} {connection : Option FileHandle}
    (h : s.calls i = some (.blocking { pending := false } (.advanced iterator connection))) :
    Runs display port i s
      (s.withCall i (.unlocked (.holding (connection.map FileHandle.fileDescriptor)))
        { s.shared with iterator, advancing := none }) := by
  refine .acts h .writesBack ?_
  simpa using runs_of_returned (s := s.withCall i _ { s.shared with iterator }) withCall_self

/-- A `next` of its own goes on until it returns. -/
def World.Returns (display : Rust.Error → String) (port : UInt32) (world : World Iterator)
    (i : Nat) : Prop :=
  ∃ after descriptor, Runs display port i world after ∧
    after.calls i = some (.returned (.ok descriptor))

theorem World.returns_of_unlocked {descriptor : Option Int32}
    (h : s.calls i = some (.unlocked (.holding descriptor))) : s.Returns display port i :=
  ⟨_, descriptor, .acts h .returns .refl, by
    rw [withCall_self, Rust.VsockListener.next_holding]⟩

theorem World.Returns.of_runs (hrun : Runs display port i s t) (h : t.Returns display port i) :
    s.Returns display port i := by
  obtain ⟨after, descriptor, hafter, hreturned⟩ := h
  exact ⟨after, descriptor, hrun.trans hafter, hreturned⟩

theorem World.returns_of_runs {descriptor : Option Int32}
    (hrun : Runs display port i s (s.withCall i (.unlocked (.holding descriptor)) shared)) :
    s.Returns display port i :=
  .of_runs hrun (returns_of_unlocked withCall_self)

/-- A `next` that waits goes on once there is a connection, or the end of them. -/
theorem World.returns_of_advancing {iterator : Iterator}
    (hready : s.shared.stream.buffer ≠ [] ∨ s.shared.stream.finished)
    (h : s.calls i = some (.blocking { pending := false } (.advancing iterator))) :
    s.Returns display port i := by
  cases hbuffer : s.shared.stream.buffer with
  | nil =>
    have hfinished := hready.resolve_left (not_not_intro hbuffer)
    exact .of_runs (.single (.acts h (.receivesEnd hbuffer hfinished iterator)))
      (returns_of_runs (runs_of_advanced withCall_self))
  | cons connection rest =>
    exact .of_runs (.single (.acts h (.receives hbuffer iterator)))
      (returns_of_runs (runs_of_advanced withCall_self))

/-- Whoever holds the lock goes on once there is a connection, or the end of them. -/
theorem World.Locked.returns (hs : s.Locked) (hlock : s.shared.advancing = some i)
    (hready : s.shared.stream.buffer ≠ [] ∨ s.shared.stream.finished) :
    s.Returns display port i := by
  have hin : i ∈ s.shared.holders := by
    obtain ⟨past, hpast, -⟩ := hs.holders_eq hlock
    simp [hpast]
  obtain ⟨call, hcall⟩ := Option.ne_none_iff_exists'.mp fun hnone => hs.absent i hnone hin
  have hfits := hs.fits i call hcall
  cases call with
  | locking | finishing => exact absurd hin hfits
  | ended | finished => exact absurd hin hfits.1
  | unlocked outcome =>
    obtain ⟨-, descriptor, rfl⟩ := hfits
    exact returns_of_unlocked hcall
  | returned result =>
    obtain ⟨-, descriptor, rfl⟩ := hfits
    exact ⟨s, descriptor, .refl, hcall⟩
  | unlocking outcome =>
    obtain ⟨-, -, descriptor, rfl⟩ := hfits
    exact .of_runs (.single (.acts hcall .unlocks)) (returns_of_unlocked withCall_self)
  | blocking locals task =>
    obtain ⟨-, -, htask⟩ := hfits
    cases task with
    | detached =>
      cases htask
      exact .of_runs (.single (.acts hcall (.starts rfl)))
        (returns_of_advancing hready withCall_self)
    | advancing =>
      cases htask
      exact returns_of_advancing hready hcall
    | advanced =>
      cases htask
      exact returns_of_runs (runs_of_advanced hcall)
    | returned =>
      cases htask
      exact returns_of_runs (runs_of_returned hcall)
    | finished =>
      obtain ⟨descriptor, rfl⟩ := htask
      exact returns_of_runs (runs_of_finished hcall)
    | done =>
      obtain ⟨descriptor, rfl⟩ := htask
      exact returns_of_runs (runs_of_done hcall)

/-- In every run, what the calls have taken, in the order they held the lock, are the connections
that were accepted but for those still buffered, each taken by one call and kept by it; a call
returns what it took, and none only after a `finish`, once all that were accepted have been taken
by calls that have let go of the lock; while no call is on its way back, those that were returned
are the first that were accepted, and all of them once a call has returned none; a `finish` can be
made, and can end, whoever holds the lock; and whoever holds it can return, without the others, once
there is a connection or the end of them. -/
theorem next_delivers (h : world.Reachable display port) :
    world.shared.stream.accepted.map FileHandle.fileDescriptor =
      world.shared.holders.filterMap world.taken ++
        world.shared.stream.buffer.map FileHandle.fileDescriptor ∧
    world.shared.holders.Nodup ∧
    (∀ i descriptor, world.taken i = some descriptor → i ∈ world.shared.holders ∧
      ∀ after, world.Reaches display port after → after.taken i = some descriptor) ∧
    (∀ i returned, world.calls i = some (.returned returned) →
      i ∈ world.shared.holders ∧ returned = .ok (world.taken i) ∧
      (world.taken i = none → (∃ j call, world.calls j = some call ∧ call.Ends) ∧
        world.shared.stream.accepted.map FileHandle.fileDescriptor =
          world.shared.holders.filterMap world.taken ∧
        ∀ j descriptor, world.taken j = some descriptor → world.LetGo j)) ∧
    ((∀ i outcome, world.calls i ≠ some (.unlocked outcome)) →
      world.returned <+: world.shared.stream.accepted.map FileHandle.fileDescriptor ∧
      ∀ i, world.calls i = some (.returned (.ok none)) →
        world.returned = world.shared.stream.accepted.map FileHandle.fileDescriptor) ∧
    (∃ i, world.calls i = none) ∧
    (∀ i, world.calls i = none ∨ world.calls i = some .finishing ∨ world.calls i = some .ended →
      ∀ result, world.Finishes display port i result) ∧
    ∀ i, world.shared.advancing = some i →
      world.shared.stream.buffer ≠ [] ∨ world.shared.stream.finished →
      world.Returns display port i := by
  obtain ⟨hlocked, hdelivered⟩ := h.inv
  refine ⟨hdelivered.split, hlocked.nodup, ?_, ?_, ?_, ?_, ?_, ?_⟩
  · intro i descriptor htaken
    exact ⟨hlocked.mem_of_taken htaken, fun after hafter => hlocked.keeps_taken hafter htaken⟩
  · intro i returned hcall
    obtain ⟨hmem, descriptor, rfl⟩ := hlocked.fits i _ hcall
    have htaken : world.taken i = descriptor := World.taken_of_calls hcall
    refine ⟨hmem, by rw [htaken], fun hnone => ?_⟩
    rw [htaken] at hnone
    subst hnone
    obtain ⟨hfinished, hempty, hletGo⟩ := hdelivered.drained i _ hcall rfl
    refine ⟨hdelivered.ended hfinished, ?_, hletGo⟩
    simpa [hempty] using hdelivered.split
  · intro hback
    refine ⟨?_, fun i hcall => hdelivered.returned_eq hlocked hback hcall rfl⟩
    rw [hdelivered.split]
    exact (hlocked.returned_isPrefix hback).trans (List.prefix_append _ _)
  · obtain ⟨n, hn⟩ := hlocked.fresh
    exact ⟨n, hn n le_rfl⟩
  · rintro i (hnew | hfinishing | hended) result
    · exact World.finishes_of_none hnew result
    · exact World.finishes_of_finishing hfinishing result
    · exact World.finishes_of_ended hended result
  · exact fun i hlock hready => hlocked.returns hlock hready

/-! ### A run in which a call is overtaken -/

theorem World.Reaches.acts (hrun : s.Reaches display port t) (hcall : t.calls i = some call)
    (h : Acts display port i t.shared call shared call') :
    s.Reaches display port (t.withCall i call' shared) :=
  hrun.tail ⟨_, .acts hcall h⟩

theorem World.Reaches.runs (hrun : s.Reaches display port t) {u : World Iterator}
    (h : Runs display port i t u) : s.Reaches display port u :=
  hrun.trans (Relation.ReflTransGen.mono (fun _ _ hstep => ⟨some i, hstep⟩) _ _ h)

/-- A `next` takes the lock, and waits for a connection. -/
theorem World.Reaches.waits (hrun : s.Reaches display port t) (hnew : t.calls i = none)
    (hfree : t.shared.advancing = none) :
    s.Reaches display port
      (t.withCall i (.blocking { pending := false } (.advancing t.shared.iterator))
        { t.shared with advancing := some i, holders := t.shared.holders ++ [i] }) := by
  have hnext : s.Reaches display port _ := hrun.tail ⟨_, .next hnew⟩
  have hlocks := hnext.acts withCall_self (.locks hfree)
  simpa using hlocks.acts withCall_self (.starts rfl)

/-- A `next` takes the first connection there is, and lets go of the lock. -/
theorem World.Reaches.takes {connection : FileHandle} {rest : List FileHandle}
    (hrun : s.Reaches display port t) (hnew : t.calls i = none)
    (hfree : t.shared.advancing = none) (hbuffer : t.shared.stream.buffer = connection :: rest) :
    s.Reaches display port
      (t.withCall i (.unlocked (.holding (some connection.fileDescriptor)))
        { t.shared with
          stream := { t.shared.stream with buffer := rest }
          holders := t.shared.holders ++ [i] }) := by
  have hwaits := hrun.waits hnew hfree
  have hreceives := hwaits.acts withCall_self (.receives (by exact hbuffer) t.shared.iterator)
  have hgoes := hreceives.runs (runs_of_advanced withCall_self)
  simpa [hfree] using hgoes

/-- Two connections arrive. Call 0 takes the first and lets go of the lock, call 1 takes the second
and returns it, call 3 waits for another, and call 2 is a `finish`. -/
theorem reachable_waiting (display : Rust.Error → String) (port : UInt32) :
    ∃ world : World Unit, world.Reachable display port ∧
    world.shared = {
      stream := {
        accepted := [{ object := 1, fileDescriptor := 7 }, { object := 2, fileDescriptor := 8 }]
        finished := true }
      advancing := some 3
      iterator := ()
      holders := [0, 1, 3] } ∧
    world.calls 0 = some (.unlocked (.holding (some (7 : Int32)))) ∧
    world.calls 1 = some (.returned (.ok (some 8))) ∧
    world.calls 2 = some (.finished (.ok ())) ∧
    world.calls 3 = some (.blocking { pending := false } (.advancing ())) ∧
    ∀ i, 3 < i → world.calls i = none := by
  have harrives : World.Reaches display port { shared := { iterator := () } } _ :=
    .tail (.single ⟨none, .arrives { object := 1, fileDescriptor := 7 }⟩)
      ⟨none, .arrives { object := 2, fileDescriptor := 8 }⟩
  have hfirst := harrives.takes (i := 0) rfl rfl rfl
  have hsecond := hfirst.takes (i := 1) rfl rfl rfl
  have hreturns := hsecond.acts World.withCall_self .returns
  have hwaits := hreturns.waits (i := 3) rfl rfl
  have hfinish : World.Reaches display port _ _ := hwaits.tail ⟨_, .finish (i := 2) rfl⟩
  have hends := hfinish.acts World.withCall_self .ends
  have hfinishes := hends.acts World.withCall_self (.finishes (.ok ()))
  refine ⟨_, ⟨(), hfinishes⟩, rfl, rfl, ?_, rfl, rfl, fun i hi => ?_⟩
  · exact congrArg (fun result => some (Call.returned result)) (Rust.VsockListener.next_holding ..)
  · simp [World.withCall, show i ≠ 0 by omega, show i ≠ 1 by omega, show i ≠ 2 by omega,
      show i ≠ 3 by omega]

/-- Call 3 of that run takes the end of the connections, and returns none while call 0 has yet to
return. -/
theorem reachable_overtaken (display : Rust.Error → String) (port : UInt32) :
    ∃ world : World Unit, world.Reachable display port ∧
    world.shared.stream.accepted.map FileHandle.fileDescriptor = [7, 8] ∧
    world.shared.holders = [0, 1, 3] ∧
    world.calls 0 = some (.unlocked (.holding (some (7 : Int32)))) ∧
    world.calls 1 = some (.returned (.ok (some 8))) ∧
    world.calls 3 = some (.returned (.ok none)) ∧
    ∀ i outcome, i ≠ 0 → world.calls i ≠ some (.unlocked outcome) := by
  obtain ⟨waiting, ⟨iterator, hrun⟩, hshared, hzero, hone, htwo, hthree, hnone⟩ :=
    reachable_waiting display port
  have hends := hrun.acts hthree (.receivesEnd (by rw [hshared]) (by rw [hshared]) ())
  have hgoes := hends.runs (World.runs_of_advanced World.withCall_self)
  have hreturns := hgoes.acts World.withCall_self .returns
  simp only [World.withCall_withCall] at hreturns
  refine ⟨_, ⟨iterator, hreturns⟩, ?_, ?_, ?_, ?_, ?_, fun i outcome hi => ?_⟩
  · simp [hshared]
  · simp [hshared]
  · rw [World.withCall_ne (by decide), hzero]
  · rw [World.withCall_ne (by decide), hone]
  · rw [World.withCall_self]
    exact congrArg (fun result => some (Call.returned result)) (Rust.VsockListener.next_holding ..)
  · obtain rfl | rfl | rfl | hafter : i = 1 ∨ i = 2 ∨ i = 3 ∨ 3 < i := by omega
    · simp [World.withCall_ne, hone]
    · simp [World.withCall_ne, htwo]
    · simp [World.withCall_self]
    · simp [World.withCall_ne (show i ≠ 3 by omega), hnone i hafter]

/-- Call 0 of that run returns at last. -/
theorem reachable_settled (display : Rust.Error → String) (port : UInt32) :
    ∃ world : World Unit, world.Reachable display port ∧
    world.shared.stream.accepted.map FileHandle.fileDescriptor = [7, 8] ∧
    world.calls 3 = some (.returned (.ok none)) ∧
    ∀ i outcome, world.calls i ≠ some (.unlocked outcome) := by
  obtain ⟨before, ⟨iterator, hrun⟩, haccepted, -, hzero, -, hthree, hback⟩ :=
    reachable_overtaken display port
  refine ⟨_, ⟨iterator, hrun.acts hzero .returns⟩, haccepted, ?_, fun i outcome => ?_⟩
  · rw [World.withCall_ne (by decide), hthree]
  · by_cases hi : i = 0
    · subst hi
      simp [World.withCall_self]
    · rw [World.withCall_ne hi]
      exact hback i outcome hi

omit [Runtime] in
/-- The second connection is returned, and then their end, while the call that took the first has
yet to return. -/
theorem next_overtaken :
    let _ := Runtime.ascii
    ∃ world : World Unit, world.Reachable (fun _ => "") 5 ∧
      world.shared.stream.accepted.map FileHandle.fileDescriptor = [7, 8] ∧
      ¬world.returned <+: world.shared.stream.accepted.map FileHandle.fileDescriptor ∧
      world.calls 3 = some (.returned (.ok none)) ∧ 7 ∉ world.returned := by
  let _ := Runtime.ascii
  obtain ⟨world, hreachable, haccepted, hholders, hzero, hone, hthree, -⟩ :=
    reachable_overtaken (fun _ => "") 5
  have hreturned : world.returned = [8] := by
    simp [World.returned, World.connection, hholders, hzero, hone, hthree]
  refine ⟨world, hreachable, haccepted, ?_, hthree, ?_⟩
  · rw [hreturned, haccepted]
    decide
  · rw [hreturned]
    decide

omit [Runtime] in
/-- While call 3 waits after the `finish`, it can return; and once call 0 has returned too, every
connection has been returned, in order. -/
theorem sample_next_delivers :
    let _ := Runtime.ascii
    ∃ waiting world : World Unit, waiting.Reachable (fun _ => "") 5 ∧
      waiting.calls 3 = some (.blocking { pending := false } (.advancing ())) ∧
      waiting.Returns (fun _ => "") 5 3 ∧
      world.Reachable (fun _ => "") 5 ∧ world.calls 3 = some (.returned (.ok none)) ∧
      (∃ j call, world.calls j = some call ∧ call.Ends) ∧ world.returned = [7, 8] := by
  let _ := Runtime.ascii
  obtain ⟨waiting, hwaiting, hshared, -, -, -, hwaits, -⟩ :=
    reachable_waiting (fun _ => "") 5
  obtain ⟨world, hworld, haccepted, hend, hback⟩ :=
    reachable_settled (fun _ => "") 5
  obtain ⟨-, -, -, -, -, -, -, hgoes⟩ := next_delivers hwaiting
  obtain ⟨-, -, -, hnone, hall, -, -, -⟩ := next_delivers hworld
  have hended := ((hnone 3 _ hend).2.2 (World.taken_of_calls hend)).1
  exact ⟨waiting, world, hwaiting, hwaits, hgoes 3 (by rw [hshared]) (.inr (by rw [hshared])),
    hworld, hend, hended, ((hall hback).2 3 hend).trans haccepted⟩

end Vsock

end ContainerBridge
