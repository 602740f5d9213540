import ContainerBridge.Library.Run
import ContainerBridge.Stdio.Writers

/-! What each step of a call on a writer keeps: the lock keeps the pieces of a write together, and a
handle is closed at most once. -/

namespace ContainerBridge

open Log

namespace Swift

/-! ### Where a call is -/

/-- The `delete` of `process` succeeded, and all its writers but `rest` are closed. -/
structure Remaining (world : World) (process : CzLinuxProcess) (rest : List FileWriter) :
    Prop where
  known : process ∈ world.processes
  own : rest ⊆ process.output.writers
  closed : ∀ writer ∈ process.output.writers, writer ∈ rest ∨ (world.writer writer).handle = none

def Closer.Fits (world : World) (writer : FileWriter) : Closer → Prop
  | .caller => True
  | .output process rest => Remaining world process (writer :: rest)

/-- The handle is open and its `close` was never called, or it is gone and it was called once. -/
def WriterState.Settled (state : WriterState) : Prop :=
  (state.handle ≠ none ∧ state.closes = 0) ∨ (state.handle = none ∧ state.closes = 1)

/-- What holds while call `i` is where it is. -/
def Call.Fits (world : World) (i : Nat) : Call → Prop
  | .write writer _ => ∀ entry ∈ (world.writer writer).log, entry.1 ≠ i
  | .writing writer _ _ =>
    (world.writer writer).lock = some i ∧ (world.writer writer).handle ≠ none ∧
      LastBy (world.writer writer).log i
  | .wrote writer _ _ => (world.writer writer).lock = some i
  | .close writer closer => closer.Fits world writer
  | .closing writer closer => (world.writer writer).lock = some i ∧ closer.Fits world writer
  | .closed writer closer _ =>
    (world.writer writer).lock = some i ∧ closer.Fits world writer ∧
      (world.writer writer).closes = 1
  | .delete process => process ∈ world.processes
  | .outputClosing process rest => Remaining world process rest
  | .done (.write _ _) _ => True
  | .done (.close writer) _ => (world.writer writer).handle = none
  | .done (.delete process) (.ok _) => Remaining world process []
  | .done (.delete _) (.error _) => True

/-- What a later world keeps: a closed writer is closed, and no process is gone. -/
structure Later (s t : World) : Prop where
  closed : ∀ writer, (s.writer writer).handle = none → (t.writer writer).handle = none
  processes : s.processes ⊆ t.processes

/-- What a step leaves to a call that did not take it. -/
structure Frame (s t : World) (j : Nat) : Prop extends Later s t where
  locked : ∀ writer, (s.writer writer).lock = some j → t.writer writer = s.writer writer
  log : ∀ writer, ∀ entry ∈ (t.writer writer).log, entry ∈ (s.writer writer).log ∨ entry.1 ≠ j

variable {s t : World} {i j : Nat}

theorem Remaining.later {process : CzLinuxProcess} {rest : List FileWriter}
    (h : Remaining s process rest) (hlater : Later s t) : Remaining t process rest where
  known := hlater.processes h.known
  own := h.own
  closed writer hwriter := (h.closed writer hwriter).imp_right (hlater.closed writer)

theorem Closer.Fits.later {writer : FileWriter} {closer : Closer} (h : closer.Fits s writer)
    (hlater : Later s t) : closer.Fits t writer := by
  cases closer with
  | caller => trivial
  | output process rest => exact Remaining.later h hlater

theorem Call.Fits.frame {call : Call} (hframe : Frame s t j) (h : call.Fits s j) :
    call.Fits t j := by
  cases call with
  | write writer data =>
    intro entry hentry
    exact (hframe.log writer entry hentry).elim (h entry) id
  | writing writer data rest =>
    obtain ⟨hlock, hopen, hlast⟩ := h
    rw [Fits, hframe.locked writer hlock]
    exact ⟨hlock, hopen, hlast⟩
  | wrote writer data result =>
    rw [Fits, hframe.locked writer h]
    exact h
  | close writer closer => exact Closer.Fits.later h hframe.toLater
  | closing writer closer =>
    rw [Fits, hframe.locked writer h.1]
    exact ⟨h.1, h.2.later hframe.toLater⟩
  | closed writer closer result =>
    rw [Fits, hframe.locked writer h.1]
    exact ⟨h.1, h.2.1.later hframe.toLater, h.2.2⟩
  | delete process => exact hframe.processes h
  | outputClosing process rest => exact Remaining.later h hframe.toLater
  | done operation result =>
    cases operation with
    | write writer data => trivial
    | close writer => exact hframe.closed writer h
    | delete process =>
      cases result with
      | ok => exact Remaining.later h hframe.toLater
      | error error => trivial

/-! ### One call's step -/

variable {writer : FileWriter} {call call' : Call} {state state' : WriterState}

/-- A call acts on a writer that it has locked or that is free. -/
theorem Acts.lock (h : Acts i writer (s.writer writer) call state' call')
    (hfits : call.Fits s i) :
    (s.writer writer).lock = none ∨ (s.writer writer).lock = some i := by
  generalize hstate : s.writer writer = state at h
  cases h with
  | enterWrite hlock | refuseWrite hlock | enterClose hlock => exact .inl hlock
  | piece | written | failWrite => exact .inr (hstate ▸ hfits.1)
  | leaveWrite => exact .inr (hstate ▸ hfits)
  | closeHandle | closeNothing | leaveClose => exact .inr (hstate ▸ hfits.1)

/-- A step leaves a closed writer closed, and adds to the log only under the call's own number. -/
theorem Acts.log (h : Acts i writer state call state' call') :
    ∀ entry ∈ state'.log, entry ∈ state.log ∨ entry.1 = i := by
  cases h with
  | piece =>
    intro entry hentry
    refine (List.mem_append.mp hentry).imp_right fun hmem => ?_
    rw [List.mem_singleton.mp hmem]
  | _ => exact fun entry hentry => .inl hentry

theorem Acts.closed (h : Acts i writer state call state' call') (hclosed : state.handle = none) :
    state'.handle = none := by
  cases h with
  | leaveClose => rfl
  | _ => exact hclosed

theorem Acts.later (h : Acts i writer (s.writer writer) call state' call') :
    Later s ((s.withWriter writer state').withCall i call') where
  closed other hclosed := by
    by_cases hother : other = writer
    · subst hother
      simpa using h.closed hclosed
    · rwa [World.withCall_writer, s.withWriter_ne hother]
  processes := by simp

theorem Acts.frame (h : Acts i writer (s.writer writer) call state' call')
    (hfits : call.Fits s i) (hne : j ≠ i) :
    Frame s ((s.withWriter writer state').withCall i call') j where
  toLater := h.later
  locked other hlock := by
    have hother : other ≠ writer := by
      rintro rfl
      rcases h.lock hfits with hfree | hheld
      · rw [hfree] at hlock
        cases hlock
      · rw [hheld] at hlock
        exact hne (Option.some.inj hlock).symm
    exact s.withWriter_ne hother state'
  log other entry hentry := by
    by_cases hother : other = writer
    · subst hother
      rw [World.withCall_writer, World.withWriter_self] at hentry
      exact (h.log entry hentry).imp_right fun hi => by rwa [hi, ne_comm]
    · rw [World.withCall_writer, s.withWriter_ne hother] at hentry
      exact .inl hentry

/-- Closing its writer takes it off those a `delete` has left. -/
theorem Remaining.tail {process : CzLinuxProcess} {rest : List FileWriter}
    (h : Remaining s process (writer :: rest)) (hlater : Later s t)
    (hclosed : (t.writer writer).handle = none) : Remaining t process rest where
  known := hlater.processes h.known
  own other hother := h.own (List.mem_cons_of_mem writer hother)
  closed other hother := by
    rcases h.closed other hother with hmem | hnone
    · rcases List.mem_cons.mp hmem with rfl | hrest
      · exact .inr hclosed
      · exact .inl hrest
    · exact .inr (hlater.closed other hnone)

theorem Acts.fits (h : Acts i writer (s.writer writer) call state' call')
    (hfits : call.Fits s i)
    (hsettled : ∀ closer, call = .closing writer closer → (s.writer writer).Settled) :
    call'.Fits ((s.withWriter writer state').withCall i call') i := by
  have hlater := h.later
  generalize hstate : s.writer writer = state at h
  cases h with
  | enterWrite hlock hopen =>
    refine ⟨by simp, by simpa using hopen, ?_⟩
    simpa using LastBy.of_absent (hstate ▸ hfits)
  | refuseWrite hlock hclosed => simp [Call.Fits]
  | piece =>
    obtain ⟨hlock, hopen, hlast⟩ := hfits
    rw [hstate] at hlock hopen hlast
    exact ⟨by simpa using hlock, by simpa using hopen, by simpa using hlast.append _⟩
  | written | failWrite => simpa [Call.Fits] using hstate ▸ hfits.1
  | leaveWrite => trivial
  | enterClose hlock => exact ⟨by simp, hfits.later hlater⟩
  | closeHandle hopen result =>
    refine ⟨by simpa using hstate ▸ hfits.1, hfits.2.later hlater, ?_⟩
    have hzero := (hstate ▸ hsettled _ rfl).resolve_right fun hgone => hopen hgone.1
    simp [hzero.2]
  | closeNothing hclosed =>
    refine ⟨by simpa using hstate ▸ hfits.1, hfits.2.later hlater, ?_⟩
    have hone := (hstate ▸ hsettled _ rfl).resolve_left fun hopen => hopen.1 hclosed
    simpa using hone.2
  | leaveClose =>
    rename_i closer result
    cases closer with
    | caller => simp [Closer.resume, Call.Fits]
    | output process rest => exact hfits.2.1.tail hlater (by simp)

/-- A call that is not about to run `defer` leaves a settled writer settled, until it is. -/
theorem Acts.settled (h : Acts i writer state call state' call')
    (hsettled : (∀ closer result, call ≠ .closed writer closer result) → state.Settled)
    (hone : ∀ closer result, call = .closed writer closer result → state.closes = 1) :
    state'.Settled ∨ ∃ closer result, call' = .closed writer closer result := by
  cases h with
  | leaveClose => exact .inl (.inr ⟨rfl, hone _ _ rfl⟩)
  | closeHandle hopen result => exact .inr ⟨_, _, rfl⟩
  | closeNothing hclosed => exact .inr ⟨_, _, rfl⟩
  | _ => exact .inl (hsettled (by rintro _ _ ⟨⟩))

theorem Acts.contiguous (h : Acts i writer (s.writer writer) call state' call')
    (hfits : call.Fits s i) (hcontiguous : Contiguous (s.writer writer).log) :
    Contiguous state'.log := by
  generalize hstate : s.writer writer = state at h
  rw [hstate] at hcontiguous
  cases h with
  | piece => exact hcontiguous.append (hstate ▸ hfits.2.2) _
  | _ => exact hcontiguous

theorem Deletes.fits (h : Deletes call call') (hfits : call.Fits s i) : call'.Fits s i := by
  cases h with
  | failed error => trivial
  | deleted => exact ⟨hfits, List.Subset.refl _, fun writer hwriter => .inl hwriter⟩
  | next => exact hfits
  | closed => exact hfits

/-! ### Every step -/

theorem Frame.of_writer (hwriter : t.writer = s.writer) (hprocesses : s.processes ⊆ t.processes) :
    Frame s t j where
  closed writer hclosed := by rwa [hwriter]
  processes := hprocesses
  locked writer _ := by rw [hwriter]
  log writer entry hentry := .inl (hwriter ▸ hentry)

theorem World.processes_withMade (made : Crossing CzLinuxProcess) :
    s.processes ⊆ (s.withMade made).processes := by
  cases made with
  | ok process => exact List.subset_append_left ..
  | error stop => exact List.Subset.refl _

/-- What holds of the calls and the writers in every world that is reached. -/
structure World.Inv (world : World) : Prop where
  fits : ∀ i call, world.calls i = some call → call.Fits world i
  unwritten : ∀ i, world.calls i = none → ∀ writer, ∀ entry ∈ (world.writer writer).log, entry.1 ≠ i
  contiguous : ∀ writer, Contiguous (world.writer writer).log
  settled : ∀ writer, (world.writer writer).Settled ∨
    ∃ i closer result, world.calls i = some (.closed writer closer result)

/-- A writer that is free, or that a call not about to run `defer` has locked, is settled. -/
theorem World.Inv.settled_of_lock (hs : s.Inv) (hcall : s.calls i = some call)
    (hlock : (s.writer writer).lock = none ∨ (s.writer writer).lock = some i)
    (hcalled : ∀ closer result, call ≠ .closed writer closer result) :
    (s.writer writer).Settled := by
  refine (hs.settled writer).resolve_right ?_
  rintro ⟨j, closer, result, hj⟩
  have hheld := (hs.fits j _ hj).1
  rcases hlock with hfree | hlock
  · rw [hfree] at hheld
    cases hheld
  · rw [hlock] at hheld
    cases hheld
    rw [hj] at hcall
    cases hcall
    exact hcalled closer result rfl

/-- A call that is about to run `defer` still is after a step of a call that is not. -/
theorem World.closed_withCall
    (hi : ∀ closer result, s.calls i ≠ some (.closed writer closer result))
    (h : ∃ j closer result, s.calls j = some (.closed writer closer result)) :
    ∃ j closer result, (s.withCall i call).calls j = some (.closed writer closer result) := by
  obtain ⟨j, closer, result, hj⟩ := h
  refine ⟨j, closer, result, ?_⟩
  rw [s.withCall_ne, hj]
  rintro rfl
  exact hi closer result hj

variable [Runtime] [External]

theorem Step.fits (h : Step s t) (hs : s.Inv) :
    ∀ j call, t.calls j = some call → call.Fits t j := by
  intro j c hj
  cases h with
  | exec host hfresh container configuration =>
    rw [World.withMade_calls] at hj
    exact (hs.fits j c hj).frame (.of_writer (by simp) (World.processes_withMade _))
  | execWith host hfresh container lent =>
    rw [World.withMade_calls] at hj
    exact (hs.fits j c hj).frame (.of_writer (by simp) (World.processes_withMade _))
  | @call i call hnew hcall =>
    have hframe : Frame s (s.withCall i call) j := .of_writer rfl (List.Subset.refl _)
    refine Call.Fits.frame hframe ?_
    by_cases hji : j = i
    · subst hji
      rw [World.withCall_self] at hj
      cases hj
      cases c with
      | write writer data => exact hs.unwritten j hnew writer
      | close writer closer =>
        cases closer with
        | caller => trivial
        | output process rest => exact hcall.elim
      | delete process => exact hcall
      | _ => exact hcall.elim
    · rw [s.withCall_ne hji] at hj
      exact hs.fits j c hj
  | @acts i writer call call' state hcall h =>
    by_cases hji : j = i
    · subst hji
      rw [World.withCall_self] at hj
      cases hj
      have hfits := hs.fits j call hcall
      refine h.fits hfits ?_
      rintro closer rfl
      exact hs.settled_of_lock hcall (h.lock hfits) (by rintro _ _ ⟨⟩)
    · rw [World.withCall_ne _ hji] at hj
      exact (hs.fits j c hj).frame (h.frame (hs.fits i call hcall) hji)
  | @deletes i call call' hcall h =>
    have hframe : Frame s (s.withCall i call') j := .of_writer rfl (List.Subset.refl _)
    refine Call.Fits.frame hframe ?_
    by_cases hji : j = i
    · subst hji
      rw [World.withCall_self] at hj
      cases hj
      exact h.fits (hs.fits j call hcall)
    · rw [World.withCall_ne _ hji] at hj
      exact hs.fits j c hj

theorem Step.unwritten (h : Step s t) (hs : s.Inv) (hj : t.calls j = none) (writer : FileWriter) :
    ∀ entry ∈ (t.writer writer).log, entry.1 ≠ j := by
  cases h with
  | exec | execWith =>
    rw [World.withMade_calls] at hj
    rw [World.withMade_writer]
    exact hs.unwritten j hj writer
  | @call i call hnew hcall | @deletes i call call' hcall h =>
    have hji : j ≠ i := by
      rintro rfl
      simp at hj
    rw [s.withCall_ne hji] at hj
    exact hs.unwritten j hj writer
  | @acts i acted call call' state hcall h =>
    have hji : j ≠ i := by
      rintro rfl
      simp at hj
    rw [World.withCall_ne _ hji] at hj
    intro entry hentry
    exact ((h.frame (hs.fits i call hcall) hji).log writer entry hentry).elim
      (hs.unwritten j hj writer entry) id

theorem Step.contiguous (h : Step s t) (hs : s.Inv) (writer : FileWriter) :
    Contiguous (t.writer writer).log := by
  cases h with
  | exec | execWith =>
    rw [World.withMade_writer]
    exact hs.contiguous writer
  | call | deletes => exact hs.contiguous writer
  | @acts i acted call call' state hcall h =>
    rw [World.withCall_writer]
    by_cases hacted : writer = acted
    · subst hacted
      rw [World.withWriter_self]
      exact h.contiguous (hs.fits i call hcall) (hs.contiguous writer)
    · rw [s.withWriter_ne hacted]
      exact hs.contiguous writer

theorem Step.settled (h : Step s t) (hs : s.Inv) (writer : FileWriter) :
    (t.writer writer).Settled ∨
      ∃ i closer result, t.calls i = some (.closed writer closer result) := by
  cases h with
  | exec | execWith =>
    rw [World.withMade_writer, World.withMade_calls]
    exact hs.settled writer
  | @call i call hnew hcall =>
    refine (hs.settled writer).imp_right (World.closed_withCall ?_)
    intro closer result hi
    rw [hnew] at hi
    cases hi
  | @deletes i call call' hcall h =>
    refine (hs.settled writer).imp_right (World.closed_withCall ?_)
    intro closer result hi
    rw [hcall] at hi
    cases hi
    cases h
  | @acts i acted call call' state hcall h =>
    have hfits := hs.fits i call hcall
    rw [World.withCall_writer]
    by_cases hacted : writer = acted
    · subst hacted
      rw [World.withWriter_self]
      refine (h.settled (hs.settled_of_lock hcall (h.lock hfits)) ?_).imp_right ?_
      · rintro closer result rfl
        exact hfits.2.2
      · rintro ⟨closer, result, rfl⟩
        exact ⟨i, closer, result, World.withCall_self ..⟩
    · rw [s.withWriter_ne hacted]
      refine (hs.settled writer).imp_right (World.closed_withCall ?_)
      intro closer result hi
      rw [World.withWriter_calls, hcall] at hi
      cases hi
      cases h
      exact hacted rfl

theorem Step.inv (h : Step s t) (hs : s.Inv) : t.Inv where
  fits := h.fits hs
  unwritten _ hj := h.unwritten hs hj
  contiguous := h.contiguous hs
  settled := h.settled hs

theorem World.Reachable.inv (h : s.Reachable) : s.Inv := by
  refine Run.preserves ?_ (fun _ _ _ hstep => hstep.inv) h
  exact {
    fits := by rintro _ _ ⟨⟩
    unwritten := by rintro _ _ _ _ ⟨⟩
    contiguous := fun _ => .nil
    settled := fun _ => .inl (.inl ⟨by rintro ⟨⟩, rfl⟩) }

end Swift

end ContainerBridge
