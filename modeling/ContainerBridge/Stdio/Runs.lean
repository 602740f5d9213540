import ContainerBridge.Stdio.Invariant
import Mathlib.Data.List.Pairwise

/-! What holds of writers in every run: a writer is closed by a caller of its own or by the delete
of its process, and is closed for good once a `close` has its lock. -/

namespace ContainerBridge

open Log

namespace Swift

variable [Runtime] [External] {s t : World} {i : Nat} {writer : FileWriter} {call call' : Call}
  {state state' : WriterState}

/-! ### Whose writers are closed -/

/-- The process that a call's `delete` has deleted. -/
def Closer.deleted : Closer → Option CzLinuxProcess
  | .caller => none
  | .output process _ => some process

def Call.deleted : Call → Option CzLinuxProcess
  | .close _ closer | .closing _ closer | .closed _ closer _ => closer.deleted
  | .outputClosing process _ => some process
  | .done (.delete process) (.ok _) => some process
  | _ => none

/-- Why a writer is closed: a caller closed it, or a process that has it was deleted. -/
inductive World.Why (world : World) (writer : FileWriter) : Prop
  | closed {i : Nat} {result : Except SwiftError Unit}
      (hcall : world.calls i = some (.done (.close writer) result))
  | deleted {i : Nat} {call : Call} {process : CzLinuxProcess} (hcall : world.calls i = some call)
      (hdeleted : call.deleted = some process) (hprocess : process ∈ world.processes)
      (hwriter : writer ∈ process.output.writers)

omit [Runtime] [External] in
theorem Acts.deleted_eq {process : CzLinuxProcess} (h : Acts i writer state call state' call')
    (hdeleted : call.deleted = some process) : call'.deleted = some process := by
  cases h with
  | enterClose | closeHandle | closeNothing => exact hdeleted
  | leaveClose =>
    rename_i closer result
    cases closer with
    | caller => cases hdeleted
    | output process rest => exact hdeleted
  | _ => cases hdeleted

omit [Runtime] [External] in
theorem Deletes.deleted_eq {process : CzLinuxProcess} (h : Deletes call call')
    (hdeleted : call.deleted = some process) : call'.deleted = some process := by
  cases h with
  | next | closed => exact hdeleted
  | failed | deleted => cases hdeleted

/-- What becomes of a call. -/
theorem Step.calls (h : Step s t) (hi : s.calls i = some call) :
    t.calls i = some call ∨ ∃ call', t.calls i = some call' ∧
      ((∃ writer, Acts i writer (s.writer writer) call (t.writer writer) call') ∨
        Deletes call call') := by
  cases h with
  | exec | execWith => exact .inl (by rwa [World.withMade_calls])
  | @call j new hnew hcall =>
    refine .inl ?_
    rw [s.withCall_ne, hi]
    rintro rfl
    rw [hnew] at hi
    cases hi
  | @acts j writer acted call' state hcall h =>
    by_cases hij : i = j
    · subst hij
      rw [hi] at hcall
      cases hcall
      refine .inr ⟨call', World.withCall_self .., .inl ⟨writer, ?_⟩⟩
      rwa [World.withCall_writer, World.withWriter_self]
    · exact .inl (by rwa [World.withCall_ne _ hij])
  | @deletes j acted call' hcall h =>
    by_cases hij : i = j
    · subst hij
      rw [hi] at hcall
      cases hcall
      exact .inr ⟨call', World.withCall_self .., .inr h⟩
    · exact .inl (by rwa [World.withCall_ne _ hij])

theorem Step.later (h : Step s t) : Later s t := by
  cases h with
  | exec | execWith => exact ⟨fun _ => by simp, World.processes_withMade _⟩
  | call | deletes => exact ⟨fun _ => id, List.Subset.refl _⟩
  | acts hcall h => exact h.later

/-- What a call has done to close a writer stays done. -/
theorem Step.why (h : Step s t) (hs : s.Why writer) : t.Why writer := by
  cases hs with
  | closed hcall =>
    rcases h.calls hcall with hkept | ⟨call', -, ⟨_, hacts⟩ | hdeletes⟩
    · exact .closed hkept
    · cases hacts
    · cases hdeletes
  | deleted hcall hdeleted hprocess hwriter =>
    have hprocess := h.later.processes hprocess
    rcases h.calls hcall with hkept | ⟨call', hcall', ⟨_, hacts⟩ | hdeletes⟩
    · exact .deleted hkept hdeleted hprocess hwriter
    · exact .deleted hcall' (hacts.deleted_eq hdeleted) hprocess hwriter
    · exact .deleted hcall' (hdeletes.deleted_eq hdeleted) hprocess hwriter

/-- The processes have writers of their own, and a writer is closed for a reason. -/
structure World.Owned (world : World) : Prop where
  made : ∀ process ∈ world.processes,
    process.output.writers = process.process.configuration.fileWriters
  disjoint : world.processes.Pairwise fun process other =>
    process.output.writers.Disjoint other.output.writers
  why : ∀ writer, (world.writer writer).handle = none → world.Why writer

theorem World.Owned.withMade {host : Host} {made : Crossing CzLinuxProcess} (hs : s.Owned)
    (hfresh : s.Fresh host) (hmade : ∀ process, made = .ok process → process.Made)
    (hstep : Step s (s.withMade made)) : (s.withMade made).Owned := by
  cases made with
  | error stop => exact hs
  | ok process =>
    have hnew := hmade process rfl
    refine ⟨?_, ?_, fun writer hclosed => hstep.why (hs.why writer hclosed)⟩
    · intro other hother
      rcases List.mem_append.mp hother with hmem | hmem
      · exact hs.made other hmem
      · rw [List.mem_singleton.mp hmem]
        exact hnew.writers
    · refine List.pairwise_append.mpr ⟨hs.disjoint, List.pairwise_singleton .., ?_⟩
      intro other hother _ hprocess writer hwriter hshared
      rw [List.mem_singleton.mp hprocess] at hshared
      obtain ⟨stream, hobject⟩ := hnew.objects writer hshared
      exact hfresh writer ⟨other, hother, hwriter⟩ stream hobject

theorem Step.owned (h : Step s t) (hinv : s.Inv) (hs : s.Owned) : t.Owned := by
  have hstep := h
  cases h with
  | exec host hfresh container configuration =>
    exact hs.withMade hfresh (fun _ => exec_made) hstep
  | execWith host hfresh container lent =>
    exact hs.withMade hfresh (fun _ => execWith_made) hstep
  | call | deletes =>
    exact ⟨hs.made, hs.disjoint, fun writer hclosed => hstep.why (hs.why writer hclosed)⟩
  | @acts i acted call call' state hcall h =>
    refine ⟨hs.made, hs.disjoint, fun writer hclosed => ?_⟩
    by_cases hbefore : (s.writer writer).handle = none
    · exact hstep.why (hs.why writer hbefore)
    -- Only `defer` takes a handle away.
    rw [World.withCall_writer] at hclosed
    have hacted : writer = acted := by
      by_contra hne
      rw [s.withWriter_ne hne] at hclosed
      exact hbefore hclosed
    subst hacted
    rw [World.withWriter_self] at hclosed
    generalize hstate : s.writer writer = before at h
    rw [hstate] at hbefore
    cases h with
    | leaveClose =>
      rename_i closer result
      cases closer with
      | caller => exact .closed (World.withCall_self ..)
      | output process rest =>
        have hremaining : Remaining s process (writer :: rest) := (hinv.fits i _ hcall).2.1
        exact .deleted (World.withCall_self ..) rfl hremaining.known
          (hremaining.own List.mem_cons_self)
    | _ => exact absurd hclosed hbefore

theorem World.Reachable.owned (h : s.Reachable) : s.Owned := by
  refine Run.preserves ?_ (fun _ _ hrun hstep => hstep.owned (World.Reachable.inv hrun)) h
  exact ⟨by rintro _ ⟨⟩, .nil, by rintro _ ⟨⟩⟩

/-! ### A closed writer -/

/-- The writer whose `close` has the lock in this call. -/
def Call.shuts : Call → Option FileWriter
  | .closing writer _ | .closed writer _ _ => some writer
  | _ => none

/-- The writer is closed, or its `close` has the lock. -/
def World.Shut (world : World) (writer : FileWriter) : Prop :=
  (world.writer writer).handle = none ∨
    ∃ i call, world.calls i = some call ∧ call.shuts = some writer

omit [Runtime] [External] in
theorem World.Inv.lock_of_shuts (hs : s.Inv) (hcall : s.calls i = some call)
    (hshuts : call.shuts = some writer) : (s.writer writer).lock = some i := by
  have hfits := hs.fits i call hcall
  cases call with
  | closing | closed =>
    cases hshuts
    exact hfits.1
  | _ => cases hshuts

theorem Step.shut (h : Step s t) (hs : s.Shut writer) : t.Shut writer := by
  rcases hs with hclosed | ⟨i, call, hcall, hshuts⟩
  · exact .inl (h.later.closed writer hclosed)
  rcases h.calls hcall with hkept | ⟨call', hcall', ⟨acted, hacts⟩ | hdeletes⟩
  · exact .inr ⟨i, call, hkept, hshuts⟩
  · generalize t.writer acted = after, hafter : t.writer acted = after at hacts
    cases hacts with
    | closeHandle | closeNothing => exact .inr ⟨i, _, hcall', hshuts⟩
    | leaveClose =>
      cases hshuts
      exact .inl (by rw [hafter])
    | _ => cases hshuts
  · cases hdeletes <;> cases hshuts

theorem Step.log_eq (h : Step s t) (hs : s.Inv) (hshut : s.Shut writer) :
    (t.writer writer).log = (s.writer writer).log := by
  cases h with
  | exec | execWith => rw [World.withMade_writer]
  | call | deletes => rfl
  | @acts i acted call call' state hcall h =>
    rw [World.withCall_writer]
    by_cases hacted : writer = acted
    · subst hacted
      rw [World.withWriter_self]
      have hfits := hs.fits i call hcall
      generalize hstate : s.writer writer = before at h
      cases h with
      | piece =>
        rcases hshut with hclosed | ⟨j, other, hj, hshuts⟩
        · exact absurd hclosed hfits.2.1
        · cases (hs.lock_of_shuts hj hshuts).symm.trans hfits.1
          cases hj.symm.trans hcall
          cases hshuts
      | _ => rfl
    · rw [s.withWriter_ne hacted]

/-- The call neither is writing to `writer` nor wrote to it. -/
def Call.Refused (writer : FileWriter) : Call → Prop
  | .writing other _ _ => other ≠ writer
  | .wrote other _ result | .done (.write other _) result =>
    other = writer → result = .error (.bridge .closed)
  | _ => True

omit [Runtime] [External] in
theorem Acts.refused {acted : FileWriter} (h : Acts i acted state call state' call')
    (hrefused : call.Refused writer)
    (hclosed : acted = writer → state.lock = none → state.handle = none) :
    call'.Refused writer := by
  cases h with
  | enterWrite hlock hopen => exact fun hsame => hopen (hclosed hsame hlock)
  | refuseWrite => exact fun _ => rfl
  | piece | leaveWrite => exact hrefused
  | written | failWrite => exact fun hsame => absurd hsame hrefused
  | leaveClose =>
    rename_i closer result
    cases closer <;> trivial
  | _ => trivial

omit [Runtime] [External] in
theorem Deletes.refused (h : Deletes call call') : call'.Refused writer := by
  cases h <;> trivial

/-- A call that is new has written nothing. -/
theorem Step.new (h : Step s t) (hnone : s.calls i = none) (hsome : t.calls i = some call) :
    call.Refused writer := by
  cases h with
  | exec | execWith =>
    rw [World.withMade_calls, hnone] at hsome
    cases hsome
  | @call j new hnew hcall =>
    by_cases hij : i = j
    · subst hij
      rw [World.withCall_self] at hsome
      cases hsome
      cases call with
      | write | close | delete => trivial
      | _ => exact hcall.elim
    · rw [s.withCall_ne hij, hnone] at hsome
      cases hsome
  | @acts j _ acted call' state hcall h | @deletes j acted call' hcall h =>
    have hij : i ≠ j := by
      rintro rfl
      rw [hnone] at hcall
      cases hcall
    rw [World.withCall_ne _ hij] at hsome
    cases hnone.symm.trans hsome

theorem Step.refused (h : Step s t) (hs : s.Inv) (hshut : s.Shut writer)
    (hrefused : ∀ call, s.calls i = some call → call.Refused writer)
    (hsome : t.calls i = some call') : call'.Refused writer := by
  cases hi : s.calls i with
  | none => exact h.new hi hsome
  | some call =>
    rcases h.calls hi with hkept | ⟨call'', hcall'', ⟨acted, hacts⟩ | hdeletes⟩
    · cases hsome.symm.trans hkept
      exact hrefused _ hi
    · cases hsome.symm.trans hcall''
      refine hacts.refused (hrefused _ hi) ?_
      rintro rfl hfree
      refine hshut.resolve_right ?_
      rintro ⟨j, other, hj, hshuts⟩
      cases (hs.lock_of_shuts hj hshuts).symm.trans hfree
    · cases hsome.symm.trans hcall''
      exact hdeletes.refused

/-- Once a `close` has the lock, nothing is written to the writer any more, and it refuses every
call that comes after. -/
theorem Steps.shut {world later : World} (hreachable : world.Reachable)
    (hsteps : Steps world later) (hshut : world.Shut writer) :
    later.Shut writer ∧ (later.writer writer).log = (world.writer writer).log ∧
      ∀ i call, world.calls i = none → later.calls i = some call → call.Refused writer := by
  refine Run.preserves ?_ ?_ hsteps
  · refine ⟨hshut, rfl, fun i call hnone hsome => ?_⟩
    rw [hnone] at hsome
    cases hsome
  · rintro middle later hmiddle hstep ⟨hstill, hlog, hrefused⟩
    have hinv : middle.Inv := World.Reachable.inv (hreachable.trans hmiddle)
    refine ⟨hstep.shut hstill, ?_, fun i call hnone hsome => ?_⟩
    · rw [hstep.log_eq hinv hstill, hlog]
    · exact hstep.refused hinv hstill (fun call => hrefused i call hnone) hsome

/-! ### What callers rely on -/

/-- What holds of every writer and process, whatever the calls were and in which order they took
their steps. -/
structure World.Follows (world : World) : Prop where
  /-- No piece of one write stands between two of another. -/
  whole : ∀ writer, Contiguous (world.writer writer).log
  once : ∀ writer, (world.writer writer).closes ≤ 1
  /-- A `close` that returned closed its writer, even when it threw. -/
  closed : ∀ i writer result, world.calls i = some (.done (.close writer) result) →
    (world.writer writer).handle = none
  /-- Once a `close` has the lock, nothing more is written, and a later `write` throws. -/
  refused : ∀ writer, world.Shut writer → ∀ later, Steps world later →
    (later.writer writer).log = (world.writer writer).log ∧
      ∀ i data result, world.calls i = none →
        later.calls i = some (.done (.write writer data) result) →
          result = .error (.bridge .closed)
  /-- Only a caller's `close`, or a `delete` of the process itself that succeeded, closes a writer
  of a process. -/
  kept : ∀ process ∈ world.processes, ∀ writer ∈ process.output.writers,
    (∀ i result, world.calls i ≠ some (.done (.close writer) result)) →
      (∀ i call, world.calls i = some call → call.deleted ≠ some process) →
        (world.writer writer).handle ≠ none
  /-- A `delete` that returned without an error closed every writer of its process. -/
  deleted : ∀ i process, world.calls i = some (.done (.delete process) (.ok ())) →
    ∀ writer ∈ process.output.writers, (world.writer writer).handle = none

theorem World.Reachable.follows {world : World} (h : world.Reachable) : world.Follows where
  whole := h.inv.contiguous
  once writer := by
    rcases h.inv.settled writer with (⟨-, hzero⟩ | ⟨-, hone⟩) | ⟨i, closer, result, hi⟩
    · omega
    · omega
    · exact (h.inv.fits i _ hi).2.2.le
  closed i writer result hi := h.inv.fits i _ hi
  refused writer hshut later hsteps := by
    obtain ⟨-, hlog, hrefused⟩ := Steps.shut h hsteps hshut
    exact ⟨hlog, fun i data result hnone hsome => hrefused i _ hnone hsome rfl⟩
  kept process hprocess writer hwriter hcloses hdeletes hclosed := by
    cases h.owned.why writer hclosed with
    | closed hcall => exact hcloses _ _ hcall
    | @deleted i call other hcall hdeleted hother hshared =>
      refine hdeletes i call hcall ?_
      rw [hdeleted]
      by_contra hne
      have : Std.Symm fun process other : CzLinuxProcess =>
        process.output.writers.Disjoint other.output.writers :=
          ⟨fun _ _ hdisjoint _ hleft hright => hdisjoint hright hleft⟩
      exact h.owned.disjoint.forall hother hprocess (by simpa using hne) hshared hwriter
  deleted i process hi writer hwriter := by
    have hremaining : Remaining world process [] := h.inv.fits i _ hi
    exact (hremaining.closed writer hwriter).resolve_left (by simp)

/-- In every run of execs, writes, closes and deletes the writers follow their processes; and `exec`
and `execWith` give a process the writers of its configuration, in which stdout and stderr share one
when they share a descriptor. -/
theorem writers_follow :
    (∀ world : World, world.Reachable → world.Follows) ∧
    (∀ [Host] (container : LinuxContainer) (configuration : Rust.LinuxProcessConfiguration)
      (made : CzLinuxProcess), exec container configuration = .ok made →
        made.output.writers = made.process.configuration.fileWriters) ∧
    (∀ [Host] (P : Type) (container : LinuxContainer)
      (lent : Lent P Rust.LinuxProcessConfiguration) (made : CzLinuxProcess),
      execWith container lent = .ok made →
        made.output.writers = made.process.configuration.fileWriters) ∧
    ∀ [Host] (configuration : Rust.LinuxProcessConfiguration) (made : LinuxProcessConfiguration),
      LinuxProcessConfiguration.init configuration = .ok made →
        configuration.stderr = configuration.stdout → made.stderr = made.stdout := by
  refine ⟨fun world h => h.follows, ?_, ?_, ?_⟩
  · intro _ container configuration made hmade
    exact (exec_made hmade).writers
  · intro _ P container lent made hmade
    exact (execWith_made hmade).writers
  · intro _ configuration made hmade hshared
    exact LinuxProcessConfiguration.shared_init hmade hshared

/-- The writer of a process whose stdout and stderr share a descriptor. -/
def FileWriter.sample : FileWriter := ⟨{ object := 1, fileDescriptor := 2 }⟩

omit [Runtime] [External] in
/-- The process's `delete` finds the writer twice. Its handle's `close` throws the first time, and
is not called the second. -/
theorem sample_writers_follow :
    let _ := Runtime.ascii
    let _ := External.plain
    let _ := Host.next
    ∃ world : World, world.Follows ∧ (world.writer .sample).closes = 1 ∧
      ∃ process, world.calls 0 = some (.done (.delete process) (.ok ())) ∧
        process.output.writers = [.sample, .sample] := by
  let _ := Runtime.ascii
  let _ := External.plain
  let _ := Host.next
  let container : LinuxContainer := ⟨.error (.other ""), fun _ => none⟩
  let configuration := Rust.Configuration.sample.process
  obtain ⟨process, hprocess, hwriters⟩ : ∃ process, exec container configuration = .ok process ∧
    process.output.writers = [.sample, .sample] := ⟨_, rfl, rfl⟩
  let made : World := { processes := [process] }
  have hmade : Steps {} made := by
    refine .single ?_
    have hexec := @Step.exec _ _ {} Host.next (by rintro _ ⟨_, ⟨⟩, _⟩) container configuration
    rwa [hprocess] at hexec
  have hdelete : Steps made (made.withCall 0 (.delete process)) :=
    .single (.call rfl List.mem_cons_self)
  have hdeleted := hdelete.tail (.deletes (World.withCall_self ..) .deleted)
  rw [hwriters] at hdeleted
  have hfirst := hdeleted.tail (.deletes (World.withCall_self ..) .next)
  have hentered := hfirst.tail (.acts (World.withCall_self ..) (.enterClose rfl))
  have hthrown := hentered.tail
    (.acts (World.withCall_self ..) (.closeHandle (by simp) (.error (.other "EIO"))))
  have hleft := hthrown.tail (.acts (World.withCall_self ..) .leaveClose)
  have hsecond := hleft.tail (.deletes (World.withCall_self ..) .next)
  have hentered' := hsecond.tail (.acts (World.withCall_self ..) (.enterClose (by simp)))
  have hnothing := hentered'.tail (.acts (World.withCall_self ..) (.closeNothing (by simp)))
  have hleft' := hnothing.tail (.acts (World.withCall_self ..) .leaveClose)
  have hclosed := hleft'.tail (.deletes (World.withCall_self ..) .closed)
  refine ⟨_, writers_follow.1 _ (hmade.trans hclosed), ?_, process, World.withCall_self ..,
    hwriters⟩
  simp [made]

end Swift

end ContainerBridge
