import ContainerBridge.Closure.Progress
import ContainerBridge.Library.Run

/-! What holds of a progress handler in every run of its batches: the first panic recorded is the
one that is resumed. That none starts once a panic was recorded needs that no batch has checked for
one before and not started yet. -/

namespace ContainerBridge

open Platform

namespace Progress

variable {P R : Type} {i j : Nat} {s t : World P R} {label : Label}

namespace World

variable {batch : Batch P} {event : Event P}

@[simp] theorem log_withBatch : (s.withBatch i batch).log = s.log := rfl

@[simp] theorem log_logs : (s.logs event).log = s.log ++ [event] := rfl

theorem withBatch_self : (s.withBatch i batch).batches i = some batch := Function.update_self ..

theorem withBatch_ne (h : j ≠ i) : (s.withBatch i batch).batches j = s.batches j :=
  Function.update_of_ne h _ _

theorem first_append (h : t.log = s.log ++ [event]) (hevent : event.recorded? = none) :
    t.first = s.first := by
  simp [first, h, List.filterMap_append, hevent]

theorem first_recorded {payload : P} (h : t.log = s.log ++ [.recorded i payload]) :
    t.first = some (s.first.getD payload) := by
  simp only [first, h, List.filterMap_append, List.head?_append]
  cases (s.log.filterMap Event.recorded?).head? <;> rfl

end World

/-- The panic kept is the first recorded, every panic of the handler is recorded before the call
returns, and the call ends with the first. -/
structure World.Inv (world : World P R) : Prop where
  kept : (∀ result, world.progressing ≠ .ended result) → world.panic.kept = world.first
  panicked : ∀ i payload, .panicked i payload ∈ world.log →
    world.batches i = some (.unwinding payload) ∨ .recorded i payload ∈ world.log
  awaited : world.progressing ≠ .calling → ∀ i batch, world.batches i = some batch → batch = .done
  ended : ∀ result, world.progressing = .ended result →
    (∀ payload, result = .error payload → world.first = some payload) ∧
      ∀ value, result = .ok value → world.first = none

/-- A batch that is not done is one that Swift still waits for. -/
theorem World.Inv.calling {batch : Batch P} (hs : s.Inv) (hbatch : s.batches i = some batch)
    (hdone : batch ≠ .done) : s.progressing = .calling := by
  by_contra hcalling
  exact hdone (hs.awaited hcalling i batch hbatch)

/-- A step of a batch during the call, which records nothing. -/
theorem World.Inv.withBatch {batch : Batch P} (hs : s.Inv) (hcalling : s.progressing = .calling)
    (hunwinding : ∀ payload, s.batches i ≠ some (.unwinding payload)) :
    (s.withBatch i batch).Inv where
  kept := hs.kept
  panicked j payload hlog := by
    refine (hs.panicked j payload hlog).imp_left fun hj => ?_
    have hne : j ≠ i := by
      rintro rfl
      exact hunwinding payload hj
    rwa [withBatch_ne hne]
  awaited hdone := absurd hcalling hdone
  ended result hended := by
    rw [show s.progressing = .ended result from hended] at hcalling
    cases hcalling

/-- An event that records nothing is logged. -/
theorem World.Inv.logs {event : Event P} (hs : s.Inv) (hevent : event.recorded? = none)
    (hpanicked : ∀ i payload, event = .panicked i payload →
      s.batches i = some (.unwinding payload)) : (s.logs event).Inv where
  kept hended := (hs.kept hended).trans (first_append (log_logs) hevent).symm
  panicked j payload hlog := by
    rcases List.mem_append.mp hlog with hold | hnew
    · exact (hs.panicked j payload hold).imp_right (List.mem_append_left _)
    · exact .inl (hpanicked j payload (List.mem_singleton.mp hnew).symm)
  awaited := hs.awaited
  ended := by
    rw [first_append log_logs hevent]
    exact hs.ended

theorem World.Inv.recording {payload : P} (hs : s.Inv)
    (hbatch : s.batches i = some (.unwinding payload)) : (s.recording i payload).Inv where
  kept hended := by
    rw [first_recorded (s := s) (i := i) rfl, ← hs.kept hended]
    rfl
  panicked j other hlog := by
    rcases List.mem_append.mp hlog with hold | hnew
    · by_cases hji : j = i
      · subst hji
        refine .inr ?_
        rcases hs.panicked j other hold with hunwinding | hrecorded
        · rw [hbatch] at hunwinding
          cases hunwinding
          exact List.mem_append_right _ (List.mem_singleton_self _)
        · exact List.mem_append_left _ hrecorded
      · refine (hs.panicked j other hold).imp (fun hj => ?_) (List.mem_append_left _)
        exact (withBatch_ne hji).trans hj
    · cases List.mem_singleton.mp hnew
  awaited hdone := absurd (hs.calling hbatch nofun) hdone
  ended result hended := by
    have hcalling := hs.calling hbatch nofun
    rw [show s.progressing = .ended result from hended] at hcalling
    cases hcalling

/-- Whether a panic is resumed says whether one was kept. -/
theorem kept_of_resume (panic : Panic P) (returned : R) :
    (∀ payload, resume panic returned = .error payload → panic.kept = some payload) ∧
      ∀ value, resume panic returned = .ok value → panic.kept = none := by
  rw [resume]
  cases panic.kept with
  | none => exact ⟨nofun, fun _ _ => rfl⟩
  | some payload =>
    refine ⟨?_, nofun⟩
    rintro _ ⟨⟩
    rfl

theorem Step.inv (h : Step s label t) (hs : s.Inv) : t.Inv := by
  cases h with
  | delivers hcalling hhandler hnew events =>
    exact hs.withBatch hcalling (by simp [hnew])
  | unhandled hbatch | skips hbatch | checks hbatch | returns hbatch =>
    exact hs.withBatch (hs.calling hbatch nofun) (by simp [hbatch])
  | starts hbatch =>
    exact (hs.withBatch (hs.calling hbatch nofun) (by simp [hbatch])).logs rfl nofun
  | panics hbatch =>
    refine (hs.withBatch (hs.calling hbatch nofun) (by simp [hbatch])).logs rfl ?_
    rintro _ _ ⟨⟩
    exact World.withBatch_self
  | records hbatch => exact hs.recording hbatch
  | swiftReturns hcalling hawaited value =>
    exact ⟨fun _ => hs.kept (by simp [hcalling]), hs.panicked, fun _ => hawaited, nofun⟩
  | @resumes value hreturned =>
    have hkept : s.panic.kept = s.first := hs.kept (by simp [hreturned])
    refine ⟨fun hended => absurd rfl (hended _), hs.panicked,
      fun _ => hs.awaited (by simp [hreturned]), ?_⟩
    rintro _ ⟨⟩
    have hresume := kept_of_resume s.panic value
    rw [hkept] at hresume
    exact hresume

theorem World.Inv.init (handler : Option (ProgressHandler P)) :
    ({ handler } : World P R).Inv :=
  ⟨fun _ => rfl, nofun, nofun, nofun⟩

theorem World.Reachable.inv (h : s.Reachable) : s.Inv := by
  obtain ⟨handler, hrun⟩ := h
  exact Run.preserves (.init handler) (fun _ _ _ ⟨_, hstep⟩ hs => hstep.inv hs) hrun

theorem World.Inv.resumes (hs : s.Inv) : s.Resumes := by
  intro result h
  refine ⟨(hs.ended result h).1, fun value hvalue i payload hlog => ?_⟩
  have hfirst := (hs.ended result h).2 value hvalue
  rcases hs.panicked i payload hlog with hunwinding | hrecorded
  · cases hs.awaited (by simp [h]) i _ hunwinding
  · have hmem : payload ∈ s.log.filterMap Event.recorded? :=
      List.mem_filterMap.mpr ⟨_, hrecorded, rfl⟩
    rw [List.head?_eq_none_iff.mp hfirst] at hmem
    cases hmem

/-! ### Stopping -/

/-- Once a panic was recorded no batch is about to start, and none has started. -/
structure World.Quiet (world : World P R) : Prop where
  clear : world.first ≠ none → world.Clear
  stops : world.Stops

/-- An event keeps the order as long as no start follows a panic that was recorded. -/
theorem World.Stops.append {event : Event P} (hs : s.Stops) (hlog : t.log = s.log ++ [event])
    (hevent : ∀ j, event = .started j → s.first = none) : t.Stops := by
  intro before i payload after hsplit j hstarted
  rw [hlog] at hsplit
  rcases List.eq_nil_or_concat after with rfl | ⟨earlier, last, rfl⟩
  · cases hstarted
  · rw [List.concat_eq_append, ← List.cons_append, ← List.append_assoc] at hsplit
    obtain ⟨hbefore, hlast⟩ := List.append_inj' hsplit rfl
    rw [List.concat_eq_append] at hstarted
    rcases List.mem_append.mp hstarted with hearlier | hnow
    · exact hs before i payload earlier hbefore j hearlier
    · cases hlast
      have hnone := hevent j (List.mem_singleton.mp hnow).symm
      simp [first, hbefore, List.filterMap_append, Event.recorded?] at hnone

theorem World.Clear.withBatch {batch : Batch P} (hs : s.Clear)
    (hbatch : ∀ events, batch ≠ .checked events) : (s.withBatch i batch).Clear := by
  intro j events hj
  by_cases hji : j = i
  · subst hji
    rw [withBatch_self] at hj
    exact hbatch events (Option.some.inj hj)
  · rw [withBatch_ne hji] at hj
    exact hs j events hj

theorem Step.quiet (h : Step s label t) (hclear : label = .records → s.Clear) (hinv : s.Inv)
    (hs : s.Quiet) : t.Quiet := by
  cases h with
  | delivers | unhandled | skips | returns =>
    exact ⟨fun hfirst => (hs.clear hfirst).withBatch nofun, hs.stops⟩
  | checks hbatch hhandler hcaught =>
    have hfirst : s.first = none := by
      rw [← hinv.kept (by simp [hinv.calling hbatch nofun])]
      simpa [caught] using hcaught
    exact ⟨fun hrecorded => absurd hfirst hrecorded, hs.stops⟩
  | @starts i events hbatch =>
    have hfirst : s.first = none := by
      by_contra hrecorded
      exact hs.clear hrecorded i events hbatch
    refine ⟨fun hrecorded => ?_, hs.stops.append rfl fun _ _ => hfirst⟩
    rw [World.first_append rfl rfl] at hrecorded
    exact absurd hfirst hrecorded
  | panics hbatch =>
    refine ⟨fun hrecorded => ?_, hs.stops.append rfl nofun⟩
    rw [World.first_append rfl rfl] at hrecorded
    exact (hs.clear hrecorded).withBatch nofun
  | records hbatch =>
    exact ⟨fun _ => (hclear rfl).withBatch nofun, hs.stops.append rfl nofun⟩
  | swiftReturns | resumes => exact ⟨hs.clear, hs.stops⟩

theorem World.ReachableClear.quiet (h : s.ReachableClear) : s.Inv ∧ s.Quiet := by
  obtain ⟨handler, hrun⟩ := h
  refine Run.preserves ⟨.init handler, fun hfirst => absurd rfl hfirst, ?_⟩ ?_ hrun
  · intro before i payload after hsplit
    cases before <;> cases hsplit
  · rintro before after - ⟨label, hstep, hclear⟩ ⟨hinv, hquiet⟩
    exact ⟨hstep.inv hinv, hstep.quiet hclear hinv hquiet⟩

/-- In every run the panic resumed is the first recorded, and the call returns only if no invocation
panicked. While every panic is recorded with no batch between its check and its handler's start, no
invocation starts once a panic was recorded; a panic recorded while a batch stands there may be
followed by a start. -/
theorem handler_stops :
    (∀ world : World P R, world.Reachable → world.Resumes) ∧
    (∀ world : World P R, world.ReachableClear → world.Stops ∧ world.Resumes) ∧
    ∀ before after : World P R, Step before .records after → ¬before.Clear →
      ∃ world, Step after .other world ∧ ¬world.Stops := by
  refine ⟨fun world h => h.inv.resumes, fun world h => ⟨h.quiet.2.stops, h.quiet.1.resumes⟩, ?_⟩
  intro before after hstep hclear
  simp only [World.Clear, not_forall, not_not] at hclear
  obtain ⟨j, events, hj⟩ := hclear
  cases hstep with
  | @records i payload hbatch =>
    have hne : j ≠ i := by
      rintro rfl
      rw [hbatch] at hj
      cases hj
    refine ⟨_, .starts (i := j) ((World.withBatch_ne hne).trans hj), ?_⟩
    intro hstops
    refine hstops before.log i payload [.started j] ?_ j (List.mem_singleton_self _)
    simp [World.recording]

/-- A handler that always panics. -/
def gaveUp : ProgressHandler String := fun _ ran => ran = .error "the handler gave up"

/-- One batch panics, and its panic is resumed. -/
theorem reachable_resumed : ∃ world : World String Unit, world.ReachableClear ∧
    world.progressing = .ended (.error "the handler gave up") := by
  refine ⟨_, ⟨some gaveUp,
    .head ⟨_, .delivers (i := 0) rfl rfl rfl [], nofun⟩ <|
    .head ⟨_, .checks World.withBatch_self rfl rfl, nofun⟩ <|
    .head ⟨_, .starts World.withBatch_self, nofun⟩ <|
    .head ⟨_, .panics World.withBatch_self (rfl : _ = some gaveUp) rfl, nofun⟩ <|
    .head ⟨_, .records World.withBatch_self, fun _ => ?_⟩ <|
    .head ⟨_, .swiftReturns rfl ?_ (), nofun⟩ <|
    .single ⟨_, .resumes rfl, nofun⟩⟩, rfl⟩
  · intro i events h
    cases i <;> cases h
  · intro i batch h
    cases i <;> cases h
    rfl

theorem sample_handler_stops : ∃ world : World String Unit,
    world.progressing = .ended (.error "the handler gave up") ∧ world.Stops ∧
      world.first = some "the handler gave up" := by
  obtain ⟨world, hreachable, hended⟩ := reachable_resumed
  obtain ⟨hstops, hresumes⟩ := handler_stops.2.1 world hreachable
  exact ⟨world, hended, hstops, (hresumes _ hended).1 _ rfl⟩

/-- Two batches check before either starts; one starts after the other's panic was recorded. -/
theorem starts_after_recorded : ¬∀ world : World String Unit, world.Reachable → world.Stops := by
  intro h
  refine h _ ⟨some gaveUp,
    .head ⟨_, .delivers (i := 0) rfl rfl rfl []⟩ <|
    .head ⟨_, .delivers (i := 1) rfl rfl rfl []⟩ <|
    .head ⟨_, .checks (i := 0) (rfl : _ = some (Batch.called [] [])) rfl rfl⟩ <|
    .head ⟨_, .checks (i := 1) (rfl : _ = some (Batch.called [] [])) rfl rfl⟩ <|
    .head ⟨_, .starts (i := 0) (rfl : _ = some (Batch.checked []))⟩ <|
    .head ⟨_, .panics (i := 0) (rfl : _ = some (Batch.running [])) (rfl : _ = some gaveUp) rfl⟩ <|
    .head ⟨_, .records (i := 0) rfl⟩ <|
    .single ⟨_, .starts (i := 1) (rfl : _ = some (Batch.checked []))⟩⟩
    [.started 0, .panicked 0 "the handler gave up"] 0 "the handler gave up" [.started 1] rfl 1
    (List.mem_singleton_self _)

end Progress

end ContainerBridge
