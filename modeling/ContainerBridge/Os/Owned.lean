import ContainerBridge.Os.Calls
import Mathlib.Data.Finset.Erase

/-! Callers of `FileDescriptorOps`. What they see and do is what callers of Swift's own functions
do, and each descriptor that a call opens has one owner until it is dropped. -/

namespace ContainerBridge

open Carry Platform

variable [Runtime]

namespace FdOps

/-- A caller, which chooses each call by what the calls before returned. -/
inductive Client (α : Type) where
  | returns (value : α)
  | calls (call : Call) (next : Except Rust.Error call.Output → Client α)

section Clients

variable {World Component FilePath α : Type}
  (ops : Swift.FileDescriptorOps World Component FilePath)

/-- The caller's run with the wrappers. -/
def Client.run : Client α → World → Crossing (α × World)
  | .returns value, world => .ok (value, world)
  | .calls call next, world => do
    let (returned, after) ← call.perform ops world
    run (next returned) after

/-- The caller's run with Swift's own functions. -/
def Client.meaning : Client α → World → α × World
  | .returns value, world => (value, world)
  | .calls call next, world =>
    let (returned, after) := call.result ops world
    meaning (next returned) after

/-- A caller of the wrappers ends with what it would with Swift's own functions, and leaves the
system as it would then: no wrapper traps, a path that isn't UTF-8 is refused before Swift is asked,
and every error is the one that Swift threw. -/
theorem client_refines (client : Client α) (world : World) :
    client.run ops world = .ok (client.meaning ops world) ∧
      ∀ action thrown, Rebuilt action thrown (rebuilt action thrown) := by
  refine ⟨?_, rebuilt_rebuilt⟩
  induction client generalizing world with
  | returns value => rfl
  | calls call next ih =>
    show (call.perform ops world >>= fun ran => (next ran.1).run ops ran.2) = _
    rw [Call.perform_eq, ok_bind]
    exact ih _ _

end Clients

/-! ### Owners -/

/-- The descriptors that are open, and what closing one does. -/
structure Descriptors (World : Type) where
  opened : World → Finset Int32
  close : Int32 → World → World
  opened_close : ∀ fd world, opened (close fd world) = (opened world).erase fd

section Owners

variable {World Component FilePath : Type} (descriptors : Descriptors World)

/-- From one state to the next the descriptors in `handed` are opened, and none is closed. -/
structure Accounts (before : World) (handed : List Int32) (after : World) : Prop where
  nodup : handed.Nodup
  fresh : ∀ fd ∈ handed, fd ∉ descriptors.opened before
  opened : ∀ fd, fd ∈ descriptors.opened after ↔ fd ∈ handed ∨ fd ∈ descriptors.opened before

/-- The descriptors that are handed over, which a failure has none of. -/
def handedBy {ε α : Type} (handed : α → List Int32) : Except ε α → List Int32
  | .ok output => handed output
  | .error _ => []

/-- Swift's function opens the descriptors it hands over, and closes none. -/
def Hands {α : Type} (handed : α → List Int32) (body : Throwing World α) : Prop :=
  ∀ world, Accounts descriptors world (handedBy handed (body.run.run world).1)
    (body.run.run world).2

/-- Which of Swift's functions open a descriptor for the caller. -/
structure Opens (ops : Swift.FileDescriptorOps World Component FilePath) : Prop where
  entryType : ∀ fd name, Hands descriptors (fun _ => []) (ops.entryType fd name)
  openDirectory : ∀ fd name, Hands descriptors (fun fd => [fd]) (ops.openDirectory fd name)
  makeDirectory : ∀ fd name permissions,
    Hands descriptors (fun _ => []) (ops.makeDirectory fd name permissions)
  unlink : ∀ fd name, Hands descriptors (fun _ => []) (ops.unlink fd name)
  statusOf : ∀ fd, Hands descriptors (fun _ => []) (ops.statusOf fd)
  status : ∀ fd name, Hands descriptors (fun _ => []) (ops.status fd name)
  statusRelativePath : ∀ fd path symlinks,
    Hands descriptors (fun _ => []) (ops.statusRelativePath fd path symlinks)
  openFile : ∀ fd name, Hands descriptors (fun fd => [fd]) (ops.openFile fd name)
  openFileRelativePath : ∀ fd path symlinks,
    Hands descriptors (fun fd => [fd]) (ops.openFileRelativePath fd path symlinks)
  createFile : ∀ fd name permissions,
    Hands descriptors (fun fd => [fd]) (ops.createFile fd name permissions)
  makeSymlink : ∀ fd name target,
    Hands descriptors (fun _ => []) (ops.makeSymlink fd name target)
  readSymlink : ∀ fd name, Hands descriptors (fun _ => []) (ops.readSymlink fd name)
  unlinkRecursive : ∀ fd filename,
    Hands descriptors (fun _ => []) (ops.unlinkRecursive fd filename)
  getCanonicalPath : ∀ fd, Hands descriptors (fun _ => []) (ops.getCanonicalPath fd)

/-- A caller with the `OwnedFd`s it holds. -/
structure Holder (World : Type) where
  world : World
  owned : List Int32

/-- The caller calls, with whatever descriptor it can borrow, or drops a descriptor it owns. -/
inductive Step (ops : Swift.FileDescriptorOps World Component FilePath) :
    Holder World → Holder World → Prop
  | calls {holder : Holder World} (call : Call) {returned : Except Rust.Error call.Output}
      {after : World} (hreturns : call.perform ops holder.world = .ok (returned, after)) :
      Step ops holder ⟨after, handedBy call.handed returned ++ holder.owned⟩
  | drops {holder : Holder World} {fd : Int32} (howned : fd ∈ holder.owned) :
      Step ops holder ⟨descriptors.close fd holder.world, holder.owned.erase fd⟩

variable {descriptors} {ops : Swift.FileDescriptorOps World Component FilePath}

omit [Runtime] in
theorem run_bind {α β : Type} (first : Throwing World α) (body : α → Throwing World β)
    (world : World) : (first >>= body).run.run world =
      match first.run.run world with
      | (.ok value, after) => (body value).run.run after
      | (.error thrown, after) => (.error thrown, after) := by
  rw [ExceptT.run_bind, StateT.run_bind]
  generalize first.run.run world = ran
  obtain ⟨returned, after⟩ := ran
  cases returned <;> rfl

omit [Runtime] in
theorem Accounts.refl (world : World) : Accounts descriptors world [] world where
  nodup := .nil
  fresh := nofun
  opened fd := by simp

omit [Runtime] in
/-- What opens nothing comes before what opens some. -/
theorem Accounts.trans {before between after : World} {handed : List Int32}
    (h₁ : Accounts descriptors before [] between)
    (h₂ : Accounts descriptors between handed after) :
    Accounts descriptors before handed after := by
  have hsame : ∀ fd, fd ∈ descriptors.opened between ↔ fd ∈ descriptors.opened before := by
    intro fd
    rw [h₁.opened fd]
    simp
  refine ⟨h₂.nodup, fun fd hfd hopen => ?_, fun fd => ?_⟩
  · exact h₂.fresh fd hfd ((hsame fd).mpr hopen)
  · rw [h₂.opened fd, hsame fd]

omit [Runtime] in
theorem hands_bind {α β : Type} {handed : β → List Int32} {first : Throwing World α}
    {body : α → Throwing World β} (hfirst : Hands descriptors (fun _ => []) first)
    (hbody : ∀ value, Hands descriptors handed (body value)) :
    Hands descriptors handed (first >>= body) := by
  intro world
  have hbefore := hfirst world
  rw [run_bind]
  generalize first.run.run world = ran at hbefore
  obtain ⟨returned, after⟩ := ran
  cases returned with
  | error thrown => exact hbefore
  | ok value => exact hbefore.trans (hbody value after)

omit [Runtime] in
theorem hands_component (name : String) :
    Hands descriptors (fun _ => []) (Swift.component ops name) := by
  intro world
  unfold Swift.component
  cases ops.component name with
  | none => exact .refl world
  | some component => exact .refl world

omit [Runtime] in
theorem Hands.map {α β : Type} {body : Throwing World α}
    (h : Hands descriptors (fun _ => []) body) (f : α → β) :
    Hands descriptors (fun _ => []) (f <$> body) := by
  intro world
  have hbody := h world
  rw [run_map]
  generalize body.run.run world = ran at hbody
  obtain ⟨returned, after⟩ := ran
  cases returned <;> exact hbody

theorem accounts_of_meaning (call : Call) (argument : Except Rust.Error String)
    {body : String → Throwing World call.Output}
    (hmeaning : call.meaning ops = (do return body (← argument)))
    (hhands : ∀ text, Hands descriptors call.handed (body text)) (world : World) :
    Accounts descriptors world (handedBy call.handed (call.result ops world).1)
      (call.result ops world).2 := by
  unfold Call.result
  rw [hmeaning]
  cases argument with
  | error failure => exact .refl world
  | ok text =>
    have hbody := hhands text world
    show Accounts descriptors world (handedBy call.handed
      (((body text).run.run world).1.mapError (rebuilt call.action))) ((body text).run.run world).2
    generalize (body text).run.run world = ran at hbody
    obtain ⟨returned, after⟩ := ran
    cases returned <;> exact hbody

/-- What a call hands over is what it opened, and it closes nothing. -/
theorem Opens.accounts (h : Opens descriptors ops) (call : Call) (world : World) :
    Accounts descriptors world (handedBy call.handed (call.result ops world).1)
      (call.result ops world).2 := by
  have hcomponent : ∀ name, Hands descriptors (fun _ => []) (Swift.component ops name) :=
    hands_component
  cases call with
  | entryType fd name =>
    exact accounts_of_meaning (.entryType fd name) (path name) rfl
      (fun text => hands_bind (hcomponent text) (h.entryType fd)) world
  | openDirectory fd name =>
    exact accounts_of_meaning (.openDirectory fd name) (path name) rfl
      (fun text => hands_bind (hcomponent text) (h.openDirectory fd)) world
  | makeDirectory fd name permissions =>
    exact accounts_of_meaning (.makeDirectory fd name permissions) (path name) rfl (fun text =>
      hands_bind (hcomponent text) fun name => h.makeDirectory fd name permissions) world
  | unlink fd name =>
    exact accounts_of_meaning (.unlink fd name) (path name) rfl
      (fun text => hands_bind (hcomponent text) (h.unlink fd)) world
  | statusOf fd =>
    exact accounts_of_meaning (.statusOf fd) (.ok "") rfl (fun _ => h.statusOf fd) world
  | status fd name =>
    exact accounts_of_meaning (.status fd name) (path name) rfl
      (fun text => hands_bind (hcomponent text) (h.status fd)) world
  | statusRelativePath fd relativePath symlinks =>
    exact accounts_of_meaning (.statusRelativePath fd relativePath symlinks) (path relativePath) rfl
      (fun text => h.statusRelativePath fd _ symlinks) world
  | openFile fd name =>
    exact accounts_of_meaning (.openFile fd name) (path name) rfl
      (fun text => hands_bind (hcomponent text) (h.openFile fd)) world
  | openFileRelativePath fd relativePath symlinks =>
    exact accounts_of_meaning (.openFileRelativePath fd relativePath symlinks) (path relativePath)
      rfl (fun text => h.openFileRelativePath fd _ symlinks) world
  | createFile fd name permissions =>
    exact accounts_of_meaning (.createFile fd name permissions) (path name) rfl (fun text =>
      hands_bind (hcomponent text) fun name => h.createFile fd name permissions) world
  | makeSymlink fd name target =>
    exact accounts_of_meaning (.makeSymlink fd name target) (path name) rfl (fun text =>
      hands_bind (hcomponent text) fun name => h.makeSymlink fd name target) world
  | readSymlink fd name =>
    exact accounts_of_meaning (.readSymlink fd name) (path name) rfl
      (fun text => hands_bind (hcomponent text) (h.readSymlink fd)) world
  | unlinkRecursive fd filename =>
    exact accounts_of_meaning (.unlinkRecursive fd filename) (path filename) rfl
      (fun text => hands_bind (hcomponent text) (h.unlinkRecursive fd)) world
  | getCanonicalPath fd =>
    exact accounts_of_meaning (.getCanonicalPath fd) (.ok "") rfl
      (fun _ => (h.getCanonicalPath fd).map PathBuf.from) world

/-! ### Runs -/

/-- What is open is what was open at the start and what the caller owns, each once. -/
structure Owned (descriptors : Descriptors World) (start : World) (holder : Holder World) :
    Prop where
  nodup : holder.owned.Nodup
  fresh : ∀ fd ∈ holder.owned, fd ∉ descriptors.opened start
  opened : ∀ fd, fd ∈ descriptors.opened holder.world ↔
    fd ∈ holder.owned ∨ fd ∈ descriptors.opened start

omit [Runtime] in
theorem owned_start (start : World) : Owned descriptors start ⟨start, []⟩ where
  nodup := .nil
  fresh := nofun
  opened fd := by simp

omit [Runtime] in
theorem Owned.calls {start after : World} {holder : Holder World} {handed : List Int32}
    (h : Owned descriptors start holder)
    (haccounts : Accounts descriptors holder.world handed after) :
    Owned descriptors start ⟨after, handed ++ holder.owned⟩ := by
  refine ⟨?_, fun fd hfd => ?_, fun fd => ?_⟩
  · refine List.nodup_append'.mpr ⟨haccounts.nodup, h.nodup, fun fd hhanded howned => ?_⟩
    exact haccounts.fresh fd hhanded ((h.opened fd).mpr (.inl howned))
  · rcases List.mem_append.mp hfd with hhanded | howned
    · intro hstart
      exact haccounts.fresh fd hhanded ((h.opened fd).mpr (.inr hstart))
    · exact h.fresh fd howned
  · show fd ∈ descriptors.opened after ↔ fd ∈ handed ++ holder.owned ∨ _
    rw [haccounts.opened fd, h.opened fd, List.mem_append, or_assoc]

omit [Runtime] in
theorem Owned.drops {start : World} {holder : Holder World} (h : Owned descriptors start holder)
    {fd : Int32} (howned : fd ∈ holder.owned) :
    Owned descriptors start ⟨descriptors.close fd holder.world, holder.owned.erase fd⟩ := by
  refine ⟨h.nodup.erase fd, fun other hother => ?_, fun other => ?_⟩
  · exact h.fresh other (List.mem_of_mem_erase hother)
  · show other ∈ descriptors.opened (descriptors.close fd holder.world) ↔
      other ∈ holder.owned.erase fd ∨ _
    rw [descriptors.opened_close, Finset.mem_erase, h.opened other, h.nodup.mem_erase_iff]
    constructor
    · rintro ⟨hne, hother | hstart⟩
      · exact .inl ⟨hne, hother⟩
      · exact .inr hstart
    · rintro (⟨hne, hother⟩ | hstart)
      · exact ⟨hne, .inl hother⟩
      · refine ⟨?_, .inr hstart⟩
        rintro rfl
        exact h.fresh other howned hstart

theorem Owned.step {start : World} {holder later : Holder World}
    (hopens : Opens descriptors ops) (h : Owned descriptors start holder)
    (hstep : Step descriptors ops holder later) : Owned descriptors start later := by
  cases hstep with
  | calls call hreturns =>
    rw [Call.perform_eq] at hreturns
    have hresult := Except.ok.inj hreturns
    have haccounts := hopens.accounts call holder.world
    rw [hresult] at haccounts
    exact h.calls haccounts
  | drops howned => exact h.drops howned

/-- Over any run of calls and drops, with any of them failing: the caller is the one owner of each
descriptor that the calls opened and that it has not dropped, it owns no other, and every
descriptor that was open before the run stays open. -/
theorem descriptors_owned (hopens : Opens descriptors ops) {start : World}
    {holder : Holder World}
    (hrun : Relation.ReflTransGen (Step descriptors ops) ⟨start, []⟩ holder) :
    holder.owned.Nodup ∧ (∀ fd ∈ holder.owned, fd ∉ descriptors.opened start) ∧
      ∀ fd, fd ∈ descriptors.opened holder.world ↔
        fd ∈ holder.owned ∨ fd ∈ descriptors.opened start := by
  have h : Owned descriptors start holder :=
    Run.preserves (owned_start start) (fun _ _ _ hstep hinv => hinv.step hopens hstep) hrun
  exact ⟨h.nodup, h.fresh, h.opened⟩

end Owners

/-! ### A caller that opens a file -/

/-- A system that opens the first descriptor above those that are open, and where nothing else
goes well. -/
def Sample.ops : Swift.FileDescriptorOps (Finset Int32) String String where
  component := some
  filePath text := text
  entryType _ _ := throw (.fdOps "" .notFound)
  openDirectory _ _ := throw (.fdOps "" .notFound)
  makeDirectory _ _ _ := throw (.fdOps "" .notFound)
  unlink _ _ := throw (.fdOps "" .notFound)
  statusOf _ := throw (.fdOps "" .notFound)
  status _ _ := throw (.fdOps "" .notFound)
  statusRelativePath _ _ _ := throw (.fdOps "" .notFound)
  openFile _ _ := fun opened =>
    if 4 ∈ opened then (.error (.fdOps "" .notFound), opened) else (.ok 4, insert 4 opened)
  openFileRelativePath _ _ _ := throw (.fdOps "" .notFound)
  createFile _ _ _ := throw (.fdOps "" .notFound)
  makeSymlink _ _ _ := throw (.fdOps "" .notFound)
  readSymlink _ _ := throw (.fdOps "" .notFound)
  unlinkRecursive _ _ := throw (.fdOps "" .notFound)
  getCanonicalPath _ := throw (.fdOps "" .notFound)

def Sample.descriptors : Descriptors (Finset Int32) where
  opened := id
  close fd opened := opened.erase fd
  opened_close _ _ := rfl

omit [Runtime] in
theorem Sample.throws {α : Type} (handed : α → List Int32) (error : SwiftError) :
    Hands descriptors handed (throw error) := fun world => .refl world

omit [Runtime] in
theorem Sample.opens : Opens descriptors ops where
  entryType _ _ := throws _ _
  openDirectory _ _ := throws _ _
  makeDirectory _ _ _ := throws _ _
  unlink _ _ := throws _ _
  statusOf _ := throws _ _
  status _ _ := throws _ _
  statusRelativePath _ _ _ := throws _ _
  openFile fd name := by
    intro opened
    by_cases hopen : (4 : Int32) ∈ opened
    · have hrun : (ops.openFile fd name).run.run opened =
          (.error (.fdOps "" .notFound), opened) := if_pos hopen
      rw [hrun]
      exact .refl opened
    · have hrun : (ops.openFile fd name).run.run opened = (.ok 4, insert 4 opened) :=
        if_neg hopen
      rw [hrun]
      refine ⟨List.nodup_singleton 4, fun other hother => ?_, fun other => ?_⟩
      · rw [List.mem_singleton.mp hother]
        exact hopen
      · show other ∈ insert 4 opened ↔ other ∈ [4] ∨ other ∈ opened
        rw [Finset.mem_insert, List.mem_singleton]
  openFileRelativePath _ _ _ := throws _ _
  createFile _ _ _ := throws _ _
  makeSymlink _ _ _ := throws _ _
  readSymlink _ _ := throws _ _
  unlinkRecursive _ _ := throws _ _
  getCanonicalPath _ := throws _ _

omit [Runtime] in
theorem sample_descriptors_owned : ∃ holder : Holder (Finset Int32), holder.owned = [4] ∧
    4 ∉ Sample.descriptors.opened {3} ∧ 4 ∈ Sample.descriptors.opened holder.world := by
  let _ := Runtime.ascii
  let call : Call := .openFile 3 (.from "config.json")
  let holder : Holder (Finset Int32) := ⟨{3}, []⟩
  have hpath : path (.from "config.json") = .ok "config.json" := by
    unfold path
    rw [PathBuf.path_from]
  have hreturns : call.perform Sample.ops holder.world = .ok (.ok (4 : Int32), insert 4 {3}) := by
    have hmeaning : call.meaning Sample.ops =
        .ok (Swift.component Sample.ops "config.json" >>= Sample.ops.openFile 3) := by
      show (path (.from "config.json") >>= fun name =>
        pure (Swift.component Sample.ops name >>= Sample.ops.openFile 3)) = _
      rw [hpath]
      rfl
    rw [Call.perform_eq]
    unfold Call.result
    rw [hmeaning]
    rfl
  have hcalls : Step Sample.descriptors Sample.ops holder ⟨insert 4 {3}, [4]⟩ :=
    Step.calls call hreturns
  obtain ⟨-, hfresh, hopened⟩ := descriptors_owned Sample.opens (.single hcalls)
  have howned : (4 : Int32) ∈ [4] := List.mem_singleton_self 4
  exact ⟨_, rfl, hfresh 4 howned, (hopened 4).mpr (.inl howned)⟩

end FdOps

end ContainerBridge
