import ContainerBridge.Closure.Protocol
import ContainerBridge.Container.PodCrossing

/-! The closures that Swift takes to change a configuration, each made of Rust's: it fills a seed
with the value Swift seeded, lets Rust's closure change it, and takes back what it makes of it. -/

namespace ContainerBridge

open Carry Platform

variable [Runtime] [External]

namespace Swift

/-- The writers the bridge made for an `exec`ed process's stdout and stderr. -/
structure Output where
  writers : List FileWriter := []

/-- `$0 as? FileWriter`. -/
def Writer.fileWriter? : Writer → Option FileWriter
  | .file writer => some writer
  | .other _ => none

/-- The bridge's writers among a process's stdout and stderr, one that both share twice. -/
def LinuxProcessConfiguration.fileWriters (process : LinuxProcessConfiguration) :
    List FileWriter :=
  [process.stdout, process.stderr].filterMap (·.bind Writer.fileWriter?)

def Output.keep (output : Output) (process : LinuxProcessConfiguration) : Output :=
  { writers := output.writers ++ process.fileWriters }

def Output.init (process : LinuxProcessConfiguration) : Output := ({} : Output).keep process

/-- Rust's seed and its closure, which the closure Swift holds refers to. -/
structure Lent (P Seed : Type) where
  seed : Seed
  configuration : Configure P Seed

/-- What a closure `(inout Value) throws -> Void` did: what it threw, if it threw, and the value it
left. -/
structure Called (P Seed Value : Type) where
  result : Except SwiftError Unit
  value : Value
  lent : Lent P Seed

variable {P Seed Value : Type}

/-- `configuring(_:fill:call:make:)`. -/
def configuring (fill : Seed → Value → Crossing Seed) (make : Seed → Crossing Value)
    (lent : Lent P Seed) (value : Value) : Crossing (Called P Seed Value) := do
  let seed ← fill lent.seed value
  match lent.configuration.call seed with
  | ((true, seed), configuration) =>
    return { result := .error (.bridge .bodyFailed), value, lent := { seed, configuration } }
  | ((false, seed), configuration) =>
    match make seed with
    | .ok made => return { result := .ok (), value := made, lent := { seed, configuration } }
    | .error (.thrown error) =>
      return { result := .error error, value, lent := { seed, configuration } }
    | .error stop => .error stop

/-- The manager's closure. -/
def configuredContainer [Host] (lent : Lent P Rust.Configuration) (value : Configuration) :
    Crossing (Called P Rust.Configuration Configuration) :=
  configuring Configuration.fill Configuration.init lent value

/-- The pod's, whose seed Rust filled. -/
def configuredPodContainer [Host] (lent : Lent P Rust.PodContainerConfiguration)
    (value : PodContainerConfiguration) :
    Crossing (Called P Rust.PodContainerConfiguration PodContainerConfiguration) :=
  configuring (fun seed _ => .ok seed) PodContainerConfiguration.init lent value

/-- The closure `exec` takes, which keeps the writers of the configuration it makes. -/
def configuredProcess [Host] (lent : Lent P Rust.LinuxProcessConfiguration) (output : Output)
    (value : LinuxProcessConfiguration) :
    Crossing (Called P Rust.LinuxProcessConfiguration LinuxProcessConfiguration × Output) := do
  let called ← configuring LinuxProcessConfiguration.fill LinuxProcessConfiguration.init lent value
  match called.result with
  | .ok () => return (called, output.keep called.value)
  | .error _ => return (called, output)

/-! ### All or nothing -/

/-- A closure that Rust's `body` makes an update with, of a seed filled from `value`: it throws and
leaves `value`, or leaves what `make` builds of the seed that `body` left. -/
structure Atomic (body : Seed → Body P × Seed) (make : Seed → Crossing Value) (filled : Seed)
    (value : Value) (called : Called P Seed Value) : Prop where
  bodyFailed : (body filled).1 ≠ .ok (.ok ()) →
    called.result = .error (.bridge .bodyFailed) ∧ called.value = value
  makeThrew : ∀ error, (body filled).1 = .ok (.ok ()) →
    make (body filled).2 = .error (.thrown error) →
    called.result = .error error ∧ called.value = value
  made : ∀ made, (body filled).1 = .ok (.ok ()) → make (body filled).2 = .ok made →
    called.result = .ok () ∧ called.value = made

omit [Runtime] [External] in
/-- Unless it stops while it fills the seed, the closure is all or nothing. -/
theorem configuring_atomic {fill : Seed → Value → Crossing Seed} {make : Seed → Crossing Value}
    (hmake : ∀ seed, OnlyThrows (make seed)) {seed filled : Seed} {value : Value}
    (hfill : fill seed value = .ok filled) (body : Seed → Body P × Seed) (thrown : Thrown P) :
    ∃ called, configuring fill make ⟨seed, some body, thrown⟩ value = .ok called ∧
      Atomic body make filled value called := by
  simp only [configuring, hfill, ok_bind, Configure.call_some]
  cases hthrew : (thrown.threw (body filled).1).1 with
  | true =>
    have hran : (body filled).1 ≠ .ok (.ok ()) := by
      rw [ne_eq, ← thrown.threw_eq_false, hthrew]
      exact nofun
    refine ⟨_, rfl, ?_, ?_, ?_⟩ <;> simp [hran]
  | false =>
    have hran : (body filled).1 = .ok (.ok ()) := thrown.threw_eq_false.mp hthrew
    dsimp only
    cases hmade : make (body filled).2 with
    | ok made => refine ⟨_, rfl, ?_, ?_, ?_⟩ <;> simp [hran, hmade]
    | error stop =>
      obtain ⟨error, rfl⟩ := hmake _ stop hmade
      refine ⟨_, rfl, ?_, ?_, ?_⟩ <;> simp [hran, hmade]

omit [Runtime] [External] in
/-- The closure that has not thrown left what the initialiser made. -/
theorem Atomic.made_of_ok {body : Seed → Body P × Seed} {make : Seed → Crossing Value}
    {filled : Seed} {value : Value} {called : Called P Seed Value}
    (h : Atomic body make filled value called) (hmake : OnlyThrows (make (body filled).2))
    (hresult : called.result = .ok ()) : make (body filled).2 = .ok called.value := by
  have hran : (body filled).1 = .ok (.ok ()) := by
    by_contra hfailed
    rw [(h.bodyFailed hfailed).1] at hresult
    cases hresult
  cases hmade : make (body filled).2 with
  | ok made => rw [(h.made made hran hmade).2]
  | error stop =>
    obtain ⟨error, rfl⟩ := hmake stop hmade
    rw [(h.makeThrew error hran hmade).1] at hresult
    cases hresult

omit [Runtime] [External] in
theorem files_writer [Host] {stream : Stream} {descriptor : Option Int32} {made : Option Writer}
    (h : writer stream descriptor = .ok made) :
    (made.bind Writer.fileWriter?).toList.map Writer.file = made.toList := by
  cases descriptor with
  | none =>
    cases h
    rfl
  | some descriptor =>
    obtain ⟨handle, hhandle, rfl⟩ := map_eq_ok.mp h
    obtain ⟨copy, -, hmade⟩ := bind_eq_ok.mp hhandle
    cases hmade
    rfl

omit [Runtime] in
/-- The writers of a configuration that the bridge makes are all its own. -/
theorem LinuxProcessConfiguration.files_init [Host] {process : Rust.LinuxProcessConfiguration}
    {made : LinuxProcessConfiguration} (h : init process = .ok made) :
    made.fileWriters.map Writer.file = made.stdout.toList ++ made.stderr.toList := by
  rw [init_eq] at h
  obtain ⟨stdio, hstdio, rfl⟩ := map_eq_ok.mp h
  obtain ⟨stdout, hstdout, hstdio⟩ := bind_eq_ok.mp hstdio
  obtain ⟨stderr, hstderr, hstdio⟩ := bind_eq_ok.mp hstdio
  obtain ⟨stdin, -, hstdio⟩ := bind_eq_ok.mp hstdio
  cases hstdio
  have hout := files_writer hstdout
  have herr : (stderr.bind Writer.fileWriter?).toList.map Writer.file = stderr.toList := by
    split at hstderr
    · cases hstderr
      exact hout
    · exact files_writer hstderr
  calc (ofRust process ⟨stdin, stdout, stderr⟩).fileWriters.map Writer.file
      = (stdout.bind Writer.fileWriter?).toList.map Writer.file ++
          (stderr.bind Writer.fileWriter?).toList.map Writer.file := by
        simp [fileWriters, ofRust, List.filterMap_eq_flatMap_toList]
    _ = stdout.toList ++ stderr.toList := by rw [hout, herr]

/-- For every value, seed and closure of Rust's, and whatever the initialiser does: Swift's closure
throws and changes nothing, or leaves exactly what the initialiser makes of the seed Rust's closure
left, and an `exec`'s output then has the writers of that configuration's stdout and stderr after
those it had, one that both share twice. A number of CPUs too large for Rust's field stops a
container's before Rust's closure runs. -/
theorem closures_atomic [Host] [RawValuesCopied] :
    (∀ (seed : Rust.Configuration) (body : Rust.Configuration → Body P × Rust.Configuration)
      (thrown : Thrown P) (value : Configuration),
      (¬(0 ≤ value.cpus.toInt ∧ value.cpus.toInt < 2 ^ 32) ∧
        configuredContainer ⟨seed, some body, thrown⟩ value =
          .error (.trap "Not enough bits to represent the passed value")) ∨
      ∃ filled called, Configuration.fill seed value = .ok filled ∧
        configuredContainer ⟨seed, some body, thrown⟩ value = .ok called ∧
        Atomic body Configuration.init filled value called) ∧
    (∀ (seed : Rust.PodContainerConfiguration)
      (body : Rust.PodContainerConfiguration → Body P × Rust.PodContainerConfiguration)
      (thrown : Thrown P) (value : PodContainerConfiguration),
      ∃ called, configuredPodContainer ⟨seed, some body, thrown⟩ value = .ok called ∧
        Atomic body PodContainerConfiguration.init seed value called) ∧
    ∀ (seed : Rust.LinuxProcessConfiguration)
      (body : Rust.LinuxProcessConfiguration → Body P × Rust.LinuxProcessConfiguration)
      (thrown : Thrown P) (output : Output) (value : LinuxProcessConfiguration),
      ∃ filled called output', LinuxProcessConfiguration.fill seed value = .ok filled ∧
        configuredProcess ⟨seed, some body, thrown⟩ output value = .ok (called, output') ∧
        Atomic body LinuxProcessConfiguration.init filled value called ∧
        (∀ error, called.result = .error error → output' = output) ∧
        (called.result = .ok () → output'.writers.map Writer.file =
          output.writers.map Writer.file ++ called.value.stdout.toList ++
            called.value.stderr.toList) := by
  refine ⟨?_, ?_, ?_⟩
  · intro seed body thrown value
    by_cases hcpus : 0 ≤ value.cpus.toInt ∧ value.cpus.toInt < 2 ^ 32
    · have hfill := Configuration.fill_eq seed value hcpus
      obtain ⟨called, hcalled, hatomic⟩ := configuring_atomic Configuration.onlyThrows_init hfill
        body thrown
      exact .inr ⟨_, called, hfill, hcalled, hatomic⟩
    · refine .inl ⟨hcpus, ?_⟩
      rw [configuredContainer, configuring, Configuration.fill_trap seed value hcpus, error_bind]
  · intro seed body thrown value
    exact configuring_atomic PodContainerConfiguration.onlyThrows_init rfl body thrown
  · intro seed body thrown output value
    have hfill := LinuxProcessConfiguration.fill_eq seed value
    obtain ⟨called, hcalled, hatomic⟩ := configuring_atomic
      LinuxProcessConfiguration.onlyThrows_init hfill body thrown
    rw [configuredProcess, hcalled, ok_bind]
    cases hresult : called.result with
    | ok =>
      refine ⟨_, called, _, hfill, rfl, hatomic, by simp [hresult], fun _ => ?_⟩
      have hmade := hatomic.made_of_ok (LinuxProcessConfiguration.onlyThrows_init _) hresult
      rw [Output.keep, List.map_append, LinuxProcessConfiguration.files_init hmade,
        List.append_assoc]
    | error error => exact ⟨_, called, _, hfill, rfl, hatomic, fun _ _ => rfl, by simp [hresult]⟩

omit [Runtime] [External] in
/-- An `exec`'s closure gives stdout and stderr one descriptor, and so one writer, which its output
keeps twice after the one it had. -/
theorem sample_closures_atomic :
    let _ := Runtime.ascii
    let _ := External.plain
    let _ := Host.next
    let seed := Rust.Configuration.sample.process
    let held : FileWriter := ⟨{ object := 4, fileDescriptor := 9 }⟩
    let writer : FileWriter := ⟨{ object := 1, fileDescriptor := 2 }⟩
    ∃ called output', configuredProcess
        ⟨seed, some fun seed =>
          (.ok (.ok ()), { seed with stdout := some 1, stderr := some 1 }), ({} : Thrown String)⟩
        ⟨[held]⟩ (.ofRust seed ⟨none, none, none⟩) = .ok (called, output') ∧
      called.value.stdout = some (.file writer) ∧ called.value.stderr = some (.file writer) ∧
      output'.writers = [held, writer, writer] := by
  let _ := Runtime.ascii
  let _ := External.plain
  let _ := Host.next
  have _ := RawValuesCopied.ascii
  obtain ⟨filled, called, output', hfill, hcalled, hatomic, -, hkept⟩ :=
    closures_atomic.2.2 Rust.Configuration.sample.process (fun seed =>
      (.ok (.ok ()), { seed with stdout := some 1, stderr := some 1 })) ({} : Thrown String)
      ⟨[⟨{ object := 4, fileDescriptor := 9 }⟩]⟩
      (.ofRust Rust.Configuration.sample.process ⟨none, none, none⟩)
  cases hfill
  obtain ⟨hresult, hvalue⟩ := hatomic.made _ rfl rfl
  have hout : called.value.stdout = _ := congrArg LinuxProcessConfiguration.stdout hvalue
  have herr : called.value.stderr = _ := congrArg LinuxProcessConfiguration.stderr hvalue
  refine ⟨called, output', hcalled, hout, herr, ?_⟩
  have houtput := hkept hresult
  rw [hout, herr] at houtput
  exact List.map_injective_iff.mpr (fun _ _ => Writer.file.inj) houtput

/-! ### A closure that changes nothing -/

/-- Two boot logs of one file, or of handles that report one descriptor. -/
def BootLog.Same : BootLog → BootLog → Prop
  | .file path append, .file path' append' => path = path' ∧ append = append'
  | .fileHandle handle, .fileHandle handle' => lentDescriptor handle = lentDescriptor handle'
  | _, _ => False

/-- Two configurations that differ in their stdio alone, and in which handles and which conforming
types they hold. -/
structure Configuration.Same (made original : Configuration) : Prop where
  process : { made.process with
    stdin := original.process.stdin
    stdout := original.process.stdout
    stderr := original.process.stderr } = original.process
  cpus : made.cpus = original.cpus
  memoryInBytes : made.memoryInBytes = original.memoryInBytes
  hostname : made.hostname = original.hostname
  sysctl : made.sysctl.Same original.sysctl
  interfaces : made.interfaces.map Interface.fields = original.interfaces.map Interface.fields
  sockets : made.sockets = original.sockets
  mounts : made.mounts = original.mounts
  maskedPaths : made.maskedPaths = original.maskedPaths
  readonlyPaths : made.readonlyPaths = original.readonlyPaths
  dns : made.dns = original.dns
  hosts : made.hosts = original.hosts
  virtualization : made.virtualization = original.virtualization
  bootLog : Option.Rel BootLog.Same made.bootLog original.bootLog
  ociRuntimePath : made.ociRuntimePath = original.ociRuntimePath
  seccompProfile : made.seccompProfile = original.seccompProfile
  useInit : made.useInit = original.useInit
  unified : made.unified.Same original.unified
  unbridged : made.unbridged = original.unbridged

omit [Runtime] in
theorem BootLog.Same.refl (bootLog : BootLog) : bootLog.Same bootLog := by
  cases bootLog <;> simp [Same]

theorem Configuration.Same.refl (configuration : Configuration) :
    configuration.Same configuration := by
  refine ⟨rfl, rfl, rfl, rfl, .refl _, rfl, rfl, rfl, rfl, rfl, rfl, rfl, rfl, ?_, rfl, rfl, rfl,
    .refl _, rfl⟩
  cases configuration.bootLog with
  | none => exact .none
  | some bootLog => exact .some (.refl bootLog)

omit [External] in
/-- The map of a dictionary's entries makes the dictionary again. -/
theorem uniquing_collect (dictionary : Dictionary String) :
    (Dictionary.uniquing (BTreeMap.collect dictionary.entries).toList).Same dictionary := by
  have hperm := collect_toList_perm dictionary.distinct.keys_nodup
  exact (Dictionary.uniquing_perm (dictionary.distinct.perm hperm.symm)).trans hperm

omit [Runtime] in
theorem fields_interfaces {interfaces made : List Interface}
    (h : (interfaces.map .ofSwift).mapM Interface.init = .ok made) :
    made.map Interface.fields = interfaces.map Interface.fields := by
  rw [List.mapM_map] at h
  induction mapM_eq_ok.mp h with
  | nil => rfl
  | @cons interface made _ _ hfirst hrest ih =>
    obtain ⟨made', hmade', hfields⟩ := interface.init_ofSwift
    rw [Function.comp_apply, hmade'] at hfirst
    cases hfirst
    rw [List.map_cons, List.map_cons, hfields, ih (mapM_eq_ok.mpr hrest)]

/-- The path of a boot log's file is one that crosses from a file URL and back unchanged. -/
def BootLog.URLKept : BootLog → Prop
  | .file url _ => External.fileURL (External.path url) = url
  | .fileHandle _ => True

/-- The descriptor a boot log reports is open. -/
def BootLog.Open [Host] : BootLog → Prop
  | .file .. => True
  | .fileHandle handle => 0 ≤ Host.dup .bootLog (lentDescriptor handle)

omit [Runtime] [External] in
theorem duplicate_of_open [Host] {stream : Stream} {descriptor : Int32}
    (h : 0 ≤ Host.dup stream descriptor) : ∃ handle, duplicate stream descriptor = .ok handle := by
  rw [duplicate, if_pos h]
  exact ⟨_, rfl⟩

theorem same_from [Host] {bootLog made : BootLog} (hkept : bootLog.URLKept)
    (h : BootLog.from (.ofSwift bootLog) = .ok made) : made.Same bootLog := by
  cases bootLog with
  | file url append =>
    obtain ⟨url', hurl, hmade⟩ := bind_eq_ok.mp h
    cases hmade
    obtain ⟨text, htext, rfl⟩ := lentPath_eq_ok.mp hurl
    cases (PathBuf.path_from _).symm.trans htext
    exact ⟨hkept, rfl⟩
  | fileHandle handle =>
    obtain ⟨handle', hhandle, hmade⟩ := bind_eq_ok.mp h
    cases hmade
    exact lentDescriptor_duplicateBootLog hhandle

theorem same_bootLog [Host] {bootLog made : Option BootLog}
    (hkept : ∀ held ∈ bootLog, held.URLKept)
    (h : (bootLog.map Rust.BootLog.ofSwift).mapM BootLog.from = .ok made) :
    Option.Rel BootLog.Same made bootLog := by
  cases bootLog with
  | none =>
    cases h
    exact .none
  | some held =>
    obtain ⟨held', hheld', rfl⟩ := map_eq_ok.mp h
    exact .some (same_from (hkept held rfl) hheld')

theorem from_of_open [Host] {bootLog : BootLog} (h : bootLog.Open) :
    ∃ made, BootLog.from (.ofSwift bootLog) = .ok made := by
  cases bootLog with
  | file url append =>
    exact ⟨_, bind_eq_ok.mpr ⟨_, lentPath_eq_ok.mpr ⟨_, PathBuf.path_from _, rfl⟩, rfl⟩⟩
  | fileHandle handle =>
    obtain ⟨copy, hcopy⟩ := duplicate_of_open h
    exact ⟨_, bind_eq_ok.mpr ⟨_, bind_eq_ok.mpr ⟨copy, hcopy, rfl⟩, rfl⟩⟩

/-- The descriptors that Rust's seed describes for its streams are open. -/
structure StreamsOpen [Host] (process : Rust.LinuxProcessConfiguration) : Prop where
  stdin : ∀ descriptor ∈ process.stdin, 0 ≤ Host.dup .stdin descriptor
  stdout : ∀ descriptor ∈ process.stdout, 0 ≤ Host.dup .stdout descriptor
  stderr : ∀ descriptor ∈ process.stderr, 0 ≤ Host.dup .stderr descriptor

omit [Runtime] [External] in
theorem mapM_of_open [Host] {α : Type} {stream : Stream} {descriptor : Option Int32}
    (make : FileHandle → α) (h : ∀ held ∈ descriptor, 0 ≤ Host.dup stream held) :
    ∃ made, (descriptor.mapM fun held => do return make (← duplicate stream held)) = .ok made := by
  cases descriptor with
  | none => exact ⟨none, rfl⟩
  | some held =>
    obtain ⟨handle, hhandle⟩ := duplicate_of_open (h held rfl)
    exact ⟨some (make handle), by simp [hhandle]⟩

omit [Runtime] [External] in
theorem Stdio.of_open [Host] (process : Rust.LinuxProcessConfiguration) (h : StreamsOpen process) :
    ∃ stdio, Stdio.of process = .ok stdio := by
  obtain ⟨stdin, hstdin⟩ := mapM_of_open (fun handle => ReaderStream.file ⟨handle⟩) h.stdin
  obtain ⟨stdout, hstdout⟩ := mapM_of_open (fun handle => Writer.file ⟨handle⟩) h.stdout
  obtain ⟨stderr, hstderr⟩ := mapM_of_open (fun handle => Writer.file ⟨handle⟩) h.stderr
  have hwriter : writer .stdout process.stdout = .ok stdout := hstdout
  have hwriter' : writer .stderr process.stderr = .ok stderr := hstderr
  simp only [Stdio.of, hwriter, hwriter', hstdin, ok_bind]
  split <;> exact ⟨_, rfl⟩

/-- The initialiser accepts what a value is filled as, when the descriptors it describes are
open. -/
theorem Configuration.init_of_open [Host] [RawValuesCopied]
    {seed : Rust.LinuxProcessConfiguration} {value : Configuration} (hseed : StreamsOpen seed)
    (hlog : ∀ bootLog ∈ value.bootLog, bootLog.Open) :
    ∃ made, Configuration.init (.ofSwift seed value) = .ok made := by
  obtain ⟨stdio, hstdio⟩ := Stdio.of_open
    (Rust.LinuxProcessConfiguration.ofSwift seed value.process)
    ⟨hseed.stdin, hseed.stdout, hseed.stderr⟩
  have hinterface : ∀ interface ∈ value.interfaces.map Rust.Interface.ofSwift,
      StopsOnly (fun _ => False) (Interface.init interface) := by
    intro interface hmem
    obtain ⟨original, -, rfl⟩ := List.mem_map.mp hmem
    obtain ⟨made, hmade, -⟩ := original.init_ofSwift
    rw [hmade]
    exact .ok _
  have hbootLog : ∀ bootLog ∈ value.bootLog.map Rust.BootLog.ofSwift,
      StopsOnly (fun _ => False) (BootLog.from bootLog) := by
    intro bootLog hmem
    obtain ⟨original, horiginal, rfl⟩ := Option.map_eq_some_iff.mp hmem
    obtain ⟨made, hmade⟩ := from_of_open (hlog original horiginal)
    rw [hmade]
    exact .ok _
  obtain ⟨interfaces, hinterfaces⟩ := (StopsOnly.list hinterface).exists_ok
  obtain ⟨bootLog, hbootLog⟩ := (StopsOnly.option hbootLog).exists_ok
  rw [init_eq, LinuxProcessConfiguration.init_eq]
  simp only [Rust.Configuration.ofSwift, hstdio, hinterfaces, hbootLog, ok_map, ok_bind]
  exact ⟨_, rfl⟩

/-- What the initialiser makes of a value that is filled is that value, but for its streams. -/
theorem Configuration.same_init [Host] [RawValuesCopied] {seed : Rust.LinuxProcessConfiguration}
    {value made : Configuration} (hcpus : 0 ≤ value.cpus.toInt ∧ value.cpus.toInt < 2 ^ 32)
    (hunbridged : value.unbridged = External.containerFields)
    (hkept : ∀ bootLog ∈ value.bootLog, bootLog.URLKept)
    (h : Configuration.init (.ofSwift seed value) = .ok made) : made.Same value := by
  rw [Configuration.init_eq, LinuxProcessConfiguration.init_eq] at h
  obtain ⟨process, hprocess, h⟩ := bind_eq_ok.mp h
  obtain ⟨interfaces, hinterfaces, h⟩ := bind_eq_ok.mp h
  obtain ⟨bootLog, hbootLog, h⟩ := bind_eq_ok.mp h
  obtain ⟨stdio, -, rfl⟩ := map_eq_ok.mp hprocess
  cases h
  exact {
    process := by rw [ofRust, Rust.Configuration.ofSwift, LinuxProcessConfiguration.ofRust_ofSwift]
    cpus := int_ofNat_toInt hcpus
    memoryInBytes := rfl
    hostname := rfl
    sysctl := uniquing_collect value.sysctl
    interfaces := fields_interfaces hinterfaces
    sockets := by simp [ofRust, Rust.Configuration.ofSwift, Function.comp_def]
    mounts := by simp [ofRust, Rust.Configuration.ofSwift, Function.comp_def]
    maskedPaths := rfl
    readonlyPaths := rfl
    dns := by simp [ofRust, Rust.Configuration.ofSwift, Function.comp_def]
    hosts := by simp [ofRust, Rust.Configuration.ofSwift, Function.comp_def]
    virtualization := rfl
    bootLog := same_bootLog hkept hbootLog
    ociRuntimePath := rfl
    seccompProfile := SeccompProfile.ofRust_ofSwift value.seccompProfile
    useInit := rfl
    unified := uniquing_collect value.unified
    unbridged := hunbridged.symm }

/-- Whatever Swift seeds and whatever Rust's seed is, a closure of Rust's that returns without
touching its argument leaves the configuration as it was, but for its streams; and Swift's closure
does not throw while the descriptors that are described are open. -/
theorem configuredContainer_unchanged [Host] [RawValuesCopied] (seed : Rust.Configuration)
    (thrown : Thrown P) (value : Configuration)
    (hcpus : 0 ≤ value.cpus.toInt ∧ value.cpus.toInt < 2 ^ 32)
    (hunbridged : value.unbridged = External.containerFields)
    (hkept : ∀ bootLog ∈ value.bootLog, bootLog.URLKept) :
    ∃ called, configuredContainer ⟨seed, some fun seed => (.ok (.ok ()), seed), thrown⟩ value =
        .ok called ∧
      called.value.Same value ∧
      (StreamsOpen seed.process → (∀ bootLog ∈ value.bootLog, bootLog.Open) →
        called.result = .ok ()) := by
  obtain ⟨called, hcalled, hatomic⟩ := configuring_atomic (P := P) Configuration.onlyThrows_init
    (Configuration.fill_eq seed value hcpus) (fun seed => (.ok (.ok ()), seed)) thrown
  refine ⟨called, hcalled, ?_, fun hseed hlog => ?_⟩
  · cases hmade : Configuration.init (.ofSwift seed.process value) with
    | error stop =>
      obtain ⟨error, rfl⟩ := Configuration.onlyThrows_init _ stop hmade
      rw [(hatomic.makeThrew error rfl hmade).2]
      exact .refl value
    | ok made =>
      rw [(hatomic.made made rfl hmade).2]
      exact Configuration.same_init hcpus hunbridged hkept hmade
  · obtain ⟨made, hmade⟩ := Configuration.init_of_open hseed hlog
    exact (hatomic.made made rfl hmade).1

/-- A value the bridge never makes: an interface of another type, and a boot log whose handle does
not know the caller's number. -/
def Configuration.sample : @Configuration .ascii .plain :=
  let _ := Runtime.ascii
  let _ := External.plain
  { process := {
      arguments := ["/bin/sh"]
      environmentVariables := []
      workingDirectory := "/"
      user := ⟨0, 0, none, [], ""⟩
      rlimits := [⟨.stackSize, 8, 4⟩]
      noNewPrivileges := false
      capabilities := ⟨[.bpf], [], [], [], []⟩
      terminal := true
      stdin := some (.other 9)
      stdout := some (.other 10)
      stderr := none }
    cpus := 4
    memoryInBytes := 1024
    hostname := none
    sysctl := ⟨[("net.b", "2"), ("net.a", "1")], by decide⟩
    interfaces := [.other ⟨⟨⟨3232235520⟩, ⟨24, by decide⟩, rfl⟩, none, none, none, some ⟨2⟩, 1280⟩]
    sockets := []
    mounts := [⟨"virtiofs", "share", "/mnt", [], .virtiofs ["ro"]⟩]
    maskedPaths := ["/proc/kcore"]
    readonlyPaths := []
    dns := none
    hosts := some ⟨[⟨"127.0.0.1", ["localhost"], some ""⟩], none⟩
    virtualization := false
    bootLog := some (.fileHandle { object := 7, fileDescriptor := 5 })
    ociRuntimePath := some "/usr/bin/crun"
    seccompProfile := .default
    useInit := false
    unified := ⟨[], by decide⟩
    unbridged := () }

omit [Runtime] [External] in
theorem Configuration.sample_unchanged :
    let _ := Runtime.ascii
    let _ := External.plain
    let _ := Host.next
    ∃ called, configuredContainer
        ⟨Rust.Configuration.sample, some fun seed => (.ok (.ok ()), seed), ({} : Thrown String)⟩
        sample = .ok called ∧
      called.value.Same sample ∧
      (StreamsOpen Rust.Configuration.sample.process →
        (∀ bootLog ∈ sample.bootLog, bootLog.Open) → called.result = .ok ()) := by
  let _ := Runtime.ascii
  let _ := External.plain
  let _ := Host.next
  have _ := RawValuesCopied.ascii
  refine configuredContainer_unchanged Rust.Configuration.sample {} sample (by decide) rfl ?_
  rintro _ ⟨⟩
  trivial

end Swift

end ContainerBridge
