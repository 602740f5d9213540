import ContainerBridge.Closure.Configuring
import ContainerBridge.Image.Crossing
import ContainerBridge.Wrapper

/-! Process configurations that Swift fills and hands back: one made of an image's, and one whose
terminal is set. -/

namespace ContainerBridge

open Carry Platform

variable [Runtime] [External]

namespace Swift

/-- `Terminal`, an object with the descriptor of its handle. -/
structure Terminal where
  object : Nat
  fileDescriptor : Int32

/-- What Containerization does with process configurations by itself. -/
structure Containerization where
  /-- `LinuxProcessConfiguration(from:)`. -/
  fromImage : ImageConfig → LinuxProcessConfiguration
  /-- `setTerminalIO(terminal:)`. -/
  setTerminalIO : LinuxProcessConfiguration → Terminal → LinuxProcessConfiguration

/-- `setTerminalIO` turns on `terminal`, appends `TERM=xterm` to the environment, and uses the
terminal for stdin and stdout. -/
def Containerization.SetsTerminal (containerization : Containerization) : Prop :=
  ∀ configuration terminal, containerization.setTerminalIO configuration terminal =
    { configuration with
      environmentVariables := configuration.environmentVariables ++ ["TERM=xterm"]
      terminal := true
      stdin := some (.other terminal.object)
      stdout := some (.other terminal.object) }

/-- What is kept of the values that Swift hands Rust's `filled`. -/
abbrev Slot := Option Rust.LinuxProcessConfiguration

/-- `receive.call`, which keeps the value and leaves a default in its place. -/
def receive (value : Rust.LinuxProcessConfiguration) (_ : Slot) : Slot := some value

variable (containerization : Containerization)

def linuxProcessConfigurationFromImageConfig (config : Rust.ImageConfig)
    (seed : Rust.LinuxProcessConfiguration) (slot : Slot) : Crossing (Returned Unit × Slot) := do
  let config ← ImageConfig.init config
  let seed ← LinuxProcessConfiguration.fill seed (containerization.fromImage config)
  return (.init (.ok ()), receive seed slot)

def linuxProcessConfigurationSetTerminalIO [Host] (process : Rust.LinuxProcessConfiguration)
    (terminal : Terminal) (slot : Slot) : Crossing (Returned Unit × Slot) :=
  match LinuxProcessConfiguration.init process with
  | .ok configuration => do
    let configuration := containerization.setTerminalIO configuration terminal
    let process ← LinuxProcessConfiguration.fill process configuration
    return (.init (.ok ()), receive process slot)
  | .error (.thrown error) => return (.init (.error error), slot)
  | .error stop => .error stop

end Swift

/-! ### Rust -/

/-- The configuration that a throwing Swift call filled and handed back. -/
def Platform.filledProcess (call : Swift.Slot → Crossing (Returned Unit × Swift.Slot))
    (action : String) : Crossing (Except Rust.Error Rust.LinuxProcessConfiguration) := do
  let (returned, process) ← call none
  match ← outcome returned.outcome action with
  | .error failure => return .error failure
  | .ok _ => match process with
    | some process => return .ok process
    | none => .error (.panic "Swift hands back the configuration it fills")

namespace Rust

/-- `LinuxCapabilities(capabilities:)`. -/
def LinuxCapabilities.withCapabilities (capabilities : List CapabilityName) :
    LinuxCapabilities where
  bounding := capabilities
  effective := capabilities
  inheritable := []
  permitted := capabilities
  ambient := []

def LinuxCapabilities.defaultOciCapabilities : LinuxCapabilities := withCapabilities [
  .chown, .dacOverride, .fsetid, .fowner, .mknod, .netRaw, .setgid, .setuid, .setfcap, .setpcap,
  .netBindService, .sysChroot, .kill, .auditWrite]

namespace LinuxProcessConfiguration

def defaultPath : String := "/usr/local/sbin:/usr/local/bin:/usr/sbin:/usr/bin:/sbin:/bin"

/-- `LinuxProcessConfiguration::default()`. -/
def default : LinuxProcessConfiguration where
  arguments := []
  environmentVariables := [s!"PATH={defaultPath}"]
  workingDirectory := "/"
  user := { uid := 0, gid := 0, umask := none, additionalGids := [], username := "" }
  rlimits := []
  noNewPrivileges := false
  capabilities := .defaultOciCapabilities
  terminal := false
  stdin := none
  stdout := none
  stderr := none

variable (containerization : Swift.Containerization)

def fromImageConfig (config : ImageConfig) : Crossing (Except Error LinuxProcessConfiguration) :=
  filledProcess (Swift.linuxProcessConfigurationFromImageConfig containerization config default)
    "make a process configuration from an image's"

/-- What failed, when a terminal couldn't be set. -/
def setsTerminal : String := "set a process configuration's terminal"

/-- What the call returns, and the configuration it leaves. -/
def setTerminalIo [Host] (process : LinuxProcessConfiguration) (terminal : Swift.Terminal) :
    Crossing (Except Error Unit × LinuxProcessConfiguration) := do
  match ← filledProcess
      (Swift.linuxProcessConfigurationSetTerminalIO containerization process terminal)
      setsTerminal with
  | .error failure => return (.error failure, process)
  | .ok filled => return (.ok (), { filled with
      stdin := some terminal.fileDescriptor
      stdout := some terminal.fileDescriptor })

end LinuxProcessConfiguration

end Rust

/-! ### One terminal -/

/-- The stream's descriptor, when it can't be duplicated. -/
def missing [Host] (stream : Stream) (descriptor : Option Int32) : Option Int32 :=
  descriptor.filter fun held => Host.dup stream held < 0

/-- What Swift throws at a descriptor it can't duplicate. -/
def cannotDuplicate (descriptor : Int32) : SwiftError :=
  .bridge (.malformed "descriptor" (toString descriptor))

omit [Runtime] [External] in
theorem mapM_of_missing [Host] {α : Type} (make : FileHandle → α) {stream : Stream}
    {descriptor : Option Int32} {held : Int32} (h : missing stream descriptor = some held) :
    (descriptor.mapM fun held => do return make (← duplicate stream held)) =
      .error (.thrown (cannotDuplicate held)) := by
  obtain ⟨rfl, hlt⟩ := Option.filter_eq_some_iff.mp h
  have hfails : ¬0 ≤ Host.dup stream held := Int32.not_le.mpr (of_decide_eq_true hlt)
  have hduplicate : duplicate stream held = .error (.thrown (cannotDuplicate held)) := if_neg hfails
  show (some <$> (duplicate stream held >>= fun handle => pure (make handle))) = _
  rw [hduplicate]
  rfl

omit [Runtime] [External] in
theorem mapM_of_not_missing [Host] {α : Type} (make : FileHandle → α) {stream : Stream}
    {descriptor : Option Int32} (h : missing stream descriptor = none) :
    ∃ made, (descriptor.mapM fun held => do return make (← duplicate stream held)) = .ok made := by
  refine Swift.mapM_of_open make fun held hheld => ?_
  have hopen := Option.filter_eq_none_iff.mp h held hheld
  exact Int32.not_lt.mp fun hlt => hopen (decide_eq_true hlt)

namespace Rust.LinuxProcessConfiguration

/-- The first descriptor of the process that can't be duplicated, in the order in which Swift
duplicates them. -/
def closed [Host] (process : LinuxProcessConfiguration) : Option Int32 :=
  (missing .stdout process.stdout).or
    ((if process.stderr = process.stdout then none else missing .stderr process.stderr).or
      (missing .stdin process.stdin))

/-- The configuration with its terminal set. -/
def withTerminal (process : LinuxProcessConfiguration) (terminal : Swift.Terminal) :
    LinuxProcessConfiguration :=
  { process with
    environmentVariables := process.environmentVariables ++ ["TERM=xterm"]
    terminal := true
    stdin := some terminal.fileDescriptor
    stdout := some terminal.fileDescriptor }

/-- The configuration with some terminals set, one after the other. -/
def withTerminals (process : LinuxProcessConfiguration) (terminals : List Swift.Terminal) :
    LinuxProcessConfiguration :=
  { process with
    environmentVariables :=
      process.environmentVariables ++ List.replicate terminals.length "TERM=xterm"
    terminal := process.terminal || !terminals.isEmpty
    stdin := (terminals.getLast?.map (·.fileDescriptor)).or process.stdin
    stdout := (terminals.getLast?.map (·.fileDescriptor)).or process.stdout }

omit [Runtime] [External] in
theorem writer_of_missing [Host] {stream : Stream} {descriptor : Option Int32} {held : Int32}
    (h : missing stream descriptor = some held) :
    Swift.writer stream descriptor = .error (.thrown (cannotDuplicate held)) :=
  mapM_of_missing _ h

omit [Runtime] [External] in
/-- A process's writers are made when both descriptors can be duplicated. -/
theorem stderr_of_open [Host] {process : LinuxProcessConfiguration} (stdout : Option Swift.Writer)
    (h : (if process.stderr = process.stdout then none else missing .stderr process.stderr) =
      none) :
    ∃ stderr, (if process.stderr = process.stdout then pure stdout
      else Swift.writer .stderr process.stderr) = .ok stderr := by
  split at h
  · next heq => exact ⟨stdout, if_pos heq⟩
  · next hne =>
    obtain ⟨stderr, hstderr⟩ := mapM_of_not_missing (fun handle => Swift.Writer.file ⟨handle⟩) h
    exact ⟨stderr, (if_neg hne).trans hstderr⟩

omit [Runtime] [External] in
/-- Swift's streams are not made when a descriptor can't be duplicated, and it throws that. -/
theorem stdio_of_closed [Host] {process : LinuxProcessConfiguration} {held : Int32}
    (h : process.closed = some held) :
    Swift.Stdio.of process = .error (.thrown (cannotDuplicate held)) := by
  unfold Swift.Stdio.of
  rcases Option.or_eq_some_iff.mp h with hstdout | ⟨hstdout, hrest⟩
  · rw [writer_of_missing hstdout, error_bind]
  obtain ⟨stdout, hmade⟩ := mapM_of_not_missing (fun handle => Swift.Writer.file ⟨handle⟩) hstdout
  have hwriter : Swift.writer .stdout process.stdout = .ok stdout := hmade
  rw [hwriter, ok_bind]
  rcases Option.or_eq_some_iff.mp hrest with hstderr | ⟨hstderr, hstdin⟩
  · split at hstderr
    · cases hstderr
    · next hne => rw [if_neg hne, writer_of_missing hstderr, error_bind]
  · obtain ⟨stderr, hmade⟩ := stderr_of_open stdout hstderr
    rw [hmade, ok_bind, mapM_of_missing (fun handle => Swift.ReaderStream.file ⟨handle⟩) hstdin,
      error_bind]

omit [Runtime] [External] in
theorem stdio_of_open [Host] {process : LinuxProcessConfiguration} (h : process.closed = none) :
    ∃ stdio, Swift.Stdio.of process = .ok stdio := by
  obtain ⟨hstdout, hrest⟩ := Option.or_eq_none_iff.mp h
  obtain ⟨hstderr, hstdin⟩ := Option.or_eq_none_iff.mp hrest
  obtain ⟨stdout, hout⟩ := mapM_of_not_missing (fun handle => Swift.Writer.file ⟨handle⟩) hstdout
  obtain ⟨stderr, herr⟩ := stderr_of_open stdout hstderr
  obtain ⟨stdin, hin⟩ := mapM_of_not_missing (fun handle => Swift.ReaderStream.file ⟨handle⟩) hstdin
  have hwriter : Swift.writer .stdout process.stdout = .ok stdout := hout
  refine ⟨{ stdin, stdout, stderr }, ?_⟩
  unfold Swift.Stdio.of
  rw [hwriter, ok_bind, herr, ok_bind, hin]
  rfl

/-! ### One call -/

variable {containerization : Swift.Containerization}

/-- The call fails and changes nothing when a descriptor of the process can't be duplicated. -/
theorem setTerminalIo_of_closed [Host] {process : LinuxProcessConfiguration} {held : Int32}
    (h : process.closed = some held) (terminal : Swift.Terminal) :
    setTerminalIo containerization process terminal =
      .ok (.error (rebuilt setsTerminal (cannotDuplicate held)), process) := by
  have hinit : Swift.LinuxProcessConfiguration.init process =
      .error (.thrown (cannotDuplicate held)) := by
    rw [Swift.LinuxProcessConfiguration.init_eq, stdio_of_closed h]
    rfl
  have hfails : outcome
      (Returned.init (.error (cannotDuplicate held) : Except SwiftError Unit)).outcome
        setsTerminal = .ok (.error (rebuilt setsTerminal (cannotDuplicate held))) :=
    outcome_error _ _
  unfold setTerminalIo filledProcess Swift.linuxProcessConfigurationSetTerminalIO
  rw [hinit]
  dsimp only
  rw [pure_eq_ok, ok_bind]
  dsimp only
  rw [hfails]
  rfl

/-- Else the call sets the terminal, and whatever Swift carries of the process comes back as it
was. -/
theorem setTerminalIo_of_open [Host] (hsets : containerization.SetsTerminal)
    {process : LinuxProcessConfiguration} (h : process.closed = none) (terminal : Swift.Terminal) :
    setTerminalIo containerization process terminal =
      .ok (.ok (), process.withTerminal terminal) := by
  obtain ⟨stdio, hstdio⟩ := stdio_of_open h
  have hinit : Swift.LinuxProcessConfiguration.init process = .ok (.ofRust process stdio) := by
    rw [Swift.LinuxProcessConfiguration.init_eq, hstdio]
    rfl
  unfold setTerminalIo filledProcess Swift.linuxProcessConfigurationSetTerminalIO
  rw [hinit]
  dsimp only
  rw [hsets, Swift.LinuxProcessConfiguration.fill_eq, ok_bind, pure_eq_ok, ok_bind]
  have hreturns : outcome (Returned.init (.ok ())).outcome setsTerminal = .ok (.ok _) :=
    outcome_ok .absent setsTerminal
  dsimp only
  rw [hreturns, ok_bind]
  show Except.ok (Except.ok (), _) = _
  simp [ofSwift, Swift.LinuxProcessConfiguration.ofRust, withTerminal, Function.comp_def]

variable (containerization) in
omit [External] in
/-- Swift makes a configuration of any image's, and the one Rust gets has no descriptors. -/
theorem fromImageConfig_eq (config : ImageConfig) :
    ∃ sent, Swift.ImageConfig.init config = .ok sent ∧
      fromImageConfig containerization config =
        .ok (.ok (.ofSwift default (containerization.fromImage sent))) := by
  obtain ⟨sent, hsent⟩ : ∃ sent, Swift.ImageConfig.init config = .ok sent :=
    ⟨_, by simp [Swift.ImageConfig.init, strings]; rfl⟩
  refine ⟨sent, hsent, ?_⟩
  have hreturns : outcome (Returned.init (.ok ())).outcome
      "make a process configuration from an image's" = .ok (.ok _) := outcome_ok .absent _
  unfold fromImageConfig filledProcess Swift.linuxProcessConfigurationFromImageConfig
  rw [hsent, ok_bind, Swift.LinuxProcessConfiguration.fill_eq, ok_bind, pure_eq_ok, ok_bind]
  dsimp only
  rw [hreturns]
  rfl

/-! ### Runs -/

/-- A call, with the system as it is during the call. -/
structure Setting where
  host : Host
  terminal : Swift.Terminal

/-- What came of a call: the configuration before it, and what it returned. -/
structure Settled where
  before : LinuxProcessConfiguration
  returned : Except Error Unit

/-- Some calls, one after the other, and the configuration they leave. -/
def setTerminals (containerization : Swift.Containerization) :
    List Setting → LinuxProcessConfiguration →
      Crossing (List Settled × LinuxProcessConfiguration)
  | [], process => .ok ([], process)
  | setting :: settings, process => do
    let _ := setting.host
    let (returned, after) ← setTerminalIo containerization process setting.terminal
    let (others, last) ← setTerminals containerization settings after
    return (⟨process, returned⟩ :: others, last)

/-- The call fails exactly when a descriptor that the configuration had before it can't be
duplicated, and names the first of them. -/
def Setting.Settles (setting : Setting) (settled : Settled) : Prop :=
  let _ := setting.host
  settled.returned = match settled.before.closed with
    | none => .ok ()
    | some held => .error (rebuilt setsTerminal (cannotDuplicate held))

/-- The terminals of the calls that didn't fail. -/
def taken : List Setting → List Settled → List Swift.Terminal
  | setting :: settings, settled :: others =>
    match settled.returned with
    | .ok () => setting.terminal :: taken settings others
    | .error _ => taken settings others
  | _, _ => []

omit [Runtime] [External] in
@[simp] theorem withTerminals_nil (process : LinuxProcessConfiguration) :
    process.withTerminals [] = process := by
  simp [withTerminals]

omit [Runtime] [External] in
theorem withTerminals_cons (process : LinuxProcessConfiguration) (terminal : Swift.Terminal)
    (terminals : List Swift.Terminal) :
    process.withTerminals (terminal :: terminals) =
      (process.withTerminal terminal).withTerminals terminals := by
  have hlast : ∀ descriptor : Option Int32,
      ((terminal :: terminals).getLast?.map (·.fileDescriptor)).or descriptor =
        (terminals.getLast?.map (·.fileDescriptor)).or (some terminal.fileDescriptor) := by
    intro descriptor
    rw [List.getLast?_cons]
    cases terminals.getLast? <;> rfl
  simp only [withTerminals, withTerminal, hlast, List.length_cons, List.replicate_succ]
  simp

/-- Over any run of calls: a call fails exactly when the configuration it is given has a descriptor
that can't be duplicated, be it one that the call replaces, and the configuration is then left as it
was. Else nothing of it changes but for what a terminal sets, so that the calls leave one `TERM` for
each that returned and the terminal of the last of them. One made of an image's has no descriptor,
and takes its first terminal whatever is open. -/
theorem terminals_settle (hsets : containerization.SetsTerminal) :
    (∀ (process : LinuxProcessConfiguration) (settings : List Setting),
      ∃ settled, setTerminals containerization settings process =
          .ok (settled, process.withTerminals (taken settings settled)) ∧
        List.Forall₂ Setting.Settles settings settled) ∧
    ∀ [Host] (config : ImageConfig) (terminal : Swift.Terminal),
      ∃ made, fromImageConfig containerization config = .ok (.ok made) ∧
        setTerminalIo containerization made terminal =
          .ok (.ok (), made.withTerminal terminal) := by
  constructor
  · intro process settings
    induction settings generalizing process with
    | nil => exact ⟨[], by simp [setTerminals, taken], .nil⟩
    | cons setting settings ih =>
      let _ := setting.host
      cases hclosed : process.closed with
      | some held =>
        obtain ⟨others, hothers, hsettles⟩ := ih process
        have hcall : setTerminalIo containerization process setting.terminal = _ :=
          setTerminalIo_of_closed hclosed setting.terminal
        refine ⟨⟨process, .error (rebuilt setsTerminal (cannotDuplicate held))⟩ :: others, ?_,
          .cons ?_ hsettles⟩
        · unfold setTerminals
          dsimp only
          rw [hcall, ok_bind]
          dsimp only
          rw [hothers]
          rfl
        · unfold Setting.Settles
          dsimp only
          rw [hclosed]
      | none =>
        obtain ⟨others, hothers, hsettles⟩ := ih (process.withTerminal setting.terminal)
        have hcall := setTerminalIo_of_open hsets hclosed setting.terminal
        refine ⟨⟨process, .ok ()⟩ :: others, ?_, .cons ?_ hsettles⟩
        · unfold setTerminals
          dsimp only
          rw [hcall, ok_bind]
          dsimp only
          rw [hothers, ← withTerminals_cons]
          rfl
        · unfold Setting.Settles
          dsimp only
          rw [hclosed]
  · intro host config terminal
    obtain ⟨sent, -, hmade⟩ := fromImageConfig_eq containerization config
    exact ⟨_, hmade, setTerminalIo_of_open hsets rfl terminal⟩

end Rust.LinuxProcessConfiguration

/-- What Containerization does with a terminal, and with the arguments of an image's
configuration. -/
def Swift.Containerization.sample : Containerization where
  fromImage config := {
    arguments := config.entrypoint.getD [] ++ config.cmd.getD []
    environmentVariables := config.env.getD []
    workingDirectory := config.workingDir.getD "/"
    user := { uid := 0, gid := 0, umask := none, additionalGids := [], username := "" }
    rlimits := []
    noNewPrivileges := false
    capabilities :=
      { bounding := [], effective := [], inheritable := [], permitted := [], ambient := [] }
    terminal := false
    stdin := none
    stdout := none
    stderr := none }
  setTerminalIO configuration terminal := { configuration with
    environmentVariables := configuration.environmentVariables ++ ["TERM=xterm"]
    terminal := true
    stdin := some (.other terminal.object)
    stdout := some (.other terminal.object) }

/-- Three calls, the second while no descriptor can be duplicated. -/
def Rust.LinuxProcessConfiguration.sampleSettings : List Setting := [
  ⟨Host.next, ⟨0, 5⟩⟩, ⟨{ Host.next with dup := fun _ _ => -1 }, ⟨1, 7⟩⟩, ⟨Host.next, ⟨2, 9⟩⟩]

omit [Runtime] [External] in
theorem Rust.LinuxProcessConfiguration.sample_terminals_settle :
    let _ := Runtime.ascii
    let _ := External.plain
    ∃ settled, settled.length = 3 ∧ setTerminals .sample sampleSettings default =
      .ok (settled, default.withTerminals (taken sampleSettings settled)) := by
  let _ := Runtime.ascii
  let _ := External.plain
  have hsets : Swift.Containerization.sample.SetsTerminal := fun _ _ => rfl
  obtain ⟨settled, hrun, hsettles⟩ := (terminals_settle hsets).1 default sampleSettings
  exact ⟨settled, hsettles.length_eq.symm, hrun⟩

end ContainerBridge
