import ContainerBridge.Closure.Configuring

/-! The process that `exec` or `execWith` makes, with the writers the bridge made for it. -/

namespace ContainerBridge

open Carry

variable [Runtime] [External]

namespace Swift

/-- Containerization's process, with the configuration it was made with. -/
structure LinuxProcess where
  configuration : LinuxProcessConfiguration

structure CzLinuxProcess where
  process : LinuxProcess
  output : Output

/-- What Containerization's `exec` does on a container or a pod. Given a closure, it calls it once,
on a configuration of its own, unless it throws before that. -/
structure LinuxContainer where
  own : Except SwiftError LinuxProcessConfiguration
  failure : LinuxProcessConfiguration → Option SwiftError

/-- `exec(_:configuration:)`. -/
def LinuxContainer.exec (container : LinuxContainer) (configuration : LinuxProcessConfiguration) :
    Crossing LinuxProcess :=
  match container.failure configuration with
  | some error => .error (.thrown error)
  | none => .ok { configuration }

/-- `CzLinuxContainer.exec`. -/
def exec [Host] (container : LinuxContainer) (configuration : Rust.LinuxProcessConfiguration) :
    Crossing CzLinuxProcess := do
  let configuration ← LinuxProcessConfiguration.init configuration
  return { process := ← container.exec configuration, output := .init configuration }

variable {P : Type}

/-- `CzLinuxContainer.execWith`, and a pod's `execInContainer`. -/
def execWith [Host] (container : LinuxContainer) (lent : Lent P Rust.LinuxProcessConfiguration) :
    Crossing CzLinuxProcess := do
  let output : Output := {}
  let value ← container.own.mapError .thrown
  let (called, output) ← configuredProcess lent output value
  let () ← called.result.mapError .thrown
  return { process := ← container.exec called.value, output }

/-- However a process was made, its output has the writers of its configuration, and they are over
handles made for it. -/
structure CzLinuxProcess.Made [Host] (made : CzLinuxProcess) : Prop where
  writers : made.output.writers = made.process.configuration.fileWriters
  objects : ∀ writer ∈ made.output.writers, ∃ stream, writer.handle.object = Host.object stream

omit [Runtime] [External] in
theorem LinuxContainer.exec_configuration {container : LinuxContainer}
    {configuration : LinuxProcessConfiguration} {process : LinuxProcess}
    (h : container.exec configuration = .ok process) : process.configuration = configuration := by
  rw [exec] at h
  split at h
  · cases h
  · cases h
    rfl

omit [Runtime] [External] in
theorem object_writer [Host] {stream : Stream} {descriptor : Option Int32}
    {made : Option Writer} {writer : FileWriter} (h : Swift.writer stream descriptor = .ok made)
    (hwriter : made.bind Writer.fileWriter? = some writer) :
    writer.handle.object = Host.object stream := by
  cases descriptor with
  | none =>
    cases h
    cases hwriter
  | some descriptor =>
    obtain ⟨handle, hhandle, rfl⟩ := map_eq_ok.mp h
    obtain ⟨copy, hcopy, hmade⟩ := bind_eq_ok.mp hhandle
    cases hmade
    cases hwriter
    rw [duplicate] at hcopy
    split at hcopy
    · cases hcopy
      rfl
    · cases hcopy

omit [Runtime] in
/-- Each writer of a configuration the bridge makes is over a handle made for it. -/
theorem LinuxProcessConfiguration.object_init [Host] {process : Rust.LinuxProcessConfiguration}
    {made : LinuxProcessConfiguration} (h : LinuxProcessConfiguration.init process = .ok made) :
    ∀ writer ∈ made.fileWriters, ∃ stream, writer.handle.object = Host.object stream := by
  rw [init_eq] at h
  obtain ⟨stdio, hstdio, rfl⟩ := map_eq_ok.mp h
  obtain ⟨stdout, hstdout, hstdio⟩ := bind_eq_ok.mp hstdio
  obtain ⟨stderr, hstderr, hstdio⟩ := bind_eq_ok.mp hstdio
  obtain ⟨stdin, -, hstdio⟩ := bind_eq_ok.mp hstdio
  cases hstdio
  intro writer hwriter
  simp only [fileWriters, ofRust, List.mem_filterMap, List.mem_cons, List.not_mem_nil,
    or_false] at hwriter
  obtain ⟨made, rfl | rfl, hmade⟩ := hwriter
  · exact ⟨_, object_writer hstdout hmade⟩
  · split at hstderr
    · cases hstderr
      exact ⟨_, object_writer hstdout hmade⟩
    · exact ⟨_, object_writer hstderr hmade⟩

omit [Runtime] in
/-- Stdout and stderr share a writer when they share a descriptor. -/
theorem LinuxProcessConfiguration.shared_init [Host] {process : Rust.LinuxProcessConfiguration}
    {made : LinuxProcessConfiguration} (h : LinuxProcessConfiguration.init process = .ok made)
    (hshared : process.stderr = process.stdout) : made.stderr = made.stdout := by
  rw [init_eq] at h
  obtain ⟨stdio, hstdio, rfl⟩ := map_eq_ok.mp h
  obtain ⟨stdout, hstdout, hstdio⟩ := bind_eq_ok.mp hstdio
  obtain ⟨stderr, hstderr, hstdio⟩ := bind_eq_ok.mp hstdio
  obtain ⟨stdin, -, hstdio⟩ := bind_eq_ok.mp hstdio
  rw [if_pos hshared] at hstderr
  cases hstderr
  cases hstdio
  rfl

omit [Runtime] in
theorem exec_made [Host] {container : LinuxContainer}
    {configuration : Rust.LinuxProcessConfiguration} {made : CzLinuxProcess}
    (h : exec container configuration = .ok made) : made.Made := by
  obtain ⟨configuration, hconfiguration, h⟩ := bind_eq_ok.mp h
  obtain ⟨process, hprocess, h⟩ := bind_eq_ok.mp h
  cases h
  have hwriters : (Output.init configuration).writers = process.configuration.fileWriters := by
    rw [LinuxContainer.exec_configuration hprocess]
    rfl
  exact ⟨hwriters, LinuxProcessConfiguration.object_init hconfiguration⟩

omit [Runtime] [External] in
/-- A closure that does not throw leaves a value its `make` made. -/
theorem configuring_made {Seed Value : Type} {fill : Seed → Value → Crossing Seed}
    {make : Seed → Crossing Value} {lent : Lent P Seed} {value : Value}
    {called : Called P Seed Value} (h : configuring fill make lent value = .ok called)
    (hresult : called.result = .ok ()) : ∃ seed, make seed = .ok called.value := by
  obtain ⟨filled, -, h⟩ := bind_eq_ok.mp h
  split at h
  · cases h
    cases hresult
  · rename_i seed configuration _
    cases hmade : make seed with
    | ok made =>
      simp only [hmade] at h
      cases h
      exact ⟨seed, hmade⟩
    | error stop =>
      cases stop <;> simp only [hmade] at h <;> cases h
      cases hresult

theorem execWith_made [Host] {container : LinuxContainer}
    {lent : Lent P Rust.LinuxProcessConfiguration} {made : CzLinuxProcess}
    (h : execWith container lent = .ok made) : made.Made := by
  obtain ⟨value, -, h⟩ := bind_eq_ok.mp h
  obtain ⟨⟨called, output⟩, hcalled, h⟩ := bind_eq_ok.mp h
  obtain ⟨⟨⟩, hresult, h⟩ := bind_eq_ok.mp h
  obtain ⟨process, hprocess, h⟩ := bind_eq_ok.mp h
  cases h
  obtain ⟨called, hconfiguring, hkept⟩ := bind_eq_ok.mp hcalled
  cases hok : called.result with
  | error error =>
    simp only [hok] at hkept
    cases hkept
    simp [hok, Except.mapError] at hresult
  | ok =>
    simp only [hok] at hkept
    cases hkept
    obtain ⟨seed, hseed⟩ := configuring_made hconfiguring hok
    have hwriters : (Output.keep {} called.value).writers = process.configuration.fileWriters := by
      rw [LinuxContainer.exec_configuration hprocess]
      rfl
    exact ⟨hwriters, LinuxProcessConfiguration.object_init hseed⟩

end Swift

end ContainerBridge
