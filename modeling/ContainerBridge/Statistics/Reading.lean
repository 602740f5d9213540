import ContainerBridge.Outcome

/-! How Rust reads a container's statistics: each section through the category that reports it, its
counters by their places in an array, and a counter that may be missing as an outcome of its own. -/

namespace ContainerBridge

variable [Runtime]

namespace CzOutcome

/-! ### Swift's getters -/

/-- The `id`, `interface` or `mountPoint` of the statistics held. -/
def statisticsName (outcome : CzOutcome) : Crossing String :=
  cast <|
    (outcome.held Swift.ContainerStatistics).map (fun statistics => statistics.id) <|>
    (outcome.held Swift.NetworkStatistics).map (fun network => network.interface) <|>
    (outcome.held Swift.FilesystemStatistics).map (fun filesystem => filesystem.mountPoint)

/-- The `UInt64` fields of the statistics held, in the order Swift declares them. -/
def statisticsNumbers (outcome : CzOutcome) : Crossing (List UInt64) :=
  cast <|
    (outcome.held Swift.ProcessStatistics).map (fun process => [process.current, process.limit]) <|>
    (outcome.held Swift.MemoryStatistics).map (fun memory => [
      memory.usageBytes, memory.limitBytes, memory.swapUsageBytes, memory.swapLimitBytes,
      memory.cacheBytes, memory.kernelStackBytes, memory.slabBytes, memory.pageFaults,
      memory.majorPageFaults, memory.inactiveFile, memory.anon, memory.workingsetRefaultAnon,
      memory.workingsetRefaultFile, memory.pgstealKswapd, memory.pgstealDirect,
      memory.pgstealKhugepaged]) <|>
    (outcome.held Swift.CPUStatistics).map (fun cpu => [
      cpu.usageUsec, cpu.userUsec, cpu.systemUsec, cpu.throttlingPeriods, cpu.throttledPeriods,
      cpu.throttledTimeUsec]) <|>
    (outcome.held Swift.BlockIODevice).map (fun device => [
      device.major, device.minor, device.readBytes, device.writeBytes, device.readOperations,
      device.writeOperations]) <|>
    (outcome.held Swift.NetworkStatistics).map (fun network => [
      network.receivedPackets, network.transmittedPackets, network.receivedBytes,
      network.transmittedBytes, network.receivedDropped, network.transmittedDropped]) <|>
    (outcome.held Swift.NetworkProtocolCounters).map (fun counters => [
      counters.receivedPackets, counters.transmittedPackets]) <|>
    (outcome.held Swift.MemoryEventStatistics).map (fun events => [
      events.low, events.high, events.max, events.oom, events.oomKill]) <|>
    (outcome.held Swift.FilesystemStatistics).map (fun filesystem => [
      filesystem.blockSize, filesystem.blocks, filesystem.freeBlocks, filesystem.inodes,
      filesystem.freeInodes])

/-- The `UInt64?` fields of the statistics held, in the order Swift declares them. -/
def statisticsOptionalNumbers (outcome : CzOutcome) : Crossing CzOutcome := do
  let numbers ← cast <|
    (outcome.held Swift.NetworkStatistics).map (fun network => [
      network.receivedErrors, network.transmittedErrors]) <|>
    (outcome.held Swift.NetworkProtocolCounters).map (fun counters => [
      counters.receivedBytes, counters.transmittedBytes, counters.receivedDrops,
      counters.transmittedDrops, counters.receivedErrors, counters.transmittedErrors])
  return holdingAnys (some (numbers.map absent))

/-- The part of the held `ContainerStatistics` that `category` reports. -/
def statisticsCategory [Swift.StatCategory] (outcome : CzOutcome) (category : Int64) :
    Crossing CzOutcome := do
  let statistics ← outcome.taken Swift.ContainerStatistics
  if category = Swift.StatCategory.process then
    return holding statistics.process
  else if category = Swift.StatCategory.memory then
    return holding statistics.memory
  else if category = Swift.StatCategory.cpu then
    return holding statistics.cpu
  else if category = Swift.StatCategory.blockIO then
    return holding (statistics.blockIO.map (·.devices))
  else if category = Swift.StatCategory.network then
    return holding statistics.networks
  else if category = Swift.StatCategory.memoryEvents then
    return holding statistics.memoryEvents
  else if category = Swift.StatCategory.filesystem then
    return holding statistics.filesystem
  else
    .error (.trap s!"Rust asks for one category at a time, not {category}")

/-- The held `ContainerStatistics`' `networkProtocols`, of which the last three may be absent. -/
def statisticsNetworkProtocols (outcome : CzOutcome) : Crossing CzOutcome := do
  let statistics ← outcome.taken Swift.ContainerStatistics
  return holdingAnys (statistics.networkProtocols.map fun protocols => [
    .box protocols.tcp, .box protocols.udp, .box protocols.icmp, .box protocols.ip,
    absent protocols.udp6, absent protocols.icmp6, absent protocols.ip6])

/-! ### Rust's readers -/

/-- The `UInt64` fields of the statistics held, which number `n`. -/
def statisticsFields (outcome : CzOutcome) (n : Nat) : Crossing (Vector UInt64 n) := do
  fixed n (← outcome.statisticsNumbers) "the statistics' numbers"

/-- The `UInt64?` fields of the statistics held, which number `n`. -/
def statisticsOptionalFields (outcome : CzOutcome) (n : Nat) :
    Crossing (Vector (Option UInt64) n) := do
  let fields ← (← outcome.statisticsOptionalNumbers).list fun number =>
    number.optional CzOutcome.number
  fixed n fields "the statistics' optional numbers"

/-- The `NetworkProtocolCounters` an outcome holds. -/
def networkProtocolCounters (outcome : CzOutcome) : Crossing Rust.NetworkProtocolCounters := do
  let fields ← outcome.statisticsFields 2
  let optionalFields ← outcome.statisticsOptionalFields 6
  return {
    receivedPackets := fields[0]
    transmittedPackets := fields[1]
    receivedBytes := optionalFields[0]
    transmittedBytes := optionalFields[1]
    receivedDrops := optionalFields[2]
    transmittedDrops := optionalFields[3]
    receivedErrors := optionalFields[4]
    transmittedErrors := optionalFields[5] }

-- The closures `containerStatistics` reads its sections with.

def processStatistics (process : CzOutcome) : Crossing Rust.ProcessStatistics := do
  let fields ← process.statisticsFields 2
  return { current := fields[0], limit := fields[1] }

def memoryStatistics (memory : CzOutcome) : Crossing Rust.MemoryStatistics := do
  let fields ← memory.statisticsFields 16
  return {
    usageBytes := fields[0]
    limitBytes := fields[1]
    swapUsageBytes := fields[2]
    swapLimitBytes := fields[3]
    cacheBytes := fields[4]
    kernelStackBytes := fields[5]
    slabBytes := fields[6]
    pageFaults := fields[7]
    majorPageFaults := fields[8]
    inactiveFile := fields[9]
    anon := fields[10]
    workingsetRefaultAnon := fields[11]
    workingsetRefaultFile := fields[12]
    pgstealKswapd := fields[13]
    pgstealDirect := fields[14]
    pgstealKhugepaged := fields[15] }

def cpuStatistics (cpu : CzOutcome) : Crossing Rust.CPUStatistics := do
  let fields ← cpu.statisticsFields 6
  return {
    usageUsec := fields[0]
    userUsec := fields[1]
    systemUsec := fields[2]
    throttlingPeriods := fields[3]
    throttledPeriods := fields[4]
    throttledTimeUsec := fields[5] }

def blockIODevice (device : CzOutcome) : Crossing Rust.BlockIODevice := do
  let fields ← device.statisticsFields 6
  return {
    major := fields[0]
    minor := fields[1]
    readBytes := fields[2]
    writeBytes := fields[3]
    readOperations := fields[4]
    writeOperations := fields[5] }

def networkStatistics (network : CzOutcome) : Crossing Rust.NetworkStatistics := do
  let fields ← network.statisticsFields 6
  let optionalFields ← network.statisticsOptionalFields 2
  return {
    interface := ← network.statisticsName
    receivedPackets := fields[0]
    transmittedPackets := fields[1]
    receivedBytes := fields[2]
    transmittedBytes := fields[3]
    receivedErrors := optionalFields[0]
    transmittedErrors := optionalFields[1]
    receivedDropped := fields[4]
    transmittedDropped := fields[5] }

def memoryEventStatistics (events : CzOutcome) : Crossing Rust.MemoryEventStatistics := do
  let fields ← events.statisticsFields 5
  return {
    low := fields[0]
    high := fields[1]
    max := fields[2]
    oom := fields[3]
    oomKill := fields[4] }

def filesystemStatistics (filesystem : CzOutcome) : Crossing Rust.FilesystemStatistics := do
  let fields ← filesystem.statisticsFields 5
  return {
    mountPoint := ← filesystem.statisticsName
    blockSize := fields[0]
    blocks := fields[1]
    freeBlocks := fields[2]
    inodes := fields[3]
    freeInodes := fields[4] }

def required {α : Type} (counters : Option α) : Crossing α :=
  match counters with
  | some counters => .ok counters
  | none => .error (.panic "Swift sends the tcp, udp, icmp and ip counters")

def networkProtocolStatistics (protocols : CzOutcome) :
    Crossing Rust.NetworkProtocolStatistics := do
  let counters ← protocols.list fun counters => counters.optional networkProtocolCounters
  let counters ← fixed 7 counters "the protocol statistics' protocols"
  return {
    tcp := ← required counters[0]
    udp := ← required counters[1]
    icmp := ← required counters[2]
    ip := ← required counters[3]
    udp6 := counters[4]
    icmp6 := counters[5]
    ip6 := counters[6] }

/-- The `ContainerStatistics` an outcome holds, each part read through the category that reports
it. -/
def containerStatistics [Swift.StatCategory] (outcome : CzOutcome) :
    Crossing Rust.ContainerStatistics := do
  let part (category : Rust.StatCategory) := outcome.statisticsCategory category.rawValue
  return {
    id := ← outcome.statisticsName
    process := ← (← part .process).optional processStatistics
    memory := ← (← part .memory).optional memoryStatistics
    cpu := ← (← part .cpu).optional cpuStatistics
    blockIO := ← (← part Rust.StatCategory.blockIO).optional fun devices => do
      return { devices := ← devices.list blockIODevice }
    networks := ← (← part .network).optional fun networks => networks.list networkStatistics
    memoryEvents := ← (← part .memoryEvents).optional memoryEventStatistics
    filesystem := ← (← part .filesystem).optional fun filesystems =>
      filesystems.list filesystemStatistics
    networkProtocols := ← (← outcome.statisticsNetworkProtocols).optional
      networkProtocolStatistics }

/-- The numbers that may be missing are read as they are, whatever their number. -/
theorem statisticsOptionalFields_eq {outcome : CzOutcome} (numbers : List (Option UInt64))
    (h : outcome.statisticsOptionalNumbers = .ok (holdingAnys (some (numbers.map absent)))) :
    outcome.statisticsOptionalFields numbers.length = .ok ⟨numbers.toArray, by simp⟩ := by
  simp [statisticsOptionalFields, h, fixed]

end CzOutcome

/-! ### What Rust reads -/

namespace Rust

open CzOutcome

/-- The Rust value with Swift's counters. -/
def ProcessStatistics.ofSwift (process : Swift.ProcessStatistics) : ProcessStatistics where
  current := process.current
  limit := process.limit

def MemoryStatistics.ofSwift (memory : Swift.MemoryStatistics) : MemoryStatistics where
  usageBytes := memory.usageBytes
  limitBytes := memory.limitBytes
  swapUsageBytes := memory.swapUsageBytes
  swapLimitBytes := memory.swapLimitBytes
  cacheBytes := memory.cacheBytes
  kernelStackBytes := memory.kernelStackBytes
  slabBytes := memory.slabBytes
  pageFaults := memory.pageFaults
  majorPageFaults := memory.majorPageFaults
  inactiveFile := memory.inactiveFile
  anon := memory.anon
  workingsetRefaultAnon := memory.workingsetRefaultAnon
  workingsetRefaultFile := memory.workingsetRefaultFile
  pgstealKswapd := memory.pgstealKswapd
  pgstealDirect := memory.pgstealDirect
  pgstealKhugepaged := memory.pgstealKhugepaged

def CPUStatistics.ofSwift (cpu : Swift.CPUStatistics) : CPUStatistics where
  usageUsec := cpu.usageUsec
  userUsec := cpu.userUsec
  systemUsec := cpu.systemUsec
  throttlingPeriods := cpu.throttlingPeriods
  throttledPeriods := cpu.throttledPeriods
  throttledTimeUsec := cpu.throttledTimeUsec

def BlockIODevice.ofSwift (device : Swift.BlockIODevice) : BlockIODevice where
  major := device.major
  minor := device.minor
  readBytes := device.readBytes
  writeBytes := device.writeBytes
  readOperations := device.readOperations
  writeOperations := device.writeOperations

def NetworkStatistics.ofSwift (network : Swift.NetworkStatistics) : NetworkStatistics where
  interface := network.interface
  receivedPackets := network.receivedPackets
  transmittedPackets := network.transmittedPackets
  receivedBytes := network.receivedBytes
  transmittedBytes := network.transmittedBytes
  receivedErrors := network.receivedErrors
  transmittedErrors := network.transmittedErrors
  receivedDropped := network.receivedDropped
  transmittedDropped := network.transmittedDropped

def NetworkProtocolCounters.ofSwift (counters : Swift.NetworkProtocolCounters) :
    NetworkProtocolCounters where
  receivedPackets := counters.receivedPackets
  transmittedPackets := counters.transmittedPackets
  receivedBytes := counters.receivedBytes
  transmittedBytes := counters.transmittedBytes
  receivedDrops := counters.receivedDrops
  transmittedDrops := counters.transmittedDrops
  receivedErrors := counters.receivedErrors
  transmittedErrors := counters.transmittedErrors

def NetworkProtocolStatistics.ofSwift (protocols : Swift.NetworkProtocolStatistics) :
    NetworkProtocolStatistics where
  tcp := .ofSwift protocols.tcp
  udp := .ofSwift protocols.udp
  icmp := .ofSwift protocols.icmp
  ip := .ofSwift protocols.ip
  udp6 := protocols.udp6.map .ofSwift
  icmp6 := protocols.icmp6.map .ofSwift
  ip6 := protocols.ip6.map .ofSwift

def MemoryEventStatistics.ofSwift (events : Swift.MemoryEventStatistics) :
    MemoryEventStatistics where
  low := events.low
  high := events.high
  max := events.max
  oom := events.oom
  oomKill := events.oomKill

def FilesystemStatistics.ofSwift (filesystem : Swift.FilesystemStatistics) :
    FilesystemStatistics where
  mountPoint := filesystem.mountPoint
  blockSize := filesystem.blockSize
  blocks := filesystem.blocks
  freeBlocks := filesystem.freeBlocks
  inodes := filesystem.inodes
  freeInodes := filesystem.freeInodes

def ContainerStatistics.ofSwift (statistics : Swift.ContainerStatistics) :
    ContainerStatistics where
  id := statistics.id
  process := statistics.process.map .ofSwift
  memory := statistics.memory.map .ofSwift
  cpu := statistics.cpu.map .ofSwift
  blockIO := statistics.blockIO.map fun blockIO => { devices := blockIO.devices.map .ofSwift }
  networks := statistics.networks.map (·.map .ofSwift)
  memoryEvents := statistics.memoryEvents.map .ofSwift
  filesystem := statistics.filesystem.map (·.map .ofSwift)
  networkProtocols := statistics.networkProtocols.map .ofSwift

@[simp] theorem ProcessStatistics.read (process : Swift.ProcessStatistics) :
    (holding (some process)).processStatistics = .ok (ofSwift process) := rfl

@[simp] theorem MemoryStatistics.read (memory : Swift.MemoryStatistics) :
    (holding (some memory)).memoryStatistics = .ok (ofSwift memory) := rfl

@[simp] theorem CPUStatistics.read (cpu : Swift.CPUStatistics) :
    (holding (some cpu)).cpuStatistics = .ok (ofSwift cpu) := rfl

@[simp] theorem BlockIODevice.read (device : Swift.BlockIODevice) :
    (holding (some device)).blockIODevice = .ok (ofSwift device) := rfl

@[simp] theorem NetworkStatistics.read (network : Swift.NetworkStatistics) :
    (holding (some network)).networkStatistics = .ok (ofSwift network) := by
  have h : (holding (some network)).statisticsOptionalFields 2 = .ok _ :=
    statisticsOptionalFields_eq [network.receivedErrors, network.transmittedErrors] rfl
  rw [networkStatistics, h]
  rfl

@[simp] theorem NetworkProtocolCounters.read (counters : Swift.NetworkProtocolCounters) :
    (holding (some counters)).networkProtocolCounters = .ok (ofSwift counters) := by
  have h : (holding (some counters)).statisticsOptionalFields 6 = .ok _ :=
    statisticsOptionalFields_eq [counters.receivedBytes, counters.transmittedBytes,
      counters.receivedDrops, counters.transmittedDrops, counters.receivedErrors,
      counters.transmittedErrors] rfl
  rw [networkProtocolCounters, h]
  rfl

@[simp] theorem MemoryEventStatistics.read (events : Swift.MemoryEventStatistics) :
    (holding (some events)).memoryEventStatistics = .ok (ofSwift events) := rfl

@[simp] theorem FilesystemStatistics.read (filesystem : Swift.FilesystemStatistics) :
    (holding (some filesystem)).filesystemStatistics = .ok (ofSwift filesystem) := rfl

/-- Swift sends the four counters that are always there and the three that may be missing. -/
theorem NetworkProtocolStatistics.read (protocols : Swift.NetworkProtocolStatistics) :
    (holdingAnys (some [.box protocols.tcp, .box protocols.udp, .box protocols.icmp,
      .box protocols.ip, absent protocols.udp6, absent protocols.icmp6,
      absent protocols.ip6])).networkProtocolStatistics = .ok (ofSwift protocols) := by
  let counters := [some protocols.tcp, some protocols.udp, some protocols.icmp, some protocols.ip,
    protocols.udp6, protocols.icmp6, protocols.ip6]
  have h : (holdingAnys (some (counters.map absent))).list (·.optional networkProtocolCounters) =
      .ok (counters.map (Option.map NetworkProtocolCounters.ofSwift)) := by
    simp
  change (holdingAnys (some (counters.map absent))).networkProtocolStatistics = _
  rw [networkProtocolStatistics, h]
  rfl

theorem NetworkProtocolStatistics.read_option (protocols : Option Swift.NetworkProtocolStatistics) :
    (holdingAnys (protocols.map fun protocols => [
      .box protocols.tcp, .box protocols.udp, .box protocols.icmp, .box protocols.ip,
      absent protocols.udp6, absent protocols.icmp6, absent protocols.ip6])).optional
        networkProtocolStatistics = .ok (protocols.map .ofSwift) := by
  cases protocols with
  | none => rfl
  | some protocols => exact congrArg (some <$> ·) (read protocols)

/-- Whatever sections Swift reports, Rust reads the statistics with the same sections, each counter
at its own name. -/
theorem statistics_cross [category : Swift.StatCategory] (h : StatCategoriesCopied)
    (statistics : Swift.ContainerStatistics) :
    (holding (some statistics)).containerStatistics = .ok (.ofSwift statistics) := by
  cases h.eq_copied
  let _ := Swift.StatCategory.copied
  let outcome := holding (some statistics)
  have hname : outcome.statisticsName = .ok statistics.id := rfl
  have hprocess : outcome.statisticsCategory StatCategory.process.rawValue =
    .ok (holding statistics.process) := rfl
  have hmemory : outcome.statisticsCategory StatCategory.memory.rawValue =
    .ok (holding statistics.memory) := rfl
  have hcpu : outcome.statisticsCategory StatCategory.cpu.rawValue =
    .ok (holding statistics.cpu) := rfl
  have hblockIO : outcome.statisticsCategory StatCategory.blockIO.rawValue =
    .ok (holding (statistics.blockIO.map (·.devices))) := rfl
  have hnetwork : outcome.statisticsCategory StatCategory.network.rawValue =
    .ok (holding statistics.networks) := rfl
  have hmemoryEvents : outcome.statisticsCategory StatCategory.memoryEvents.rawValue =
    .ok (holding statistics.memoryEvents) := rfl
  have hfilesystem : outcome.statisticsCategory StatCategory.filesystem.rawValue =
    .ok (holding statistics.filesystem) := rfl
  have hprotocols : outcome.statisticsNetworkProtocols = .ok _ := rfl
  change outcome.containerStatistics = _
  simp only [containerStatistics, hname, hprocess, hmemory, hcpu, hblockIO, hnetwork,
    hmemoryEvents, hfilesystem, hprotocols, Carry.ok_bind]
  simp [ContainerStatistics.ofSwift, Function.comp_def, NetworkProtocolStatistics.read_option]

/-- A container with an interface that counts no errors, two devices, and no IPv6. -/
def ContainerStatistics.sample : Swift.ContainerStatistics where
  id := "c1"
  process := some ⟨3, 18446744073709551615⟩
  memory := none
  cpu := some ⟨10, 6, 4, 3, 2, 1⟩
  blockIO := some ⟨[⟨8, 0, 1, 2, 3, 4⟩, ⟨8, 1, 5, 6, 7, 8⟩]⟩
  networks := some [⟨"eth0", 1, 2, 3, 4, none, some 0, 5, 6⟩]
  memoryEvents := some ⟨0, 1, 2, 3, 4⟩
  filesystem := some []
  networkProtocols := some ⟨⟨1, 2, none, none, some 0, none, some 3, some 4⟩,
    ⟨5, 6, none, none, none, none, none, none⟩, ⟨7, 8, none, none, none, none, none, none⟩,
    ⟨9, 10, some 11, some 12, none, none, none, none⟩, none, none, none⟩

omit [Runtime] in
theorem sample_statistics_cross :
    let _ := Runtime.ascii
    let _ := Swift.StatCategory.copied
    (holding (some ContainerStatistics.sample)).containerStatistics =
      .ok (.ofSwift ContainerStatistics.sample) := by
  let _ := Runtime.ascii
  let _ := Swift.StatCategory.copied
  exact statistics_cross (by constructor <;> rfl) ContainerStatistics.sample

end Rust

end ContainerBridge
