import ContainerBridge.Runtime.Crossing

/-! A container's statistics in both languages: sections that may be missing, of counters of 64
bits. -/

namespace ContainerBridge

namespace Rust

structure ProcessStatistics where
  current : UInt64
  limit : UInt64

structure MemoryStatistics where
  usageBytes : UInt64
  limitBytes : UInt64
  swapUsageBytes : UInt64
  swapLimitBytes : UInt64
  cacheBytes : UInt64
  kernelStackBytes : UInt64
  slabBytes : UInt64
  pageFaults : UInt64
  majorPageFaults : UInt64
  inactiveFile : UInt64
  anon : UInt64
  workingsetRefaultAnon : UInt64
  workingsetRefaultFile : UInt64
  pgstealKswapd : UInt64
  pgstealDirect : UInt64
  pgstealKhugepaged : UInt64

structure CPUStatistics where
  usageUsec : UInt64
  userUsec : UInt64
  systemUsec : UInt64
  throttlingPeriods : UInt64
  throttledPeriods : UInt64
  throttledTimeUsec : UInt64

structure BlockIODevice where
  major : UInt64
  minor : UInt64
  readBytes : UInt64
  writeBytes : UInt64
  readOperations : UInt64
  writeOperations : UInt64

structure BlockIOStatistics where
  devices : List BlockIODevice

structure NetworkStatistics where
  interface : String
  receivedPackets : UInt64
  transmittedPackets : UInt64
  receivedBytes : UInt64
  transmittedBytes : UInt64
  receivedErrors : Option UInt64
  transmittedErrors : Option UInt64
  receivedDropped : UInt64
  transmittedDropped : UInt64

structure NetworkProtocolCounters where
  receivedPackets : UInt64
  transmittedPackets : UInt64
  receivedBytes : Option UInt64
  transmittedBytes : Option UInt64
  receivedDrops : Option UInt64
  transmittedDrops : Option UInt64
  receivedErrors : Option UInt64
  transmittedErrors : Option UInt64

structure NetworkProtocolStatistics where
  tcp : NetworkProtocolCounters
  udp : NetworkProtocolCounters
  icmp : NetworkProtocolCounters
  ip : NetworkProtocolCounters
  udp6 : Option NetworkProtocolCounters
  icmp6 : Option NetworkProtocolCounters
  ip6 : Option NetworkProtocolCounters

structure MemoryEventStatistics where
  low : UInt64
  high : UInt64
  max : UInt64
  oom : UInt64
  oomKill : UInt64

structure FilesystemStatistics where
  mountPoint : String
  blockSize : UInt64
  blocks : UInt64
  freeBlocks : UInt64
  inodes : UInt64
  freeInodes : UInt64

structure ContainerStatistics where
  id : String
  process : Option ProcessStatistics
  memory : Option MemoryStatistics
  cpu : Option CPUStatistics
  blockIO : Option BlockIOStatistics
  networks : Option (List NetworkStatistics)
  memoryEvents : Option MemoryEventStatistics
  filesystem : Option (List FilesystemStatistics)
  networkProtocols : Option NetworkProtocolStatistics

/-- Which statistics Swift reports, as the raw value of Swift's option set. -/
structure StatCategory where
  rawValue : Int64
  deriving DecidableEq

namespace StatCategory

def process : StatCategory := ⟨(1 : Int64) <<< 0⟩
def memory : StatCategory := ⟨(1 : Int64) <<< 1⟩
def cpu : StatCategory := ⟨(1 : Int64) <<< 2⟩
def blockIO : StatCategory := ⟨(1 : Int64) <<< 3⟩
def network : StatCategory := ⟨(1 : Int64) <<< 4⟩
def memoryEvents : StatCategory := ⟨(1 : Int64) <<< 5⟩
def filesystem : StatCategory := ⟨(1 : Int64) <<< 6⟩

end StatCategory

end Rust

namespace Swift

structure ProcessStatistics where
  current : UInt64
  limit : UInt64

structure MemoryStatistics where
  usageBytes : UInt64
  limitBytes : UInt64
  swapUsageBytes : UInt64
  swapLimitBytes : UInt64
  cacheBytes : UInt64
  kernelStackBytes : UInt64
  slabBytes : UInt64
  pageFaults : UInt64
  majorPageFaults : UInt64
  inactiveFile : UInt64
  anon : UInt64
  workingsetRefaultAnon : UInt64
  workingsetRefaultFile : UInt64
  pgstealKswapd : UInt64
  pgstealDirect : UInt64
  pgstealKhugepaged : UInt64

structure CPUStatistics where
  usageUsec : UInt64
  userUsec : UInt64
  systemUsec : UInt64
  throttlingPeriods : UInt64
  throttledPeriods : UInt64
  throttledTimeUsec : UInt64

structure BlockIODevice where
  major : UInt64
  minor : UInt64
  readBytes : UInt64
  writeBytes : UInt64
  readOperations : UInt64
  writeOperations : UInt64

structure BlockIOStatistics where
  devices : List BlockIODevice

structure NetworkStatistics where
  interface : String
  receivedPackets : UInt64
  transmittedPackets : UInt64
  receivedBytes : UInt64
  transmittedBytes : UInt64
  receivedErrors : Option UInt64
  transmittedErrors : Option UInt64
  receivedDropped : UInt64
  transmittedDropped : UInt64

structure NetworkProtocolCounters where
  receivedPackets : UInt64
  transmittedPackets : UInt64
  receivedBytes : Option UInt64
  transmittedBytes : Option UInt64
  receivedDrops : Option UInt64
  transmittedDrops : Option UInt64
  receivedErrors : Option UInt64
  transmittedErrors : Option UInt64

structure NetworkProtocolStatistics where
  tcp : NetworkProtocolCounters
  udp : NetworkProtocolCounters
  icmp : NetworkProtocolCounters
  ip : NetworkProtocolCounters
  udp6 : Option NetworkProtocolCounters
  icmp6 : Option NetworkProtocolCounters
  ip6 : Option NetworkProtocolCounters

structure MemoryEventStatistics where
  low : UInt64
  high : UInt64
  max : UInt64
  oom : UInt64
  oomKill : UInt64

structure FilesystemStatistics where
  mountPoint : String
  blockSize : UInt64
  blocks : UInt64
  freeBlocks : UInt64
  inodes : UInt64
  freeInodes : UInt64

/-- `Containerization.ContainerStatistics`. -/
structure ContainerStatistics where
  id : String
  process : Option ProcessStatistics
  memory : Option MemoryStatistics
  cpu : Option CPUStatistics
  blockIO : Option BlockIOStatistics
  networks : Option (List NetworkStatistics)
  memoryEvents : Option MemoryEventStatistics
  filesystem : Option (List FilesystemStatistics)
  networkProtocols : Option NetworkProtocolStatistics

/-- The raw values of the cases of Swift's `StatCategory`. -/
class StatCategory where
  process : Int64
  memory : Int64
  cpu : Int64
  blockIO : Int64
  network : Int64
  memoryEvents : Int64
  filesystem : Int64

end Swift

/-- Rust's copies of `StatCategory`'s raw values are Swift's. -/
structure StatCategoriesCopied [Swift.StatCategory] : Prop where
  process : Swift.StatCategory.process = Rust.StatCategory.process.rawValue
  memory : Swift.StatCategory.memory = Rust.StatCategory.memory.rawValue
  cpu : Swift.StatCategory.cpu = Rust.StatCategory.cpu.rawValue
  blockIO : Swift.StatCategory.blockIO = Rust.StatCategory.blockIO.rawValue
  network : Swift.StatCategory.network = Rust.StatCategory.network.rawValue
  memoryEvents : Swift.StatCategory.memoryEvents = Rust.StatCategory.memoryEvents.rawValue
  filesystem : Swift.StatCategory.filesystem = Rust.StatCategory.filesystem.rawValue

/-- Swift's `StatCategory` as Rust copies it. -/
@[reducible] def Swift.StatCategory.copied : Swift.StatCategory where
  process := 1
  memory := 2
  cpu := 4
  blockIO := 8
  network := 16
  memoryEvents := 32
  filesystem := 64

theorem StatCategoriesCopied.eq_copied [category : Swift.StatCategory]
    (h : StatCategoriesCopied) : category = .copied := by
  obtain ⟨hprocess, hmemory, hcpu, hblockIO, hnetwork, hmemoryEvents, hfilesystem⟩ := h
  cases category
  cases hprocess
  cases hmemory
  cases hcpu
  cases hblockIO
  cases hnetwork
  cases hmemoryEvents
  cases hfilesystem
  rfl

end ContainerBridge
