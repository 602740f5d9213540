import ContainerBridge.Runtime.Crossing

/-! The enums of the OCI runtime spec that cross by their raw values, and the kinds the bridge
declares to name one list of several. -/

namespace ContainerBridge

inductive LinuxNamespaceType where
  | pid | network | uts | mount | ipc | user | cgroup
  deriving DecidableEq

instance : RawRepresentable LinuxNamespaceType where
  name := "LinuxNamespaceType"
  all := [.pid, .network, .uts, .mount, .ipc, .user, .cgroup]
  rawValue
    | .pid => "pid"
    | .network => "network"
    | .uts => "uts"
    | .mount => "mount"
    | .ipc => "ipc"
    | .user => "user"
    | .cgroup => "cgroup"
  find_rawValue a := by cases a <;> rfl

inductive LinuxPersonalityDomain where
  | perLinux | perLinux32
  deriving DecidableEq

instance : RawRepresentable LinuxPersonalityDomain where
  name := "LinuxPersonalityDomain"
  all := [.perLinux, .perLinux32]
  rawValue
    | .perLinux => "LINUX"
    | .perLinux32 => "LINUX32"
  find_rawValue a := by cases a <;> rfl

inductive LinuxSeccompFlag where
  | flagLog | flagSpecAllow | flagWaitKillableRecv
  deriving DecidableEq

instance : RawRepresentable LinuxSeccompFlag where
  name := "LinuxSeccompFlag"
  all := [.flagLog, .flagSpecAllow, .flagWaitKillableRecv]
  rawValue
    | .flagLog => "SECCOMP_FILTER_FLAG_LOG"
    | .flagSpecAllow => "SECCOMP_FILTER_FLAG_SPEC_ALLOW"
    | .flagWaitKillableRecv => "SECCOMP_FILTER_FLAG_WAIT_KILLABLE_RECV"
  find_rawValue a := by cases a <;> rfl

/-- `Arch`, a seccomp architecture. -/
inductive Arch where
  | archX86 | archX86_64 | archX32 | archARM | archAARCH64 | archMIPS | archMIPS64
  | archMIPS64N32 | archMIPSEL | archMIPSEL64 | archMIPSEL64N32 | archPPC | archPPC64
  | archPPC64LE | archS390 | archS390X | archPARISC | archPARISC64 | archRISCV64
  deriving DecidableEq

instance : RawRepresentable Arch where
  name := "Arch"
  all := [.archX86, .archX86_64, .archX32, .archARM, .archAARCH64, .archMIPS, .archMIPS64,
    .archMIPS64N32, .archMIPSEL, .archMIPSEL64, .archMIPSEL64N32, .archPPC, .archPPC64,
    .archPPC64LE, .archS390, .archS390X, .archPARISC, .archPARISC64, .archRISCV64]
  rawValue
    | .archX86 => "SCMP_ARCH_X86"
    | .archX86_64 => "SCMP_ARCH_X86_64"
    | .archX32 => "SCMP_ARCH_X32"
    | .archARM => "SCMP_ARCH_ARM"
    | .archAARCH64 => "SCMP_ARCH_AARCH64"
    | .archMIPS => "SCMP_ARCH_MIPS"
    | .archMIPS64 => "SCMP_ARCH_MIPS64"
    | .archMIPS64N32 => "SCMP_ARCH_MIPS64N32"
    | .archMIPSEL => "SCMP_ARCH_MIPSEL"
    | .archMIPSEL64 => "SCMP_ARCH_MIPSEL64"
    | .archMIPSEL64N32 => "SCMP_ARCH_MIPSEL64N32"
    | .archPPC => "SCMP_ARCH_PPC"
    | .archPPC64 => "SCMP_ARCH_PPC64"
    | .archPPC64LE => "SCMP_ARCH_PPC64LE"
    | .archS390 => "SCMP_ARCH_S390"
    | .archS390X => "SCMP_ARCH_S390X"
    | .archPARISC => "SCMP_ARCH_PARISC"
    | .archPARISC64 => "SCMP_ARCH_PARISC64"
    | .archRISCV64 => "SCMP_ARCH_RISCV64"
  find_rawValue a := by cases a <;> rfl

inductive LinuxSeccompAction where
  | actKill | actKillProcess | actKillThread | actTrap | actErrno | actTrace | actAllow | actLog
  | actNotify
  deriving DecidableEq

instance : RawRepresentable LinuxSeccompAction where
  name := "LinuxSeccompAction"
  all := [.actKill, .actKillProcess, .actKillThread, .actTrap, .actErrno, .actTrace, .actAllow,
    .actLog, .actNotify]
  rawValue
    | .actKill => "SCMP_ACT_KILL"
    | .actKillProcess => "SCMP_ACT_KILL_PROCESS"
    | .actKillThread => "SCMP_ACT_KILL_THREAD"
    | .actTrap => "SCMP_ACT_TRAP"
    | .actErrno => "SCMP_ACT_ERRNO"
    | .actTrace => "SCMP_ACT_TRACE"
    | .actAllow => "SCMP_ACT_ALLOW"
    | .actLog => "SCMP_ACT_LOG"
    | .actNotify => "SCMP_ACT_NOTIFY"
  find_rawValue a := by cases a <;> rfl

inductive LinuxSeccompOperator where
  | opNotEqual | opLessThan | opLessEqual | opEqualTo | opGreaterEqual | opGreaterThan
  | opMaskedEqual
  deriving DecidableEq

instance : RawRepresentable LinuxSeccompOperator where
  name := "LinuxSeccompOperator"
  all := [.opNotEqual, .opLessThan, .opLessEqual, .opEqualTo, .opGreaterEqual, .opGreaterThan,
    .opMaskedEqual]
  rawValue
    | .opNotEqual => "SCMP_CMP_NE"
    | .opLessThan => "SCMP_CMP_LT"
    | .opLessEqual => "SCMP_CMP_LE"
    | .opEqualTo => "SCMP_CMP_EQ"
    | .opGreaterEqual => "SCMP_CMP_GE"
    | .opGreaterThan => "SCMP_CMP_GT"
    | .opMaskedEqual => "SCMP_CMP_MASKED_EQ"
  find_rawValue a := by cases a <;> rfl

/-- The bridge's name for one list of `Hooks`. -/
inductive HookKind where
  | prestart | createRuntime | createContainer | startContainer | poststart | poststop
  deriving DecidableEq

/-- The bridge's name for one set of a `LinuxCapabilities`. -/
inductive CapabilitySet where
  | bounding | effective | inheritable | permitted | ambient
  deriving DecidableEq

/-- The bridge's name for one list of throttled devices of a `LinuxBlockIO`. -/
inductive ThrottleKind where
  | readBps | writeBps | readIops | writeIops
  deriving DecidableEq

end ContainerBridge
