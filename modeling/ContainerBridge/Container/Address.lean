import ContainerBridge.Container.External

/-! The addresses an interface holds, in both languages. An IPv6 address crosses as two halves, and
a prefix length as a number that Swift checks. -/

namespace ContainerBridge

namespace Rust

structure IPv4Address where
  value : UInt32

structure IPv6Address where
  value : BitVec 128
  zone : Option String

/-- Rust's `Prefix`, whose length Swift checks when it crosses. -/
structure Prefix where
  length : UInt8

structure CIDRv4 where
  address : IPv4Address
  netPrefix : Prefix

structure CIDRv6 where
  address : IPv6Address
  netPrefix : Prefix

structure MACAddress where
  value : UInt64

/-- An address whose `UInt128` value crossed as two halves. -/
def IPv6Address.fromHalves (high low : UInt64) (zone : Option String) : IPv6Address :=
  { value := high.toBitVec.setWidth 128 <<< 64 ||| low.toBitVec.setWidth 128, zone }

def IPv6Address.valueHigh (address : IPv6Address) : UInt64 :=
  .ofBitVec ((address.value >>> 64).setWidth 64)

def IPv6Address.valueLow (address : IPv6Address) : UInt64 :=
  .ofBitVec (address.value.setWidth 64)

end Rust

namespace Swift

structure IPv4Address where
  value : UInt32

structure IPv6Address where
  value : BitVec 128
  zone : Option String

/-- Swift's `Prefix`, which holds no length above 128. -/
structure Prefix where
  length : UInt8
  le : length ≤ 128

/-- Swift's `CIDRv4`, which only its initialiser makes. -/
structure CIDRv4 [External] where
  address : IPv4Address
  netPrefix : Prefix
  accepted : External.cidrV4Error address.value netPrefix.length = none

structure CIDRv6 [External] where
  address : IPv6Address
  netPrefix : Prefix
  accepted : External.cidrV6Error address.value netPrefix.length = none

structure MACAddress where
  value : UInt64

/-- The high half of a value that crosses as two. -/
def IPv6Address.high (address : IPv6Address) : UInt64 :=
  .ofBitVec ((address.value >>> 64).setWidth 64)

/-- The low half of a value that crosses as two. -/
def IPv6Address.low (address : IPv6Address) : UInt64 :=
  .ofBitVec (address.value.setWidth 64)

def IPv6Address.init (address : Rust.IPv6Address) : IPv6Address where
  value := address.valueHigh.toBitVec.setWidth 128 <<< 64 |||
    address.valueLow.toBitVec.setWidth 128
  zone := address.zone

/-- A length Rust holds, which Swift made. -/
def Prefix.init (length : UInt8) : Crossing Prefix :=
  if h : length ≤ 128 then .ok ⟨length, h⟩
  else .throw (.malformed "prefix length" (toString length))

variable [External]

def CIDRv4.init (address : UInt32) (length : UInt8) : Crossing CIDRv4 := do
  let netPrefix ← Prefix.init length
  match h : External.cidrV4Error address netPrefix.length with
  | none => return { address := ⟨address⟩, netPrefix, accepted := h }
  | some error => .error (.thrown error)

def CIDRv6.init (address : Rust.IPv6Address) (length : UInt8) : Crossing CIDRv6 := do
  let address := IPv6Address.init address
  let netPrefix ← Prefix.init length
  match h : External.cidrV6Error address.value netPrefix.length with
  | none => return { address, netPrefix, accepted := h }
  | some error => .error (.thrown error)

end Swift

/-! ### Crossing -/

theorem halves (value : BitVec 128) :
    ((value >>> 64).setWidth 64).setWidth 128 <<< 64 ||| (value.setWidth 64).setWidth 128 =
      value := by
  apply BitVec.eq_of_getLsbD_eq
  intro i hi
  by_cases h : i < 64
  · simp [hi, h]
  · have hi' : i - 64 < 64 := by omega
    have hadd : 64 + (i - 64) = i := by omega
    simp [hi, h, hi', hadd]

namespace Rust

/-- The Rust address of the same value and zone. -/
def IPv6Address.ofSwift (address : Swift.IPv6Address) : IPv6Address :=
  { value := address.value, zone := address.zone }

theorem IPv6Address.fromHalves_high_low (address : Swift.IPv6Address) :
    fromHalves address.high address.low address.zone = ofSwift address := by
  simp [fromHalves, Swift.IPv6Address.high, Swift.IPv6Address.low, ofSwift, halves]

@[simp] theorem IPv6Address.ofSwift_init (address : IPv6Address) :
    ofSwift (Swift.IPv6Address.init address) = address := by
  simp [Swift.IPv6Address.init, valueHigh, valueLow, ofSwift, halves]

/-- The Rust block of the same address and prefix length. -/
def CIDRv4.ofSwift [External] (cidr : Swift.CIDRv4) : CIDRv4 :=
  { address := ⟨cidr.address.value⟩, netPrefix := ⟨cidr.netPrefix.length⟩ }

def CIDRv6.ofSwift [External] (cidr : Swift.CIDRv6) : CIDRv6 :=
  { address := .ofSwift cidr.address, netPrefix := ⟨cidr.netPrefix.length⟩ }

end Rust

namespace Swift

@[simp] theorem IPv6Address.init_ofSwift (address : IPv6Address) :
    init (Rust.IPv6Address.ofSwift address) = address := by
  simp [init, Rust.IPv6Address.valueHigh, Rust.IPv6Address.valueLow, Rust.IPv6Address.ofSwift,
    halves]

theorem Prefix.init_eq_ok {length : UInt8} {netPrefix : Prefix} :
    init length = .ok netPrefix ↔ netPrefix.length = length := by
  rw [init]
  split
  · rw [Except.ok.injEq]
    constructor
    · rintro rfl
      rfl
    · rintro rfl
      rfl
  · next h =>
    constructor
    · rintro ⟨⟩
    · rintro rfl
      exact absurd netPrefix.le h

variable [External]

/-- The initialiser accepts the address and prefix length of a block, and makes that block. -/
theorem CIDRv4.init_eq_ok {cidr : Rust.CIDRv4} {made : CIDRv4} :
    init cidr.address.value cidr.netPrefix.length = .ok made ↔ Rust.CIDRv4.ofSwift made = cidr := by
  obtain ⟨⟨value⟩, ⟨length⟩⟩ := cidr
  obtain ⟨⟨made⟩, netPrefix, accepted⟩ := made
  simp only [init, Carry.bind_eq_ok, Prefix.init_eq_ok, Rust.CIDRv4.ofSwift]
  constructor
  · rintro ⟨_, rfl, h⟩
    split at h
    · cases h
      rfl
    · cases h
  · rintro ⟨⟩
    refine ⟨netPrefix, rfl, ?_⟩
    split
    · rfl
    · next error herror =>
      rw [accepted] at herror
      cases herror

theorem CIDRv6.init_eq_ok {cidr : Rust.CIDRv6} {made : CIDRv6} :
    init cidr.address cidr.netPrefix.length = .ok made ↔ Rust.CIDRv6.ofSwift made = cidr := by
  obtain ⟨address, ⟨length⟩⟩ := cidr
  obtain ⟨made, netPrefix, accepted⟩ := made
  simp only [init, Carry.bind_eq_ok, Prefix.init_eq_ok, Rust.CIDRv6.ofSwift]
  constructor
  · rintro ⟨_, rfl, h⟩
    split at h
    · cases h
      simp
    · cases h
  · rintro ⟨⟩
    refine ⟨netPrefix, rfl, ?_⟩
    split
    · simp
    · next error herror =>
      rw [IPv6Address.init_ofSwift, accepted] at herror
      cases herror

end Swift

end ContainerBridge
