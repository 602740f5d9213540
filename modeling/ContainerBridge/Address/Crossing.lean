import ContainerBridge.Outcome

/-! The addresses Rust reads back from an outcome. One getter finds the address held, alone or in a
block, and the others take what they ask for from it. -/

namespace ContainerBridge

open Carry

variable [Runtime]

namespace CzOutcome

/-! ### Getters -/

def unwrapped : Swift.IPAddress → Any
  | .v4 address => .box address
  | .v6 address => .box address

/-- The `IPv4Address` or `IPv6Address` held, alone or in an `IPAddress`, a CIDR block or a
`CIDR`. -/
def heldAddress (outcome : CzOutcome) : Option Any :=
  match outcome.held Swift.StoredCIDRv4 with
  | some cidr => some (.box cidr.address)
  | none => match outcome.held Swift.StoredCIDRv6 with
    | some cidr => some (.box cidr.address)
    | none => match outcome.held Swift.CIDR with
      | some cidr => some (unwrapped cidr.address)
      | none => match outcome.held Swift.IPAddress with
        | some address => some (unwrapped address)
        | none => outcome.value

/-- Whether the address held, alone or in a CIDR block, is IPv6. -/
def isIPv6 (outcome : CzOutcome) : Bool :=
  (outcome.heldAddress.bind (Any.as? Swift.IPv6Address)).isSome

def ipv4Value (outcome : CzOutcome) : Crossing UInt32 := do
  return (← cast (outcome.heldAddress.bind (Any.as? Swift.IPv4Address))).value

def heldIPv6 (outcome : CzOutcome) : Crossing Swift.IPv6Address :=
  cast (outcome.heldAddress.bind (Any.as? Swift.IPv6Address))

def ipv6High (outcome : CzOutcome) : Crossing UInt64 := do return (← outcome.heldIPv6).high

def ipv6Low (outcome : CzOutcome) : Crossing UInt64 := do return (← outcome.heldIPv6).low

def ipv6Zone (outcome : CzOutcome) : Crossing (Option String) := do
  return (← outcome.heldIPv6).zone

def prefixLength (outcome : CzOutcome) : Crossing UInt8 :=
  match outcome.held Swift.StoredCIDRv4 with
  | some cidr => .ok cidr.netPrefix.length
  | none => match outcome.held Swift.StoredCIDRv6 with
    | some cidr => .ok cidr.netPrefix.length
    | none => match outcome.held Swift.CIDR with
      | some cidr => .ok cidr.netPrefix.length
      | none => do return (← outcome.taken Swift.Prefix).length

def macValue (outcome : CzOutcome) : Crossing UInt64 := do
  return (← outcome.taken Swift.MACAddress).value

def wideHigh (outcome : CzOutcome) : Crossing UInt64 := do
  return .ofBitVec (((← outcome.taken (BitVec 128)) >>> 64).setWidth 64)

def wideLow (outcome : CzOutcome) : Crossing UInt64 := do
  return .ofBitVec ((← outcome.taken (BitVec 128)).setWidth 64)

/-! ### Rust's readers -/

def ipv4Address (outcome : CzOutcome) : Crossing Rust.IPv4Address := do
  return { value := ← outcome.ipv4Value }

def ipv6Address (outcome : CzOutcome) : Crossing Rust.IPv6Address := do
  return .fromHalves (← outcome.ipv6High) (← outcome.ipv6Low) (← outcome.ipv6Zone)

def ipAddress (outcome : CzOutcome) : Crossing Rust.IPAddress := do
  if outcome.isIPv6 then return .v6 (← outcome.ipv6Address)
  else return .v4 (← outcome.ipv4Address)

def netPrefix (outcome : CzOutcome) : Crossing Rust.Prefix := do
  return { length := ← outcome.prefixLength }

def cidrV4 (outcome : CzOutcome) : Crossing Rust.CIDRv4 := do
  return { address := ← outcome.ipv4Address, netPrefix := ← outcome.netPrefix }

def cidrV6 (outcome : CzOutcome) : Crossing Rust.CIDRv6 := do
  return { address := ← outcome.ipv6Address, netPrefix := ← outcome.netPrefix }

def cidr (outcome : CzOutcome) : Crossing Rust.CIDR := do
  if outcome.isIPv6 then return .v6 (← outcome.ipv6Address) (← outcome.netPrefix)
  else return .v4 (← outcome.ipv4Address) (← outcome.netPrefix)

def macAddress (outcome : CzOutcome) : Crossing Rust.MACAddress := do
  return { value := ← outcome.macValue }

/-- The `IPv4Address?` an outcome holds. -/
def optionalIPv4Address (outcome : CzOutcome) : Crossing (Option Rust.IPv4Address) :=
  outcome.optional ipv4Address

def optionalIPv6Address (outcome : CzOutcome) : Crossing (Option Rust.IPv6Address) :=
  outcome.optional ipv6Address

def optionalCIDRv6 (outcome : CzOutcome) : Crossing (Option Rust.CIDRv6) :=
  outcome.optional cidrV6

def uint128 (outcome : CzOutcome) : Crossing (BitVec 128) := do
  return (← outcome.wideHigh).toBitVec.setWidth 128 <<< 64 |||
    (← outcome.wideLow).toBitVec.setWidth 128

/-! ### Reading back what is held -/

/-- What holds an IPv6 address reads as that address, by its halves and its zone. -/
theorem ipv6Address_of_held {outcome : CzOutcome} {address : Swift.IPv6Address}
    (h : outcome.heldAddress = some (.box address)) :
    outcome.ipv6Address = .ok (.ofSwift address) := by
  have hheld : outcome.heldIPv6 = .ok address := by simp [heldIPv6, h, cast]
  simp [ipv6Address, ipv6High, ipv6Low, ipv6Zone, hheld, Rust.IPv6Address.fromHalves_high_low]

theorem ipv4Address_of_held {outcome : CzOutcome} {address : Swift.IPv4Address}
    (h : outcome.heldAddress = some (.box address)) :
    outcome.ipv4Address = .ok ⟨address.value⟩ := by
  simp [ipv4Address, ipv4Value, h, cast]

/-- The family of the address held, as its tag tells it. -/
theorem isIPv6_of_unwrapped {outcome : CzOutcome} {address : Swift.IPAddress}
    (h : outcome.heldAddress = some (unwrapped address)) :
    outcome.isIPv6 = match address with | .v4 _ => false | .v6 _ => true := by
  cases address with
  | v4 address =>
    simp only [isIPv6, h, unwrapped, Option.bind_some]
    rfl
  | v6 address => simp [isIPv6, h, unwrapped]

@[simp] theorem ipv4Address_holding (address : Swift.IPv4Address) :
    (holding (some address)).ipv4Address = .ok ⟨address.value⟩ := ipv4Address_of_held rfl

@[simp] theorem ipv6Address_holding (address : Swift.IPv6Address) :
    (holding (some address)).ipv6Address = .ok (.ofSwift address) := ipv6Address_of_held rfl

@[simp] theorem netPrefix_holding (netPrefix : Swift.Prefix) :
    (holding (some netPrefix)).netPrefix = .ok ⟨netPrefix.length⟩ := rfl

@[simp] theorem macAddress_holding (address : Swift.MACAddress) :
    (holding (some address)).macAddress = .ok ⟨address.value⟩ := rfl

@[simp] theorem uint128_holding (value : BitVec 128) :
    (holding (some value)).uint128 = .ok value := by
  simp [uint128, wideHigh, wideLow, halves]

theorem ipAddress_of_unwrapped {outcome : CzOutcome} {address : Swift.IPAddress}
    (h : outcome.heldAddress = some (unwrapped address)) :
    outcome.ipAddress = .ok (.ofSwift address) := by
  have hfamily := isIPv6_of_unwrapped h
  cases address with
  | v4 address => simp [ipAddress, hfamily, ipv4Address_of_held h, Rust.IPAddress.ofSwift]
  | v6 address => simp [ipAddress, hfamily, ipv6Address_of_held h, Rust.IPAddress.ofSwift]

@[simp] theorem ipAddress_holding (address : Swift.IPAddress) :
    (holding (some address)).ipAddress = .ok (.ofSwift address) := ipAddress_of_unwrapped rfl

theorem cidrV4_holding (cidr : Swift.StoredCIDRv4) :
    (holding (some cidr)).cidrV4 =
      .ok { address := ⟨cidr.address.value⟩, netPrefix := ⟨cidr.netPrefix.length⟩ } := rfl

theorem cidrV6_holding (cidr : Swift.StoredCIDRv6) :
    (holding (some cidr)).cidrV6 =
      .ok { address := .ofSwift cidr.address, netPrefix := ⟨cidr.netPrefix.length⟩ } := by
  have haddress : (holding (some cidr)).ipv6Address = .ok (.ofSwift cidr.address) :=
    ipv6Address_of_held rfl
  have hmask : (holding (some cidr)).netPrefix = .ok ⟨cidr.netPrefix.length⟩ := rfl
  simp [cidrV6, haddress, hmask]

@[simp] theorem cidr_holding (block : Swift.CIDR) :
    (holding (some block)).cidr = .ok (.ofSwift block) := by
  have hheld : (holding (some block)).heldAddress = some (unwrapped block.address) := rfl
  have hfamily := isIPv6_of_unwrapped hheld
  have hmask : (holding (some block)).netPrefix = .ok ⟨block.netPrefix.length⟩ := rfl
  cases block with
  | v4 address netPrefix =>
    have haddress := ipv4Address_of_held hheld
    simp only [Swift.CIDR.address] at hfamily
    simp [cidr, hfamily, hmask, haddress, Rust.CIDR.ofSwift, Swift.CIDR.netPrefix]
  | v6 address netPrefix =>
    have haddress := ipv6Address_of_held hheld
    simp only [Swift.CIDR.address] at hfamily
    simp [cidr, hfamily, hmask, haddress, Rust.CIDR.ofSwift, Swift.CIDR.netPrefix]

end CzOutcome

namespace Rust

open CzOutcome (holding cidrV4_holding cidrV6_holding)

/-! ### What Swift made

Only Swift makes a prefix or a block of one family, so each Rust holds is one Swift accepted. -/

def Prefix.Made (netPrefix : Prefix) : Prop :=
  ∃ made : Swift.Prefix, made.length = netPrefix.length

def CIDR.Made : CIDR → Prop
  | .v4 _ netPrefix => netPrefix.Made
  | .v6 _ netPrefix => netPrefix.Made

section External

variable [External]

def CIDRv4.Made (cidr : CIDRv4) : Prop := ∃ made : Swift.CIDRv4, ofSwift made = cidr

def CIDRv6.Made (cidr : CIDRv6) : Prop := ∃ made : Swift.CIDRv6, ofSwift made = cidr

def InterfaceAddress.Made (address : InterfaceAddress) : Prop :=
  address.ipv4Address.Made ∧ ∀ cidr ∈ address.ipv6Address, cidr.Made

/-- What a block reads back as, once Swift holds it. -/
@[simp] theorem CIDRv4.cidrV4_stored (made : Swift.CIDRv4) :
    (holding (some made.stored)).cidrV4 = .ok (ofSwift made) := by
  simp [cidrV4_holding, Swift.CIDRv4.stored, ofSwift]

@[simp] theorem CIDRv6.cidrV6_stored (made : Swift.CIDRv6) :
    (holding (some made.stored)).cidrV6 = .ok (ofSwift made) := by
  simp [cidrV6_holding, Swift.CIDRv6.stored, ofSwift]

/-- Swift's, read back field by field, since no outcome holds the record. -/
def InterfaceAddress.read (made : Swift.InterfaceAddress) : Crossing InterfaceAddress := do
  return {
    ipv4Address := ← (holding (some made.ipv4Address.stored)).cidrV4
    ipv6Address := ← (holding (made.ipv6Address.map (·.stored))).optionalCIDRv6 }

end External

def LinkRoute.read (made : Swift.LinkRoute) : Crossing LinkRoute := do
  return {
    ipv4Destination := ← (holding made.ipv4Destination).optionalIPv4Address
    ipv4Source := ← (holding made.ipv4Source).optionalIPv4Address
    ipv6Destination := ← (holding made.ipv6Destination).optionalIPv6Address
    ipv6Source := ← (holding made.ipv6Source).optionalIPv6Address }

def DefaultRoute.read (made : Swift.DefaultRoute) : Crossing DefaultRoute := do
  return {
    ipv4Gateway := ← (holding made.ipv4Gateway).optionalIPv4Address
    ipv6Gateway := ← (holding made.ipv6Gateway).optionalIPv6Address }

/-! ### Crossing -/

omit [Runtime] in
theorem IPv6Address.fromHalves_value (address : IPv6Address) :
    fromHalves address.valueHigh address.valueLow address.zone = address := by
  simp [fromHalves, valueHigh, valueLow, halves]

/-- Swift asks for the address of the family the tag names, and holds one of that family. -/
theorem IPAddress.init_eq (address : IPAddress) :
    ∃ made, Swift.IPAddress.init address = .ok made ∧ IPAddress.ofSwift made = address ∧
      (holding (some made)).isIPv6 = address.holdsV6 := by
  cases address with
  | v4 address => exact ⟨.v4 ⟨address.value⟩, rfl, rfl, rfl⟩
  | v6 address =>
    exact ⟨.v6 (.init address), rfl, by simp [IPAddress.ofSwift], rfl⟩

omit [Runtime] in
theorem Prefix.Made.init_eq {netPrefix : Prefix} (h : netPrefix.Made) :
    ∃ made, Swift.Prefix.init netPrefix.length = .ok made ∧ made.length = netPrefix.length := by
  obtain ⟨made, hlength⟩ := h
  exact ⟨made, Swift.Prefix.init_eq_ok.mpr hlength, hlength⟩

theorem CIDR.Made.init_eq {cidr : CIDR} (h : cidr.Made) :
    ∃ made, Swift.CIDR.init cidr.parts.1 cidr.parts.2 = .ok made ∧ CIDR.ofSwift made = cidr ∧
      (holding (some made)).isIPv6 = cidr.parts.1.holdsV6 := by
  cases cidr with
  | v4 address netPrefix =>
    obtain ⟨made, hmade, hlength⟩ := Prefix.Made.init_eq h
    exact ⟨.v4 ⟨address.value⟩ made,
      by simp [Swift.CIDR.init, parts, hmade, Swift.IPAddress.init, IPAddress.holdsV6,
        IPAddress.v4Value],
      by simp [CIDR.ofSwift, hlength], rfl⟩
  | v6 address netPrefix =>
    obtain ⟨made, hmade, hlength⟩ := Prefix.Made.init_eq h
    exact ⟨.v6 (.init address) made,
      by simp [Swift.CIDR.init, parts, hmade, Swift.IPAddress.init, IPAddress.holdsV6,
        IPAddress.lentV6],
      by simp [CIDR.ofSwift, hlength], rfl⟩

theorem LinkRoute.crosses (route : LinkRoute) :
    Carries Swift.LinkRoute.init LinkRoute.read route route := by
  refine ⟨_, by simp [Swift.LinkRoute.init]; rfl, ?_⟩
  simp [LinkRoute.read, CzOutcome.optionalIPv4Address, CzOutcome.optionalIPv6Address,
    Function.comp_def]

theorem DefaultRoute.crosses (route : DefaultRoute) :
    Carries Swift.DefaultRoute.init DefaultRoute.read route route := by
  refine ⟨_, by simp [Swift.DefaultRoute.init]; rfl, ?_⟩
  simp [DefaultRoute.read, CzOutcome.optionalIPv4Address, CzOutcome.optionalIPv6Address,
    Function.comp_def]

section External

variable [External]

theorem InterfaceAddress.Made.crosses {address : InterfaceAddress} (h : address.Made) :
    Carries Swift.InterfaceAddress.init InterfaceAddress.read address address := by
  obtain ⟨ipv4Address, ipv6Address⟩ := address
  obtain ⟨⟨made4, rfl⟩, h6⟩ := h
  have hinit4 := Swift.CIDRv4.init_eq_ok.mpr (rfl : CIDRv4.ofSwift made4 = _)
  cases ipv6Address with
  | none =>
    refine ⟨{ ipv4Address := made4, ipv6Address := none }, ?_, ?_⟩
    · simp [Swift.InterfaceAddress.init, hinit4, ifPresent]
    · simp [InterfaceAddress.read, CzOutcome.optionalCIDRv6]
  | some cidr =>
    obtain ⟨made6, rfl⟩ := h6 cidr rfl
    have hinit6 := Swift.CIDRv6.init_eq_ok.mpr (rfl : CIDRv6.ofSwift made6 = _)
    refine ⟨{ ipv4Address := made4, ipv6Address := some made6 }, ?_, ?_⟩
    · simp [Swift.InterfaceAddress.init, hinit4, hinit6, ifPresent]
    · simp [InterfaceAddress.read, CzOutcome.optionalCIDRv6]

/-- Every address, prefix, block and route that Rust can hold reaches Swift, by the getter of the
case present, and is read back as it was. -/
theorem addresses_cross (value : BitVec 128) (ipv4 : IPv4Address) (ipv6 : IPv6Address)
    (address : IPAddress) (netPrefix : Prefix) (hmask : netPrefix.Made) (cidrV4 : CIDRv4)
    (hcidrV4 : cidrV4.Made) (cidrV6 : CIDRv6) (hcidrV6 : cidrV6.Made) (cidr : CIDR)
    (hcidr : cidr.Made) (mac : MACAddress) (interface : InterfaceAddress)
    (hinterface : interface.Made) (link : LinkRoute) (default : DefaultRoute) :
    (holding (some value)).uint128 = .ok value ∧
    IPv6Address.fromHalves ipv6.valueHigh ipv6.valueLow ipv6.zone = ipv6 ∧
    Crosses (fun ipv4 => .ok (Swift.IPv4Address.mk ipv4.value)) (·.ipv4Address) ipv4 ipv4 ∧
    Crosses (fun ipv6 => .ok (Swift.IPv6Address.init ipv6)) (·.ipv6Address) ipv6 ipv6 ∧
    Crosses Swift.IPAddress.init (·.ipAddress) address address ∧
    (∀ made, Swift.IPAddress.init address = .ok made →
      (holding (some made)).isIPv6 = address.holdsV6) ∧
    Crosses (Swift.Prefix.init ·.length) (·.netPrefix) netPrefix netPrefix ∧
    Crosses (fun cidr => (·.stored) <$>
      Swift.CIDRv4.init cidr.address.value cidr.netPrefix.length) (·.cidrV4) cidrV4 cidrV4 ∧
    Crosses (fun cidr => (·.stored) <$>
      Swift.CIDRv6.init cidr.address cidr.netPrefix.length) (·.cidrV6) cidrV6 cidrV6 ∧
    Crosses (fun cidr => Swift.CIDR.init cidr.parts.1 cidr.parts.2) (·.cidr) cidr cidr ∧
    (∀ made, Swift.CIDR.init cidr.parts.1 cidr.parts.2 = .ok made →
      (holding (some made)).isIPv6 = cidr.parts.1.holdsV6) ∧
    Crosses (fun mac => .ok (Swift.MACAddress.mk mac.value)) (·.macAddress) mac mac ∧
    Carries Swift.InterfaceAddress.init InterfaceAddress.read interface interface ∧
    Carries Swift.LinkRoute.init LinkRoute.read link link ∧
    Carries Swift.DefaultRoute.init DefaultRoute.read default default := by
  obtain ⟨madeAddress, hinit, hback, hfamily⟩ := address.init_eq
  obtain ⟨madePrefix, hinitPrefix, hlength⟩ := hmask.init_eq
  obtain ⟨madeV4, rfl⟩ := hcidrV4
  obtain ⟨madeV6, rfl⟩ := hcidrV6
  obtain ⟨madeCidr, hinitCidr, hbackCidr, hfamilyCidr⟩ := hcidr.init_eq
  have haddress : Crosses Swift.IPAddress.init (·.ipAddress) address address :=
    ⟨madeAddress, hinit, by simp [hback]⟩
  have hprefix : Crosses (Swift.Prefix.init ·.length) (·.netPrefix) netPrefix netPrefix :=
    ⟨madePrefix, hinitPrefix, by simp [hlength]⟩
  have hblock : Crosses (fun cidr => Swift.CIDR.init cidr.parts.1 cidr.parts.2) (·.cidr)
      cidr cidr := ⟨madeCidr, hinitCidr, by simp [hbackCidr]⟩
  refine ⟨CzOutcome.uint128_holding value, ipv6.fromHalves_value, ⟨_, rfl, rfl⟩,
    ⟨_, rfl, by simp⟩, haddress, ?_, hprefix,
    ⟨madeV4.stored, ?_, CIDRv4.cidrV4_stored madeV4⟩,
    ⟨madeV6.stored, ?_, CIDRv6.cidrV6_stored madeV6⟩, hblock, ?_, ⟨_, rfl, rfl⟩,
    hinterface.crosses, link.crosses, default.crosses⟩
  · intro made hmade
    obtain rfl : madeAddress = made := by simpa [hinit] using hmade
    exact hfamily
  · simp [Swift.CIDRv4.init_eq_ok.mpr (rfl : CIDRv4.ofSwift madeV4 = _)]
  · simp [Swift.CIDRv6.init_eq_ok.mpr (rfl : CIDRv6.ofSwift madeV6 = _)]
  · intro made hmade
    obtain rfl : madeCidr = made := by simpa [hinitCidr] using hmade
    exact hfamilyCidr

end External

/-- An interface on both families, the address of the second with a zone. -/
def InterfaceAddress.sample : InterfaceAddress where
  ipv4Address := ⟨⟨0xc0a84001⟩, ⟨24⟩⟩
  ipv6Address := some ⟨⟨0xfe80000000000000_00000000deadbeef, some "eth0"⟩, ⟨64⟩⟩

omit [Runtime] in
theorem sample_addresses_cross :
    let _ := Runtime.ascii
    let _ := External.plain
    let cidr := CIDR.v6 ⟨1, none⟩ ⟨24⟩
    Crosses (fun cidr : CIDR => Swift.CIDR.init cidr.parts.1 cidr.parts.2) (·.cidr) cidr cidr ∧
      Carries Swift.InterfaceAddress.init InterfaceAddress.read .sample .sample := by
  let _ := Runtime.ascii
  let _ := External.plain
  have hmade : InterfaceAddress.sample.Made := by
    refine ⟨⟨⟨⟨0xc0a84001⟩, ⟨24, by decide⟩, rfl⟩, rfl⟩, ?_⟩
    rintro cidr ⟨⟩
    exact ⟨⟨⟨_, some "eth0"⟩, ⟨64, by decide⟩, rfl⟩, rfl⟩
  obtain ⟨-, -, -, -, -, -, -, -, -, hcidr, -, -, hinterface, -, -⟩ :=
    addresses_cross (2 ^ 127) ⟨0⟩ ⟨1, none⟩ (.v4 ⟨1⟩)
      ⟨128⟩ ⟨⟨128, by decide⟩, rfl⟩
      ⟨⟨0xc0a84001⟩, ⟨24⟩⟩ ⟨⟨⟨0xc0a84001⟩, ⟨24, by decide⟩, rfl⟩, rfl⟩
      ⟨⟨1, none⟩, ⟨24⟩⟩ ⟨⟨⟨1, none⟩, ⟨24, by decide⟩, rfl⟩, rfl⟩
      (.v6 ⟨1, none⟩ ⟨24⟩) ⟨⟨24, by decide⟩, rfl⟩ ⟨0⟩ .sample hmade
      ⟨none, none, none, none⟩ ⟨none, none⟩
  exact ⟨hcidr, hinterface⟩

end Rust

end ContainerBridge
