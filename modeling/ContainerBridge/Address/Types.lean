import ContainerBridge.Container.Address

/-! The address types and the routes made of them, in both languages, and the initialisers that
read Rust's. An IP address crosses by its family's tag, and a CIDR block as its address and its
prefix's length. -/

namespace ContainerBridge

/-! ### Rust -/

namespace Rust

inductive IPAddress where
  | v4 (address : IPv4Address)
  | v6 (address : IPv6Address)

/-- Rust's `CIDR`, whose cases can be made with any prefix. -/
inductive CIDR where
  | v4 (address : IPv4Address) (netPrefix : Prefix)
  | v6 (address : IPv6Address) (netPrefix : Prefix)

structure InterfaceAddress where
  ipv4Address : CIDRv4
  ipv6Address : Option CIDRv6

structure LinkRoute where
  ipv4Destination : Option IPv4Address
  ipv4Source : Option IPv4Address
  ipv6Destination : Option IPv6Address
  ipv6Source : Option IPv6Address

structure DefaultRoute where
  ipv4Gateway : Option IPv4Address
  ipv6Gateway : Option IPv6Address

namespace IPAddress

def holdsV6 : IPAddress → Bool
  | .v4 _ => false
  | .v6 _ => true

def v4Value : IPAddress → Crossing UInt32
  | .v4 address => .ok address.value
  | .v6 _ => .error (.panic "Swift asks for an IPv4 value only after `holds_v6`")

def lentV6 : IPAddress → Crossing IPv6Address
  | .v6 address => .ok address
  | .v4 _ => .error (.panic "Swift asks for an IPv6 address only after `holds_v6`")

end IPAddress

/-- The case's address and prefix length, as they cross to Swift. -/
def CIDR.parts : CIDR → IPAddress × UInt8
  | .v4 address netPrefix => (.v4 address, netPrefix.length)
  | .v6 address netPrefix => (.v6 address, netPrefix.length)

namespace InterfaceAddress

variable (address : InterfaceAddress)

@[simp] def ipv4AddressValue : UInt32 := address.ipv4Address.address.value
@[simp] def ipv4AddressPrefix : UInt8 := address.ipv4Address.netPrefix.length
@[simp] def hasIpv6Address : Bool := address.ipv6Address.isSome
@[simp] def ipv6 : Crossing CIDRv6 := present address.ipv6Address
@[simp] def ipv6AddressAddress : Crossing IPv6Address := do return (← address.ipv6).address
@[simp] def ipv6AddressPrefix : Crossing UInt8 := do return (← address.ipv6).netPrefix.length

end InterfaceAddress

namespace LinkRoute

variable (route : LinkRoute)

@[simp] def lentIpv4Destination : Option UInt32 := route.ipv4Destination.map (·.value)
@[simp] def lentIpv4Source : Option UInt32 := route.ipv4Source.map (·.value)
@[simp] def hasIpv6Destination : Bool := route.ipv6Destination.isSome
@[simp] def lentIpv6Destination : Crossing IPv6Address := present route.ipv6Destination
@[simp] def hasIpv6Source : Bool := route.ipv6Source.isSome
@[simp] def lentIpv6Source : Crossing IPv6Address := present route.ipv6Source

end LinkRoute

namespace DefaultRoute

variable (route : DefaultRoute)

@[simp] def lentIpv4Gateway : Option UInt32 := route.ipv4Gateway.map (·.value)
@[simp] def hasIpv6Gateway : Bool := route.ipv6Gateway.isSome
@[simp] def lentIpv6Gateway : Crossing IPv6Address := present route.ipv6Gateway

end DefaultRoute

end Rust

/-! ### Swift -/

namespace Swift

inductive IPAddress where
  | v4 (address : IPv4Address)
  | v6 (address : IPv6Address)

inductive CIDR where
  | v4 (address : IPv4Address) (netPrefix : Prefix)
  | v6 (address : IPv6Address) (netPrefix : Prefix)

/-- What a `CIDRv4` stores, without what its initialiser accepted it by. -/
structure StoredCIDRv4 where
  address : IPv4Address
  netPrefix : Prefix

/-- What a `CIDRv6` stores. -/
structure StoredCIDRv6 where
  address : IPv6Address
  netPrefix : Prefix

def CIDR.address : CIDR → IPAddress
  | .v4 address _ => .v4 address
  | .v6 address _ => .v6 address

def CIDR.netPrefix : CIDR → Prefix
  | .v4 _ netPrefix => netPrefix
  | .v6 _ netPrefix => netPrefix

def IPAddress.init (address : Rust.IPAddress) : Crossing IPAddress := do
  if address.holdsV6 then return .v6 (IPv6Address.init (← address.lentV6))
  else return .v4 ⟨← address.v4Value⟩

/-- The case Rust holds, made directly as Rust's was. -/
def CIDR.init (address : Rust.IPAddress) (length : UInt8) : Crossing CIDR := do
  let netPrefix ← Prefix.init length
  match ← IPAddress.init address with
  | .v4 address => return .v4 address netPrefix
  | .v6 address => return .v6 address netPrefix

structure LinkRoute where
  ipv4Destination : Option IPv4Address
  ipv4Source : Option IPv4Address
  ipv6Destination : Option IPv6Address
  ipv6Source : Option IPv6Address

structure DefaultRoute where
  ipv4Gateway : Option IPv4Address
  ipv6Gateway : Option IPv6Address

def LinkRoute.init (route : Rust.LinkRoute) : Crossing LinkRoute := do
  return {
    ipv4Destination := route.lentIpv4Destination.map IPv4Address.mk
    ipv4Source := route.lentIpv4Source.map IPv4Address.mk
    ipv6Destination := ← ifPresent route.hasIpv6Destination do
      return IPv6Address.init (← route.lentIpv6Destination)
    ipv6Source := ← ifPresent route.hasIpv6Source do
      return IPv6Address.init (← route.lentIpv6Source) }

def DefaultRoute.init (route : Rust.DefaultRoute) : Crossing DefaultRoute := do
  return {
    ipv4Gateway := route.lentIpv4Gateway.map IPv4Address.mk
    ipv6Gateway := ← ifPresent route.hasIpv6Gateway do
      return IPv6Address.init (← route.lentIpv6Gateway) }

variable [External]

structure InterfaceAddress where
  ipv4Address : CIDRv4
  ipv6Address : Option CIDRv6

def CIDRv4.stored (cidr : CIDRv4) : StoredCIDRv4 :=
  { address := cidr.address, netPrefix := cidr.netPrefix }

def CIDRv6.stored (cidr : CIDRv6) : StoredCIDRv6 :=
  { address := cidr.address, netPrefix := cidr.netPrefix }

def InterfaceAddress.init (address : Rust.InterfaceAddress) : Crossing InterfaceAddress := do
  return {
    ipv4Address := ← CIDRv4.init address.ipv4AddressValue address.ipv4AddressPrefix
    ipv6Address := ← ifPresent address.hasIpv6Address do
      CIDRv6.init (← address.ipv6AddressAddress) (← address.ipv6AddressPrefix) }

end Swift

namespace Rust

/-- The Rust address of the same family, value and zone. -/
def IPAddress.ofSwift : Swift.IPAddress → IPAddress
  | .v4 address => .v4 ⟨address.value⟩
  | .v6 address => .v6 (.ofSwift address)

/-- The Rust block of the same case, address and prefix length. -/
def CIDR.ofSwift : Swift.CIDR → CIDR
  | .v4 address netPrefix => .v4 ⟨address.value⟩ ⟨netPrefix.length⟩
  | .v6 address netPrefix => .v6 (.ofSwift address) ⟨netPrefix.length⟩

end Rust

end ContainerBridge
