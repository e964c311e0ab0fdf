import Slamkit.Protocol

/-!
# Socket addresses

`rp::net::SocketAddress` of `net_socket.cpp`: a `sockaddr_storage` that is read as a
`sockaddr_in` or a `sockaddr_in6`, and the methods that set its address and port.
`inet_pton` stays a parameter.
-/

namespace Slamkit

/-- `SocketAddress::address_type_t`. -/
inductive AddressType where
  /-- `ADDRESS_TYPE_UNSPEC`. -/
  | unspec
  /-- `ADDRESS_TYPE_INET`. -/
  | inet
  /-- `ADDRESS_TYPE_INET6`. -/
  | inet6
  deriving DecidableEq

/-- `AF_INET`. -/
def afInet : SlU16 := 2

/-- `AF_INET6`. -/
def afInet6 : SlU16 := 10

/-- `htons` on a little-endian host. -/
def htons (x : SlU16) : SlU16 := x.extractLsb' 0 8 ++ x.extractLsb' 8 8

/-- `ntohs` on a little-endian host. -/
def ntohs (x : SlU16) : SlU16 := x.extractLsb' 0 8 ++ x.extractLsb' 8 8

/-- `htonl` on a little-endian host. -/
def htonl (x : SlU32) : SlU32 :=
  x.extractLsb' 0 8 ++ x.extractLsb' 8 8 ++ x.extractLsb' 16 8 ++ x.extractLsb' 24 8

/-- `INADDR_LOOPBACK`. -/
def inaddrLoopback : SlU32 := 0x7f000001

/-- `INADDR_BROADCAST`. -/
def inaddrBroadcast : SlU32 := 0xffffffff

/-- `INADDR_ANY`. -/
def inaddrAny : SlU32 := 0

/-- `in6addr_loopback`, whose last byte is 1. The first byte is the lowest. -/
def in6addrLoopback : BitVec 128 := 1#128 <<< 120

/-- `in6addr_any`. -/
def in6addrAny : BitVec 128 := 0

/-- A `sockaddr_storage`, as far as a `sockaddr_in` or a `sockaddr_in6` covers it. -/
structure SockaddrStorage where
  /-- `ss_family`. -/
  ssFamily : SlU16
  /-- `sin_port` or `sin6_port`, in network order. -/
  port : SlU16
  /-- `sin_addr` or `sin6_flowinfo`, which lie in the same place. -/
  word : SlU32
  /-- `sin6_addr`. -/
  sin6Addr : BitVec 128
  /-- `sin6_scope_id`. -/
  sin6ScopeId : SlU32
  deriving DecidableEq

/-- `inet_pton` for one family: the address of a string it accepts, and what it leaves in its
destination if it rejects the string. -/
structure InetPton (α : Type) where
  accepts : List SlU8 → Option α
  leaves : List SlU8 → α → α

/-- A call of `inet_pton`: its result, and the destination afterwards. -/
def InetPton.call {α : Type} (p : InetPton α) (string : List SlU8) (dest : α) : ℤ × α :=
  match p.accepts string with
  | some address => (1, address)
  | none => (0, p.leaves string dest)

/-- `inet_pton` for both families. -/
structure Pton where
  inet : InetPton SlU32
  inet6 : InetPton (BitVec 128)

namespace SockaddrStorage

/-- `getAddressType`. The default branch is only asserted not to be reached, and assertions are
compiled out. -/
def getAddressType (a : SockaddrStorage) : AddressType :=
  if a.ssFamily = afInet then .inet
  else if a.ssFamily = afInet6 then .inet6
  else .inet

/-- `getPort`. -/
def getPort (a : SockaddrStorage) : ℤ :=
  match a.getAddressType with
  | .inet | .inet6 => (ntohs a.port).toNat
  | .unspec => 0

/-- `setPort`. Both kinds of addresses have the port in the same place. -/
def setPort (port : ℤ) (a : SockaddrStorage) : SlResult × SockaddrStorage :=
  match a.getAddressType with
  | .inet | .inet6 => (slResultOk, { a with port := htons (BitVec.ofInt 16 port) })
  | .unspec => (slResultOperationFail, a)

/-- `setAddressFromString`. -/
def setAddressFromString (pton : Pton) (string : List SlU8) (type : AddressType)
    (a : SockaddrStorage) : SlResult × SockaddrStorage :=
  let prevPort := a.getPort
  match type with
  | .inet =>
    let r := pton.inet.call string a.word
    let a := { a with ssFamily := afInet, word := r.2 }
    (if r.1 ≤ 0 then slResultInvalidData else slResultOk, (a.setPort prevPort).2)
  | .inet6 =>
    let r := pton.inet6.call string a.sin6Addr
    let a := { a with ssFamily := afInet6, sin6Addr := r.2 }
    (if r.1 ≤ 0 then slResultInvalidData else slResultOk, (a.setPort prevPort).2)
  | .unspec => (slResultInvalidData, a)

/-- `setLoopbackAddress`. -/
def setLoopbackAddress (type : AddressType) (a : SockaddrStorage) : SockaddrStorage :=
  let prevPort := a.getPort
  match type with
  | .inet =>
    let a := { a with ssFamily := afInet, word := htonl inaddrLoopback }
    (a.setPort prevPort).2
  | .inet6 =>
    let a := { a with ssFamily := afInet6, sin6Addr := in6addrLoopback }
    (a.setPort prevPort).2
  | .unspec => a

/-- `setBroadcastAddressIPv4`. -/
def setBroadcastAddressIPv4 (a : SockaddrStorage) : SockaddrStorage :=
  let prevPort := a.getPort
  let a := { a with ssFamily := afInet, word := htonl inaddrBroadcast }
  (a.setPort prevPort).2

/-- `setAnyAddress`. -/
def setAnyAddress (type : AddressType) (a : SockaddrStorage) : SockaddrStorage :=
  let prevPort := a.getPort
  match type with
  | .inet =>
    let a := { a with ssFamily := afInet, word := htonl inaddrAny }
    (a.setPort prevPort).2
  | .inet6 =>
    let a := { a with ssFamily := afInet6, sin6Addr := in6addrAny }
    (a.setPort prevPort).2
  | .unspec => a

/-- The default constructor. -/
def new : SockaddrStorage := ⟨afInet, 0, 0, 0, 0⟩

/-- The constructor from a string. What `setAddressFromString` and `setPort` return is dropped. -/
def ofString (pton : Pton) (addrString : List SlU8) (port : ℤ) (type : AddressType) :
    SockaddrStorage :=
  ((new.setAddressFromString pton addrString type).2.setPort port).2

/-- The byte orders are inverse to each other. -/
theorem ntohs_htons (x : SlU16) : ntohs (htons x) = x := by
  apply BitVec.eq_of_getLsbD_eq
  intro i hi
  simp only [ntohs, htons, BitVec.getLsbD_append, BitVec.getLsbD_extractLsb']
  by_cases hlow : i < 8
  · simp [hlow]
  · have hhigh : i - 8 < 8 := by omega
    have hback : 8 + (i - 8) = i := by omega
    simp [hlow, hhigh, hback]

/-- The address type is never unspecified. -/
theorem getAddressType_ne (a : SockaddrStorage) : a.getAddressType ≠ .unspec := by
  rw [getAddressType]
  split
  · exact nofun
  · split <;> exact nofun

/-- `setPort` writes the port, in network order, and succeeds. -/
theorem setPort_eq (port : ℤ) (a : SockaddrStorage) :
    a.setPort port = (slResultOk, { a with port := htons (BitVec.ofInt 16 port) }) := by
  have htype := a.getAddressType_ne
  rw [setPort]
  cases h : a.getAddressType with
  | inet => rfl
  | inet6 => rfl
  | unspec => exact absurd h htype

/-- The port of a new IPv4 address made from a string is the one given, and its address the one
that `inet_pton` has made of the string. -/
theorem ofString_inet (pton : Pton) (addrString : List SlU8) (port : ℤ) :
    ofString pton addrString port .inet =
      ⟨afInet, htons (BitVec.ofInt 16 port), (pton.inet.call addrString 0).2, 0, 0⟩ := by
  simp only [ofString, setAddressFromString, setPort_eq]
  rfl

end SockaddrStorage

end Slamkit
