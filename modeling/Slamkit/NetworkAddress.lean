import Slamkit.Reconnect
import Slamkit.SocketAddress

/-!
# The address a network channel connects to

`bind` of a network channel makes a `SocketAddress` of the string and the port the channel was
created with, and `open` connects the socket to it. Whether the string was an address is lost
on the way: the constructor of `SocketAddress` drops the result of `setAddressFromString`,
and `bind` always returns `SL_RESULT_OK`, which is `false` as a `bool`.
-/

namespace Slamkit

/-- `c_str` of a `std::string`, as a function that takes a C string reads it. -/
def cStr (string : List SlU8) : List SlU8 := string.takeWhile (· ≠ 0)

/-- The method of the socket that `open` calls. -/
def NetworkKind.method : NetworkKind → SocketMethod
  | .tcp => .connect
  | .udp => .setPairAddress

/-- The result of this method, from the outcome of `::connect`. -/
def NetworkKind.result : NetworkKind → ConnectAnswer → SlResult
  | .tcp => streamConnect
  | .udp => dgramSetPairAddress

/-- The members of a network channel: its socket, and `_socket`, `_ip` and `_port`; and the
addresses that the socket was told to connect to, oldest first. -/
structure AddressedChannel where
  network : NetworkChannel
  socket : SockaddrStorage
  ip : List SlU8
  port : ℤ
  connects : List SockaddrStorage
  deriving DecidableEq

namespace AddressedChannel

/-- `createTcpChannel` or `createUdpChannel`, when `CreateSocket` succeeds. -/
def create (ip : List SlU8) (port : ℤ) : AddressedChannel := ⟨.new, .new, ip, port, []⟩

/-- `bind`: it returns `SL_RESULT_OK` as a `bool`. -/
def bind (pton : Pton) (ip : List SlU8) (port : ℤ) (c : AddressedChannel) :
    Bool × AddressedChannel :=
  (slResultOk != 0, { c with socket := .ofString pton (cStr ip) port .inet })

/-- `open`. Without a socket the call goes through a null pointer and is undefined: `undefined` is
what it returns if it returns, and `connects` has the address that it is called with. -/
def «open» (kind : NetworkKind) (pton : Pton) (ans : ConnectAnswer) (undefined : SlResult)
    (c : AddressedChannel) : Bool × AddressedChannel :=
  let r := c.bind pton c.ip c.port
  if slIsFail (if r.1 then 1 else 0) then (false, r.2)
  else
    (slIsOk (if r.2.network.bindedSocket.isSome then kind.result ans else undefined),
      { r.2 with
        network := r.2.network.through kind.method
        connects := r.2.connects ++ [r.2.socket] })

/-- `bind` does not fail, so that `open` connects to whatever the constructor of the address has
left. -/
theorem open_eq (kind : NetworkKind) (pton : Pton) (ans : ConnectAnswer) (undefined : SlResult)
    (c : AddressedChannel) :
    c.«open» kind pton ans undefined =
      (slIsOk (if c.network.bindedSocket.isSome then kind.result ans else undefined),
        ⟨c.network.through kind.method, .ofString pton (cStr c.ip) c.port .inet, c.ip, c.port,
          c.connects ++ [.ofString pton (cStr c.ip) c.port .inet]⟩) := by
  have hbind : (c.bind pton c.ip c.port).1 = false := rfl
  have hok : slIsFail 0 = false := rfl
  simp only [«open», hbind, if_neg Bool.false_ne_true, hok]
  rfl

/-- What `open` does to the socket is what it does without regard to the address. -/
theorem open_network (kind : NetworkKind) (pton : Pton) (ans : ConnectAnswer)
    (undefined : SlResult) (c : AddressedChannel) :
    ((c.«open» kind pton ans undefined).1, (c.«open» kind pton ans undefined).2.network) =
      kind.«open» ans undefined c.network := by
  rw [open_eq]
  cases kind with
  | tcp => rw [NetworkKind.«open», TcpChannel.«open», NetworkChannel.open_eq]; rfl
  | udp => rw [NetworkKind.«open», UdpChannel.«open», NetworkChannel.open_eq]; rfl

end AddressedChannel

/-- An address of the IPv4 family with a given address and port. -/
def SockaddrStorage.Names (a : SockaddrStorage) (address : SlU32) (port : ℤ) : Prop :=
  a.ssFamily = afInet ∧ a.word = address ∧ a.getPort = port

/-- A channel that connects only to the address it was given: if `inet_pton` accepts its string
as an IPv4 address, `open` connects once, to this address and port; otherwise it returns `false`
and does not connect. -/
def AddressedChannel.OpensGiven (kind : NetworkKind) (pton : Pton) (c : AddressedChannel) : Prop :=
  ∀ ans undefined,
    match pton.inet.accepts (cStr c.ip) with
    | some address => ∃ a, (c.«open» kind pton ans undefined).2.connects = c.connects ++ [a] ∧
        a.Names address c.port
    | none => (c.«open» kind pton ans undefined).1 = false ∧
        (c.«open» kind pton ans undefined).2.connects = c.connects

/-- The address made of an accepted string names it and the port. -/
theorem SockaddrStorage.ofString_names {pton : Pton} {addrString : List SlU8} {address : SlU32}
    (h : pton.inet.accepts addrString = some address) {port : ℤ} (hpos : 0 ≤ port)
    (hlt : port < 65536) : (ofString pton addrString port .inet).Names address port := by
  have hport : ((BitVec.ofInt 16 port).toNat : ℤ) = port := by
    rw [BitVec.toNat_ofInt]
    omega
  rw [ofString_inet, InetPton.call, h]
  refine ⟨rfl, rfl, ?_⟩
  simp only [getPort, getAddressType, if_true, ntohs_htons, hport]

/-- **When a network channel connects only to the address it was given.** For a TCP or UDP channel
that has its socket, with any string and any port from 0 to 65535 and whatever has been bound and
connected before: exactly if `inet_pton` accepts the string as an IPv4 address. -/
theorem opensGiven_iff (kind : NetworkKind) (pton : Pton) (c : AddressedChannel)
    (hpos : 0 ≤ c.port) (hlt : c.port < 65536) :
    c.OpensGiven kind pton ↔ ∃ address, pton.inet.accepts (cStr c.ip) = some address := by
  constructor
  · intro h
    cases haccepts : pton.inet.accepts (cStr c.ip) with
    | some address => exact ⟨address, rfl⟩
    | none =>
      have hopen := h (.ok ()) slResultOk
      rw [haccepts] at hopen
      have hlength := congrArg List.length hopen.2
      simp [AddressedChannel.open_eq] at hlength
  · rintro ⟨address, haccepts⟩ ans undefined
    rw [haccepts]
    rw [AddressedChannel.open_eq]
    exact ⟨_, rfl, SockaddrStorage.ofString_names haccepts hpos hlt⟩

/-- An `inet_pton` that knows the address 127.0.0.1. -/
def loopbackPton : Pton where
  inet := ⟨fun s => if s = [49, 50, 55, 46, 48, 46, 48, 46, 49] then some 0x0100007f else none,
    fun _ dest => dest⟩
  inet6 := ⟨fun _ => none, fun _ dest => dest⟩

/-- A TCP channel to port 8000 of 127.0.0.1. -/
theorem opensGiven_loopback :
    (AddressedChannel.create [49, 50, 55, 46, 48, 46, 48, 46, 49] 8000).OpensGiven .tcp
      loopbackPton :=
  (opensGiven_iff .tcp loopbackPton (.create [49, 50, 55, 46, 48, 46, 48, 46, 49] 8000)
    (by decide) (by decide)).mpr ⟨0x0100007f, by decide⟩

/-- A channel to "localhost" connects to 0.0.0.0. -/
theorem host_name_connects_anywhere :
    ¬ ∀ (kind : NetworkKind) (pton : Pton) (ip : List SlU8) (port : ℤ), 0 ≤ port → port < 65536 →
      (AddressedChannel.create ip port).OpensGiven kind pton := by
  intro h
  have hopen := h .tcp loopbackPton [108, 111, 99, 97, 108, 104, 111, 115, 116] 8000 (by decide)
    (by decide) (.ok ()) slResultOk
  have hconnects : (AddressedChannel.create [108, 111, 99, 97, 108, 104, 111, 115, 116]
      8000).connects = [⟨afInet, htons 8000, 0, 0, 0⟩] := hopen.2.symm
  cases hconnects

end Slamkit
