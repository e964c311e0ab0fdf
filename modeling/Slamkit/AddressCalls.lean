import Slamkit.Library.LastWrite
import Slamkit.Library.Run
import Slamkit.SocketAddress

/-!
# Calls that set a socket address

Each of them overwrites the family and the address, or the port. The family is written before
the port is read back, and before a string is parsed.
-/

namespace Slamkit

open Library

/-- An address of one of the two families. -/
inductive Address where
  | inet (sAddr : SlU32)
  | inet6 (s6Addr : BitVec 128)
  deriving DecidableEq

namespace Address

/-- The IPv4 address. -/
def inet? : Address → Option SlU32
  | inet sAddr => some sAddr
  | inet6 _ => none

/-- The IPv6 address. -/
def inet6? : Address → Option (BitVec 128)
  | inet _ => none
  | inet6 s6Addr => some s6Addr

/-- The type of an address. -/
def type : Address → AddressType
  | inet _ => .inet
  | inet6 _ => .inet6

/-- The family of an address. -/
def family : Address → SlU16
  | inet _ => afInet
  | inet6 _ => afInet6

/-- A storage with this address: everything that is not part of the address stays. -/
def storeIn (a : SockaddrStorage) : Address → SockaddrStorage
  | inet sAddr => { a with ssFamily := afInet, word := sAddr }
  | inet6 s6Addr => { a with ssFamily := afInet6, sin6Addr := s6Addr }

end Address

/-- A type that is not `ADDRESS_TYPE_UNSPEC`. -/
def AddressType.known : AddressType → Option AddressType
  | .unspec => none
  | type => some type

/-- The address that `inet_pton` makes of a string, for a type of addresses. -/
def Pton.address (pton : Pton) (string : List SlU8) : AddressType → Option Address
  | .inet => (pton.inet.accepts string).map .inet
  | .inet6 => (pton.inet6.accepts string).map .inet6
  | .unspec => none

/-- An address has the type that it was asked for with. -/
theorem Pton.address_type (pton : Pton) {string : List SlU8} {type : AddressType}
    {address : Address} (h : pton.address string type = some address) :
    type.known = some address.type := by
  cases type with
  | inet =>
    obtain ⟨sAddr, -, rfl⟩ := Option.map_eq_some_iff.mp h
    rfl
  | inet6 =>
    obtain ⟨s6Addr, -, rfl⟩ := Option.map_eq_some_iff.mp h
    rfl
  | unspec => cases h

/-- The address that a storage has for a type of addresses after `inet_pton` has rejected a
string. -/
def Pton.leftAddress (pton : Pton) (string : List SlU8) (a : SockaddrStorage) :
    AddressType → Option Address
  | .inet => some (.inet (pton.inet.leaves string a.word))
  | .inet6 => some (.inet6 (pton.inet6.leaves string a.sin6Addr))
  | .unspec => none

/-- `inet_pton` leaves its destination untouched when it rejects the string. -/
structure Pton.KeepsRejected (pton : Pton) : Prop where
  inet : ∀ string dest, pton.inet.leaves string dest = dest
  inet6 : ∀ string dest, pton.inet6.leaves string dest = dest

namespace SockaddrStorage

/-- The address, as it is read through the family. -/
def rawAddress (a : SockaddrStorage) : Address :=
  if a.ssFamily = afInet6 then .inet6 a.sin6Addr else .inet a.word

/-- The family is one of the two that `getAddressType` knows, and is reported as that. -/
def FamilyKnown (a : SockaddrStorage) : Prop :=
  (a.ssFamily = afInet ∧ a.getAddressType = .inet) ∨
    (a.ssFamily = afInet6 ∧ a.getAddressType = .inet6)

/-- The port, whatever the family. -/
theorem getPort_eq (a : SockaddrStorage) : a.getPort = (ntohs a.port).toNat := by
  have htype := a.getAddressType_ne
  unfold getPort
  cases htype' : a.getAddressType with
  | inet => rfl
  | inet6 => rfl
  | unspec => exact absurd htype' htype

/-- The setters write the port that they have read before. -/
theorem setPort_prevPort {a b : SockaddrStorage} (h : b.port = a.port) :
    (b.setPort a.getPort).2 = b := by
  have hback : htons (BitVec.ofInt 16 ((ntohs a.port).toNat : ℤ)) = a.port := by
    rw [BitVec.ofInt_natCast, BitVec.ofNat_toNat, BitVec.setWidth_eq]
    exact ntohs_htons a.port
  rw [setPort_eq, getPort_eq, hback, ← h]

/-- Storing an address leaves the port alone. -/
theorem storeIn_port (address : Address) (a : SockaddrStorage) :
    (address.storeIn a).port = a.port := by
  cases address <;> rfl

/-- Where an IPv4 address is stored. -/
theorem word_storeIn (address : Address) (a : SockaddrStorage) :
    (address.storeIn a).word = address.inet?.getD a.word := by
  cases address <;> rfl

/-- Where an IPv6 address is stored. -/
theorem sin6Addr_storeIn (address : Address) (a : SockaddrStorage) :
    (address.storeIn a).sin6Addr = address.inet6?.getD a.sin6Addr := by
  cases address <;> rfl

/-- Where its family is stored. -/
theorem ssFamily_storeIn (address : Address) (a : SockaddrStorage) :
    (address.storeIn a).ssFamily = address.family := by
  cases address <;> rfl

/-- A stored address has its family with it. -/
theorem familyKnown_storeIn (address : Address) (a : SockaddrStorage) :
    (address.storeIn a).FamilyKnown := by
  cases address with
  | inet sAddr => exact .inl ⟨rfl, rfl⟩
  | inet6 s6Addr => exact .inr ⟨rfl, rfl⟩

/-- A string that is accepted becomes the address. -/
theorem setAddressFromString_of_accepted {pton : Pton} {string : List SlU8} {type : AddressType}
    {address : Address} (h : pton.address string type = some address) (a : SockaddrStorage) :
    a.setAddressFromString pton string type = (slResultOk, address.storeIn a) := by
  cases type with
  | inet =>
    obtain ⟨sAddr, haccepts, rfl⟩ := Option.map_eq_some_iff.mp h
    unfold setAddressFromString InetPton.call
    rw [haccepts]
    exact Prod.ext rfl (setPort_prevPort rfl)
  | inet6 =>
    obtain ⟨s6Addr, haccepts, rfl⟩ := Option.map_eq_some_iff.mp h
    unfold setAddressFromString InetPton.call
    rw [haccepts]
    exact Prod.ext rfl (setPort_prevPort rfl)
  | unspec => cases h

/-- A string that is rejected changes the family all the same, and whatever `inet_pton` leaves in
its destination becomes the address. -/
theorem setAddressFromString_of_rejected {pton : Pton} {string : List SlU8} {type : AddressType}
    (h : pton.address string type = none) (a : SockaddrStorage) :
    a.setAddressFromString pton string type =
      (slResultInvalidData, (pton.leftAddress string a type).elim a fun x => x.storeIn a) := by
  cases type with
  | inet =>
    have hrejects : pton.inet.accepts string = none := Option.map_eq_none_iff.mp h
    unfold setAddressFromString InetPton.call
    rw [hrejects]
    exact Prod.ext rfl (setPort_prevPort rfl)
  | inet6 =>
    have hrejects : pton.inet6.accepts string = none := Option.map_eq_none_iff.mp h
    unfold setAddressFromString InetPton.call
    rw [hrejects]
    exact Prod.ext rfl (setPort_prevPort rfl)
  | unspec => rfl

/-- The address of a type that `setLoopbackAddress` sets. -/
def loopbackAddress : AddressType → Option Address
  | .inet => some (.inet (htonl inaddrLoopback))
  | .inet6 => some (.inet6 in6addrLoopback)
  | .unspec => none

/-- The address of a type that `setAnyAddress` sets. -/
def anyAddress : AddressType → Option Address
  | .inet => some (.inet (htonl inaddrAny))
  | .inet6 => some (.inet6 in6addrAny)
  | .unspec => none

theorem setLoopbackAddress_eq (type : AddressType) (a : SockaddrStorage) :
    a.setLoopbackAddress type = (loopbackAddress type).elim a fun x => x.storeIn a := by
  cases type with
  | inet => exact setPort_prevPort rfl
  | inet6 => exact setPort_prevPort rfl
  | unspec => rfl

theorem setAnyAddress_eq (type : AddressType) (a : SockaddrStorage) :
    a.setAnyAddress type = (anyAddress type).elim a fun x => x.storeIn a := by
  cases type with
  | inet => exact setPort_prevPort rfl
  | inet6 => exact setPort_prevPort rfl
  | unspec => rfl

theorem setBroadcastAddressIPv4_eq (a : SockaddrStorage) :
    a.setBroadcastAddressIPv4 = (Address.inet (htonl inaddrBroadcast)).storeIn a :=
  setPort_prevPort rfl

end SockaddrStorage

/-- A call that sets the address or the port. -/
inductive AddressCall where
  | setPort (port : ℤ)
  | setAddressFromString (string : List SlU8) (type : AddressType)
  | setLoopbackAddress (type : AddressType)
  | setAnyAddress (type : AddressType)
  | setBroadcastAddressIPv4

namespace AddressCall

/-- The result of a call and the object after it. Where the method returns nothing, the call
succeeds. -/
def call (pton : Pton) (a : SockaddrStorage) : AddressCall → SlResult × SockaddrStorage
  | setPort port => a.setPort port
  | setAddressFromString string type => a.setAddressFromString pton string type
  | setLoopbackAddress type => (slResultOk, a.setLoopbackAddress type)
  | setAnyAddress type => (slResultOk, a.setAnyAddress type)
  | setBroadcastAddressIPv4 => (slResultOk, a.setBroadcastAddressIPv4)

/-- The port that a call sets. -/
def port? : AddressCall → Option ℤ
  | setPort port => some port
  | _ => none

/-- The type of the address that a call sets. -/
def type? : AddressCall → Option AddressType
  | setAddressFromString _ type | setLoopbackAddress type | setAnyAddress type => type.known
  | setBroadcastAddressIPv4 => some .inet
  | setPort _ => none

/-- The address that a call sets if it succeeds. -/
def address? (pton : Pton) : AddressCall → Option Address
  | setAddressFromString string type => pton.address string type
  | setLoopbackAddress type => SockaddrStorage.loopbackAddress type
  | setAnyAddress type => SockaddrStorage.anyAddress type
  | setBroadcastAddressIPv4 => some (.inet (htonl inaddrBroadcast))
  | setPort _ => none

/-- **What a call does**: it sets the port, or it sets an address with its family, or nothing. -/
theorem call_cases (pton : Pton) (a : SockaddrStorage) (c : AddressCall) :
    (∃ port, c = setPort port ∧
      c.call pton a = (slResultOk, { a with port := htons (BitVec.ofInt 16 port) })) ∨
    (c.port? = none ∧ ∃ target : Option Address, c.type? = target.map Address.type ∧
      (c.call pton a).2 = (target.elim a fun x => x.storeIn a) ∧
      ((c.call pton a).1 = slResultOk → c.address? pton = target)) := by
  cases c with
  | setPort port => exact .inl ⟨port, rfl, a.setPort_eq port⟩
  | setAddressFromString string type =>
    right
    cases h : pton.address string type with
    | some address =>
      have hcall := SockaddrStorage.setAddressFromString_of_accepted h a
      have htype : type.known = some address.type := pton.address_type h
      exact ⟨rfl, some address, htype, congrArg Prod.snd hcall, fun _ => h⟩
    | none =>
      have hcall := SockaddrStorage.setAddressFromString_of_rejected h a
      have hfails : (a.setAddressFromString pton string type).1 ≠ slResultOk := by
        rw [hcall]
        exact (by decide : slResultInvalidData ≠ slResultOk)
      have htype : type.known = (pton.leftAddress string a type).map Address.type := by
        cases type <;> rfl
      exact ⟨rfl, _, htype, congrArg Prod.snd hcall, fun hok => absurd hok hfails⟩
  | setLoopbackAddress type =>
    have htype : type.known = (SockaddrStorage.loopbackAddress type).map Address.type := by
      cases type <;> rfl
    exact .inr ⟨rfl, _, htype, a.setLoopbackAddress_eq type, fun _ => rfl⟩
  | setAnyAddress type =>
    have htype : type.known = (SockaddrStorage.anyAddress type).map Address.type := by
      cases type <;> rfl
    exact .inr ⟨rfl, _, htype, a.setAnyAddress_eq type, fun _ => rfl⟩
  | setBroadcastAddressIPv4 =>
    exact .inr ⟨rfl, some (.inet (htonl inaddrBroadcast)), rfl, a.setBroadcastAddressIPv4_eq,
      fun _ => rfl⟩

/-- A call sets its port, in network order, or leaves the port alone. -/
theorem call_port (pton : Pton) (a : SockaddrStorage) (c : AddressCall) :
    (c.call pton a).2.port =
      (c.port?.map fun port => htons (BitVec.ofInt 16 port)).getD a.port := by
  rcases call_cases pton a c with ⟨port, rfl, hcall⟩ | ⟨hport, target, -, hcall, -⟩
  · rw [hcall]
    rfl
  · rw [hcall, hport]
    cases target with
    | none => rfl
    | some address => exact SockaddrStorage.storeIn_port address a

/-- A call keeps the family known. -/
theorem call_familyKnown (pton : Pton) {a : SockaddrStorage} (h : a.FamilyKnown)
    (c : AddressCall) : (c.call pton a).2.FamilyKnown := by
  rcases call_cases pton a c with ⟨port, rfl, hcall⟩ | ⟨-, target, -, hcall, -⟩
  · rw [hcall]
    exact h
  · rw [hcall]
    cases target with
    | none => exact h
    | some address => exact SockaddrStorage.familyKnown_storeIn address a

end AddressCall

/-- The object after some calls. -/
def SockaddrStorage.run (pton : Pton) (a : SockaddrStorage) (calls : List AddressCall) :
    SockaddrStorage :=
  calls.foldl (fun a c => (c.call pton a).2) a

/-- The constructors. -/
inductive Construction where
  | default
  | string (addrString : List SlU8) (port : ℤ) (type : AddressType)

namespace Construction

/-- The object that is constructed. -/
def build (pton : Pton) : Construction → SockaddrStorage
  | default => .new
  | string addrString port type => .ofString pton addrString port type

/-- The calls that the constructor makes itself. -/
def calls : Construction → List AddressCall
  | default => []
  | string addrString port type => [.setAddressFromString addrString type, .setPort port]

/-- A constructed object is the default one after these calls. -/
theorem build_eq_run (pton : Pton) (con : Construction) :
    con.build pton = SockaddrStorage.new.run pton con.calls := by
  cases con <;> rfl

end Construction

namespace SockaddrStorage

/-- The calls of a run go on after those of the constructor. -/
theorem run_build (pton : Pton) (con : Construction) (calls : List AddressCall) :
    (con.build pton).run pton calls = new.run pton (con.calls ++ calls) := by
  unfold run
  rw [List.foldl_append, Construction.build_eq_run]
  rfl

/-- After a run the port is the last one set, in network order. -/
theorem run_port (pton : Pton) (a : SockaddrStorage) (calls : List AddressCall) :
    (a.run pton calls).port =
      ((lastWrite AddressCall.port? calls).map fun port => htons (BitVec.ofInt 16 port)).getD
        a.port := by
  rw [← lastWrite_map]
  exact foldl_eq_lastWrite port (fun c _ b => c.call_port pton b) a

/-- Runs keep the family known. -/
theorem run_familyKnown (pton : Pton) {a : SockaddrStorage} (h : a.FamilyKnown)
    (calls : List AddressCall) : (a.run pton calls).FamilyKnown :=
  invariant_of_foldl (fun _ c hb => c.call_familyKnown pton hb) h calls

/-- The default object is an IPv4 one. -/
theorem familyKnown_new : new.FamilyKnown := .inl ⟨rfl, rfl⟩

/-- `getPort` gives the low 16 bits of what `setPort` was given. -/
theorem getPort_of_port {a : SockaddrStorage} {port : ℤ}
    (h : a.port = htons (BitVec.ofInt 16 port)) : a.getPort = port % 65536 := by
  have hpos : 0 ≤ port % 65536 := Int.emod_nonneg port (by decide)
  rw [getPort_eq, h, ntohs_htons, BitVec.toNat_ofInt]
  omega

/-- **The family stays known and the port survives every change of the address**: it is the
last one set, by the constructor or by `setPort`, and 0 if none was. -/
theorem port_survives (pton : Pton) (con : Construction) (calls : List AddressCall) :
    ((con.build pton).run pton calls).FamilyKnown ∧
      ((con.build pton).run pton calls).getPort =
        (lastWrite AddressCall.port? (con.calls ++ calls)).getD 0 % 65536 := by
  rw [run_build]
  constructor
  · exact run_familyKnown pton familyKnown_new _
  · apply getPort_of_port
    rw [run_port]
    cases lastWrite AddressCall.port? (con.calls ++ calls) with
    | none => rfl
    | some port => rfl

/-- An object that a constructor and some calls have made. -/
def Reachable (pton : Pton) (a : SockaddrStorage) : Prop :=
  ∃ con calls, a = (Construction.build pton con).run pton calls

/-- The family, the address as it is read through the family, and the port are still the same. -/
structure Unchanged (a b : SockaddrStorage) : Prop where
  family : b.ssFamily = a.ssFamily
  address : b.rawAddress = a.rawAddress
  port : b.getPort = a.getPort

theorem Reachable.familyKnown {pton : Pton} {a : SockaddrStorage} (h : Reachable pton a) :
    a.FamilyKnown := by
  obtain ⟨con, calls, rfl⟩ := h
  rw [run_build]
  exact run_familyKnown pton familyKnown_new _

/-- An address that is stored leaves an object unchanged exactly if it is the one there. -/
theorem unchanged_storeIn_iff {a : SockaddrStorage} (h : a.FamilyKnown) (address : Address) :
    Unchanged a (address.storeIn a) ↔ address = a.rawAddress := by
  have hraw : (address.storeIn a).rawAddress = address := by cases address <;> rfl
  constructor
  · intro hsame
    rw [← hsame.address, hraw]
  · intro hsame
    refine ⟨?_, hraw.trans hsame, ?_⟩
    · rw [hsame]
      rcases h with ⟨hfamily, -⟩ | ⟨hfamily, -⟩
      · rw [rawAddress, hfamily]
        rfl
      · rw [rawAddress, hfamily]
        rfl
    · rw [getPort_eq, getPort_eq, storeIn_port]

/-- If rejected strings leave the destination alone, they leave an object unchanged that has the
type of the call. -/
theorem unchanged_left_iff {pton : Pton} (hkeeps : pton.KeepsRejected) {a : SockaddrStorage}
    (h : a.FamilyKnown) (string : List SlU8) (type : AddressType) :
    Unchanged a ((pton.leftAddress string a type).elim a fun x => x.storeIn a) ↔
      type = .unspec ∨ type = a.getAddressType := by
  cases type with
  | unspec => exact ⟨fun _ => .inl rfl, fun _ => ⟨rfl, rfl, rfl⟩⟩
  | inet =>
    have hleft : pton.leftAddress string a .inet = some (.inet a.word) :=
      congrArg (fun x => some (Address.inet x)) (hkeeps.inet string a.word)
    rw [hleft, Option.elim_some, unchanged_storeIn_iff h]
    rcases h with ⟨hfamily, htype⟩ | ⟨hfamily, htype⟩
    · simp [rawAddress, hfamily, htype, afInet, afInet6]
    · simp [rawAddress, hfamily, htype]
  | inet6 =>
    have hleft : pton.leftAddress string a .inet6 = some (.inet6 a.sin6Addr) :=
      congrArg (fun x => some (Address.inet6 x)) (hkeeps.inet6 string a.sin6Addr)
    rw [hleft, Option.elim_some, unchanged_storeIn_iff h]
    rcases h with ⟨hfamily, htype⟩ | ⟨hfamily, htype⟩
    · simp [rawAddress, hfamily, htype, afInet, afInet6]
    · simp [rawAddress, hfamily, htype]

/-- **A string that is rejected for another type than the object has changes the family**, which
is written before the string is parsed. -/
theorem rejected_unchanged_iff {pton : Pton} (hkeeps : pton.KeepsRejected) {a : SockaddrStorage}
    (ha : Reachable pton a) (string : List SlU8) (type : AddressType) :
    ((a.setAddressFromString pton string type).1 = slResultInvalidData →
        Unchanged a (a.setAddressFromString pton string type).2) ↔
      (pton.address string type).isSome ∨ type = .unspec ∨ type = a.getAddressType := by
  cases h : pton.address string type with
  | some address =>
    rw [setAddressFromString_of_accepted h]
    have hok : slResultOk ≠ slResultInvalidData := by decide
    exact ⟨fun _ => .inl rfl, fun _ hinvalid => absurd hinvalid hok⟩
  | none =>
    rw [setAddressFromString_of_rejected h]
    have hiff := unchanged_left_iff hkeeps ha.familyKnown string type
    simpa using hiff

/-- An `inet_pton` that rejects every string, and touches nothing then. -/
def rejectingPton : Pton :=
  ⟨⟨fun _ => none, fun _ dest => dest⟩, ⟨fun _ => none, fun _ dest => dest⟩⟩

theorem rejectingPton_keepsRejected : rejectingPton.KeepsRejected :=
  ⟨fun _ _ => rfl, fun _ _ => rfl⟩

/-- The string `bad`, which is an address of neither family. -/
def badString : List SlU8 := [0x62, 0x61, 0x64]

/-- A string that is no IPv4 address leaves a new object as it is. -/
theorem rejected_unchanged_iff_bad :
    (new.setAddressFromString rejectingPton badString .inet).1 = slResultInvalidData ∧
      Unchanged new (new.setAddressFromString rejectingPton badString .inet).2 := by
  have hiff := rejected_unchanged_iff rejectingPton_keepsRejected ⟨.default, [], rfl⟩ badString
    .inet
  exact ⟨rfl, hiff.mpr (.inr (.inr rfl)) rfl⟩

/-- A string that is no IPv6 address makes a new IPv4 object an IPv6 one. -/
theorem not_rejected_unchanged :
    ¬ ∀ pton : Pton, pton.KeepsRejected → ∀ a, Reachable pton a → ∀ string type,
      (a.setAddressFromString pton string type).1 = slResultInvalidData →
        Unchanged a (a.setAddressFromString pton string type).2 := by
  intro h
  have hsame := h rejectingPton rejectingPton_keepsRejected new ⟨.default, [], rfl⟩ badString
    .inet6 rfl
  have hfamily : (new.setAddressFromString rejectingPton badString .inet6).2.ssFamily = afInet6 :=
    rfl
  have hnew : new.ssFamily = afInet := rfl
  have habsurd := hsame.family
  rw [hfamily, hnew] at habsurd
  exact absurd habsurd (by decide)

end SockaddrStorage

end Slamkit
