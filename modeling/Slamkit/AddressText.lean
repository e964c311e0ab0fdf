import Slamkit.AddressCalls
import Slamkit.Library.Bytes

/-!
# Addresses as text and as bytes

`getAddressAsString` and `getRawAddress` of `SocketAddress`, and what is left of an object that is
written as text and read back into another one. `inet_ntop` stays a parameter.
-/

namespace Slamkit

open Library

/-- `SL_RESULT_INSUFFICIENT_MEMORY`. -/
def slResultInsufficientMemory : SlResult := 0x8006#32 ||| slResultFailBit

/-- `inet_ntop` for both families: the text of an address, without the zero behind it. -/
structure Ntop where
  inet : SlU32 → List SlU8
  inet6 : BitVec 128 → List SlU8

/-- The text of an address. -/
def Ntop.text (ntop : Ntop) : Address → List SlU8
  | .inet sAddr => ntop.inet sAddr
  | .inet6 s6Addr => ntop.inet6 s6Addr

/-- `inet_ntop` fails if the text and its zero do not fit the buffer. -/
def inetNtop (text : List SlU8) (size : SlU32) : Option (List SlU8) :=
  if text.length < size.toNat then some text else none

/-- The bytes of an address, as they lie in memory. -/
def Address.bytes : Address → List SlU8
  | .inet sAddr => littleEndian 4 sAddr.toNat
  | .inet6 s6Addr => littleEndian 16 s6Addr.toNat

namespace SockaddrStorage

/-- `getAddressAsString`: the result, and the text it leaves in the buffer. The size of the buffer
is cut to a `socklen_t`. -/
def getAddressAsString (ntop : Ntop) (buffersize : ℕ) (a : SockaddrStorage) :
    SlResult × List SlU8 :=
  let size := BitVec.ofNat 32 buffersize
  let ans :=
    if a.ssFamily = afInet then inetNtop (ntop.inet a.word) size
    else if a.ssFamily = afInet6 then inetNtop (ntop.inet6 a.sin6Addr) size
    else none
  ans.elim (slResultOperationFail, []) fun text => (slResultOk, text)

/-- `getRawAddress`: the result, and the bytes it copies. -/
def getRawAddress (bufferSize : ℕ) (a : SockaddrStorage) : SlResult × List SlU8 :=
  match a.getAddressType with
  | .inet =>
    if bufferSize < 4 then (slResultInsufficientMemory, [])
    else (slResultOk, littleEndian 4 a.word.toNat)
  | .inet6 =>
    if bufferSize < 16 then (slResultInsufficientMemory, [])
    else (slResultOk, littleEndian 16 a.sin6Addr.toNat)
  | .unspec => (slResultOperationFail, [])

/-- What an object holds besides its family, its address and its port: the flow information of an
IPv6 address, and behind an IPv4 address the place of an IPv6 one. -/
def besides (a : SockaddrStorage) : AddressType → SlU32 × BitVec 128
  | .inet6 => (a.word, 0)
  | _ => (0, a.sin6Addr)

/-- The address of an object of a known family is an IPv4 or an IPv6 address. -/
theorem FamilyKnown.rawAddress_cases {a : SockaddrStorage} (h : a.FamilyKnown) :
    (a.ssFamily = afInet ∧ a.getAddressType = .inet ∧ a.rawAddress = .inet a.word) ∨
      (a.ssFamily = afInet6 ∧ a.getAddressType = .inet6 ∧ a.rawAddress = .inet6 a.sin6Addr) := by
  unfold rawAddress
  rcases h with ⟨hfamily, htype⟩ | ⟨hfamily, htype⟩
  · exact .inl ⟨hfamily, htype, if_neg (by rw [hfamily]; decide)⟩
  · exact .inr ⟨hfamily, htype, if_pos hfamily⟩

/-- The type of an object is that of its address. -/
theorem FamilyKnown.getAddressType_eq {a : SockaddrStorage} (h : a.FamilyKnown) :
    a.getAddressType = a.rawAddress.type := by
  rcases h.rawAddress_cases with ⟨-, htype, hraw⟩ | ⟨-, htype, hraw⟩
  · rw [htype, hraw]
    rfl
  · rw [htype, hraw]
    rfl

/-- What a call of `inet_ntop` is turned into. -/
theorem inetNtop_elim (text : List SlU8) (size : SlU32) :
    (inetNtop text size).elim (slResultOperationFail, []) (fun text => (slResultOk, text)) =
      if text.length < size.toNat then (slResultOk, text) else (slResultOperationFail, []) := by
  unfold inetNtop
  split <;> rfl

/-- An object of a known family gives the text of its address, if the buffer takes it. -/
theorem FamilyKnown.getAddressAsString_eq {a : SockaddrStorage} (h : a.FamilyKnown) (ntop : Ntop)
    (buffersize : ℕ) :
    a.getAddressAsString ntop buffersize =
      if (ntop.text a.rawAddress).length < (BitVec.ofNat 32 buffersize).toNat then
        (slResultOk, ntop.text a.rawAddress)
      else (slResultOperationFail, []) := by
  rw [← inetNtop_elim]
  unfold getAddressAsString
  rcases h.rawAddress_cases with ⟨hfamily, -, hraw⟩ | ⟨hfamily, -, hraw⟩
  · rw [hfamily, hraw]
    rfl
  · rw [hfamily, hraw]
    rfl

/-- And the bytes of its address. -/
theorem FamilyKnown.getRawAddress_eq {a : SockaddrStorage} (h : a.FamilyKnown)
    (bufferSize : ℕ) :
    a.getRawAddress bufferSize =
      if bufferSize < a.rawAddress.bytes.length then (slResultInsufficientMemory, [])
      else (slResultOk, a.rawAddress.bytes) := by
  unfold getRawAddress Address.bytes
  rcases h.rawAddress_cases with ⟨-, htype, hraw⟩ | ⟨-, htype, hraw⟩
  · rw [htype, hraw]
    simp only [littleEndian_length]
  · rw [htype, hraw]
    simp only [littleEndian_length]

/-- A stored address is read back. -/
theorem rawAddress_storeIn (address : Address) (a : SockaddrStorage) :
    (address.storeIn a).rawAddress = address := by
  cases address <;> rfl

/-- No call sets a scope. -/
theorem Reachable.sin6ScopeId {pton : Pton} {a : SockaddrStorage} (h : Reachable pton a) :
    a.sin6ScopeId = 0 := by
  have hcall : ∀ (c : AddressCall) (b : SockaddrStorage),
      (c.call pton b).2.sin6ScopeId = b.sin6ScopeId := by
    intro c b
    rcases AddressCall.call_cases pton b c with ⟨port, rfl, hcall⟩ | ⟨-, target, -, hcall, -⟩
    · rw [hcall]
    · rw [hcall]
      cases target with
      | none => rfl
      | some address => cases address <;> rfl
  have hrun : ∀ (calls : List AddressCall) (b : SockaddrStorage),
      (b.run pton calls).sin6ScopeId = b.sin6ScopeId := fun calls b =>
    invariant_of_foldl (P := fun later : SockaddrStorage => later.sin6ScopeId = b.sin6ScopeId)
      (fun later c hkept => (hcall c later).trans hkept) rfl calls
  obtain ⟨con, calls, rfl⟩ := h
  rw [run_build, hrun]
  rfl

/-- An object with the address and the port of another is the same as that one exactly if the two
agree in what they hold besides. -/
theorem storeIn_setPort_eq_iff {a b : SockaddrStorage} (ha : a.FamilyKnown)
    (hscope : b.sin6ScopeId = a.sin6ScopeId) :
    ((a.rawAddress.storeIn b).setPort a.getPort).2 = a ↔
      b.besides a.getAddressType = a.besides a.getAddressType := by
  have hback : htons (BitVec.ofInt 16 ((ntohs a.port).toNat : ℤ)) = a.port := by
    have hprev := congrArg SockaddrStorage.port (setPort_prevPort (a := a) (b := a) rfl)
    rwa [setPort_eq, getPort_eq] at hprev
  rw [setPort_eq, getPort_eq, hback]
  obtain ⟨family, port, word, sin6Addr, scope⟩ := a
  obtain ⟨family', port', word', sin6Addr', scope'⟩ := b
  simp only at hscope
  subst hscope
  rcases ha with ⟨hfamily, htype⟩ | ⟨hfamily, htype⟩
  · simp only at hfamily
    subst hfamily
    rw [htype]
    simp [rawAddress, Address.storeIn, besides, afInet, afInet6]
  · simp only at hfamily
    subst hfamily
    rw [htype]
    simp [rawAddress, Address.storeIn, besides]

/-- **An address survives its text.** Write the address of any object into a buffer that takes it,
and read the text back into any other object. If `inet_pton` reads it as the address it is the text
of, then the call succeeds, the other object has the same type, the same address and the same bytes,
and still its own port. With the port of the first one it is the same object exactly if it holds
the same besides: flow information, or what is left of an IPv6 address. -/
theorem address_text_round_trip (pton : Pton) (ntop : Ntop) {a b : SockaddrStorage}
    (ha : Reachable pton a) (hb : Reachable pton b)
    (hread : pton.address (ntop.text a.rawAddress) a.rawAddress.type = some a.rawAddress)
    {buffersize : ℕ} (hfits : (a.getAddressAsString ntop buffersize).1 = slResultOk) :
    let after := b.setAddressFromString pton (a.getAddressAsString ntop buffersize).2
      a.getAddressType
    after.1 = slResultOk ∧ after.2.getAddressType = a.getAddressType ∧
      after.2.rawAddress = a.rawAddress ∧
      (∀ bufferSize, after.2.getRawAddress bufferSize = a.getRawAddress bufferSize) ∧
      after.2.getPort = b.getPort ∧
      ((after.2.setPort a.getPort).2 = a ↔
        b.besides a.getAddressType = a.besides a.getAddressType) := by
  intro after
  have htext : (a.getAddressAsString ntop buffersize).2 = ntop.text a.rawAddress := by
    rw [ha.familyKnown.getAddressAsString_eq] at hfits ⊢
    split at hfits
    · rename_i hlong
      rw [if_pos hlong]
    · cases hfits
  have hafter : after = (slResultOk, a.rawAddress.storeIn b) := by
    unfold after
    rw [htext, ha.familyKnown.getAddressType_eq]
    exact setAddressFromString_of_accepted hread b
  have hraw := rawAddress_storeIn a.rawAddress b
  have hknown := familyKnown_storeIn a.rawAddress b
  rw [hafter]
  refine ⟨rfl, ?_, hraw, ?_, ?_, ?_⟩
  · rw [hknown.getAddressType_eq, hraw, ha.familyKnown.getAddressType_eq]
  · intro bufferSize
    rw [hknown.getRawAddress_eq, ha.familyKnown.getRawAddress_eq, hraw]
  · rw [getPort_eq, getPort_eq, storeIn_port]
  · exact storeIn_setPort_eq_iff ha.familyKnown (hb.sin6ScopeId.trans ha.sin6ScopeId.symm)

/-- `::1`. -/
def inet6LoopbackText : List SlU8 := [0x3a, 0x3a, 0x31]

/-- `inet_pton` on `::1`. -/
def inet6LoopbackPton : Pton :=
  ⟨⟨fun _ => none, fun _ dest => dest⟩,
    ⟨fun string => if string = inet6LoopbackText then some in6addrLoopback else none,
      fun _ dest => dest⟩⟩

/-- `inet_ntop` on `127.0.0.1` and on `::1`. -/
def loopbackNtop : Ntop :=
  ⟨fun _ => [0x31, 0x32, 0x37, 0x2e, 0x30, 0x2e, 0x30, 0x2e, 0x31], fun _ => inet6LoopbackText⟩

/-- An object that was `127.0.0.1` and is `::1` now: a new object that is given its text and its
port has the same address, but not the same flow information. -/
theorem address_text_round_trip_loopback :
    let a := new.run inet6LoopbackPton [.setLoopbackAddress .inet, .setLoopbackAddress .inet6]
    let after := new.setAddressFromString inet6LoopbackPton
      (a.getAddressAsString loopbackNtop 64).2 a.getAddressType
    after.2.rawAddress = a.rawAddress ∧ (after.2.setPort a.getPort).2 ≠ a := by
  intro a after
  have hfits : (a.getAddressAsString loopbackNtop 64).1 = slResultOk := by decide
  obtain ⟨-, -, hraw, -, -, hsame⟩ := address_text_round_trip inet6LoopbackPton loopbackNtop
    (b := new) ⟨.default, _, rfl⟩ ⟨.default, [], rfl⟩ (by decide) hfits
  exact ⟨hraw, fun heq => absurd (hsame.mp heq) (by decide)⟩

end SockaddrStorage

end Slamkit
