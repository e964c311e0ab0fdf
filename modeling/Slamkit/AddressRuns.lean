import Slamkit.Library.Run
import Slamkit.AddressCalls

/-!
# What a socket address depends on

An IPv4 address lies where an IPv6 address has its flow information, and none of the calls that
set an address writes the latter. After successful calls everything else is as the last calls
have set it.
-/

namespace Slamkit

open Library

namespace AddressCall

/-- Only a string that is no address makes a call fail. -/
def Succeeds (pton : Pton) : AddressCall → Prop
  | setAddressFromString string type => (pton.address string type).isSome
  | _ => True

/-- The result of a call does not depend on the object. -/
theorem call_ok_iff (pton : Pton) (a : SockaddrStorage) (c : AddressCall) :
    (c.call pton a).1 = slResultOk ↔ c.Succeeds pton := by
  cases c with
  | setAddressFromString string type =>
    unfold call Succeeds
    cases h : pton.address string type with
    | some address => simp [SockaddrStorage.setAddressFromString_of_accepted h, h]
    | none => simp [SockaddrStorage.setAddressFromString_of_rejected h, h, slResultInvalidData,
        slResultOk]
  | setPort port => simp [call, Succeeds, SockaddrStorage.setPort_eq]
  | setLoopbackAddress type => exact ⟨fun _ => trivial, fun _ => rfl⟩
  | setAnyAddress type => exact ⟨fun _ => trivial, fun _ => rfl⟩
  | setBroadcastAddressIPv4 => exact ⟨fun _ => trivial, fun _ => rfl⟩

/-- The call sets an address. -/
def setsAddress (c : AddressCall) : Bool := c.type?.isSome

/-- The call sets a port. -/
def setsPort (c : AddressCall) : Bool := c.port?.isSome

/-- A successful call sets the address that it is for. -/
theorem type?_of_succeeds {pton : Pton} {c : AddressCall} (h : c.Succeeds pton) :
    c.type? = (c.address? pton).map Address.type := by
  rcases call_cases pton .new c with ⟨port, rfl, -⟩ | ⟨-, target, htype, -, hok⟩
  · rfl
  · rw [htype, hok ((call_ok_iff pton .new c).mpr h)]

/-- Only these calls have a type. -/
theorem writesOnly_type : WritesOnly setsAddress type? := by
  intro c hc
  simpa [setsAddress] using hc

/-- And only these have an address. -/
theorem writesOnly_address (pton : Pton) {β : Type} (of : Address → Option β) :
    WritesOnly setsAddress fun c => (c.address? pton).bind of := by
  intro c hc
  have hnone : c.address? pton = none := by
    cases c with
    | setPort port => rfl
    | setAddressFromString string type => cases type <;> trivial
    | setLoopbackAddress type => cases type <;> trivial
    | setAnyAddress type => cases type <;> trivial
    | setBroadcastAddressIPv4 => cases hc
  simp [hnone]

/-- What a successful call does with the address. -/
theorem call_of_succeeds {pton : Pton} {c : AddressCall} (h : c.Succeeds pton)
    (a : SockaddrStorage) :
    { (c.call pton a).2 with port := a.port } =
      (c.address? pton).elim a fun x => x.storeIn a := by
  rcases call_cases pton a c with ⟨port, rfl, hcall⟩ | ⟨-, target, -, hcall, hok⟩
  · rw [hcall]
    rfl
  · rw [hcall, hok ((call_ok_iff pton a c).mpr h)]
    cases target with
    | none => rfl
    | some address =>
      rw [Option.elim_some, ← SockaddrStorage.storeIn_port address a]

end AddressCall

namespace SockaddrStorage

/-- All calls of a run succeed. -/
def Succeed (pton : Pton) : SockaddrStorage → List AddressCall → Prop :=
  StepsMeet (fun a c => (c.call pton a).2) fun a c => (c.call pton a).1 = slResultOk

theorem succeed_iff (pton : Pton) (a : SockaddrStorage) (calls : List AddressCall) :
    Succeed pton a calls ↔ ∀ c ∈ calls, c.Succeeds pton := by
  unfold Succeed
  induction calls generalizing a with
  | nil => simp
  | cons c calls ih => rw [stepsMeet_cons, ih, AddressCall.call_ok_iff, List.forall_mem_cons]

/-- The last call that sets an address and the last one that sets a port. -/
def lastCalls (calls : List AddressCall) : List AddressCall :=
  (lastAction AddressCall.setsAddress calls).toList ++
    (lastAction AddressCall.setsPort calls).toList

/-- The stored addresses are the same in every field that has a meaning for the family. -/
structure SameAddress (a b : SockaddrStorage) : Prop where
  family : a.ssFamily = b.ssFamily
  port : a.port = b.port
  /-- `sin_addr`. -/
  inet : a.ssFamily = afInet → a.word = b.word
  /-- `sin6_addr`, `sin6_flowinfo` and `sin6_scope_id`. -/
  inet6 : a.ssFamily = afInet6 →
    a.sin6Addr = b.sin6Addr ∧ a.word = b.word ∧ a.sin6ScopeId = b.sin6ScopeId

/-- A part of an address that a field of the storage has, if the address has it. -/
theorem run_field {β : Type} {pton : Pton} {calls : List AddressCall}
    (h : ∀ c ∈ calls, c.Succeeds pton) (field : SockaddrStorage → β) (of : Address → Option β)
    (hport : ∀ a port, field { a with port := port } = field a)
    (hstore : ∀ (address : Address) a, field (address.storeIn a) = (of address).getD (field a))
    (a : SockaddrStorage) :
    field (a.run pton calls) =
      (lastWrite (fun c => (c.address? pton).bind of) calls).getD (field a) := by
  refine foldl_eq_lastWrite field (fun c hc b => ?_) a
  have hcall := congrArg field (AddressCall.call_of_succeeds (h c hc) b)
  rw [hport] at hcall
  rw [hcall]
  cases c.address? pton with
  | none => rfl
  | some address => exact hstore address b

/-- The last calls write what the last call that sets an address writes. -/
theorem lastWrite_lastCalls {β : Type} (pton : Pton) (of : Address → Option β)
    (calls : List AddressCall) :
    lastWrite (fun c => (c.address? pton).bind of) (lastCalls calls) =
      (lastAction AddressCall.setsAddress calls).bind fun c => (c.address? pton).bind of := by
  unfold lastCalls
  rw [lastWrite_append, lastWrite_toList, lastWrite_toList]
  cases h : lastAction AddressCall.setsPort calls with
  | none => rfl
  | some c =>
    obtain ⟨-, hport⟩ := kind_of_lastAction h
    cases c with
    | setPort port => rfl
    | setAddressFromString => cases hport
    | setLoopbackAddress => cases hport
    | setAnyAddress => cases hport
    | setBroadcastAddressIPv4 => cases hport

/-- And set the port that is set last. -/
theorem lastWrite_port_lastCalls (calls : List AddressCall) :
    lastWrite AddressCall.port? (lastCalls calls) = lastWrite AddressCall.port? calls := by
  have hlast : lastWrite AddressCall.port? calls =
      (lastAction AddressCall.setsPort calls).bind AddressCall.port? := by
    apply lastWrite_eq_bind
    · intro c hc
      simpa [AddressCall.setsPort] using hc
    · intro c _ hc
      exact hc
  have haddress : (lastAction AddressCall.setsAddress calls).bind AddressCall.port? = none := by
    rw [Option.bind_eq_none_iff]
    intro c hc
    obtain ⟨-, haddress⟩ := kind_of_lastAction hc
    cases c with
    | setPort port => cases haddress
    | setAddressFromString | setLoopbackAddress | setAnyAddress | setBroadcastAddressIPv4 => rfl
  unfold lastCalls
  rw [lastWrite_append, lastWrite_toList, lastWrite_toList, ← hlast, haddress, Option.or_none]

/-- The port is that of the last calls. -/
theorem run_port_lastCalls (pton : Pton) (calls : List AddressCall) :
    (new.run pton calls).port = (new.run pton (lastCalls calls)).port := by
  rw [run_port, run_port, lastWrite_port_lastCalls]

/-- The last IPv4 address, if any, stays where an IPv6 address has its flow information. -/
def leftover (pton : Pton) (calls : List AddressCall) : SlU32 :=
  (lastWrite (fun c => (c.address? pton).bind Address.inet?) calls).getD 0

section LastCalls

variable {pton : Pton} {calls : List AddressCall} (h : ∀ c ∈ calls, c.Succeeds pton)

include h

/-- The last calls succeed with the others. -/
theorem succeeds_lastCalls : ∀ c ∈ lastCalls calls, c.Succeeds pton := by
  intro c hc
  rcases List.mem_append.mp hc with hc | hc
  · exact h c (kind_of_lastAction (Option.mem_toList.mp hc)).1
  · exact h c (kind_of_lastAction (Option.mem_toList.mp hc)).1

/-- A field that the last address has is the same after the last calls. -/
theorem run_field_lastCalls {β : Type} (field : SockaddrStorage → β) (of : Address → Option β)
    (hport : ∀ a port, field { a with port := port } = field a)
    (hstore : ∀ (address : Address) a, field (address.storeIn a) = (of address).getD (field a))
    (hlast : ∀ c, lastAction AddressCall.setsAddress calls = some c →
      ((c.address? pton).bind of).isSome) :
    field (new.run pton calls) = field (new.run pton (lastCalls calls)) := by
  rw [run_field h field of hport hstore,
    run_field (succeeds_lastCalls h) field of hport hstore, lastWrite_lastCalls]
  have hkind := AddressCall.writesOnly_address pton of
  cases hc : lastAction AddressCall.setsAddress calls with
  | none => rw [hkind.lastWrite_of_none hc, Option.bind_none]
  | some c =>
    obtain ⟨b, hb⟩ := Option.isSome_iff_exists.mp (hlast c hc)
    rw [hkind.lastWrite_of_some hc hb, Option.bind_some, hb]

/-- The place of an IPv4 address keeps it. -/
theorem run_word : (new.run pton calls).word = leftover pton calls :=
  run_field h word Address.inet? (fun _ _ => rfl) word_storeIn new

/-- If the last address is an IPv4 address, it is the same after the last calls. -/
theorem run_word_lastCalls
    (hlast : ∀ c, lastAction AddressCall.setsAddress calls = some c →
      ((c.address? pton).bind Address.inet?).isSome) :
    (new.run pton calls).word = (new.run pton (lastCalls calls)).word :=
  run_field_lastCalls h word Address.inet? (fun _ _ => rfl) word_storeIn hlast

/-- Likewise for an IPv6 address. -/
theorem run_sin6Addr_lastCalls
    (hlast : ∀ c, lastAction AddressCall.setsAddress calls = some c →
      ((c.address? pton).bind Address.inet6?).isSome) :
    (new.run pton calls).sin6Addr = (new.run pton (lastCalls calls)).sin6Addr :=
  run_field_lastCalls h sin6Addr Address.inet6? (fun _ _ => rfl) sin6Addr_storeIn hlast

/-- No call sets a scope. -/
theorem run_sin6ScopeId : (new.run pton calls).sin6ScopeId = 0 := by
  have hrun := run_field h sin6ScopeId (fun _ => none) (fun _ _ => rfl)
    (fun address a => by cases address <;> rfl) new
  have hnone : lastWrite (fun c => (c.address? pton).bind fun _ => (none : Option SlU32)) calls =
      none := by
    rw [lastWrite_eq_none_iff]
    intro c _
    simp
  rw [hrun, hnone]
  rfl

/-- The last call that sets an address has one. -/
theorem exists_address_of_last {c : AddressCall}
    (hc : lastAction AddressCall.setsAddress calls = some c) :
    ∃ address, c.address? pton = some address ∧
      lastWrite AddressCall.type? calls = some address.type := by
  obtain ⟨hmem, hsets⟩ := kind_of_lastAction hc
  obtain ⟨type, htype⟩ := Option.isSome_iff_exists.mp hsets
  have hmap := AddressCall.type?_of_succeeds (h c hmem)
  rw [htype] at hmap
  obtain ⟨address, haddress, rfl⟩ := Option.map_eq_some_iff.mp hmap.symm
  exact ⟨address, haddress, AddressCall.writesOnly_type.lastWrite_of_some hc htype⟩

/-- The family is that of the last calls. -/
theorem run_family_lastCalls :
    (new.run pton calls).ssFamily = (new.run pton (lastCalls calls)).ssFamily := by
  apply run_field_lastCalls h ssFamily (fun x => some x.family) (fun _ _ => rfl) ssFamily_storeIn
  intro c hc
  obtain ⟨address, haddress, -⟩ := exists_address_of_last h hc
  rw [haddress]
  rfl

/-- It is `AF_INET6` exactly if the last address is an IPv6 address. -/
theorem run_family_eq_inet6_iff :
    (new.run pton calls).ssFamily = afInet6 ↔ lastWrite AddressCall.type? calls = some .inet6 := by
  have hrun := run_field h ssFamily (fun x => some x.family) (fun _ _ => rfl) ssFamily_storeIn new
  have hkind := AddressCall.writesOnly_address pton fun x => some x.family
  have hne : afInet ≠ afInet6 := by decide
  cases hc : lastAction AddressCall.setsAddress calls with
  | none =>
    rw [hrun, hkind.lastWrite_of_none hc, AddressCall.writesOnly_type.lastWrite_of_none hc]
    exact ⟨fun hinet6 => absurd hinet6 hne, nofun⟩
  | some c =>
    obtain ⟨address, haddress, htype⟩ := exists_address_of_last h hc
    have hfamily : (c.address? pton).bind (fun x => some x.family) = some address.family := by
      rw [haddress, Option.bind_some]
    rw [hrun, hkind.lastWrite_of_some hc hfamily, htype, Option.getD_some]
    cases address with
    | inet sAddr => exact ⟨fun hinet6 => absurd hinet6 hne, nofun⟩
    | inet6 s6Addr => exact ⟨fun _ => rfl, fun _ => rfl⟩

/-- An IPv4 address, or none, depends only on the last calls. -/
theorem sameAddress_of_not_inet6 (hne : lastWrite AddressCall.type? calls ≠ some .inet6) :
    SameAddress (new.run pton calls) (new.run pton (lastCalls calls)) := by
  have hword : (new.run pton calls).word = (new.run pton (lastCalls calls)).word := by
    apply run_word_lastCalls h
    intro c hc
    obtain ⟨address, haddress, htype⟩ := exists_address_of_last h hc
    rw [haddress]
    cases address with
    | inet sAddr => rfl
    | inet6 s6Addr => exact absurd htype hne
  have hnot6 := mt (run_family_eq_inet6_iff h).mp hne
  exact ⟨run_family_lastCalls h, run_port_lastCalls pton calls, fun _ => hword,
    fun hinet6 => absurd hinet6 hnot6⟩

/-- The last calls leave nothing where an IPv6 address has its flow information. -/
theorem run_word_lastCalls_of_inet6 (htype : lastWrite AddressCall.type? calls = some .inet6) :
    (new.run pton (lastCalls calls)).word = 0 := by
  rw [run_word (succeeds_lastCalls h), leftover, lastWrite_lastCalls]
  cases hc : lastAction AddressCall.setsAddress calls with
  | none => rfl
  | some c =>
    obtain ⟨address, haddress, htype'⟩ := exists_address_of_last h hc
    rw [Option.bind_some, haddress]
    cases address with
    | inet sAddr => cases htype.symm.trans htype'
    | inet6 s6Addr => rfl

/-- An IPv6 address depends only on the last calls if no IPv4 address is left over. -/
theorem sameAddress_iff_of_inet6 (htype : lastWrite AddressCall.type? calls = some .inet6) :
    SameAddress (new.run pton calls) (new.run pton (lastCalls calls)) ↔
      leftover pton calls = 0 := by
  have hfamily := (run_family_eq_inet6_iff h).mpr htype
  have hfresh := run_word_lastCalls_of_inet6 h htype
  constructor
  · intro hsame
    obtain ⟨-, hword, -⟩ := hsame.inet6 hfamily
    rw [← run_word h, hword, hfresh]
  · intro hzero
    have hword := ((run_word h).trans hzero).trans hfresh.symm
    have haddr : (new.run pton calls).sin6Addr = (new.run pton (lastCalls calls)).sin6Addr := by
      apply run_sin6Addr_lastCalls h
      intro c hc
      obtain ⟨address, haddress, htype'⟩ := exists_address_of_last h hc
      rw [haddress]
      cases address with
      | inet sAddr => cases htype.symm.trans htype'
      | inet6 s6Addr => rfl
    have hscope := (run_sin6ScopeId h).trans (run_sin6ScopeId (succeeds_lastCalls h)).symm
    exact ⟨run_family_lastCalls h, run_port_lastCalls pton calls, fun _ => hword,
      fun _ => ⟨haddr, hword, hscope⟩⟩

end LastCalls

/-- **A socket address depends only on what was set last, up to the flow information**: if the
last address is an IPv6 address, an IPv4 address that was set before it is left there. -/
theorem sameAddress_lastCalls_iff (pton : Pton) (con : Construction) (calls : List AddressCall)
    (h : Succeed pton new (con.calls ++ calls)) :
    SameAddress ((con.build pton).run pton calls)
        (new.run pton (lastCalls (con.calls ++ calls))) ↔
      lastWrite AddressCall.type? (con.calls ++ calls) ≠ some .inet6 ∨
        leftover pton (con.calls ++ calls) = 0 := by
  rw [run_build]
  have hsucceeds := (succeed_iff pton new _).mp h
  by_cases htype : lastWrite AddressCall.type? (con.calls ++ calls) = some .inet6
  · rw [sameAddress_iff_of_inet6 hsucceeds htype]
    constructor
    · exact .inr
    · intro hcond
      exact hcond.resolve_left fun hne => hne htype
  · have hsame := sameAddress_of_not_inet6 hsucceeds htype
    exact ⟨fun _ => .inl htype, fun _ => hsame⟩

/-- `127.0.0.1` and then `::1`. -/
def loopbackCalls : List AddressCall := [.setLoopbackAddress .inet, .setLoopbackAddress .inet6]

theorem loopbackCalls_succeed : Succeed rejectingPton new loopbackCalls :=
  ⟨rfl, rfl, trivial⟩

/-- The object is not the one that `::1` alone makes. -/
theorem sameAddress_lastCalls_iff_loopback :
    ¬ SameAddress ((Construction.default.build rejectingPton).run rejectingPton loopbackCalls)
        (new.run rejectingPton (lastCalls (Construction.default.calls ++ loopbackCalls))) := by
  have hiff := sameAddress_lastCalls_iff rejectingPton .default loopbackCalls loopbackCalls_succeed
  have htype : lastWrite AddressCall.type? (Construction.default.calls ++ loopbackCalls) =
      some .inet6 := by decide
  have hleft : leftover rejectingPton (Construction.default.calls ++ loopbackCalls) ≠ 0 := by
    decide
  intro hsame
  exact (hiff.mp hsame).elim (fun hne => hne htype) hleft

/-- After the IPv4 loopback address, the IPv6 one has it as its flow information. -/
theorem not_sameAddress_lastCalls :
    ¬ ∀ (pton : Pton) (con : Construction) (calls : List AddressCall),
      Succeed pton new (con.calls ++ calls) →
        SameAddress ((con.build pton).run pton calls)
          (new.run pton (lastCalls (con.calls ++ calls))) := by
  intro h
  have hsame := h rejectingPton .default loopbackCalls loopbackCalls_succeed
  obtain ⟨-, hword, -⟩ := hsame.inet6 rfl
  have hleft : ((Construction.default.build rejectingPton).run rejectingPton loopbackCalls).word =
      0x0100007f := by decide
  have hfresh : (new.run rejectingPton
      (lastCalls (Construction.default.calls ++ loopbackCalls))).word = 0 := by decide
  rw [hleft, hfresh] at hword
  exact absurd hword (by decide)

end SockaddrStorage

end Slamkit
