import Mathlib.Data.List.Forall2
import Slamkit.SocketAddress

/-!
# Looking up a host name

`SocketAddress::LoopUpHostName` asks `getaddrinfo` for the addresses of a host and keeps those
that it takes for IPv4 or IPv6 ones. Families have two numberings here, that of the operating
system and that of `address_type_t`, and the hints have two fields that are set with constants.
What `getaddrinfo` answers stays a parameter.
-/

namespace Slamkit

/-- A family of the operating system, as an `int`. -/
def osFamily (family : SlU16) : SlS32 := Int32.ofNat family.toNat

/-- `AF_UNSPEC`. -/
def afUnspec : SlU16 := 0

/-- `AI_PASSIVE`. -/
def aiPassive : SlS32 := 0x1

/-- `AI_NUMERICHOST`. -/
def aiNumericHost : SlS32 := 0x4

/-- `AI_NUMERICSERV`. -/
def aiNumericServ : SlS32 := 0x400

/-- The values of `SocketAddress::address_type_t`. -/
def AddressType.toInt32 : AddressType → SlS32
  | .unspec => 0
  | .inet => 1
  | .inet6 => 2

/-- `_halAddrTypeToOSType`. -/
def halAddrTypeToOSType : AddressType → SlS32
  | .inet => osFamily afInet
  | .inet6 => osFamily afInet6
  | .unspec => osFamily afUnspec

/-- The hints for `getaddrinfo`, as far as they are used; the other fields have to be zero. -/
structure Hints where
  aiFlags : SlS32
  aiFamily : SlS32
  aiSocktype : SlS32
  aiProtocol : SlS32
  deriving DecidableEq

/-- A `sockaddr`: its family, and the bytes after it. -/
structure Sockaddr where
  saFamily : SlU16
  saData : List SlU8
  deriving DecidableEq

/-- An entry of the list that `getaddrinfo` makes. `ai_addrlen` is the size of `ai_addr`, which
fits into a `sockaddr_storage` and has the family of the entry. -/
structure AddrInfo where
  aiFamily : SlS32
  aiAddr : Sockaddr
  family_eq : aiFamily = osFamily aiAddr.saFamily
  fits : aiAddr.saData.length ≤ 126

/-- A `sockaddr_storage` in bytes. -/
structure RawStorage where
  ssFamily : SlU16
  data : Fin 126 → SlU8

/-- `memcpy` of an address into a storage: what lies behind the address stays. -/
def RawStorage.memcpy (storage : RawStorage) (addr : Sockaddr) : RawStorage where
  ssFamily := addr.saFamily
  data i := (addr.saData[i.val]?).getD (storage.data i)

/-- What `getaddrinfo` is called with. -/
structure LookupRequest where
  node : Option (List SlU8)
  service : Option (List SlU8)
  hints : Hints
  deriving DecidableEq

/-- What `getaddrinfo` answers: its result, and the list if that is zero. -/
structure LookupAnswer where
  ans : SlS32
  result : List AddrInfo

/-- The hints of a lookup. -/
def lookupHints (performDNS : Bool) (type : AddressType) : Hints :=
  let hints : Hints := ⟨0, 0, 0, 0⟩
  let hints := { hints with aiFamily := halAddrTypeToOSType type }
  let hints := { hints with aiFlags := aiPassive }
  if !performDNS then
    { hints with aiFamily := hints.aiFamily ||| (aiNumericServ ||| aiNumericHost) }
  else hints

/-- The call of `getaddrinfo` that a lookup makes. -/
def lookupRequest (hostname sevicename : Option (List SlU8)) (performDNS : Bool)
    (type : AddressType) : LookupRequest :=
  ⟨hostname, sevicename, lookupHints performDNS type⟩

/-- One iteration over the list: the entries of two families are copied to the pool. Each new
storage is uninitialized. -/
def lookupStep (uninitialized : ℕ → RawStorage) (addresspool : List RawStorage)
    (cursor : AddrInfo) : List RawStorage :=
  if cursor.aiFamily = AddressType.inet.toInt32 ∨ cursor.aiFamily = AddressType.inet6.toInt32 then
    addresspool ++ [(uninitialized addresspool.length).memcpy cursor.aiAddr]
  else addresspool

/-- What a lookup does: what it asks, the pool after it and what it returns. -/
structure Lookup where
  request : LookupRequest
  addresspool : List RawStorage
  returned : ℕ

/-- `LoopUpHostName`. -/
def loopUpHostName (getaddrinfo : LookupRequest → LookupAnswer)
    (uninitialized : ℕ → RawStorage) (hostname sevicename : Option (List SlU8))
    (performDNS : Bool) (type : AddressType) : Lookup :=
  let request := lookupRequest hostname sevicename performDNS type
  let answer := getaddrinfo request
  if answer.ans ≠ 0 then ⟨request, [], 0⟩
  else
    let addresspool := answer.result.foldl (lookupStep uninitialized) []
    ⟨request, addresspool, addresspool.length⟩

/-- The storage has this address. -/
structure RawStorage.Holds (storage : RawStorage) (addr : Sockaddr) : Prop where
  family : storage.ssFamily = addr.saFamily
  data : ∀ (i : Fin 126) byte, addr.saData[i.val]? = some byte → storage.data i = byte

/-- The storages have the addresses of these entries, in order. -/
def PoolHolds : List RawStorage → List AddrInfo → Prop :=
  List.Forall₂ fun storage entry => storage.Holds entry.aiAddr

/-- An entry for IPv4 or IPv6. -/
def AddrInfo.usable (entry : AddrInfo) : Bool :=
  entry.aiFamily = osFamily afInet || entry.aiFamily = osFamily afInet6

/-- An entry that the loop copies. -/
def AddrInfo.copied (entry : AddrInfo) : Bool :=
  entry.aiFamily = AddressType.inet.toInt32 || entry.aiFamily = AddressType.inet6.toInt32

/-- The lookup asks for the family of the type, and for numeric names through the flags if it
shall not use DNS; it keeps the usable entries of the answer, in order, and counts them. -/
structure LookupCorrect (answer : LookupAnswer) (performDNS : Bool) (type : AddressType)
    (lookup : Lookup) : Prop where
  family : lookup.request.hints.aiFamily = halAddrTypeToOSType type
  numeric : performDNS = false →
    lookup.request.hints.aiFlags &&& aiNumericHost = aiNumericHost ∧
      lookup.request.hints.aiFlags &&& aiNumericServ = aiNumericServ
  pool : answer.ans = 0 →
    PoolHolds lookup.addresspool (answer.result.filter AddrInfo.usable)
  count : answer.ans = 0 → lookup.returned = (answer.result.filter AddrInfo.usable).length

/-- A copied address is there. -/
theorem RawStorage.holds_memcpy (storage : RawStorage) (addr : Sockaddr) :
    (storage.memcpy addr).Holds addr := by
  refine ⟨rfl, fun i byte hbyte => ?_⟩
  have hdata : (storage.memcpy addr).data i = (addr.saData[i.val]?).getD (storage.data i) := rfl
  rw [hdata, hbyte, Option.getD_some]

/-- The loop copies the entries of its two families, in order. -/
theorem foldl_lookupStep (uninitialized : ℕ → RawStorage) {pool : List RawStorage}
    {entries : List AddrInfo} (h : PoolHolds pool entries) (result : List AddrInfo) :
    PoolHolds (result.foldl (lookupStep uninitialized) pool)
      (entries ++ result.filter AddrInfo.copied) := by
  induction result generalizing pool entries with
  | nil => simpa using h
  | cons cursor result ih =>
    have hcopied : cursor.copied = true ↔ cursor.aiFamily = AddressType.inet.toInt32 ∨
        cursor.aiFamily = AddressType.inet6.toInt32 := by simp [AddrInfo.copied]
    rw [List.foldl_cons, lookupStep]
    by_cases hfamily : cursor.copied = true
    · rw [if_pos (hcopied.mp hfamily), List.filter_cons_of_pos hfamily, List.append_cons entries]
      apply ih
      exact List.rel_append h (.cons (RawStorage.holds_memcpy _ _) .nil)
    · rw [if_neg (mt hcopied.mpr hfamily), List.filter_cons_of_neg hfamily]
      exact ih h

/-- The families of the storages are those of the entries. -/
theorem families_of_holds {pool : List RawStorage} {entries : List AddrInfo}
    (h : PoolHolds pool entries) :
    pool.map (fun storage => osFamily storage.ssFamily) = entries.map AddrInfo.aiFamily := by
  unfold PoolHolds at h
  induction h with
  | nil => rfl
  | cons hholds _ ih => rw [List.map_cons, List.map_cons, ih, hholds.family, AddrInfo.family_eq]

/-- `AF_INET` has the number of `ADDRESS_TYPE_INET6`; `AF_INET6` and `ADDRESS_TYPE_INET` have
numbers of their own. -/
theorem copied_eq_usable_iff (entry : AddrInfo) :
    entry.copied = entry.usable ↔
      entry.aiFamily ≠ osFamily afInet6 ∧ entry.aiFamily ≠ AddressType.inet.toInt32 := by
  have hsame : AddressType.inet6.toInt32 = osFamily afInet := by decide
  have hinet6 : osFamily afInet6 ≠ osFamily afInet ∧
      osFamily afInet6 ≠ AddressType.inet.toInt32 := by decide
  have hinet : AddressType.inet.toInt32 ≠ osFamily afInet := by decide
  unfold AddrInfo.copied AddrInfo.usable
  rw [hsame]
  by_cases h6 : entry.aiFamily = osFamily afInet6
  · simp [h6, hinet6]
  · by_cases h1 : entry.aiFamily = AddressType.inet.toInt32
    · simp [h1, hinet, hinet6.2.symm]
    · simp [h6, h1]

/-- If two selections give the same keys, and the second looks at the key only, then it has what
the first one has. -/
theorem selected_of_map_eq {α κ : Type} {key : α → κ} {p q : α → Bool}
    (hkey : ∀ a b, key a = key b → q a = q b) {l : List α}
    (h : (l.filter p).map key = (l.filter q).map key) {a : α} (ha : a ∈ l) (hp : p a = true) :
    q a = true := by
  have hmem : key a ∈ (l.filter p).map key := List.mem_map_of_mem (List.mem_filter.mpr ⟨ha, hp⟩)
  rw [h] at hmem
  obtain ⟨b, hb, heq⟩ := List.mem_map.mp hmem
  rw [← hkey b a heq]
  exact (List.mem_filter.mp hb).2

/-- If a pool has the copied entries and the usable ones as well, they are the same. -/
theorem copied_eq_usable_of_holds {pool : List RawStorage} {result : List AddrInfo}
    (hcopied : PoolHolds pool (result.filter AddrInfo.copied))
    (husable : PoolHolds pool (result.filter AddrInfo.usable)) :
    ∀ entry ∈ result, entry.copied = entry.usable := by
  have hmap := (families_of_holds hcopied).symm.trans (families_of_holds husable)
  intro entry hentry
  rw [Bool.eq_iff_iff]
  constructor
  · apply selected_of_map_eq _ hmap hentry
    intro a b hfamily
    rw [AddrInfo.usable, hfamily, AddrInfo.usable]
  · apply selected_of_map_eq _ hmap.symm hentry
    intro a b hfamily
    rw [AddrInfo.copied, hfamily, AddrInfo.copied]

/-- The family that is asked for is that of the type only if the lookup may use DNS: otherwise
the flags for numeric names go into the family. -/
theorem lookupHints_family_iff (performDNS : Bool) (type : AddressType) :
    (lookupHints performDNS type).aiFamily = halAddrTypeToOSType type ↔ performDNS = true := by
  cases performDNS with
  | true => exact ⟨fun _ => rfl, fun _ => by cases type <;> rfl⟩
  | false =>
    have hne : (lookupHints false type).aiFamily ≠ halAddrTypeToOSType type := by
      cases type <;> decide
    exact ⟨fun h => absurd h hne, nofun⟩

section Lookup

variable (getaddrinfo : LookupRequest → LookupAnswer) (uninitialized : ℕ → RawStorage)
  (hostname sevicename : Option (List SlU8)) (performDNS : Bool) (type : AddressType)

/-- A lookup that fails leaves nothing in the pool. -/
theorem loopUpHostName_fails
    (h : (getaddrinfo (lookupRequest hostname sevicename performDNS type)).ans ≠ 0) :
    loopUpHostName getaddrinfo uninitialized hostname sevicename performDNS type =
      ⟨lookupRequest hostname sevicename performDNS type, [], 0⟩ := by
  unfold loopUpHostName
  exact if_pos h

/-- One that succeeds has the copied entries in the pool. -/
theorem loopUpHostName_succeeds
    (h : (getaddrinfo (lookupRequest hostname sevicename performDNS type)).ans = 0) :
    ∃ pool, PoolHolds pool
        ((getaddrinfo (lookupRequest hostname sevicename performDNS type)).result.filter
          AddrInfo.copied) ∧
      loopUpHostName getaddrinfo uninitialized hostname sevicename performDNS type =
        ⟨lookupRequest hostname sevicename performDNS type, pool, pool.length⟩ := by
  refine ⟨_, foldl_lookupStep uninitialized .nil _, ?_⟩
  unfold loopUpHostName
  exact if_neg (not_not_intro h)

/-- In any case it makes its request. -/
theorem loopUpHostName_request :
    (loopUpHostName getaddrinfo uninitialized hostname sevicename performDNS type).request =
      lookupRequest hostname sevicename performDNS type := by
  by_cases h : (getaddrinfo (lookupRequest hostname sevicename performDNS type)).ans = 0
  · obtain ⟨pool, -, hlookup⟩ := loopUpHostName_succeeds getaddrinfo uninitialized hostname
      sevicename performDNS type h
    rw [hlookup]
  · rw [loopUpHostName_fails getaddrinfo uninitialized hostname sevicename performDNS type h]

/-- **A lookup keeps every usable address exactly if it may use DNS and the list has no entry whose
family means another thing in the two numberings**, `AF_INET` apart. -/
theorem loopUpHostName_correct_iff :
    LookupCorrect (getaddrinfo (lookupRequest hostname sevicename performDNS type)) performDNS
        type (loopUpHostName getaddrinfo uninitialized hostname sevicename performDNS type) ↔
      performDNS = true ∧
        ((getaddrinfo (lookupRequest hostname sevicename performDNS type)).ans = 0 →
          ∀ entry ∈ (getaddrinfo (lookupRequest hostname sevicename performDNS type)).result,
            entry.aiFamily ≠ osFamily afInet6 ∧
              entry.aiFamily ≠ AddressType.inet.toInt32) := by
  have hrequest := loopUpHostName_request getaddrinfo uninitialized hostname sevicename
    performDNS type
  have hsucceeds := loopUpHostName_succeeds getaddrinfo uninitialized hostname sevicename
    performDNS type
  generalize loopUpHostName getaddrinfo uninitialized hostname sevicename performDNS type = lookup
    at hrequest hsucceeds ⊢
  generalize getaddrinfo (lookupRequest hostname sevicename performDNS type) = answer at hsucceeds ⊢
  constructor
  · intro h
    refine ⟨?_, fun hans entry hentry => ?_⟩
    · have hfamily := h.family
      rw [hrequest] at hfamily
      exact (lookupHints_family_iff performDNS type).mp hfamily
    · obtain ⟨pool, hpool, rfl⟩ := hsucceeds hans
      exact (copied_eq_usable_iff entry).mp
        (copied_eq_usable_of_holds hpool (h.pool hans) entry hentry)
  · rintro ⟨rfl, hentries⟩
    have hkept : ∀ hans : answer.ans = 0,
        answer.result.filter AddrInfo.copied = answer.result.filter AddrInfo.usable := by
      intro hans
      apply List.filter_congr
      intro entry hentry
      exact (copied_eq_usable_iff entry).mpr (hentries hans entry hentry)
    constructor
    · rw [hrequest]
      exact (lookupHints_family_iff true type).mpr rfl
    · exact nofun
    · intro hans
      obtain ⟨pool, hpool, rfl⟩ := hsucceeds hans
      rwa [hkept hans] at hpool
    · intro hans
      obtain ⟨pool, hpool, rfl⟩ := hsucceeds hans
      rw [hkept hans] at hpool
      exact List.Forall₂.length_eq hpool

end Lookup

/-- An entry for `::1`. -/
def loopbackEntry : AddrInfo where
  aiFamily := osFamily afInet6
  aiAddr := ⟨afInet6, List.replicate 21 0 ++ [1] ++ List.replicate 4 0⟩
  family_eq := rfl
  fits := by decide

/-- The host name `::1`. -/
def loopbackName : List SlU8 := [0x3a, 0x3a, 0x31]

/-- The only address of `::1` is dropped. -/
theorem not_loopUpHostName_correct :
    ¬ ∀ getaddrinfo uninitialized hostname sevicename performDNS type,
      LookupCorrect (getaddrinfo (lookupRequest hostname sevicename performDNS type)) performDNS
        type (loopUpHostName getaddrinfo uninitialized hostname sevicename performDNS type) := by
  intro h
  have hcorrect := h (fun _ => ⟨0, [loopbackEntry]⟩) (fun _ => ⟨0, fun _ => 0⟩) (some loopbackName)
    none true .inet6
  have hcount := hcorrect.count rfl
  have hreturned : (loopUpHostName (fun _ => ⟨0, [loopbackEntry]⟩) (fun _ => ⟨0, fun _ => 0⟩)
      (some loopbackName) none true .inet6).returned = 0 := by decide
  have hlength : ([loopbackEntry].filter AddrInfo.usable).length = 1 := by decide
  rw [hreturned, hlength] at hcount
  exact absurd hcount (by decide)

end Slamkit
