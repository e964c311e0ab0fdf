import Slamkit.Library.Fifo
import Slamkit.RequestRun
import Slamkit.TcpRequests
import Slamkit.UdpRead

/-!
# Requests over UDP

`UdpChannel::read` takes whole datagrams, so no request ever begins in the middle of a reply. What
`recvFrom` cuts off is lost, and a datagram that comes too late is given to the next request.
-/

namespace Slamkit

open Library

/-- `DGramSocketImpl::waitforData`, for the answer of `::select`. -/
def dgramWaitforData (ans : ℤ) : SlResult :=
  if ans = 1 then slResultOk
  else if ans = 0 then slResultOperationTimeout
  else slResultOperationFail

namespace UdpChannel

/-- `UdpChannel::waitForData` looks at neither the number of bytes asked for nor at those there
are. -/
def waitForData (_size : ℕ) (ans : ℤ) : Bool := dgramWaitforData ans == slResultOk

/-- A wait on a UDP socket succeeds exactly if `::select` reports the socket. -/
theorem waitForData_iff (size : ℕ) (ans : ℤ) : waitForData size ans = true ↔ ans = 1 := by
  unfold waitForData dgramWaitforData
  by_cases hone : ans = 1
  · rw [if_pos hone]
    exact iff_of_true rfl hone
  · rw [if_neg hone]
    refine iff_of_false ?_ hone
    split <;> decide

/-- Of some datagrams, those that `read` takes when `recCnt` bytes have been received. -/
def taken (size : ℕ) : List (List SlU8) → ℕ → List (List SlU8)
  | [], _ => []
  | datagram :: rest, recCnt =>
    if recCnt < size then datagram :: taken size rest (recCnt + (datagram.take size).length) else []

/-- What `read` stores of datagrams. -/
def cut (size : ℕ) (datagrams : List (List SlU8)) : List SlU8 := datagrams.flatMap (List.take size)

/-- A datagram is only taken while bytes are missing. -/
def Wanted (size : ℕ) (past : List (List SlU8)) (_ : List SlU8) : Prop :=
  (cut size past).length < size

/-- The datagrams taken are the first ones. -/
theorem taken_isPrefix (size : ℕ) (datagrams : List (List SlU8)) (recCnt : ℕ) :
    taken size datagrams recCnt <+: datagrams := by
  induction datagrams generalizing recCnt with
  | nil => exact List.nil_prefix
  | cons datagram rest ih =>
    rw [taken]
    split
    · rw [List.prefix_cons_inj]
      exact ih _
    · exact List.nil_prefix

/-- Each of them is taken while bytes are missing. -/
theorem wanted_taken {size recCnt : ℕ} (datagrams : List (List SlU8)) {past : List (List SlU8)}
    (hpast : (cut size past).length = recCnt) :
    EachAfter (Wanted size) past (taken size datagrams recCnt) := by
  induction datagrams generalizing recCnt past with
  | nil => trivial
  | cons datagram rest ih =>
    rw [taken]
    split
    · rename_i hmissing
      refine ⟨hpast.trans_lt hmissing, ih ?_⟩
      rw [cut, List.flatMap_append, List.length_append, List.flatMap_singleton]
      exact congrArg (· + _) hpast
    · trivial

/-- A full buffer takes none. -/
theorem taken_of_full {size recCnt : ℕ} (hfull : size ≤ recCnt) (datagrams : List (List SlU8)) :
    taken size datagrams recCnt = [] := by
  cases datagrams with
  | nil => rfl
  | cons datagram rest => rw [taken, if_neg (by omega)]

/-- If a call fails in the end, the loop stores the datagrams it takes. -/
theorem readLoop_taken (size : ℕ) (block : Bool) (datagrams : List (List SlU8)) (recCnt : ℕ)
    (stores : List Store) :
    ∃ n stores', readLoop size (datagrams.map .ok ++ [.error block]) recCnt stores =
      some (n, stores') ∧
      contents stores' = contents stores ++ cut size (taken size datagrams recCnt) := by
  induction datagrams generalizing recCnt stores with
  | nil =>
    obtain hfull | hroom := le_or_gt size recCnt
    · exact ⟨_, _, readLoop_of_full size _ hfull stores, (List.append_nil _).symm⟩
    · refine ⟨recCnt, stores ++ [⟨recCnt, []⟩], ?_, ?_⟩
      · rw [List.map_nil, List.nil_append, readLoop_cons size _ _ hroom]
      · simp [contents, cut, taken]
  | cons datagram rest ih =>
    obtain hfull | hroom := le_or_gt size recCnt
    · rw [taken_of_full hfull]
      exact ⟨_, _, readLoop_of_full size _ hfull stores, (List.append_nil _).symm⟩
    · obtain ⟨n, stores', hloop, hstores⟩ := ih (recCnt + (datagram.take size).length)
        (stores ++ [⟨recCnt, datagram.take size⟩])
      refine ⟨n, stores', ?_, ?_⟩
      · rw [List.map_cons, List.cons_append, readLoop_cons size _ _ hroom]
        exact hloop
      · rw [hstores, taken, if_pos hroom]
        simp [contents, cut]

/-- What `read` stores of the datagrams that come before a call of `recvFrom` fails. -/
theorem read_taken (size : ℕ) (block : Bool) (datagrams : List (List SlU8)) :
    ∃ r, read size (datagrams.map .ok ++ [.error block]) = some r ∧
      contents r.stores = cut size (taken size datagrams 0) := by
  obtain ⟨n, stores, hloop, hstores⟩ := readLoop_taken size block datagrams 0 []
  refine ⟨⟨(n : ℤ).bmod (2 ^ 32), stores⟩, ?_, hstores⟩
  unfold read
  rw [hloop]
  rfl

end UdpChannel

/-- What the system calls of one method answer, and the datagrams that arrive before it. -/
structure UdpAnswers where
  arriving : List (List SlU8)
  /-- `::select`. -/
  select : ℤ
  /-- `::sendto`. -/
  send : Except SendErrno ℕ
  /-- The number of datagrams `::recvfrom` can deliver before it fails. -/
  delivered : ℕ
  /-- Whether it fails because there is none in time. -/
  block : Bool
  deriving DecidableEq

/-- A UDP socket: its queue of datagrams, and the answers to the methods still to be called;
`time` counts those that were called. -/
structure UdpLine where
  queue : Fifo (List SlU8)
  answers : ℕ → UdpAnswers
  time : ℕ

namespace UdpLine

/-- The answers to the next method. -/
def now (s : UdpLine) : UdpAnswers := s.answers s.time

/-- The datagrams of the next method arrive. -/
def arrive (s : UdpLine) : UdpLine :=
  { s with queue := s.queue.arrive s.now.arriving, time := s.time + 1 }

/-- The datagrams that the calls of `::recvfrom` can deliver to the next method. -/
def deliverable (s : UdpLine) : List (List SlU8) := s.arrive.queue.queue.take s.now.delivered

/-- `read`: each call of `::recvfrom` takes one datagram from the front of the queue. -/
def read (size : ℕ) (s : UdpLine) : ReadResult × UdpLine :=
  let r := UdpChannel.read size (s.deliverable.map .ok ++ [.error s.now.block])
  let recvCnt := (UdpChannel.taken size s.deliverable 0).length
  (r.elim ⟨0, []⟩ fun r => ⟨r.returned, UdpChannel.contents r.stores⟩,
    { s.arrive with queue := (s.arrive.queue.take recvCnt).2 })

/-- `read` stores the datagrams it takes from the queue. -/
theorem read_spec (size : ℕ) (s : UdpLine) :
    (s.read size).1.stored = UdpChannel.cut size (UdpChannel.taken size s.deliverable 0) ∧
      (s.read size).2.queue =
        (s.arrive.queue.take (UdpChannel.taken size s.deliverable 0).length).2 ∧
      UdpChannel.taken size s.deliverable 0 =
        (s.arrive.queue.take (UdpChannel.taken size s.deliverable 0).length).1 := by
  obtain ⟨r, hread, hstores⟩ := UdpChannel.read_taken size s.now.block s.deliverable
  refine ⟨?_, rfl, ?_⟩
  · unfold read
    simp only
    rw [hread]
    exact hstores
  · have hprefix := (UdpChannel.taken_isPrefix size s.deliverable 0).trans
      (List.take_prefix s.now.delivered s.arrive.queue.queue)
    exact List.prefix_iff_eq_take.mp hprefix

end UdpLine

/-- The UDP channel on an open socket. -/
def udpLineChannels : Channels Unit UdpLine
  | _, .«open», s => (true, s.arrive)
  | _, .close, s => ((), s.arrive)
  | _, .flush, s => ((), s.arrive)
  | _, .waitForData size _, s => (UdpChannel.waitForData size s.now.select, s.arrive)
  | _, .write _, s => (UdpChannel.write s.now.send, s.arrive)
  | _, .read size, s => s.read size
  | _, .clearReadCache, s => ((), s.arrive)

/-- A new socket. -/
def UdpLine.new (answers : ℕ → UdpAnswers) : UdpLine := ⟨⟨[], []⟩, answers, 0⟩

/-- What a request that asks for `size` bytes has stored of the datagrams it has taken: each of
them up to `size` bytes, and each taken while fewer bytes than these were there. -/
structure UdpChannel.Takes (size : ℕ) (bytes : List SlU8) (datagrams : List (List SlU8)) :
    Prop where
  stored : bytes = cut size datagrams
  wanted : EachAfter (Wanted size) [] datagrams

/-- The socket of a request after its wait. -/
theorem udp_await_cases (r : Request) (timeout : SlU32) (env : UdpLine) :
    let awaited := r.await udpLineChannels (some ()) timeout env
    ∃ arrived n, UdpChannel.Takes r.asked awaited.stored ((env.queue.arrive arrived).take n).1 ∧
      awaited.env.queue = ((env.queue.arrive arrived).take n).2 := by
  intro awaited
  set waited := ((r.send udpLineChannels (some ()) env).env.arrive) with hwaited
  have hqueue : ∃ arrived, waited.queue = env.queue.arrive arrived := by
    refine ⟨env.now.arriving ++ env.arrive.now.arriving ++ env.arrive.arrive.now.arriving ++
      env.arrive.arrive.arrive.now.arriving, ?_⟩
    change (((env.queue.arrive env.now.arriving).arrive env.arrive.now.arriving).arrive
      env.arrive.arrive.now.arriving).arrive env.arrive.arrive.arrive.now.arriving = _
    simp only [Fifo.arrive_arrive]
  obtain ⟨arrived, harrived⟩ := hqueue
  unfold Awaited.stored
  cases hready : UdpChannel.waitForData r.asked
      (r.send udpLineChannels (some ()) env).env.now.select with
  | false =>
    have hawait : awaited.answer = none ∧ awaited.env = waited :=
      await_of_not_ready udpLineChannels (some ()) hready
    refine ⟨arrived, 0, ?_, ?_⟩
    · rw [hawait.1]
      exact ⟨rfl, trivial⟩
    · rw [hawait.2, harrived]
      rfl
  | true =>
    have hawait : awaited.answer = some (waited.read r.asked).1 ∧
        awaited.env = (waited.read r.asked).2 :=
      await_of_ready udpLineChannels (some ()) hready
    have harrive : waited.arrive.queue = env.queue.arrive (arrived ++ waited.now.arriving) := by
      change waited.queue.arrive waited.now.arriving = _
      rw [harrived, Fifo.arrive_arrive]
    obtain ⟨hstored, hqueue, htaken⟩ := waited.read_spec r.asked
    rw [harrive] at hqueue htaken
    refine ⟨arrived ++ waited.now.arriving,
      (UdpChannel.taken r.asked waited.deliverable 0).length, ?_, ?_⟩
    · rw [hawait.1, ← htaken]
      exact ⟨hstored, UdpChannel.wanted_taken _ rfl⟩
    · rw [hawait.2, hqueue]

/-- What holds between the requests on a socket: each has taken some datagrams, and these and what
is still queued make up what has arrived. -/
def UdpLine.Inv (env : UdpLine) (readings : List Reading) : Prop :=
  ∃ parts, List.Forall₂ (fun reading part =>
      UdpChannel.Takes reading.request.asked reading.stored part) readings parts ∧
    env.queue.Carries parts.flatten

/-- Every request takes the next datagrams. -/
theorem UdpLine.inv_run (answers : ℕ → UdpAnswers) (queries : List Query) :
    let s := RequestRun.run udpLineChannels (.new answers) queries
    s.driver.env.Inv s.readings := by
  have hstart : (new answers).Inv [] := ⟨[], .nil, rfl⟩
  refine RequestRun.keeps (fun env readings q h => ?_) hstart queries
  obtain ⟨parts, hparts, hcarries⟩ := h
  obtain ⟨arrived, n, htakes, hqueue⟩ := udp_await_cases q.request q.timeout env
  refine ⟨parts ++ [((env.queue.arrive arrived).take n).1], ?_, ?_⟩
  · exact List.rel_append hparts (.cons htakes .nil)
  · rw [List.flatten_append, List.flatten_singleton, hqueue]
    exact (hcarries.arrive arrived).take n

/-- **The requests on a UDP socket share one queue of datagrams.** Whatever the system calls answer
and whichever requests fail: the requests have taken whole datagrams, one after the other, in the
order in which they have arrived, each request as many as it needed to have the bytes it asked for,
and each has stored the first bytes of its own datagrams, as many as it asked for from each. -/
theorem udp_requests_datagrams (answers : ℕ → UdpAnswers) (queries : List Query) :
    let s := RequestRun.run udpLineChannels (.new answers) queries
    ∃ parts, parts.flatten ++ s.driver.env.queue.queue = s.driver.env.queue.arrived ∧
      List.Forall₂ (fun reading part => reading.stored = part.flatMap (List.take
        reading.request.asked) ∧ ∀ taken datagram later, part = taken ++ datagram :: later →
          (taken.flatMap (List.take reading.request.asked)).length < reading.request.asked)
        s.readings parts := by
  intro s
  obtain ⟨parts, hparts, hcarries⟩ := UdpLine.inv_run answers queries
  refine ⟨parts, hcarries, hparts.imp fun reading part h => ⟨h.stored, ?_⟩⟩
  exact (eachAfter_iff [] part).mp h.wanted

/-- Of datagrams that are long enough a request takes one or none. -/
theorem UdpChannel.Takes.of_long {size : ℕ} {bytes : List SlU8} {datagrams : List (List SlU8)}
    (h : Takes size bytes datagrams) (hpos : 0 < size)
    (hlong : ∀ datagram ∈ datagrams, size ≤ datagram.length) :
    datagrams = [] ∧ bytes = [] ∨
      ∃ datagram, datagrams = [datagram] ∧ bytes = datagram.take size ∧ bytes ≠ [] := by
  obtain ⟨hstored, hwanted⟩ := h
  match datagrams with
  | [] => exact .inl ⟨rfl, hstored⟩
  | [datagram] =>
    right
    have hbytes : bytes = datagram.take size := by
      rw [hstored, cut, List.flatMap_singleton]
    have hlength := hlong datagram List.mem_cons_self
    refine ⟨datagram, rfl, hbytes, List.length_pos_iff.mp ?_⟩
    rw [hbytes, List.length_take]
    omega
  | datagram :: next :: rest =>
    -- the first one has filled the buffer
    have hmissing : (datagram.take size).length < size := by
      simpa [Wanted, cut] using hwanted.2.1
    have hlength := hlong datagram List.mem_cons_self
    rw [List.length_take] at hmissing
    omega

/-- As many requests have read something as datagrams have been taken. -/
theorem UdpLine.length_flatten {readings : List Reading} {parts : List (List (List SlU8))}
    (hparts : List.Forall₂ (fun reading part =>
      UdpChannel.Takes reading.request.asked reading.stored part) readings parts)
    (hlong : ∀ datagram ∈ parts.flatten, ∀ reading ∈ readings,
      reading.request.asked ≤ datagram.length) :
    (readings.filter (·.stored ≠ [])).length = parts.flatten.length := by
  induction hparts with
  | nil => rfl
  | @cons reading part readings parts htakes hrest ih =>
    have hown : ∀ datagram ∈ part, reading.request.asked ≤ datagram.length :=
      fun datagram h => hlong datagram (by simp [h]) reading List.mem_cons_self
    have hothers := ih fun datagram h other hother =>
      hlong datagram (by simp [List.mem_flatten.mp h]) other (List.mem_cons_of_mem _ hother)
    rw [List.flatten_cons, List.length_append, ← hothers]
    rcases htakes.of_long reading.request.asked_pos hown with
      ⟨rfl, hnone⟩ | ⟨datagram, rfl, -, hsome⟩
    · rw [List.filter_cons_of_neg (by simpa using hnone), List.length_nil, Nat.zero_add]
    · rw [List.filter_cons_of_pos (by simpa using hsome), List.length_cons, List.length_singleton,
        Nat.add_comm]

/-- A request that reads something is given the first datagram that the earlier ones leave. -/
theorem UdpLine.takes_next {before after : List Reading} {reading : Reading}
    {parts : List (List (List SlU8))}
    (hparts : List.Forall₂ (fun reading part =>
      UdpChannel.Takes reading.request.asked reading.stored part) (before ++ reading :: after)
      parts)
    (hlong : ∀ datagram ∈ parts.flatten, ∀ other ∈ before ++ reading :: after,
      other.request.asked ≤ datagram.length) (hread : reading.stored ≠ []) :
    ∃ datagram, parts.flatten[(before.filter (·.stored ≠ [])).length]? = some datagram ∧
      reading.stored = datagram.take reading.request.asked := by
  have hbefore := List.forall₂_take before.length hparts
  have hafter := List.forall₂_drop before.length hparts
  rw [List.take_left] at hbefore
  rw [List.drop_left] at hafter
  obtain ⟨part, rest, htakes, -, hdrop⟩ := List.forall₂_cons_left_iff.mp hafter
  have hflatten : parts.flatten =
      (parts.take before.length).flatten ++ (part ++ rest.flatten) := by
    rw [← List.flatten_cons, ← hdrop, ← List.flatten_append, List.take_append_drop]
  rw [hflatten] at hlong ⊢
  have hearlier := length_flatten hbefore fun datagram hdatagram other hother =>
    hlong datagram (List.mem_append_left _ hdatagram) other (List.mem_append_left _ hother)
  rcases htakes.of_long reading.request.asked_pos fun datagram hdatagram =>
      hlong datagram (by simp [hdatagram]) reading (by simp) with
    ⟨-, hnone⟩ | ⟨datagram, rfl, hbytes, -⟩
  · exact absurd hnone hread
  · refine ⟨datagram, ?_, hbytes⟩
    rw [hearlier, List.getElem?_append_right (Nat.le_refl _), Nat.sub_self]
    rfl

/-- In an increasing list, the elements below one of them are those that stand before it. -/
theorem filter_lt_length {kept : List ℕ} (hkept : kept.Pairwise (· < ·)) {k i : ℕ}
    (hk : kept[k]? = some i) : (kept.filter (· < i)).length = k := by
  obtain ⟨hlt, rfl⟩ := List.getElem?_eq_some_iff.mp hk
  have hbelow : (kept.take k).filter (· < kept[k]) = kept.take k := by
    apply List.filter_eq_self.mpr
    intro j hj
    obtain ⟨n, hn, rfl⟩ := List.mem_take_iff_getElem.mp hj
    have hbefore := List.pairwise_iff_getElem.mp hkept n k (by omega) hlt (by omega)
    simpa using hbefore
  have habove : (kept.drop k).filter (· < kept[k]) = [] := by
    apply List.filter_eq_nil_iff.mpr
    intro j hj
    obtain ⟨n, hn, rfl⟩ := List.mem_drop_iff_getElem.mp hj
    have hle : kept[k] ≤ kept[k + n] := by
      rcases Nat.eq_zero_or_pos n with rfl | hpos
      · exact Nat.le_refl _
      · exact (List.pairwise_iff_getElem.mp hkept k (k + n) hlt (by omega) (by omega)).le
    simpa using hle
  calc (kept.filter (· < kept[k])).length
      = ((kept.take k ++ kept.drop k).filter (· < kept[k])).length := by rw [List.take_append_drop]
    _ = k := by
      rw [List.filter_append, hbelow, habove, List.append_nil, List.length_take]
      omega

/-- Which element of an increasing list stands at some place. -/
theorem eq_iff_filter_lt {kept : List ℕ} (hkept : kept.Pairwise (· < ·)) {k i : ℕ}
    (hk : kept[k]? = some i) (j : ℕ) :
    i = j ↔ j ∈ kept ∧ (kept.filter (· < j)).length = k := by
  constructor
  · rintro rfl
    exact ⟨List.mem_of_getElem? hk, filter_lt_length hkept hk⟩
  · rintro ⟨hmem, hcount⟩
    obtain ⟨n, hn⟩ := List.mem_iff_getElem?.mp hmem
    have hsame := filter_lt_length hkept hn
    rw [hcount] at hsame
    subst hsame
    exact Option.some.inj (hk.symm.trans hn)

/-- **Which reply a request over UDP is given.** Let some of the replies of the device be lost, and
those that arrive be long enough for every request. Then a request that reads anything is given one
of these, whole up to the size it asks for: as many as the earlier requests that have read something
are skipped. It returns what this reply decodes to. It is the reply to its own command exactly if
that one has arrived, and of the earlier ones as many have arrived as earlier requests have read
something. -/
theorem udp_requests_lag (answers : ℕ → UdpAnswers) (queries : List Query) (device : Device)
    {kept : List ℕ} (hkept : kept.Pairwise (· < ·))
    (harrived :
      (RequestRun.run udpLineChannels (.new answers) queries).driver.env.queue.arrived =
        kept.map (device.reply ((queries.map Query.request).map Request.frame)))
    (hlong : ∀ k ∈ kept, ∀ q ∈ queries, q.request.asked ≤
      (device.reply ((queries.map Query.request).map Request.frame) k).length)
    {before after : List Reading} {reading : Reading}
    (hsplit : (RequestRun.run udpLineChannels (.new answers) queries).readings =
      before ++ reading :: after) (hread : reading.stored ≠ []) :
    let earlier := (before.filter (·.stored ≠ [])).length
    ∃ k, kept[earlier]? = some k ∧
      reading.stored = (device.reply ((queries.map Query.request).map Request.frame) k).take
        reading.request.asked ∧
      reading.result = respond reading.request.load (some (readReply
        (device.reply ((queries.map Query.request).map Request.frame) k) reading.request.asked))
        reading.out ∧
      (k = before.length ↔
        before.length ∈ kept ∧ (kept.filter (· < before.length)).length = earlier) := by
  intro earlier
  obtain ⟨parts, hparts, hcarries⟩ := UdpLine.inv_run answers queries
  rw [Fifo.Carries, harrived] at hcarries
  have hrequests := RequestRun.run_requests udpLineChannels (.new answers) queries
  have hlong' : ∀ datagram ∈ parts.flatten, ∀ other ∈ before ++ reading :: after,
      other.request.asked ≤ datagram.length := by
    intro datagram hdatagram other hother
    have hmem : datagram ∈ kept.map _ := hcarries ▸ List.mem_append_left _ hdatagram
    obtain ⟨k, hk, rfl⟩ := List.mem_map.mp hmem
    have hrequest : other.request ∈ queries.map Query.request := by
      rw [← hrequests, hsplit]
      exact List.mem_map_of_mem hother
    obtain ⟨q, hq, hqr⟩ := List.mem_map.mp hrequest
    exact hqr ▸ hlong k hk q hq
  rw [hsplit] at hparts
  obtain ⟨datagram, htaken, hbytes⟩ := UdpLine.takes_next hparts hlong' hread
  have hnext : (kept.map (device.reply ((queries.map Query.request).map Request.frame)))[earlier]? =
      some datagram := by
    have hlt := (List.getElem?_eq_some_iff.mp htaken).1
    rw [← hcarries, List.getElem?_append_left hlt]
    exact htaken
  rw [List.getElem?_map, Option.map_eq_some_iff] at hnext
  obtain ⟨k, hk, rfl⟩ := hnext
  have hresult : reading.result = respond reading.request.load
      (some ⟨reading.stored.length, reading.stored⟩) reading.out := by
    have hmem := RequestRun.run_decodes udpLineChannels (.new answers) queries reading
    rw [hsplit] at hmem
    rcases hmem (by simp) with hdecoded | ⟨hnone, -⟩
    · exact hdecoded
    · exact absurd hnone hread
  rw [hbytes] at hresult
  exact ⟨k, hk, hbytes, hresult, eq_iff_filter_lt hkept hk before.length⟩

/-- The first request times out, and its reply is lost; the second one is answered in time. -/
def lossyAnswers : ℕ → UdpAnswers
  | 3 => ⟨[], 0, .ok 10, 0, true⟩
  | 7 => ⟨[countingDevice [[], []]], 1, .ok 10, 1, true⟩
  | _ => ⟨[], 1, .ok 10, 1, true⟩

/-- The second request is given the reply to its own command. -/
theorem udp_requests_lag_lossy :
    ∃ earlier reading, (RequestRun.run udpLineChannels (.new lossyAnswers)
        [rawQuery, rawQuery]).readings = [earlier, reading] ∧
      earlier.stored = [] ∧ reading.result.1 = slResultOk ∧
      reading.stored = (countingDevice.reply [Request.imuRaw.frame, Request.imuRaw.frame] 1).take
        Request.imuRaw.asked ∧
      reading.result = respond reading.request.load (some (readReply
        (countingDevice.reply [Request.imuRaw.frame, Request.imuRaw.frame] 1)
        Request.imuRaw.asked)) reading.out := by
  refine ⟨_, _, rfl, by decide +kernel, by decide +kernel, ?_⟩
  obtain ⟨k, -, hstored, hresult, hown⟩ := @udp_requests_lag lossyAnswers [rawQuery, rawQuery]
    countingDevice [1] (by decide) (by decide +kernel) (by decide +kernel) [_] [] _ rfl
    (by decide +kernel)
  obtain rfl : k = 1 := hown.mpr ⟨by decide, by decide +kernel⟩
  exact ⟨hstored, hresult⟩

end Slamkit
