import Slamkit.Library.Fifo
import Slamkit.RequestRun
import Slamkit.SerialRequests

/-!
# Requests over TCP

`TcpChannel::waitForData` returns true as soon as anything is queued, `recv` takes what there is,
and nothing ever discards bytes. So the requests of a connection read the stream of the device
piece by piece, and a request that reads too little shifts all later ones.
-/

namespace Slamkit

open Library

/-- What the system calls of one method answer, and the bytes that arrive before it. -/
structure TcpAnswers where
  arriving : List SlU8
  /-- `::select`. -/
  select : ℤ
  /-- `::send`. -/
  send : SysResult ℕ
  /-- `errno` after a short count. -/
  wouldBlock : Bool
  /-- `::recv`: a bound for the bytes it takes, besides what is queued and what it is asked for. -/
  recv : SysResult ℕ
  deriving DecidableEq

/-- A TCP connection: the queue of its socket, and the answers to the methods still to be called;
`time` counts those that were called. -/
structure TcpLine where
  queue : Fifo SlU8
  answers : ℕ → TcpAnswers
  time : ℕ

namespace TcpLine

/-- The answers to the next method. -/
def now (s : TcpLine) : TcpAnswers := s.answers s.time

/-- The bytes of the next method arrive. -/
def arrive (s : TcpLine) : TcpLine :=
  { s with queue := s.queue.arrive s.now.arriving, time := s.time + 1 }

/-- `read`: `::recv` takes bytes from the front of the queue. -/
def read (size : ℕ) (s : TcpLine) : ReadResult × TcpLine :=
  match s.now.recv with
  | .error block => (TcpChannel.read (.error block), s.arrive)
  | .ok n =>
    let r := s.arrive.queue.take (min n size)
    (TcpChannel.read (.ok r.1), { s.arrive with queue := r.2 })

end TcpLine

/-- The TCP channel on an open connection. -/
def tcpLineChannels : Channels Unit TcpLine
  | _, .«open», s => (true, s.arrive)
  | _, .close, s => ((), s.arrive)
  | _, .flush, s => ((), s.arrive)
  | _, .waitForData size _, s => (TcpChannel.waitForData size s.now.select, s.arrive)
  | _, .write data, s => (TcpChannel.write data s.now.send s.now.wouldBlock, s.arrive)
  | _, .read size, s => s.read size
  | _, .clearReadCache, s => ((), s.arrive)

/-- A new connection. -/
def TcpLine.new (answers : ℕ → TcpAnswers) : TcpLine := ⟨⟨[], []⟩, answers, 0⟩

/-- What requests have read. -/
def bytesRead (readings : List Reading) : List SlU8 := readings.flatMap Reading.stored

/-- The line of a request after its wait. -/
theorem tcp_await_cases (r : Request) (timeout : SlU32) (env : TcpLine) :
    let awaited := r.await tcpLineChannels (some ()) timeout env
    ∃ arrived n, n ≤ r.asked ∧
      awaited.stored = ((env.queue.arrive arrived).take n).1 ∧
      awaited.env.queue = ((env.queue.arrive arrived).take n).2 := by
  intro awaited
  set waited := ((r.send tcpLineChannels (some ()) env).env.arrive) with hwaited
  have hqueue : ∃ arrived, waited.queue = env.queue.arrive arrived := by
    refine ⟨env.now.arriving ++ env.arrive.now.arriving ++ env.arrive.arrive.now.arriving ++
      env.arrive.arrive.arrive.now.arriving, ?_⟩
    change (((env.queue.arrive env.now.arriving).arrive env.arrive.now.arriving).arrive
      env.arrive.arrive.now.arriving).arrive env.arrive.arrive.arrive.now.arriving = _
    simp only [Fifo.arrive_arrive]
  obtain ⟨arrived, harrived⟩ := hqueue
  cases hready : TcpChannel.waitForData (pktSizeExPayload + r.size)
      (r.send tcpLineChannels (some ()) env).env.now.select with
  | false =>
    have hawait : awaited.answer = none ∧ awaited.env = waited :=
      await_of_not_ready tcpLineChannels (some ()) hready
    refine ⟨arrived, 0, Nat.zero_le _, ?_, ?_⟩
    · unfold Awaited.stored
      rw [hawait.1]
      rfl
    · rw [hawait.2, harrived]
      rfl
  | true =>
    have hawait : awaited.answer = some (waited.read (pktSizeExPayload + r.size)).1 ∧
        awaited.env = (waited.read (pktSizeExPayload + r.size)).2 :=
      await_of_ready tcpLineChannels (some ()) hready
    have harrive : waited.arrive.queue =
        env.queue.arrive (arrived ++ waited.now.arriving) := by
      change waited.queue.arrive waited.now.arriving = _
      rw [harrived, Fifo.arrive_arrive]
    unfold Awaited.stored
    rw [hawait.1, hawait.2]
    cases hrecv : waited.now.recv with
    | error block =>
      refine ⟨arrived ++ waited.now.arriving, 0, Nat.zero_le _, ?_, ?_⟩
      · unfold TcpLine.read
        rw [hrecv]
        rfl
      · unfold TcpLine.read
        rw [hrecv]
        exact harrive
    | ok n =>
      refine ⟨arrived ++ waited.now.arriving, min n (pktSizeExPayload + r.size),
        Nat.min_le_right _ _, ?_, ?_⟩
      · unfold TcpLine.read
        rw [hrecv, ← harrive]
        rfl
      · unfold TcpLine.read
        rw [hrecv, ← harrive]

/-- What holds between the requests of a connection: what they have read and what is still queued
make up what has arrived, and none has read more than it asked for. -/
structure TcpLine.Inv (env : TcpLine) (readings : List Reading) : Prop where
  carries : env.queue.Carries (bytesRead readings)
  bounded : ∀ reading ∈ readings, reading.stored.length ≤ reading.request.asked

/-- Every request reads on where the last one has stopped. -/
theorem TcpLine.inv_run (answers : ℕ → TcpAnswers) (queries : List Query) :
    let s := RequestRun.run tcpLineChannels (.new answers) queries
    s.driver.env.Inv s.readings := by
  refine RequestRun.keeps (fun env readings q h => ?_) ⟨rfl, by simp⟩ queries
  obtain ⟨arrived, n, hn, hstored, hqueue⟩ := tcp_await_cases q.request q.timeout env
  constructor
  · unfold bytesRead
    rw [List.flatMap_append, List.flatMap_singleton, hstored, hqueue]
    exact (h.carries.arrive arrived).take n
  · intro reading hreading
    rcases List.mem_append.mp hreading with hold | hnew
    · exact h.bounded reading hold
    · rw [List.mem_singleton.mp hnew]
      simp only
      rw [hstored]
      exact (List.length_take_le _ _).trans hn

/-- **The requests of a TCP connection share one stream.** Whatever the system calls answer and
whichever requests fail, what the requests have read, one after the other, is a beginning of what
has arrived: a request never reads a byte again, and none is skipped between two requests. Each
returns what the bytes it has read itself decode to. -/
theorem tcp_requests_stream (answers : ℕ → TcpAnswers) (queries : List Query) :
    let s := RequestRun.run tcpLineChannels (.new answers) queries
    bytesRead s.readings ++ s.driver.env.queue.queue = s.driver.env.queue.arrived ∧
      ∀ reading ∈ s.readings,
        reading.result = respond reading.request.load
            (some ⟨reading.stored.length, reading.stored⟩) reading.out ∨
          reading.stored = [] ∧ reading.result = (slResultOperationTimeout, reading.out) :=
  ⟨(TcpLine.inv_run answers queries).carries, RequestRun.run_decodes _ _ queries⟩

/-- What requests have asked for in all. -/
def totalAsked (requests : List Request) : ℕ := (requests.map Request.asked).sum

/-- Requests that read no more than they ask for have read as much as they have asked for, if each
of them has. -/
theorem stored_length_eq_iff {readings : List Reading}
    (hbounded : ∀ reading ∈ readings, reading.stored.length ≤ reading.request.asked) :
    (bytesRead readings).length ≤ totalAsked (readings.map Reading.request) ∧
      ((bytesRead readings).length = totalAsked (readings.map Reading.request) ↔
        ∀ reading ∈ readings, reading.stored.length = reading.request.asked) := by
  induction readings with
  | nil => simp [bytesRead, totalAsked]
  | cons reading readings ih =>
    obtain ⟨hfirst, hrest⟩ := List.forall_mem_cons.mp hbounded
    obtain ⟨hle, hiff⟩ := ih hrest
    have hlength : (bytesRead (reading :: readings)).length =
        reading.stored.length + (bytesRead readings).length := by
      unfold bytesRead
      rw [List.flatMap_cons, List.length_append]
    have hasked : totalAsked ((reading :: readings).map Reading.request) =
        reading.request.asked + totalAsked (readings.map Reading.request) := by
      unfold totalAsked
      rw [List.map_cons, List.map_cons, List.sum_cons]
    rw [hlength, hasked]
    refine ⟨by omega, ?_⟩
    rw [List.forall_mem_cons, ← hiff]
    constructor
    · intro hsum
      omega
    · rintro ⟨hone, hall⟩
      omega

/-- A device that answers each of some requests by a reply of the size the request asks for. -/
def Device.Answers (device : Device) (requests : List Request) : Prop :=
  ∀ k r, requests[k]? = some r →
    (device.reply (requests.map Request.frame) k).length = r.asked

/-- Such a device sends what the requests ask for. -/
theorem Device.Answers.length_sent {device : Device} {requests : List Request}
    (h : device.Answers requests) :
    (device.sent (requests.map Request.frame)).length = totalAsked requests := by
  have hreplies : (List.range requests.length).map
        (fun k => (device.reply (requests.map Request.frame) k).length) =
      requests.map Request.asked := by
    apply List.ext_getElem
    · rw [List.length_map, List.length_map, List.length_range]
    · intro k hk hk'
      rw [List.length_map] at hk'
      rw [List.getElem_map, List.getElem_map, List.getElem_range]
      exact h k requests[k] (List.getElem?_eq_getElem hk')
  unfold Device.sent totalAsked
  rw [List.length_flatMap, List.length_map, hreplies]

/-- It has answered the first requests as well. -/
theorem Device.Answers.take {device : Device} {requests : List Request}
    (h : device.Answers requests) (n : ℕ) : device.Answers (requests.take n) := by
  intro k r hk
  have hlt : k < (requests.take n).length := (List.getElem?_eq_some_iff.mp hk).1
  rw [List.length_take] at hlt
  rw [List.getElem?_take_of_lt (by omega)] at hk
  rw [← h k r hk, List.map_take]
  unfold Device.reply
  rw [List.take_take, Nat.min_eq_left (by omega)]

/-- **A TCP connection never recovers from a request that reads too little.** If the device answers
each command by one reply of the size that is asked for, then a request begins to read at the start
of the reply to its own command exactly if every request before it has read as many bytes as it
asked for; otherwise it begins in an older reply. -/
theorem tcp_requests_shift (answers : ℕ → TcpAnswers) (queries : List Query) (device : Device)
    (hanswers : device.Answers (queries.map Query.request))
    (hsent : (RequestRun.run tcpLineChannels (.new answers) queries).driver.env.queue.arrived <+:
      device.sent ((queries.map Query.request).map Request.frame))
    {before after : List Reading} {reading : Reading}
    (hsplit : (RequestRun.run tcpLineChannels (.new answers) queries).readings =
      before ++ reading :: after) :
    let sent := device.sent ((queries.map Query.request).map Request.frame)
    let position := (bytesRead before).length
    let start := (device.sent ((before.map Reading.request).map Request.frame)).length
    reading.stored <+: sent.drop position ∧ position ≤ start ∧
      (position = start ↔
        ∀ earlier ∈ before, earlier.stored.length = earlier.request.asked) := by
  intro sent position start
  have hinv := TcpLine.inv_run answers queries
  have hrequests := RequestRun.run_requests tcpLineChannels (.new answers) queries
  rw [hsplit, List.map_append] at hrequests
  have hbefore : before.map Reading.request =
      (queries.map Query.request).take (before.map Reading.request).length := by
    rw [← hrequests, List.take_left]
  have hstart : start = totalAsked (before.map Reading.request) := by
    have htake := hanswers.take (before.map Reading.request).length
    rw [← hbefore] at htake
    exact htake.length_sent
  have hbounded := hinv.bounded
  rw [hsplit] at hbounded
  obtain ⟨hle, hiff⟩ := stored_length_eq_iff fun earlier hearlier =>
    hbounded earlier (List.mem_append_left _ hearlier)
  refine ⟨?_, ?_, ?_⟩
  · have hcarries := hinv.carries.isPrefix.trans hsent
    rw [hsplit] at hcarries
    unfold bytesRead at hcarries
    rw [List.flatMap_append, List.flatMap_cons] at hcarries
    obtain ⟨rest, hrest⟩ := hcarries
    refine ⟨after.flatMap Reading.stored ++ rest, ?_⟩
    have hdrop := congrArg (List.drop (before.flatMap Reading.stored).length) hrest
    rw [List.append_assoc, List.append_assoc, List.drop_left] at hdrop
    exact hdrop
  · rw [hstart]
    exact hle
  · rw [hstart]
    exact hiff

/-- A raw-data request. -/
def rawQuery : Query := ⟨.imuRaw, zeroImuRawData, defaultTimeout⟩

/-- Two replies of the counting device arrive in time, but only ten bytes of the first one are
taken when it is read. -/
def shortAnswers : ℕ → TcpAnswers
  | 3 => ⟨countingDevice [[]], 1, .ok 10, false, .ok 1024⟩
  | 4 => ⟨[], 1, .ok 10, false, .ok 10⟩
  | 8 => ⟨countingDevice [[], []], 1, .ok 10, false, .ok 1024⟩
  | _ => ⟨[], 1, .ok 10, false, .ok 1024⟩

/-- The second request begins in the middle of the first reply, and is refused. -/
theorem tcp_requests_shift_short :
    ∃ earlier reading, (RequestRun.run tcpLineChannels (.new shortAnswers)
        [rawQuery, rawQuery]).readings = [earlier, reading] ∧
      reading.result.1 = slResultInvalidData ∧ earlier.stored.length = 10 ∧
      reading.stored <+:
        (countingDevice.sent [Request.imuRaw.frame, Request.imuRaw.frame]).drop 10 := by
  refine ⟨_, _, rfl, by decide +kernel, by decide +kernel, ?_⟩
  refine (@tcp_requests_shift shortAnswers [rawQuery, rawQuery] countingDevice ?_
    (by decide +kernel) [_] [] _ rfl).1
  intro k r hk
  match k with
  | 0 => obtain rfl : Request.imuRaw = r := Option.some.inj hk; decide +kernel
  | 1 => obtain rfl : Request.imuRaw = r := Option.some.inj hk; decide +kernel
  | k + 2 => cases hk

end Slamkit
