import Slamkit.Exchange
import Slamkit.Library.History
import Slamkit.Tcp
import Slamkit.Udp

/-!
# Reconnecting over the network

The socket of a `TcpChannel` or a `UdpChannel` is created by the constructor of the channel,
and `close` disposes of it. This file follows the pointer `_binded_socket` through every
sequence of `connect` and `disconnect` calls of the driver: a second `open` after a `close`
finds it null.
-/

namespace Slamkit

open Library

/-- The methods of a socket object that `open` and `close` call. -/
inductive SocketMethod where
  /-- `StreamSocket::connect`. -/
  | connect
  /-- `DGramSocket::setPairAddress`. -/
  | setPairAddress
  /-- `dispose`, which deletes the object. -/
  | dispose
  deriving DecidableEq

/-- A method called through `_binded_socket`, with the pointer as it was. -/
structure SocketCall where
  pointer : Option ℕ
  method : SocketMethod
  deriving DecidableEq

/-- The member `_binded_socket` of a network channel, with the calls made through it, oldest
first. A socket object is named by a number. -/
structure NetworkChannel where
  bindedSocket : Option ℕ
  calls : List SocketCall
  deriving DecidableEq

namespace NetworkChannel

/-- The constructor, when `CreateSocket` succeeds. -/
def new : NetworkChannel := ⟨some 0, []⟩

/-- Call a method of the socket. -/
def through (c : NetworkChannel) (method : SocketMethod) : NetworkChannel :=
  { c with calls := c.calls ++ [⟨c.bindedSocket, method⟩] }

/-- `bind`, which returns `SL_RESULT_OK` as a `bool`. -/
def bind : Bool := slResultOk != 0

/-- `open`, which connects the socket by a method with a result. A call through a null pointer
is undefined: `undefined` is what it returns if it returns. -/
def «open» (method : SocketMethod) (result undefined : SlResult) (c : NetworkChannel) :
    Bool × NetworkChannel :=
  if slIsFail (if bind then 1 else 0) then (false, c)
  else (slIsOk (if c.bindedSocket.isSome then result else undefined), c.through method)

/-- `close`. -/
def close (c : NetworkChannel) : NetworkChannel :=
  { c.through .dispose with bindedSocket := none }

/-- `bind` does not fail, so that `open` always calls the socket. -/
theorem open_eq (method : SocketMethod) (result undefined : SlResult) (c : NetworkChannel) :
    c.«open» method result undefined =
      (slIsOk (if c.bindedSocket.isSome then result else undefined), c.through method) := rfl

end NetworkChannel

/-- `TcpChannel::open`. -/
def TcpChannel.«open» (ans : ConnectAnswer) (undefined : SlResult) (c : NetworkChannel) :
    Bool × NetworkChannel :=
  c.«open» .connect (streamConnect ans) undefined

/-- `UdpChannel::open`. -/
def UdpChannel.«open» (ans : ConnectAnswer) (undefined : SlResult) (c : NetworkChannel) :
    Bool × NetworkChannel :=
  c.«open» .setPairAddress (dgramSetPairAddress ans) undefined

/-- The two network channels. -/
inductive NetworkKind where
  | tcp
  | udp
  deriving DecidableEq

/-- `open` of a network channel. -/
def NetworkKind.«open» : NetworkKind → ConnectAnswer → SlResult → NetworkChannel →
    Bool × NetworkChannel
  | .tcp => TcpChannel.«open»
  | .udp => UdpChannel.«open»

/-- What is left open about a network channel: which one it is, what a call through a null
pointer returns, and its data methods, which `connect` and `disconnect` do not call. -/
structure Network where
  kind : NetworkKind
  undefined : SlResult
  data : Handler ChannelOp ChannelOp.Result NetworkChannel

/-- A network channel over a network with a given answer to `::connect`. -/
def Network.channels (net : Network) (ans : ConnectAnswer) : Channels Unit NetworkChannel
  | _, .«open», c => net.kind.«open» ans net.undefined c
  | _, .close, c => ((), c.close)
  | _, .flush, c => ((), c)
  | _, op, c => net.data op c

/-- A call of the driver, for `connect` with the answer of the network to it. -/
inductive ConnectionCall where
  | connect (ans : ConnectAnswer)
  | disconnect
  deriving DecidableEq

/-- A new driver and a new channel. -/
def newConnection : DriverState Unit NetworkChannel := ⟨none, false, .new, []⟩

variable (net : Network)

/-- `connect` with the channel: its result and the state afterwards. -/
def connectNetwork (ans : ConnectAnswer) (s : DriverState Unit NetworkChannel) :
    SlResult × DriverState Unit NetworkChannel :=
  s.exec (net.channels ans) (connect (some ()))

/-- One call of the driver. The answer of the network does not matter to `disconnect`. -/
def connectionStep (s : DriverState Unit NetworkChannel) :
    ConnectionCall → DriverState Unit NetworkChannel
  | .connect ans => (connectNetwork net ans s).2
  | .disconnect => (s.exec (net.channels (.ok ())) disconnect).2

/-- The state after some calls. -/
def connectionRun (calls : List ConnectionCall) : DriverState Unit NetworkChannel :=
  calls.foldl (connectionStep net) newConnection

/-- A call on a socket object that exists: the pointer is not null, and the object has not
been disposed of. -/
def OnLiveSocket (past : List SocketCall) (call : SocketCall) : Prop :=
  ∃ socket, call.pointer = some socket ∧ ⟨some socket, .dispose⟩ ∉ past

/-- What a caller sees of `connect`: its result, and whether the driver is connected. -/
def connectOutcome (ans : ConnectAnswer) (s : DriverState Unit NetworkChannel) :
    SlResult × Bool :=
  ((connectNetwork net ans s).1, (connectNetwork net ans s).2.isConnected)

/-- The channel can be reconnected in a sequence of calls: every call is made on a live socket,
and `connect` without a connection has the outcome it has the first time. -/
structure Reconnects (calls : List ConnectionCall) : Prop where
  live : EachAfter OnLiveSocket [] (connectionRun net calls).env.calls
  sameOutcome : ∀ before ans after, calls = before ++ .connect ans :: after →
    (connectionRun net before).isConnected = false →
      connectOutcome net ans (connectionRun net before) = connectOutcome net ans newConnection

/-- What `open` does on both channels: it calls the socket once. -/
theorem NetworkKind.open_eq (kind : NetworkKind) (undefined : SlResult) (ans : ConnectAnswer)
    (c : NetworkChannel) : ∃ method,
      (kind.«open» ans undefined c).2 = c.through method ∧ method ≠ .dispose ∧
      (c.bindedSocket ≠ none → (kind.«open» ans undefined c).1 = decide (ans = .ok ())) := by
  have hok : slIsOk slResultOk = true := by decide
  have hfail : slIsOk slResultOperationNotSupport = false ∧
      slIsOk slResultOperationTimeout = false ∧ slIsOk slResultOperationFail = false := by decide
  cases kind with
  | tcp =>
    refine ⟨.connect, rfl, by decide, fun hsocket => ?_⟩
    have hsome : c.bindedSocket.isSome = true := Option.isSome_iff_ne_none.mpr hsocket
    simp only [NetworkKind.«open», TcpChannel.«open», NetworkChannel.open_eq, if_pos hsome]
    match ans with
    | .ok () => simpa [streamConnect] using hok
    | .error .afNoSupport => simpa [streamConnect] using hfail.1
    | .error .timedOut => simpa [streamConnect] using hfail.2.1
    | .error .other => simpa [streamConnect] using hfail.2.2
  | udp =>
    refine ⟨.setPairAddress, rfl, by decide, fun hsocket => ?_⟩
    have hsome : c.bindedSocket.isSome = true := Option.isSome_iff_ne_none.mpr hsocket
    simp only [NetworkKind.«open», UdpChannel.«open», NetworkChannel.open_eq, if_pos hsome]
    match ans with
    | .ok () => simpa [dgramSetPairAddress] using hok
    | .error _ => simpa [dgramSetPairAddress] using hfail.2.2

/-- `connect` without a connection calls the socket once. On a socket that exists it succeeds
as the network says. -/
theorem connectNetwork_of_not_connected {s : DriverState Unit NetworkChannel}
    (hconn : s.isConnected = false) (ans : ConnectAnswer) :
    ∃ method, (connectNetwork net ans s).2.env = s.env.through method ∧
      method ≠ .dispose ∧
      (s.env.bindedSocket ≠ none →
        (connectNetwork net ans s).1 =
            (if ans = .ok () then slResultOk else slResultOperationFail) ∧
          (connectNetwork net ans s).2.isConnected = decide (ans = .ok ())) := by
  obtain ⟨method, henv, hmethod, hopens⟩ := net.kind.open_eq net.undefined ans s.env
  refine ⟨method, ?_, hmethod, ?_⟩
  · cases hopen : (net.kind.«open» ans net.undefined s.env).1 with
    | false =>
      rw [connectNetwork, connect_exec_of_open_failed _ hconn hopen]
      exact henv
    | true =>
      rw [connectNetwork, connect_exec_of_opened _ hconn hopen]
      exact henv
  · intro hsocket
    have hans := hopens hsocket
    by_cases hok : ans = .ok ()
    · rw [decide_eq_true hok] at hans ⊢
      rw [if_pos hok, connectNetwork, connect_exec_of_opened _ hconn hans]
      exact ⟨rfl, rfl⟩
    · rw [decide_eq_false hok] at hans ⊢
      rw [if_neg hok, connectNetwork, connect_exec_of_open_failed _ hconn hans]
      exact ⟨rfl, hconn⟩

/-- With a connection `connect` does nothing. -/
theorem connectionStep_connect_of_connected {s : DriverState Unit NetworkChannel}
    (hconn : s.isConnected = true) (ans : ConnectAnswer) :
    connectionStep net s (.connect ans) = s := by
  rw [connectionStep, connectNetwork, connect_exec_of_connected _ hconn]

/-- `disconnect` closes the channel of a connected driver. -/
theorem connectionStep_disconnect_of_connected {s : DriverState Unit NetworkChannel}
    (hconn : s.isConnected = true) :
    (connectionStep net s .disconnect).isConnected = false ∧
      (connectionStep net s .disconnect).env = s.env.close := by
  rw [connectionStep, disconnect_exec _ hconn]
  exact ⟨rfl, rfl⟩

/-- Without a connection `disconnect` does nothing. -/
theorem connectionStep_disconnect_of_not_connected {s : DriverState Unit NetworkChannel}
    (hconn : s.isConnected = false) : connectionStep net s .disconnect = s := by
  rw [connectionStep, disconnect_exec_of_not_connected _ hconn]

/-- The driver is connected once more after it has disconnected from the channel. -/
def Reopens (calls : List ConnectionCall) : Prop :=
  ∃ ans, [.connect (.ok ()), .disconnect, .connect ans].Sublist calls

/-- The states of a run that has not reopened the channel, with the calls that lead to them. -/
inductive ConnectionPhase (past : List ConnectionCall) (s : DriverState Unit NetworkChannel) :
    Prop where
  /-- No `connect` has succeeded. -/
  | fresh (hpast : .connect (.ok ()) ∉ past) (hconn : s.isConnected = false)
      (hsocket : s.env.bindedSocket = some 0) (hkept : ⟨some 0, .dispose⟩ ∉ s.env.calls)
  /-- One has, and there was no `disconnect` since. -/
  | connected (hpast : .connect (.ok ()) ∈ past)
      (hopen : ¬ [.connect (.ok ()), .disconnect].Sublist past) (hconn : s.isConnected = true)
      (hsocket : s.env.bindedSocket = some 0) (hkept : ⟨some 0, .dispose⟩ ∉ s.env.calls)
  /-- The driver has disconnected. -/
  | closed (hpast : [.connect (.ok ()), .disconnect].Sublist past) (hconn : s.isConnected = false)
      (hsocket : s.env.bindedSocket = none)

/-- A successful `connect` and a later `disconnect` in a longer sequence. -/
theorem disconnected_concat {past : List ConnectionCall} {a : ConnectionCall} :
    [.connect (.ok ()), .disconnect].Sublist (past ++ [a]) ↔
      [.connect (.ok ()), .disconnect].Sublist past ∨
        .disconnect = a ∧ .connect (.ok ()) ∈ past := by
  have h := concat_sublist_concat [ConnectionCall.connect (.ok ())] past .disconnect a
  rwa [List.singleton_sublist] at h

/-- One more call reopens the channel if it is a `connect` after a `disconnect`. -/
theorem reopens_concat {past : List ConnectionCall} {a : ConnectionCall} :
    Reopens (past ++ [a]) ↔ Reopens past ∨
      (∃ ans, a = .connect ans) ∧ [.connect (.ok ()), .disconnect].Sublist past := by
  have hconcat (ans : ConnectAnswer) :=
    concat_sublist_concat [.connect (.ok ()), .disconnect] past (.connect ans) a
  constructor
  · rintro ⟨ans, h⟩
    rcases (hconcat ans).mp h with hpast | ⟨rfl, hpast⟩
    · exact .inl ⟨ans, hpast⟩
    · exact .inr ⟨⟨ans, rfl⟩, hpast⟩
  · rintro (⟨ans, h⟩ | ⟨⟨ans, rfl⟩, h⟩)
    · exact ⟨ans, (hconcat ans).mpr (.inl h)⟩
    · exact ⟨ans, (hconcat ans).mpr (.inr ⟨rfl, h⟩)⟩

/-- A call that does not reopen the channel leads from phase to phase. -/
theorem ConnectionPhase.step {past : List ConnectionCall} {s : DriverState Unit NetworkChannel}
    (h : ConnectionPhase past s) {a : ConnectionCall}
    (ha : ¬ ((∃ ans, a = .connect ans) ∧ [.connect (.ok ()), .disconnect].Sublist past)) :
    ConnectionPhase (past ++ [a]) (connectionStep net s a) := by
  cases h with
  | fresh hpast hconn hsocket hkept =>
    have hnever : ¬ [.connect (.ok ()), .disconnect].Sublist (past ++ [a]) := by
      rw [disconnected_concat]
      rintro (h | ⟨-, h⟩)
      · exact hpast (h.subset (by simp))
      · exact hpast h
    cases a with
    | connect ans =>
      obtain ⟨method, henv, hmethod, hresult⟩ := connectNetwork_of_not_connected net hconn ans
      obtain ⟨-, hconn'⟩ := hresult (by simp [hsocket])
      rw [connectionStep]
      have hkept' : ⟨some 0, .dispose⟩ ∉ (s.env.through method).calls := by
        simp [NetworkChannel.through, hkept, hmethod.symm]
      by_cases hans : ans = .ok ()
      · subst hans
        exact .connected (by simp) hnever hconn' (henv ▸ hsocket) (henv ▸ hkept')
      · rw [decide_eq_false hans] at hconn'
        refine .fresh ?_ hconn' (henv ▸ hsocket) (henv ▸ hkept')
        simpa [hpast] using Ne.symm hans
    | disconnect =>
      rw [connectionStep_disconnect_of_not_connected net hconn]
      exact .fresh (by simpa using hpast) hconn hsocket hkept
  | connected hpast hopen hconn hsocket hkept =>
    cases a with
    | connect ans =>
      rw [connectionStep_connect_of_connected net hconn]
      refine .connected (List.mem_append_left _ hpast) ?_ hconn hsocket hkept
      simpa [disconnected_concat] using hopen
    | disconnect =>
      obtain ⟨hconn', henv⟩ := connectionStep_disconnect_of_connected net hconn
      exact .closed (disconnected_concat.mpr (.inr ⟨rfl, hpast⟩)) hconn' (by rw [henv]; rfl)
  | closed hpast hconn hsocket =>
    cases a with
    | connect ans => exact absurd ⟨⟨ans, rfl⟩, hpast⟩ ha
    | disconnect =>
      rw [connectionStep_disconnect_of_not_connected net hconn]
      exact .closed (disconnected_concat.mpr (.inl hpast)) hconn hsocket

/-- One more call of a run. -/
theorem connectionRun_concat (calls : List ConnectionCall) (a : ConnectionCall) :
    connectionRun net (calls ++ [a]) = connectionStep net (connectionRun net calls) a := by
  rw [connectionRun, List.foldl_concat]
  rfl

/-- A run that has not reopened the channel is in one of the phases. -/
theorem phase_connectionRun {calls : List ConnectionCall} (h : ¬ Reopens calls) :
    ConnectionPhase calls (connectionRun net calls) := by
  induction calls using List.reverseRecOn with
  | nil => exact .fresh (by simp) rfl rfl List.not_mem_nil
  | append_singleton calls a ih =>
    rw [reopens_concat, not_or] at h
    rw [connectionRun_concat]
    exact (ih h.1).step net h.2

/-- A call extends the record of socket calls, by at most one call through the pointer of the
channel. -/
theorem connectionStep_calls (s : DriverState Unit NetworkChannel) (a : ConnectionCall) :
    (connectionStep net s a).env.calls = s.env.calls ∨
      ∃ method, (connectionStep net s a).env.calls =
        s.env.calls ++ [⟨s.env.bindedSocket, method⟩] := by
  cases hconn : s.isConnected with
  | false =>
    cases a with
    | connect ans =>
      obtain ⟨method, henv, -⟩ := connectNetwork_of_not_connected net hconn ans
      exact .inr ⟨method, congrArg NetworkChannel.calls henv⟩
    | disconnect => exact .inl (by rw [connectionStep_disconnect_of_not_connected net hconn])
  | true =>
    cases a with
    | connect ans => exact .inl (by rw [connectionStep_connect_of_connected net hconn])
    | disconnect =>
      obtain ⟨-, henv⟩ := connectionStep_disconnect_of_connected net hconn
      exact .inr ⟨.dispose, congrArg NetworkChannel.calls henv⟩

/-- A run that does not reopen the channel calls its socket only while it exists. -/
theorem live_of_not_reopens {calls : List ConnectionCall} (h : ¬ Reopens calls) :
    EachAfter OnLiveSocket [] (connectionRun net calls).env.calls := by
  induction calls using List.reverseRecOn with
  | nil => trivial
  | append_singleton calls a ih =>
    rw [reopens_concat, not_or] at h
    have hlive := ih h.1
    have hphase := phase_connectionRun net h.1
    rw [connectionRun_concat]
    generalize connectionRun net calls = s at hlive hphase ⊢
    -- a call through the pointer of a channel that has not been closed
    have hextend (hsocket : s.env.bindedSocket = some 0)
        (hkept : ⟨some 0, .dispose⟩ ∉ s.env.calls) :
        EachAfter OnLiveSocket [] (connectionStep net s a).env.calls := by
      rcases connectionStep_calls net s a with hcalls | ⟨method, hcalls⟩
      · rwa [hcalls]
      · rw [hcalls, eachAfter_append]
        exact ⟨hlive, ⟨0, hsocket, hkept⟩, trivial⟩
    cases hphase with
    | fresh hpast hconn hsocket hkept => exact hextend hsocket hkept
    | connected hpast hopen hconn hsocket hkept => exact hextend hsocket hkept
    | closed hpast hconn hsocket =>
      cases a with
      | connect ans => exact absurd ⟨⟨ans, rfl⟩, hpast⟩ h.2
      | disconnect => rwa [connectionStep_disconnect_of_not_connected net hconn]

/-- On a socket that exists the outcome of `connect` is the answer of the network. -/
theorem connectOutcome_eq {s : DriverState Unit NetworkChannel} (hconn : s.isConnected = false)
    (hsocket : s.env.bindedSocket = some 0) (ans : ConnectAnswer) :
    connectOutcome net ans s =
      (if ans = .ok () then slResultOk else slResultOperationFail, decide (ans = .ok ())) := by
  obtain ⟨-, -, -, hresult⟩ := connectNetwork_of_not_connected net hconn ans
  obtain ⟨hfst, hsnd⟩ := hresult (by simp [hsocket])
  rw [connectOutcome, hfst, hsnd]

/-- Without a reopening `connect` has the outcome it has the first time. -/
theorem sameOutcome_of_not_reopens {before : List ConnectionCall} {ans : ConnectAnswer}
    (h : ¬ Reopens (before ++ [.connect ans]))
    (hconn : (connectionRun net before).isConnected = false) :
    connectOutcome net ans (connectionRun net before) = connectOutcome net ans newConnection := by
  rw [reopens_concat, not_or] at h
  rw [connectOutcome_eq net (s := newConnection) rfl rfl]
  cases phase_connectionRun net h.1 with
  | fresh _ _ hsocket _ => exact connectOutcome_eq net hconn hsocket ans
  | connected _ _ hconn' _ _ => exact absurd (hconn'.symm.trans hconn) (by decide)
  | closed hpast _ _ => exact absurd ⟨⟨ans, rfl⟩, hpast⟩ h.2

/-- A call through a null pointer is not on a live socket. -/
theorem not_live_of_null (past rest : List SocketCall) {method : SocketMethod} :
    ¬ EachAfter OnLiveSocket [] (past ++ ⟨none, method⟩ :: rest) := by
  rw [eachAfter_append]
  rintro ⟨-, ⟨socket, hpointer, -⟩, -⟩
  cases hpointer

/-- The first reopening calls the socket through a null pointer. -/
theorem not_live_of_reopens {calls : List ConnectionCall} (h : Reopens calls) :
    ¬ EachAfter OnLiveSocket [] (connectionRun net calls).env.calls := by
  induction calls using List.reverseRecOn with
  | nil =>
    obtain ⟨ans, hsublist⟩ := h
    cases hsublist
  | append_singleton calls a ih =>
    rw [connectionRun_concat]
    by_cases hbefore : Reopens calls
    · rcases connectionStep_calls net (connectionRun net calls) a with hcalls | ⟨_, hcalls⟩
      · rw [hcalls]
        exact ih hbefore
      · rw [hcalls, eachAfter_append]
        exact fun hlive => ih hbefore hlive.1
    · obtain ⟨⟨ans, rfl⟩, hpast⟩ := (reopens_concat.mp h).resolve_left hbefore
      cases phase_connectionRun net hbefore with
      | fresh hfresh _ _ _ => exact absurd (hpast.subset (by simp)) hfresh
      | connected _ hopen _ _ _ => exact absurd hpast hopen
      | closed _ hconn hsocket =>
        obtain ⟨method, henv, -⟩ := connectNetwork_of_not_connected net hconn ans
        rw [connectionStep, henv, NetworkChannel.through, hsocket]
        exact not_live_of_null _ _

/-- **Which sequences a network channel survives.** Whatever the network answers, a sequence of
`connect` and `disconnect` calls uses a live socket throughout, with the same outcomes each
time, if and only if it does not reopen the channel. -/
theorem reconnects_iff (net : Network) (calls : List ConnectionCall) :
    Reconnects net calls ↔ ¬ Reopens calls := by
  constructor
  · intro h hreopens
    exact not_live_of_reopens net hreopens h.live
  · intro h
    refine ⟨live_of_not_reopens net h, ?_⟩
    rintro before ans after rfl hconn
    refine sameOutcome_of_not_reopens net (fun ⟨ans', hsublist⟩ => h ⟨ans', ?_⟩) hconn
    rw [List.append_cons]
    exact hsublist.trans (List.sublist_append_left _ _)

/-- Data methods that do nothing. -/
def silentData : Handler ChannelOp ChannelOp.Result NetworkChannel
  | .«open», c => (false, c)
  | .close, c => ((), c)
  | .flush, c => ((), c)
  | .waitForData _ _, c => (false, c)
  | .write _, c => (⟨0, 0⟩, c)
  | .read _, c => (⟨0, []⟩, c)
  | .clearReadCache, c => ((), c)

/-- On a network that accepts everything, the second `connect` of either channel, after a
`disconnect`, calls its socket through a null pointer. -/
theorem second_connect_on_null :
    let calls := [.connect (.ok ()), .disconnect, .connect (.ok ())]
    (connectionRun ⟨.tcp, slResultOk, silentData⟩ calls).env.calls =
        [⟨some 0, .connect⟩, ⟨some 0, .dispose⟩, ⟨none, .connect⟩] ∧
      (connectionRun ⟨.udp, slResultOk, silentData⟩ calls).env.calls =
        [⟨some 0, .setPairAddress⟩, ⟨some 0, .dispose⟩, ⟨none, .setPairAddress⟩] ∧
      ¬ Reconnects ⟨.tcp, slResultOk, silentData⟩ calls ∧
      ¬ Reconnects ⟨.udp, slResultOk, silentData⟩ calls := by
  intro calls
  refine ⟨rfl, rfl, fun h => ?_, fun h => ?_⟩
  · exact not_live_of_null [⟨some 0, .connect⟩, ⟨some 0, .dispose⟩] [] h.live
  · exact not_live_of_null [⟨some 0, .setPairAddress⟩, ⟨some 0, .dispose⟩] [] h.live

end Slamkit
