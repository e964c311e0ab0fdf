import Slamkit.InterleavedReplies

/-!
# Channels that do what the link does

Clients whose steps interleave take their own replies from a link that loses nothing. A channel
that does for their requests what the link does may stand in its place, as long as commands are
sent only when the channel can take them.
-/

namespace Slamkit

open Library

variable {σ κ : Type}

/-- A channel that does for some requests what the link does. `R` says for which links an
environment of the channel stands, and `sends` when a command may be sent. -/
structure LikeLink (device : Device) (channels : Channels Unit σ) (asks : Request → Prop)
    (sends : Link → Prop) (R : σ → Link → Prop) : Prop where
  send : ∀ {r : Request} {env : σ} {link : Link}, asks r → sends link → R env link →
    R (r.send channels (some ()) env).env { link with commands := link.commands ++ [r.frame] }
  await : ∀ {r : Request} {env : σ} {link : Link} (timeout : SlU32), asks r → R env link →
    link.commands[link.delivered]? = some r.frame →
    let awaited := Slamkit.await channels (some ()) (pktSizeExPayload + r.size) timeout env
    awaited.answer = some (readReply (device.reply link.commands link.delivered)
      (pktSizeExPayload + r.size)) ∧
      R awaited.env { link with delivered := link.delivered + 1 }

/-- Clients on the channel stand for clients on the link that have still the same to do. -/
structure ClientsOn.Alike (R : σ → Link → Prop) (t : ClientsOn σ κ) (t' : Clients κ) : Prop where
  connected : t.env.isConnected = true
  channel : t.env.channel = some ()
  env : R t.env.env t'.env.env
  progs : t.progs = t'.progs

/-- A client takes the lock in turn, and sends only if `Sends` allows it. -/
def Turns.Allowed (Sends : Turns κ → Prop) (s : Turns κ) (k : κ) : Prop :=
  s.InTurn k ∧ (k ∉ s.waiting → Sends s)

variable [DecidableEq κ] {device : Device} {channels : Channels Unit σ} {asks : Request → Prop}
  {sends : Link → Prop} {R : σ → Link → Prop} {queries : κ → List Query} {t : ClientsOn σ κ}
  {t' : Clients κ} {turns : Turns κ}

/-- A query still to be made is one of the queries. -/
theorem Collected.next_asked {commands : List (List SlU8)} {sent : List κ} {qs rest : List Query}
    {k : κ} {q : Query} {replies : List Reply}
    (h : Collected device commands sent qs k replies (q :: rest))
    (hasks : ∀ q ∈ qs, asks q.request) : asks q.request := by
  have hmem : q.request ∈ qs.map Query.request := by
    rw [← h.requests]
    simp
  obtain ⟨q', hq', hsame⟩ := List.mem_map.mp hmem
  exact hsame ▸ hasks q' hq'

/-- One section. -/
theorem ClientsOn.Alike.section (h : t.Alike R t')
    (hlike : LikeLink device channels asks sends R)
    (hasks : ∀ k, ∀ q ∈ queries k, asks q.request) (hturns : InTurns device queries t' turns)
    {k : κ} (hactive : t'.Active k) (hturn : turns.InTurn k)
    (hsends : k ∉ turns.waiting → sends t'.env.env) :
    ClientsOn.Alike R (t.section driverLocks (DriverState.handle channels) k)
      (t'.section driverLocks (DriverState.handle (linkChannel device)) k) := by
  have hprogs : t.progs k = t'.progs k := congrFun h.progs k
  by_cases hk : k ∈ turns.waiting
  · obtain ⟨q, replies, rest, hprog, -, hpending, hcollected⟩ := hturns.pending k hk
    obtain ⟨hlt, -, -, -⟩ := hturns.head (hturn hk)
    obtain ⟨hanswer, henv⟩ := hlike.await q.timeout (hcollected.next_asked (hasks k)) h.env
      (hturns.oldest (hturn hk) hpending)
    obtain ⟨hanswer', henv'⟩ := await_linkChannel device t'.env.channel
      (pktSizeExPayload + q.request.size) q.timeout (hturns.length ▸ hlt)
    obtain ⟨calls, hsection⟩ := section_waiting channels h.connected (hprogs.trans hprog)
    obtain ⟨calls', hsection'⟩ := section_waiting (linkChannel device) hturns.connected hprog
    rw [h.channel, hanswer] at hsection
    rw [hanswer', henv'] at hsection'
    rw [hsection, hsection', h.progs]
    exact ⟨h.connected, h.channel, henv, rfl⟩
  · obtain ⟨replies, rest, hprog, -, hcollected⟩ := hturns.idle k hk
    cases rest with
    | nil => exact absurd hprog (hactive replies)
    | cons q rest =>
      have henv := hlike.send (hcollected.next_asked (hasks k)) (hsends hk) h.env
      obtain ⟨calls, hsection⟩ := section_sending channels h.connected (hprogs.trans hprog)
      obtain ⟨calls', hsection'⟩ := section_sending (linkChannel device) hturns.connected hprog
      rw [h.channel] at hsection
      rw [send_linkChannel] at hsection'
      rw [hsection, hsection', h.progs]
      exact ⟨h.connected, h.channel, henv, rfl⟩

/-- Sections one after the other, as long as the clients take turns. -/
theorem ClientsOn.Alike.run (h : t.Alike R t') (hlike : LikeLink device channels asks sends R)
    (hasks : ∀ k, ∀ q ∈ queries k, asks q.request) (hinv : InTurns device queries t' turns)
    {Sends : Turns κ → Prop}
    (hsends : ∀ {link : Clients κ} {turns : Turns κ}, InTurns device queries link turns →
      Sends turns → sends link.env.env)
    {order : List κ}
    (hactive : StepsMeet (Threads.section driverLocks (DriverState.handle channels))
      Threads.Active t order)
    (hturns : StepsMeet Turns.step (Turns.Allowed Sends) turns order) :
    ∃ last : Clients κ,
      ClientsOn.Alike R
        (order.foldl (Threads.section driverLocks (DriverState.handle channels)) t) last ∧
        InTurns device queries last (order.foldl Turns.step turns) := by
  induction order generalizing t t' turns with
  | nil => exact ⟨t', h, hinv⟩
  | cons k order ih =>
    obtain ⟨⟨hturn, hsend⟩, hrest⟩ := hturns
    have hactive' : t'.Active k := by
      have hfirst := hactive.1
      unfold Threads.Active at hfirst ⊢
      rwa [h.progs] at hfirst
    exact ih (h.section hlike hasks hinv hactive' hturn fun hk => hsends hinv (hsend hk))
      (hinv.section hactive' hturn) hactive.2 hrest

/-- **Interleaved clients on such a channel are given their own replies**, as on the link. -/
theorem LikeLink.agree (hlike : LikeLink device channels asks sends R)
    (hasks : ∀ k, ∀ q ∈ queries k, asks q.request) {d : DriverState Unit σ}
    (hstart : ClientsOn.Alike R ⟨d, fun k => makeRequests (queries k) []⟩ (Clients.start queries))
    {Sends : Turns κ → Prop}
    (hsends : ∀ {link : Clients κ} {turns : Turns κ}, InTurns device queries link turns →
      Sends turns → sends link.env.env) (steps : List κ) :
    let s := steps.foldl (Interleaving.step driverLocks (DriverState.handle channels))
      (.start ⟨d, fun k => makeRequests (queries k) []⟩)
    let t := s.complete driverLocks (DriverState.handle channels)
    StepsMeet Turns.step (Turns.Allowed Sends) ⟨[], []⟩ s.order →
      ∃ link, R t.env.env link ∧ ∀ k replies, t.progs k = .done replies →
        replies.map Reply.request = (queries k).map Query.request ∧
        ∀ (j : ℕ) (reply : Reply), replies[j]? = some reply →
          reply.Own device link.commands (s.order.foldl Turns.step ⟨[], []⟩).sent k j := by
  intro s t hturns
  have hinv := Interleaving.sections_atomic driverLocks (DriverState.handle channels)
    (t := ⟨d, fun k => makeRequests (queries k) []⟩)
    (fun k => (makesRequests_makeRequests (queries k) []).locked) steps
  obtain ⟨last, halike, hlast⟩ := hstart.run hlike hasks (inTurns_start device queries) hsends
    hinv.active hturns
  rw [← hinv.complete] at halike
  refine ⟨last.env.env, halike.env, fun k replies hdone => ?_⟩
  exact hlast.own_of_done ((congrFun halike.progs k).symm.trans hdone)

end Slamkit
