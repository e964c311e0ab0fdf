import Slamkit.DriverSections

/-!
# Replies to clients whose steps interleave

Each client makes some requests on one driver, whose channel loses nothing and whose device answers
every command. The replies carry no marks, but they come in the order of the commands. If the
waiting sections take their turns in the order of the sending ones, every request is given the
reply to its own command, however the single steps of the clients interleave.
-/

namespace Slamkit

open Library

variable {ι κ : Type}

/-- A request that has returned. -/
structure Reply where
  request : Request
  out : request.Output
  result : SlResult × request.Output

/-- The reply to a query. -/
def Query.reply (q : Query) (result : SlResult × q.request.Output) : Reply :=
  ⟨q.request, q.out, result⟩

/-- A client that makes some requests one after the other and collects what they return. -/
def makeRequests : List Query → List Reply → DriverProgram ι (List Reply)
  | [], replies => pure replies
  | q :: queries, replies => do
    let result ← q.request.program q.out q.timeout
    makeRequests queries (replies ++ [q.reply result])

/-- Such a client only makes requests. -/
theorem makesRequests_makeRequests (queries : List Query) (replies : List Reply) :
    MakesRequests (makeRequests queries replies : DriverProgram ι _) := by
  induction queries generalizing replies with
  | nil => exact .done replies
  | cons q queries ih => exact .request q fun result => ih _

/-- A client between the two sections of a request. -/
def awaitReply (q : Query) (queries : List Query) (replies : List Reply) :
    DriverProgram ι (List Reply) := do
  let result ← q.request.waiting q.out q.timeout
  makeRequests queries (replies ++ [q.reply result])

/-- The clients by the commands they have sent, and those that wait for their reply, both in the
order of the commands. -/
structure Turns (κ : Type) where
  sent : List κ
  waiting : List κ

variable [DecidableEq κ]

/-- A client takes the lock: it takes its reply if it waits for one, and else sends a command. -/
def Turns.step (s : Turns κ) (k : κ) : Turns κ :=
  if k ∈ s.waiting then { s with waiting := s.waiting.erase k }
  else ⟨s.sent ++ [k], s.waiting ++ [k]⟩

omit [DecidableEq κ] in
/-- A client that waits takes the lock only if none has waited longer. -/
def Turns.InTurn (s : Turns κ) (k : κ) : Prop := k ∈ s.waiting → s.waiting.head? = some k

/-- Request number `j` of a client has been given the reply to its own command, which is the one
that the client sent for this request. -/
def Reply.Own (device : Device) (commands : List (List SlU8)) (sent : List κ) (k : κ) (j : ℕ)
    (reply : Reply) : Prop :=
  ∃ i, sent[i]? = some k ∧ (sent.take i).count k = j ∧
    commands[i]? = some reply.request.frame ∧
    reply.result = respond reply.request.load
      (some (readReply (device.reply commands i) (pktSizeExPayload + reply.request.size))) reply.out

/-- A later command, and later senders, do not change this. -/
theorem Reply.Own.append {device : Device} {commands : List (List SlU8)} {sent : List κ} {k : κ}
    {j : ℕ} {reply : Reply} (h : reply.Own device commands sent k j) (command : List SlU8)
    (sender : κ) : reply.Own device (commands ++ [command]) (sent ++ [sender]) k j := by
  obtain ⟨i, hsent, hcount, hcommand, hresult⟩ := h
  have hi : i < sent.length := (List.getElem?_eq_some_iff.mp hsent).1
  have hlt : i < commands.length := (List.getElem?_eq_some_iff.mp hcommand).1
  refine ⟨i, ?_, ?_, ?_, ?_⟩
  · rw [List.getElem?_append_left hi, hsent]
  · rw [List.take_append_of_le_length (Nat.le_of_lt hi), hcount]
  · rw [List.getElem?_append_left hlt, hcommand]
  · rw [reply_append device [command] hlt, hresult]

/-- The threads of the clients, on a channel with its environment. -/
abbrev ClientsOn (σ κ : Type) :=
  Threads (DriverOp Unit) DriverOp.Result (DriverState Unit σ) fun _ : κ => List Reply

/-- The threads of the clients on the link. -/
abbrev Clients (κ : Type) := ClientsOn Link κ

/-- What the replies of a client are, and what it has still to ask for. -/
structure Collected (device : Device) (commands : List (List SlU8)) (sent : List κ)
    (queries : List Query) (k : κ) (replies : List Reply) (rest : List Query) : Prop where
  requests : replies.map Reply.request ++ rest.map Query.request = queries.map Query.request
  own : ∀ (j : ℕ) (reply : Reply), replies[j]? = some reply →
    reply.Own device commands sent k j

/-- The clients while they take their turns. -/
structure InTurns (device : Device) (queries : κ → List Query) (t : Clients κ) (turns : Turns κ) :
    Prop where
  connected : t.env.isConnected = true
  length : t.env.env.commands.length = turns.sent.length
  delivered : t.env.env.delivered ≤ turns.sent.length
  waiting : turns.waiting = turns.sent.drop t.env.env.delivered
  nodup : turns.waiting.Nodup
  idle : ∀ k, k ∉ turns.waiting → ∃ replies rest,
    t.progs k = makeRequests rest replies ∧ turns.sent.count k = replies.length ∧
    Collected device t.env.env.commands turns.sent (queries k) k replies rest
  pending : ∀ k, k ∈ turns.waiting → ∃ q replies rest,
    t.progs k = awaitReply q rest replies ∧ turns.sent.count k = replies.length + 1 ∧
    (∃ i, t.env.env.delivered ≤ i ∧ turns.sent[i]? = some k ∧
      t.env.env.commands[i]? = some q.request.frame) ∧
    Collected device t.env.env.commands turns.sent (queries k) k replies (q :: rest)

/-- A client that is not waiting sends its next command. -/
theorem section_sending {σ : Type} (channels : Channels Unit σ) {t : ClientsOn σ κ} {k : κ}
    {q : Query} {rest : List Query} {replies : List Reply} (hconnected : t.env.isConnected = true)
    (hprog : t.progs k = makeRequests (q :: rest) replies) :
    ∃ calls, t.section driverLocks (DriverState.handle channels) k =
      ⟨{ t.env with
          env := (q.request.send channels t.env.channel t.env.env).env
          calls := calls },
        Function.update t.progs k (awaitReply q rest replies)⟩ := by
  have hbegun : ∀ result, (q.request.program q.out q.timeout : DriverProgram Unit _) ≠
      .done result := by
    rw [q.request.program_eq]
    nofun
  have hbind := (q.request.locked q.out q.timeout).runUntil_bind (.inr hbegun)
    (DriverState.handle channels)
    (fun result => makeRequests rest (replies ++ [q.reply result])) t.env
  have hsending := q.request.runUntil_sending channels hconnected q.out q.timeout
  refine ⟨t.env.calls ++ (q.request.send channels t.env.channel t.env.env).calls,
    Threads.section_eq hprog (hbind.trans ?_)⟩
  change ((Program.runUntil _ isUnlock _ _).1 >>= _, (Program.runUntil _ isUnlock _ _).2) = _
  rw [hsending]
  rfl

/-- A client that is waiting makes its reply of what the channel answers. -/
theorem section_waiting {σ : Type} (channels : Channels Unit σ) {t : ClientsOn σ κ} {k : κ}
    {q : Query} {rest : List Query} {replies : List Reply} (hconnected : t.env.isConnected = true)
    (hprog : t.progs k = awaitReply q rest replies) :
    let awaited :=
      Slamkit.await channels t.env.channel (pktSizeExPayload + q.request.size) q.timeout
      t.env.env
    ∃ calls, t.section driverLocks (DriverState.handle channels) k =
      ⟨{ t.env with env := awaited.env, calls := calls },
        Function.update t.progs k (makeRequests rest
          (replies ++ [q.reply (respond q.request.load awaited.answer q.out)]))⟩ := by
  intro awaited
  have hbind := (q.request.locked_waiting q.out q.timeout).runUntil_bind (.inr nofun)
    (DriverState.handle channels)
    (fun result => makeRequests rest (replies ++ [q.reply result])) t.env
  have hwaiting := q.request.runUntil_waiting channels hconnected q.out q.timeout
  refine ⟨t.env.calls ++ awaited.calls, Threads.section_eq hprog (hbind.trans ?_)⟩
  change ((Program.runUntil _ isUnlock _ _).1 >>= _, (Program.runUntil _ isUnlock _ _).2) = _
  rw [hwaiting]
  rfl

variable {device : Device} {queries : κ → List Query} {t : Clients κ} {turns : Turns κ}

/-- What a client has collected is not changed by a later command. -/
theorem Collected.append {commands : List (List SlU8)} {sent : List κ} {qs rest : List Query}
    {k : κ} {replies : List Reply} (h : Collected device commands sent qs k replies rest)
    (command : List SlU8) (sender : κ) :
    Collected device (commands ++ [command]) (sent ++ [sender]) qs k replies rest :=
  ⟨h.requests, fun j reply hj => (h.own j reply hj).append command sender⟩

/-- A client sends a command. -/
theorem InTurns.sending (h : InTurns device queries t turns) {k : κ} (hk : k ∉ turns.waiting)
    (hactive : t.Active k) :
    InTurns device queries (t.section driverLocks (DriverState.handle (linkChannel device)) k)
      (turns.step k) := by
  obtain ⟨replies, rest, hprog, hcount, hcollected⟩ := h.idle k hk
  cases rest with
  | nil => exact absurd hprog (hactive replies)
  | cons q rest =>
    obtain ⟨calls, hsection⟩ := section_sending (linkChannel device) h.connected hprog
    rw [send_linkChannel] at hsection
    have hturns : turns.step k = ⟨turns.sent ++ [k], turns.waiting ++ [k]⟩ := by
      unfold Turns.step
      rw [if_neg hk]
    rw [hsection, hturns]
    refine ⟨h.connected, ?_, ?_, ?_, ?_, ?_, ?_⟩
    · simp [h.length]
    · have hdelivered := h.delivered
      simp only [List.length_append]
      omega
    · dsimp only
      rw [List.drop_append_of_le_length h.delivered, h.waiting]
    · exact List.nodup_append.mpr ⟨h.nodup, List.nodup_singleton k, by
        intro a ha b hb
        rw [List.mem_singleton.mp hb]
        rintro rfl
        exact hk ha⟩
    · intro j hj
      simp only [List.mem_append, List.mem_singleton, not_or] at hj
      obtain ⟨replies', rest', hprog', hcount', hcollected'⟩ := h.idle j hj.1
      refine ⟨replies', rest', ?_, ?_, hcollected'.append _ _⟩
      · change Function.update t.progs k _ j = _
        rw [Function.update_of_ne hj.2, hprog']
      · rw [List.count_append, hcount', List.count_singleton, if_neg (by simpa using Ne.symm hj.2)]
        rfl
    · intro j hj
      rcases List.mem_append.mp hj with hold | hnew
      · have hne : j ≠ k := by
          rintro rfl
          exact hk hold
        obtain ⟨q', replies', rest', hprog', hcount', ⟨i, hle, hsent, hcommand⟩, hcollected'⟩ :=
          h.pending j hold
        refine ⟨q', replies', rest', ?_, ?_, ⟨i, hle, ?_, ?_⟩, hcollected'.append _ _⟩
        · change Function.update t.progs k _ j = _
          rw [Function.update_of_ne hne, hprog']
        · rw [List.count_append, hcount', List.count_singleton, if_neg (by simpa using Ne.symm hne)]
        · rw [List.getElem?_append_left (List.getElem?_eq_some_iff.mp hsent).1, hsent]
        · rw [List.getElem?_append_left (List.getElem?_eq_some_iff.mp hcommand).1, hcommand]
      · obtain rfl := List.mem_singleton.mp hnew
        refine ⟨q, replies, rest, ?_, ?_, ⟨turns.sent.length, h.delivered, ?_, ?_⟩,
          hcollected.append _ _⟩
        · change Function.update t.progs j _ j = _
          rw [Function.update_self]
        · rw [List.count_append, hcount, List.count_singleton_self]
        · simp
        · rw [← h.length]
          simp

/-- The first client that waits has sent the oldest command without an answer. -/
theorem InTurns.head (h : InTurns device queries t turns) {k : κ}
    (hhead : turns.waiting.head? = some k) :
    t.env.env.delivered < turns.sent.length ∧ turns.sent[t.env.env.delivered]? = some k ∧
      (turns.sent.take t.env.env.delivered).count k + 1 = turns.sent.count k ∧
      turns.waiting.erase k = turns.sent.drop (t.env.env.delivered + 1) := by
  obtain ⟨rest, hwaiting⟩ := List.head?_eq_some_iff.mp hhead
  have hdrop := h.waiting.symm.trans hwaiting
  have hsent : turns.sent[t.env.env.delivered]? = some k := by
    have hfirst := congrArg List.head? hdrop
    rw [List.head?_drop] at hfirst
    exact hfirst
  have hnodup := h.nodup
  rw [hwaiting, List.nodup_cons] at hnodup
  refine ⟨(List.getElem?_eq_some_iff.mp hsent).1, hsent, ?_, ?_⟩
  · have hsplit := congrArg (List.count k) (List.take_append_drop t.env.env.delivered turns.sent)
    rw [List.count_append, hdrop, List.count_cons_self, List.count_eq_zero.mpr hnodup.1] at hsplit
    omega
  · rw [hwaiting, List.erase_cons_head, ← List.tail_drop, hdrop]
    rfl

/-- Its command is the oldest one without an answer: a client waits for one reply at a time. -/
theorem InTurns.oldest (h : InTurns device queries t turns) {k : κ}
    (hhead : turns.waiting.head? = some k) {command : List SlU8}
    (hpending : ∃ i, t.env.env.delivered ≤ i ∧ turns.sent[i]? = some k ∧
      t.env.env.commands[i]? = some command) :
    t.env.env.commands[t.env.env.delivered]? = some command := by
  obtain ⟨i, hle, hsent, hcommand⟩ := hpending
  obtain rfl : i = t.env.env.delivered := by
    have hi := (List.getElem?_eq_some_iff.mp hsent).1
    have hfirst : turns.waiting[0]? = some k := by rw [← List.head?_eq_getElem?, hhead]
    have hat : turns.waiting[i - t.env.env.delivered]? = some k := by
      rw [h.waiting, List.getElem?_drop, Nat.add_sub_cancel' hle, hsent]
    have hzero := (List.getElem?_inj (List.getElem?_eq_some_iff.mp hat).1 h.nodup).mp
      (hat.trans hfirst.symm)
    omega
  exact hcommand

/-- The client that has waited longest takes its reply. -/
theorem InTurns.taking (h : InTurns device queries t turns) {k : κ} (hk : k ∈ turns.waiting)
    (hhead : turns.waiting.head? = some k) :
    InTurns device queries (t.section driverLocks (DriverState.handle (linkChannel device)) k)
      (turns.step k) := by
  obtain ⟨q, replies, rest, hprog, hcount, hpending, hcollected⟩ := h.pending k hk
  obtain ⟨hlt, hdelivered, hbefore, herase⟩ := h.head hhead
  have hcommand := h.oldest hhead hpending
  obtain ⟨calls, hsection⟩ := section_waiting (linkChannel device) h.connected hprog
  obtain ⟨hanswer, henv⟩ := await_linkChannel device t.env.channel
    (pktSizeExPayload + q.request.size) q.timeout (h.length ▸ hlt)
  rw [hanswer, henv] at hsection
  have hturns : turns.step k = ⟨turns.sent, turns.waiting.erase k⟩ := by
    unfold Turns.step
    rw [if_pos hk]
  rw [hsection, hturns]
  refine ⟨h.connected, h.length, hlt, herase, h.nodup.erase k, ?_, ?_⟩
  · intro j hj
    by_cases hjk : j = k
    · subst hjk
      refine ⟨_, rest, Function.update_self .., ?_, ?_, ?_⟩
      · rw [hcount, List.length_append]
        rfl
      · have hrequests := hcollected.requests
        simp only [List.map_append, List.append_assoc]
        exact hrequests
      · intro n reply hn
        rcases Nat.lt_or_ge n replies.length with hold | hnew
        · rw [List.getElem?_append_left hold] at hn
          exact hcollected.own n reply hn
        · rw [List.getElem?_append_right hnew, List.getElem?_singleton] at hn
          obtain ⟨hn, hreply⟩ := Option.ite_none_right_eq_some.mp hn
          obtain rfl := Option.some.inj hreply
          refine ⟨t.env.env.delivered, hdelivered, ?_, hcommand, rfl⟩
          change (turns.sent.take t.env.env.delivered).count j = n
          omega
    · obtain ⟨replies', rest', hprog', hcount', hcollected'⟩ :=
        h.idle j fun hmem => hj ((List.mem_erase_of_ne hjk).mpr hmem)
      refine ⟨replies', rest', ?_, hcount', hcollected'⟩
      change Function.update t.progs k _ j = _
      rw [Function.update_of_ne hjk, hprog']
  · intro j hj
    have hjk : j ≠ k := by
      rintro rfl
      exact h.nodup.not_mem_erase hj
    obtain ⟨q', replies', rest', hprog', hcount', ⟨i, hle', hsent', hcommand'⟩, hcollected'⟩ :=
      h.pending j (List.mem_of_mem_erase hj)
    refine ⟨q', replies', rest', ?_, hcount', ⟨i, ?_, hsent', hcommand'⟩, hcollected'⟩
    · change Function.update t.progs k _ j = _
      rw [Function.update_of_ne hjk, hprog']
    · have hne : i ≠ t.env.env.delivered := by
        rintro rfl
        exact hjk (Option.some.inj (hsent'.symm.trans hdelivered))
      change t.env.env.delivered + 1 ≤ i
      omega

/-- One section of clients that take turns. -/
theorem InTurns.section (h : InTurns device queries t turns) {k : κ} (hactive : t.Active k)
    (hturn : turns.InTurn k) :
    InTurns device queries (t.section driverLocks (DriverState.handle (linkChannel device)) k)
      (turns.step k) := by
  by_cases hk : k ∈ turns.waiting
  · exact h.taking hk (hturn hk)
  · exact h.sending hk hactive

/-- Clients that take turns go on doing so. -/
theorem InTurns.run (h : InTurns device queries t turns) {order : List κ}
    (hactive : StepsMeet (Threads.section driverLocks (DriverState.handle (linkChannel device)))
      Threads.Active t order)
    (hturns : StepsMeet Turns.step Turns.InTurn turns order) :
    InTurns device queries
      (order.foldl (Threads.section driverLocks (DriverState.handle (linkChannel device))) t)
      (order.foldl Turns.step turns) := by
  induction order generalizing t turns with
  | nil => exact h
  | cons k order ih => exact ih (h.section hactive.1 hturns.1) hactive.2 hturns.2

/-- A client that is done has its own replies. -/
theorem InTurns.own_of_done (h : InTurns device queries t turns) {k : κ} {replies : List Reply}
    (hdone : t.progs k = .done replies) :
    replies.map Reply.request = (queries k).map Query.request ∧
      ∀ (j : ℕ) (reply : Reply), replies[j]? = some reply →
        reply.Own device t.env.env.commands turns.sent k j := by
  by_cases hk : k ∈ turns.waiting
  · obtain ⟨q, replies', rest, hprog, -⟩ := h.pending k hk
    exact absurd (hprog.symm.trans hdone) nofun
  · obtain ⟨replies', rest, hprog, -, hcollected⟩ := h.idle k hk
    cases rest with
    | nil =>
      obtain rfl : replies' = replies := by
        have hsame := hprog.symm.trans hdone
        simpa [makeRequests] using hsame
      have hrequests := hcollected.requests
      rw [List.map_nil, List.append_nil] at hrequests
      exact ⟨hrequests, hcollected.own⟩
    | cons q rest =>
      refine absurd (hprog.symm.trans hdone) ?_
      unfold makeRequests
      rw [q.request.program_eq]
      nofun

/-- Clients before their first requests, on a connected driver. -/
def Clients.start (queries : κ → List Query) : Clients κ :=
  ⟨⟨some (), true, ⟨[], 0⟩, []⟩, fun k => makeRequests (queries k) []⟩

/-- They take turns. -/
theorem inTurns_start (device : Device) (queries : κ → List Query) :
    InTurns device queries (Clients.start queries) ⟨[], []⟩ where
  connected := rfl
  length := rfl
  delivered := Nat.le_refl 0
  waiting := rfl
  nodup := List.nodup_nil
  idle := fun k _ => ⟨[], queries k, rfl, rfl, rfl, nofun⟩
  pending := nofun

/-- **Every client is given its own replies.** The single steps of the clients interleave in any
order. If, by the order in which they have taken the lock, no client took a reply before one that
had sent its command earlier, then a client that is done has a reply to each of its queries, and
each is the reply to the command it has sent for this query. -/
theorem interleaved_requests_agree (device : Device) (queries : κ → List Query) (steps : List κ) :
    let s := steps.foldl
      (Interleaving.step driverLocks (DriverState.handle (linkChannel device)))
      (.start (Clients.start queries))
    let t := s.complete driverLocks (DriverState.handle (linkChannel device))
    StepsMeet Turns.step Turns.InTurn ⟨[], []⟩ s.order →
      ∀ k replies, t.progs k = .done replies →
        replies.map Reply.request = (queries k).map Query.request ∧
        ∀ (j : ℕ) (reply : Reply), replies[j]? = some reply →
          reply.Own device t.env.env.commands (s.order.foldl Turns.step ⟨[], []⟩).sent k j := by
  intro s t hturns k replies hdone
  have hinv := Interleaving.sections_atomic driverLocks (DriverState.handle (linkChannel device))
    (t := Clients.start queries)
    (fun k => (makesRequests_makeRequests (queries k) []).locked) steps
  have hrun := (inTurns_start device queries).run hinv.active hturns
  rw [← hinv.complete] at hrun
  exact hrun.own_of_done hdone

/-- Each of two clients asks for the raw readings. -/
def oneQuery : Bool → List Query := fun _ => [⟨.imuRaw, zeroImuRawData, defaultTimeout⟩]

/-- Their steps alternate. -/
def alternating : Interleaving (DriverOp Unit) DriverOp.Result (DriverState Unit Link)
    (fun _ : Bool => List Reply) :=
  (List.replicate 40 [true, false]).flatten.foldl
    (Interleaving.step driverLocks (DriverState.handle (linkChannel countingDevice)))
    (.start (Clients.start oneQuery))

/-- Two clients whose sections alternate take turns. -/
theorem two_turns :
    StepsMeet Turns.step Turns.InTurn (⟨[], []⟩ : Turns Bool) [true, false, true, false] := by
  refine ⟨nofun, ?_, fun _ => rfl, fun _ => rfl, trivial⟩
  unfold Turns.InTurn
  decide

/-- Their sections alternate as well. -/
theorem alternating_turns :
    StepsMeet Turns.step Turns.InTurn (⟨[], []⟩ : Turns Bool) alternating.order := by
  have horder : alternating.order = [true, false, true, false] := by decide +kernel
  rw [horder]
  exact two_turns

/-- What the requests of a client have returned, if it is done. -/
def ClientsOn.results {σ : Type} (t : ClientsOn σ κ) (k : κ) : Option (List SlResult) :=
  match t.progs k with
  | .done replies => some (replies.map fun reply => reply.result.1)
  | .call _ _ => none

set_option maxRecDepth 20000 in
/-- The second client is given the second reply. -/
theorem interleaved_requests_agree_alternating :
    let t := alternating.complete driverLocks (DriverState.handle (linkChannel countingDevice))
    ClientsOn.results t false = some [slResultOk] ∧
    ∀ replies, t.progs false = .done replies →
      replies.map Reply.request = (oneQuery false).map Query.request ∧
      ∀ (j : ℕ) (reply : Reply), replies[j]? = some reply →
        reply.Own countingDevice t.env.env.commands
          (alternating.order.foldl Turns.step (⟨[], []⟩ : Turns Bool)).sent false j := by
  have hresults : ClientsOn.results (alternating.complete driverLocks
      (DriverState.handle (linkChannel countingDevice))) false = some [slResultOk] := by
    decide +kernel
  have hturns := alternating_turns
  refine ⟨hresults, ?_⟩
  unfold alternating at hturns ⊢
  exact interleaved_requests_agree countingDevice oneQuery _ hturns false

end Slamkit
