import Slamkit.Library.Trace
import Slamkit.Session

/-!
# What a session does to one channel

The calls of a session form a trace of the channels, and the calls of one channel follow its
protocol: it is opened while closed, and used and closed while open. So an invariant of a channel
object that names whether it is open holds of every session if the single methods keep it.
-/

namespace Slamkit

open Library

variable {ι σ β : Type}

/-- The channels as one object. -/
def Channels.handler (channels : Channels ι σ) :
    Handler (Option ι × ChannelOp) (fun x => x.2.Result) σ := fun x => channels x.1 x.2

/-- The record of a call. -/
def ChannelCall.record (x : Option ι × ChannelOp) (result : x.2.Result) : ChannelCall ι :=
  ⟨x.1, x.2, result⟩

/-- The channels have answered the calls one after the other. -/
abbrev CallTrace (channels : Channels ι σ) : σ → List (ChannelCall ι) → σ → Prop :=
  Trace channels.handler ChannelCall.record

/-- Driver code leaves a trace of the channels. -/
theorem exec_trace (channels : Channels ι σ) (p : DriverProgram ι β) (s : DriverState ι σ) :
    ∃ calls, (s.exec channels p).2.calls = s.calls ++ calls ∧
      CallTrace channels s.env calls (s.exec channels p).2.env := by
  induction p generalizing s with
  | done b => exact ⟨[], (List.append_nil _).symm, .nil _⟩
  | call op next ih =>
    rw [DriverState.exec, Program.run_call]
    cases op with
    | lock => exact ih _ _
    | unlock => exact ih _ _
    | loadConnected => exact ih _ _
    | storeConnected value => exact ih _ _
    | loadChannel => exact ih _ _
    | storeChannel channel => exact ih _ _
    | call channel op =>
      obtain ⟨calls, hcalls, htrace⟩ := ih (channels channel op s.env).1
        { s with
          env := (channels channel op s.env).2
          calls := s.calls ++ [⟨channel, op, (channels channel op s.env).1⟩] }
      refine ⟨⟨channel, op, (channels channel op s.env).1⟩ :: calls, ?_, .cons (channel, op) htrace⟩
      exact hcalls.trans (List.append_assoc _ _ _)

/-- An operation of a session leaves a trace of the channels. -/
theorem SessionOp.run_trace (channels : Channels ι σ) (op : SessionOp ι) {s : DriverState ι σ}
    (hcalls : s.calls = []) :
    CallTrace channels s.env (op.run channels s).2.calls (op.run channels s).2.env := by
  have hexec : ∀ {β : Type} (p : DriverProgram ι β),
      CallTrace channels s.env (s.exec channels p).2.calls (s.exec channels p).2.env := by
    intro β p
    obtain ⟨calls, hlog, htrace⟩ := exec_trace channels p s
    rw [hcalls, List.nil_append] at hlog
    rw [hlog]
    exact htrace
  cases op with
  | connect channel => exact hexec _
  | disconnect => exact hexec _
  | request r out timeout => exact hexec _

/-- A session leaves a trace of the channels. -/
theorem Session.trace (channels : Channels ι σ) (env : σ) (ops : List (SessionOp ι)) :
    CallTrace channels env (Session.runOps channels env ops).history
      (Session.runOps channels env ops).driver.env := by
  induction ops using List.reverseRecOn with
  | nil => exact .nil env
  | append_singleton ops op ih =>
    have hstep : Session.runOps channels env (ops ++ [op]) =
        (Session.runOps channels env ops).step channels op := by
      rw [Session.runOps, List.foldl_append]
      rfl
    have hop := op.run_trace channels
      (s := { (Session.runOps channels env ops).driver with calls := [] }) rfl
    rw [hstep]
    unfold Session.history at ih ⊢
    simp only [Session.step, List.flatten_append, List.flatten_singleton]
    exact ih.append hop

variable [DecidableEq ι]

/-- Whether channel `c` is open after a call. There is no phase after a call that the protocol
does not allow, such as one through a null pointer; the calls of other channels change nothing. -/
def nextPhase (c : ι) (isOpen : Bool) : ChannelCall ι → Option Bool
  | ⟨none, _, _⟩ => none
  | ⟨some d, op, result⟩ =>
    if d ≠ c then some isOpen
    else match op, result with
      | .«open», result => if isOpen then none else some result
      | .close, _ => if isOpen then some false else none
      | _, _ => if isOpen then some true else none

/-- Whether a channel is open, from the numbers of its calls. -/
def OpenIs (calls : List (ChannelCall ι)) (c : ι) (isOpen : Bool) : Prop :=
  openCount calls c = closeCount calls c + if isOpen then 1 else 0

/-- A call that is allowed follows the protocol of every channel. -/
theorem nextPhase_of_allowed (c : ι) {past : List (ChannelCall ι)} {call : ChannelCall ι}
    (hallowed : CallAllowed past call) {isOpen : Bool} (hcount : OpenIs past c isOpen) :
    ∃ isOpen', nextPhase c isOpen call = some isOpen' ∧ OpenIs (past ++ [call]) c isOpen' := by
  obtain ⟨d, hchannel, hcall⟩ := hallowed
  obtain ⟨channel, op, result⟩ := call
  simp only at hchannel
  subst hchannel
  unfold OpenIs at hcount ⊢
  rw [openCount_append, closeCount_append]
  by_cases hd : d = c
  · subst hd
    cases op
    case «open» =>
      have hclosed : isOpen = false := by
        cases isOpen with
        | false => rfl
        | true => simp only at hcall; rw [if_pos rfl] at hcount; omega
      subst hclosed
      refine ⟨result, by simp [nextPhase], ?_⟩
      cases result <;> simp [openCount, closeCount, ChannelCall.opens, ChannelCall.closes]
        at hcount ⊢ <;> omega
    all_goals
      have hopen : isOpen = true := by
        cases isOpen with
        | true => rfl
        | false => simp only at hcall; rw [if_neg Bool.false_ne_true] at hcount; omega
      subst hopen
    case close =>
      refine ⟨false, by simp [nextPhase], ?_⟩
      simp [openCount, closeCount, ChannelCall.opens, ChannelCall.closes] at hcount ⊢
      omega
    all_goals
      refine ⟨true, by simp [nextPhase], ?_⟩
      simp [openCount, closeCount, ChannelCall.opens, ChannelCall.closes] at hcount ⊢
      omega
  · refine ⟨isOpen, by simp [nextPhase, hd], ?_⟩
    have hopens : openCount [(⟨some d, op, result⟩ : ChannelCall ι)] c = 0 := by
      cases op <;> simp [openCount, ChannelCall.opens, hd]
    have hcloses : closeCount [(⟨some d, op, result⟩ : ChannelCall ι)] c = 0 := by
      cases op <;> simp [closeCount, ChannelCall.closes, hd]
    rw [hopens, hcloses]
    exact hcount

/-- Calls that are allowed follow the protocol of every channel. -/
theorem follows_of_allowed (c : ι) {past calls : List (ChannelCall ι)}
    (hallowed : EachAfter CallAllowed past calls) {isOpen : Bool} (hcount : OpenIs past c isOpen) :
    ∃ isOpen', calls.foldlM (nextPhase c) isOpen = some isOpen' ∧
      OpenIs (past ++ calls) c isOpen' := by
  induction calls generalizing past isOpen with
  | nil => exact ⟨isOpen, rfl, by rwa [List.append_nil]⟩
  | cons call calls ih =>
    obtain ⟨middle, hnext, hmiddle⟩ := nextPhase_of_allowed c hallowed.1 hcount
    obtain ⟨last, hfollows, hlast⟩ := ih hallowed.2 hmiddle
    refine ⟨last, ?_, ?_⟩
    · rw [List.foldlM_cons, hnext]
      exact hfollows
    · rw [List.append_assoc] at hlast
      exact hlast

/-- The driver is connected to channel `c`. -/
def DriverState.ConnectedTo (s : DriverState ι σ) (c : ι) : Prop :=
  s.isConnected = true ∧ s.channel = some c

instance (s : DriverState ι σ) (c : ι) : Decidable (s.ConnectedTo c) :=
  inferInstanceAs (Decidable (_ ∧ _))

/-- **The rule of sessions.** An invariant of a channel object that names whether the channel is
open holds of every session, if it holds of the closed channel at first and every method keeps it
that is called as the protocol allows. The driver is connected to the channel in the open phase. -/
theorem Session.keeps (channels : Channels ι σ) (c : ι) {I : Bool → σ → Prop}
    (hstep : ∀ isOpen isOpen' channel op env, I isOpen env →
      nextPhase c isOpen ⟨channel, op, (channels channel op env).1⟩ = some isOpen' →
      I isOpen' (channels channel op env).2)
    {env : σ} (hstart : I false env) (ops : List (SessionOp ι)) :
    I (decide ((Session.runOps channels env ops).driver.ConnectedTo c))
      (Session.runOps channels env ops).driver.env := by
  have hinv := sessionInv_runOps channels env ops
  obtain ⟨isOpen, hfollows, hcount⟩ := follows_of_allowed c hinv.allowed
    (show OpenIs [] c false by simp [OpenIs, openCount, closeCount])
  rw [List.nil_append, OpenIs, hinv.counts c] at hcount
  have hphase : decide ((Session.runOps channels env ops).driver.ConnectedTo c) = isOpen := by
    unfold DriverState.ConnectedTo
    cases isOpen with
    | true =>
      apply decide_eq_true
      by_contra hnot
      rw [if_neg hnot, if_pos rfl] at hcount
      omega
    | false =>
      apply decide_eq_false
      intro hconn
      rw [if_pos hconn, if_neg Bool.false_ne_true] at hcount
      omega
  rw [hphase]
  exact (Session.trace channels env ops).keeps
    (fun p p' x s hs hnext => hstep p p' x.1 x.2 s hs hnext) hfollows hstart

/-- With a single channel object, the driver is connected to it if it is connected. -/
theorem Session.connectedTo_unit (channels : Channels Unit σ) (env : σ)
    (ops : List (SessionOp Unit)) :
    decide ((Session.runOps channels env ops).driver.ConnectedTo ()) =
      (Session.runOps channels env ops).driver.isConnected := by
  rw [Bool.eq_iff_iff, decide_eq_true_iff]
  constructor
  · exact fun hconn => hconn.1
  · intro hconn
    obtain ⟨c, hchannel, -⟩ := (sessionInv_runOps channels env ops).connected hconn
    exact ⟨hconn, hchannel⟩

end Slamkit
