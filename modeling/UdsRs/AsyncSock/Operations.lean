import UdsRs.AsyncSock.Net
import Mathlib.Algebra.BigOperators.Group.Finset.Piecewise
import Mathlib.Algebra.Order.BigOperators.Group.Finset

namespace async_sock

open lts

namespace Net

variable {ι Msg Err Fail α : Type} [DecidableEq ι] {Answers : Msg → List Msg → Prop}
  {tasks : ι → Future Msg Err Fail α} {s t : Net ι Msg Err Fail α} {acts : List (Action ι Msg)}
  {a : Action ι Msg} {i : ι}

def operations (i : ι) (acts : List (Action ι Msg)) : Nat :=
  acts.countP fun a => a.actor = some i

def replies (acts : List (Action ι Msg)) : Nat := acts.countP fun a => a.actor = none

theorem operations_append (i : ι) (acts acts' : List (Action ι Msg)) :
    operations i (acts ++ acts') = operations i acts + operations i acts' :=
  List.countP_append

omit [DecidableEq ι] in
theorem replies_append (acts acts' : List (Action ι Msg)) :
    replies (acts ++ acts') = replies acts + replies acts' := List.countP_append

omit [DecidableEq ι] in
theorem senders_append (acts acts' : List (Action ι Msg)) :
    senders (acts ++ acts') = senders acts ++ senders acts' := List.filterMap_append

theorem senders_of_actor_ne (hi : a.actor ≠ some i) : (senders [a]).count i = 0 := by
  cases a with
  | send j =>
    have hj : j ≠ i := fun heq => hi (congrArg some heq)
    simp [senders, hj]
  | answer | receive | expire => rfl

theorem senders_of_actor (hi : a.actor = some i) : (senders [a]).count i = (senders [a]).length := by
  cases a with
  | send j =>
    obtain rfl : j = i := Option.some.inj hi
    simp [senders]
  | answer | receive | expire => rfl

/-- Seen from one task a run of the system is a run of that task with as many
operations as it acted, as many transmissions as it has sends, and no failures. -/
theorem operations_of_reach (h : Reach (Step Answers) (start tasks) acts s) (i : ι) :
    ∃ es, Steps (tasks i) es (s.tasks i) ∧ deliveries es = s.taken i ∧
      (transmissions es).length = (senders acts).count i ∧ es.length = operations i acts ∧
      ∀ e ∈ es, e.failure = none := by
  induction h with
  | nil => exact ⟨[], .refl _, rfl, rfl, rfl, by simp⟩
  | @snoc acts s t a hrun hstep ih =>
    obtain ⟨es, hes, hdeliveries, hsent, hlength, hnone⟩ := ih
    rw [senders_append, List.count_append, operations_append]
    by_cases hi : a.actor = some i
    · obtain ⟨e, he, htaken, hfailure, htransmitted⟩ := hstep.operation hi
      refine ⟨es ++ [e], hes.append he, ?_, ?_, ?_, ?_⟩
      · rw [htaken, deliveries_append, hdeliveries]
        simp
      · rw [transmissions_append, List.length_append, hsent, senders_of_actor hi, ← htransmitted]
        simp
      · simp [operations, hi, hlength]
      · intro e' he'
        rcases List.mem_append.mp he' with hold | hnew
        · exact hnone e' hold
        · exact List.mem_singleton.mp hnew ▸ hfailure
    · refine ⟨es, ?_, ?_, ?_, ?_, hnone⟩
      · rw [hstep.tasks_of_actor_ne hi]
        exact hes
      · rw [hstep.taken_of_actor_ne hi]
        exact hdeliveries
      · rw [senders_of_actor_ne hi]
        exact hsent
      · simp [operations, hi, hlength]

theorem replies_of_reach (h : Reach (Step Answers) (start tasks) acts s) :
    replies acts + s.requests.length = (senders acts).length := by
  induction h with
  | nil => rfl
  | @snoc acts s t a hrun hstep ih =>
    rw [replies_append, senders_append, List.length_append, ← ih]
    cases hstep with
    | send => simp [replies, Action.actor, senders]; omega
    | answer hrequest => simp [replies, Action.actor, senders, hrequest]; omega
    | receive | receive_within | expire => simp [replies, Action.actor, senders]

/-- Every action is a task's or an answer of the peer, so a run is as long as both
together. -/
theorem length_eq_operations [Fintype ι] (acts : List (Action ι Msg)) :
    acts.length = (∑ i, operations i acts) + replies acts := by
  induction acts with
  | nil => simp [operations, replies]
  | cons a acts ih =>
    have hreplies : replies (a :: acts) = replies [a] + replies acts := replies_append [a] acts
    have hoperations : ∀ i, operations i (a :: acts) = operations i [a] + operations i acts :=
      fun i => operations_append i [a] acts
    have hone : (∑ i, operations i [a]) + replies [a] = 1 := by
      cases hactor : a.actor with
      | none => simp [operations, replies, hactor]
      | some i => simp [operations, replies, hactor, List.countP_cons]
    rw [List.length_cons, ih, hreplies, Finset.sum_congr rfl fun i _ => hoperations i,
      Finset.sum_add_distrib]
    omega

/-- Where each task is bounded in what it does and transmits, so is the system. -/
theorem length_le_of_reach [Fintype ι] (h : Reach (Step Answers) (start tasks) acts s)
    {ops sends : Nat} (hops : ∀ i, operations i acts ≤ ops)
    (hsends : ∀ i, (senders acts).count i ≤ sends) :
    acts.length ≤ Fintype.card ι * (ops + sends) := by
  have hactions : (∑ i, operations i acts) ≤ Fintype.card ι * ops := by
    simpa using Finset.sum_le_card_nsmul Finset.univ (operations · acts) ops fun i _ => hops i
  have hsent : (senders acts).length ≤ Fintype.card ι * sends := by
    have hcount : ∑ i, (senders acts).count i = (senders acts).length := by
      simpa using Multiset.sum_count_eq_card (s := Finset.univ) (m := (senders acts : Multiset ι))
        fun i _ => Finset.mem_univ i
    rw [← hcount]
    simpa using
      Finset.sum_le_card_nsmul Finset.univ ((senders acts).count ·) sends fun i _ => hsends i
  have hreplies := replies_of_reach h
  rw [length_eq_operations, Nat.mul_add]
  omega

/-- The message is one of an answer that the peer gave in the run, to a request that
was the oldest under way then. -/
structure Answered (Answers : Msg → List Msg → Prop) (tasks : ι → Future Msg Err Fail α)
    (acts : List (Action ι Msg)) (i : ι) (msg : Msg) : Prop where
  exists_answer : ∃ before msgs after u request rest,
    acts = before ++ .answer i msgs :: after ∧ Reach (Step Answers) (start tasks) before u ∧
      u.requests = (i, request) :: rest ∧ Answers request msgs ∧ msg ∈ msgs

theorem Answered.append {msg : Msg} (h : Answered Answers tasks acts i msg)
    (acts' : List (Action ι Msg)) : Answered Answers tasks (acts ++ acts') i msg := by
  obtain ⟨before, msgs, after, u, request, rest, rfl, hrest⟩ := h
  exact ⟨before, msgs, after ++ acts', u, request, rest, by simp, hrest⟩

theorem answered_of_reach (h : Reach (Step Answers) (start tasks) acts s) :
    (∀ p ∈ s.answers, Answered Answers tasks acts p.1 p.2) ∧
      ∀ r ∈ s.receipts, Answered Answers tasks acts r.origin r.msg := by
  induction h with
  | nil => exact ⟨by simp [start], by simp [start]⟩
  | @snoc acts s t a hrun hstep ih =>
    obtain ⟨hanswers, hreceipts⟩ := ih
    have hold : ∀ r ∈ s.receipts, Answered Answers tasks (acts ++ [a]) r.origin r.msg :=
      fun r hr => (hreceipts r hr).append [a]
    cases hstep with
    | send | expire => exact ⟨fun p hp => (hanswers p hp).append _, hold⟩
    | @answer j request rest msgs hrequest hanswer =>
      refine ⟨fun p hp => ?_, hold⟩
      rcases List.mem_append.mp hp with hprevious | hnew
      · exact (hanswers p hprevious).append _
      · obtain ⟨msg, hmsg, rfl⟩ := List.mem_map.mp hnew
        exact ⟨acts, msgs, [], s, request, rest, rfl, hrun, hrequest, hanswer, hmsg⟩
    | @receive j origin msg rest resume htask hhead
    | @receive_within j origin msg rest millis resume htask hhead =>
      have hmem : (origin, msg) ∈ s.answers := hhead ▸ List.mem_cons_self
      refine ⟨fun p hp => (hanswers p (hhead ▸ List.mem_cons_of_mem _ hp)).append _, ?_⟩
      intro r hr
      rcases List.mem_append.mp hr with hprevious | hnew
      · exact hold r hprevious
      · rw [List.mem_singleton.mp hnew]
        exact (hanswers _ hmem).append _

end Net

end async_sock
