import UdsRs.AsyncSock.InFlight
import UdsRs.AsyncSock.Operations
import UdsRs.Uds.Session

namespace uds_rs.uds

open async_sock lts rust NegativeResponseCode UdsClient Stage

/-- The ECU tells the client to repeat the request, or it has carried it out. -/
theorem first_of_ecuAnswers {sid : UInt8} {data : Packet} {msgs : List Packet}
    (h : EcuAnswers (sid :: data) msgs) :
    (∃ raw, msgs = [raw] ∧ Busy sid raw) ∨ ∃ raw rest, msgs = raw :: rest ∧ ¬ Busy sid raw := by
  rcases answersBy_cons_iff.mp h with hbusy | ⟨pendings, f, rfl, hpendings, hf⟩
  · exact .inl hbusy
  · cases pendings with
    | nil => exact .inr ⟨f, [], rfl, hf.1⟩
    | cons raw pendings =>
      refine .inr ⟨raw, pendings ++ [f], rfl, fun hbusy => ?_⟩
      exact hbusy.not_pending (hpendings raw List.mem_cons_self)

namespace ClientNet

variable {overflow_checks : Bool} {calls : ℕ → ServiceCall} {s t : ClientNet ℕ}
  {a : Action ℕ Packet} {acts : List (Action ℕ Packet)} {i k n : ℕ}

/-- The calls whose requests the ECU has carried out, answering other than busy, in
the order of its answers. -/
def carried_out (calls : ℕ → ServiceCall) (acts : List (Action ℕ Packet)) : List ℕ :=
  acts.filterMap fun
    | .answer j msgs => if ∃ raw ∈ msgs, ¬ Busy (calls j).sid raw then some j else none
    | .send _ | .receive _ | .expire _ => none

theorem carried_out_append (acts acts' : List (Action ℕ Packet)) :
    carried_out calls (acts ++ acts') = carried_out calls acts ++ carried_out calls acts' :=
  List.filterMap_append

theorem carried_out_answer (i : ℕ) (msgs : List Packet) :
    carried_out calls [.answer i msgs] =
      if ∃ raw ∈ msgs, ¬ Busy (calls i).sid raw then [i] else [] := by
  unfold carried_out
  split <;> simp [*]

theorem carried_out_of_task_ne (h : a.task ≠ i) : (carried_out calls [a]).count i = 0 := by
  cases a with
  | answer j msgs =>
    have hj : j ≠ i := h
    rw [carried_out_answer]
    split <;> simp [hj]
  | send | receive | expire => rfl

/-- What is under way at each place of call `i`, of whose requests the ECU has
carried out `n`. -/
def Progress (i : ℕ) (sid : UInt8) (s : ClientNet ℕ) (n : Nat) : Stage → Prop
  | sending _ => Quiet s ∧ n = 0
  | receiving _ =>
    (∃ data, s.requests = [(i, sid :: data)] ∧ s.answers = [] ∧ n = 0) ∨
      (s.requests = [] ∧ ((∃ raw, s.answers = [(i, raw)] ∧ Busy sid raw ∧ n = 0) ∨
        ∃ p left, s.answers = p :: left ∧ ¬ Busy sid p.2 ∧ n = 1))
  | waiting => s.requests = [] ∧ n = 1
  | returned result => s.requests = [] ∧ n ≤ 1 ∧ ∀ raw, result = .ok raw → n = 1

def Active (overflow_checks : Bool) (calls : ℕ → ServiceCall) (i : ℕ) (s : ClientNet ℕ) (n : Nat) :
    Prop :=
  ∃ data place, s.tasks i = (calls i).rest overflow_checks data place ∧
    Progress i (calls i).sid s n place

/-- Call `i` has returned, and only requests of later calls are under way. -/
def Done (i : ℕ) (s : ClientNet ℕ) (n : Nat) : Prop :=
  ∃ result, s.tasks i = .ready result ∧ (∀ p ∈ s.requests, i < p.1) ∧ n ≤ 1 ∧
    ∀ v, result = .ok v → n = 1

theorem Active.done (h : Active overflow_checks calls i s n) {result : Outcome UdsError UdsResponse}
    (hready : s.tasks i = .ready result) : Done i s n := by
  obtain ⟨data, place, hrest, hprogress⟩ := h
  rw [hready] at hrest
  cases place with
  | sending | receiving | waiting => cases hrest
  | returned inner =>
    obtain ⟨hrequests, hle, hok⟩ := hprogress
    rw [ServiceCall.rest_returned] at hrest
    obtain rfl := Future.ready.inj hrest
    refine ⟨_, hready, by simp [hrequests], hle, fun v hv => ?_⟩
    obtain ⟨raw, hraw, -⟩ := bind_eq_ok_iff.mp hv
    exact hok raw hraw

/-- A packet that is not busy ends the transmissions, so what was carried out by
then is all that will be. -/
theorem progress_judge {sid : UInt8} {raw : Packet} (retry_counter : Int32) (hrequests : t.requests = [])
    (h : (Busy sid raw ∧ t.answers = [] ∧ n = 0) ∨ (¬ Busy sid raw ∧ n = 1)) :
    Progress i sid t n (judge overflow_checks sid retry_counter raw) := by
  rcases h with ⟨hbusy, hanswers, rfl⟩ | ⟨hnot, rfl⟩
  · have hverdict := verdict_eq_busy_iff.mpr hbusy
    rcases judge_cases overflow_checks sid retry_counter raw with
      ⟨result, hjudge⟩ | ⟨hpending, -⟩ | ⟨next, -, -, -, hjudge⟩
    · rw [hjudge]
      refine ⟨hrequests, Nat.zero_le 1, fun packet hpacket => ?_⟩
      obtain ⟨-, haccept⟩ := accept_of_judge_ok (hpacket ▸ hjudge)
      rw [hverdict] at haccept
      cases haccept
    · rw [hverdict] at hpending
      cases hpending
    · rw [hjudge]
      exact ⟨⟨hrequests, hanswers⟩, rfl⟩
  · rcases judge_cases overflow_checks sid retry_counter raw with
      ⟨result, hjudge⟩ | ⟨-, hjudge⟩ | ⟨next, hbusy, -⟩
    · rw [hjudge]
      exact ⟨hrequests, Nat.le_refl 1, fun _ _ => rfl⟩
    · rw [hjudge]
      exact ⟨hrequests, rfl⟩
    · exact absurd (verdict_eq_busy_iff.mp hbusy) hnot

/-- An answer to the one request under way carries it out unless it is busy. -/
theorem progress_answered {sid : UInt8} {data : Packet} {msgs : List Packet}
    (hanswer : EcuAnswers (sid :: data) msgs) (hrequests : t.requests = [])
    (hanswers : t.answers = msgs.map (i, ·)) (hsid : (calls i).sid = sid) (retry_counter : Int32) :
    Progress i sid t ((carried_out calls [.answer i msgs]).count i) (receiving retry_counter) := by
  subst hsid
  refine .inr ⟨hrequests, ?_⟩
  rw [carried_out_answer]
  rcases first_of_ecuAnswers hanswer with ⟨raw, rfl, hbusy⟩ | ⟨raw, rest, rfl, hnot⟩
  · refine .inl ⟨raw, hanswers, hbusy, ?_⟩
    rw [if_neg (by simpa using hbusy)]
    rfl
  · refine .inr ⟨(i, raw), rest.map (i, ·), hanswers, hnot, ?_⟩
    rw [if_pos ⟨raw, List.mem_cons_self, hnot⟩]
    exact List.count_singleton_self

/-- A call on its turn transmits again only where no request of it was carried out.
A busy answer to another request would make it repeat one that was, but it is given
none. -/
theorem Active.step (h : Active overflow_checks calls i s n) (hstep : Net.Step EcuAnswers s a t)
    (hactor : ∀ j, a.actor = some j → j = i) :
    Active overflow_checks calls i t (n + (carried_out calls [a]).count i) ∨
      Done i t (n + (carried_out calls [a]).count i) := by
  obtain ⟨data, place, hrest, hprogress⟩ := h
  cases hstep with
  | send htask =>
    obtain rfl := hactor _ rfl
    rw [hrest] at htask
    obtain ⟨retry_counter, rfl, rfl, hresume⟩ := ServiceCall.sending_of_rest htask
    obtain ⟨⟨hrequests, hanswers⟩, rfl⟩ := hprogress
    refine .inl ⟨data, receiving retry_counter, ?_, .inl ⟨data, ?_, hanswers, rfl⟩⟩
    · rw [← hresume]
      exact Function.update_self ..
    · rw [hrequests]
      rfl
  | @answer j request left msgs hrequest hanswer =>
    cases place with
    | sending =>
      rw [hprogress.1.1] at hrequest
      cases hrequest
    | waiting | returned =>
      rw [hprogress.1] at hrequest
      cases hrequest
    | receiving retry_counter =>
      rcases hprogress with ⟨data', hone, hnone, rfl⟩ | ⟨hnone, -⟩
      · rw [hone] at hrequest
        cases hrequest
        rw [Nat.zero_add]
        refine .inl ⟨data, receiving retry_counter, hrest, ?_⟩
        apply progress_answered hanswer rfl _ rfl
        simp [hnone]
      · rw [hnone] at hrequest
        cases hrequest
  | @receive j origin raw left resume htask hanswer =>
    obtain rfl := hactor _ rfl
    rw [hrest] at htask
    obtain ⟨retry_counter, rfl, hresume⟩ := ServiceCall.receiving_of_rest htask
    refine .inl ⟨data, judge overflow_checks (calls j).sid retry_counter raw, ?_, ?_⟩
    · rw [← hresume]
      exact Function.update_self ..
    · rcases hprogress with ⟨_, -, hnone, -⟩ |
        ⟨hrequests, ⟨_, hone, hbusy, rfl⟩ | ⟨p, rest, hone, hnot, rfl⟩⟩
      · rw [hnone] at hanswer
        cases hanswer
      · rw [hone] at hanswer
        cases hanswer
        exact progress_judge retry_counter hrequests (.inl ⟨hbusy, rfl, rfl⟩)
      · rw [hone] at hanswer
        cases hanswer
        exact progress_judge retry_counter hrequests (.inr ⟨hnot, rfl⟩)
  | @receive_within j origin raw left millis resume htask hanswer =>
    obtain rfl := hactor _ rfl
    rw [hrest] at htask
    obtain ⟨rfl, hresume, -⟩ := ServiceCall.waiting_of_rest htask
    obtain ⟨hrequests, rfl⟩ := hprogress
    refine .inr ⟨(calls j).parse raw, ?_, by simp [hrequests], Nat.le_refl 1, fun _ _ => rfl⟩
    rw [← hresume]
    exact Function.update_self ..
  | expire htask =>
    obtain rfl := hactor _ rfl
    rw [hrest] at htask
    obtain ⟨rfl, -, e, hresume⟩ := ServiceCall.waiting_of_rest htask
    obtain ⟨hrequests, rfl⟩ := hprogress
    refine .inr ⟨err e, ?_, by simp [hrequests], Nat.le_refl 1, fun _ _ => rfl⟩
    rw [← hresume]
    exact Function.update_self ..

theorem Done.step (h : Done i s n) (hstep : Net.Step EcuAnswers s a t)
    (hlater : ∀ j, a.actor = some j → i ≤ j) :
    Done i t (n + (carried_out calls [a]).count i) := by
  obtain ⟨result, hready, hrequests, hle, hok⟩ := h
  have hother : a.actor ≠ some i := fun hactor => hstep.not_ready hactor result hready
  have htask : t.tasks i = .ready result := (hstep.tasks_of_actor_ne hother).trans hready
  cases hstep with
  | @send j payload resume =>
    have hj : i < j :=
      Nat.lt_of_le_of_ne (hlater j rfl) fun heq => hother (congrArg some heq.symm)
    refine ⟨result, htask, fun p hp => ?_, hle, hok⟩
    rcases List.mem_append.mp hp with hold | hnew
    · exact hrequests p hold
    · rw [List.mem_singleton.mp hnew]
      exact hj
  | @answer j request left msgs hrequest =>
    have hj : i < j := hrequests (j, request) (hrequest ▸ List.mem_cons_self)
    have hnone : (carried_out calls [.answer j msgs]).count i = 0 :=
      carried_out_of_task_ne (Nat.ne_of_gt hj)
    rw [hnone]
    exact ⟨result, htask, fun p hp => hrequests p (hrequest ▸ List.mem_cons_of_mem _ hp), hle, hok⟩
  | receive | receive_within | expire => exact ⟨result, htask, hrequests, hle, hok⟩

theorem Drains.carried_out_eq_zero (h : Drains overflow_checks calls k s)
    (hstep : Net.Step EcuAnswers s a t) (hk : k ≠ i) : (carried_out calls [a]).count i = 0 := by
  cases hstep with
  | @answer j request left msgs hrequest =>
    apply carried_out_of_task_ne
    rcases h with ⟨result, -, hquiet⟩ | ⟨data, place, -, hremains⟩
    · rw [hquiet.1] at hrequest
      cases hrequest
    · cases place with
      | sending | returned | waiting =>
        rw [hremains.1] at hrequest
        cases hrequest
      | receiving retry_counter =>
        rcases hremains with ⟨_, hone, -⟩ | ⟨hnone, -⟩
        · rw [hone] at hrequest
          cases hrequest
          exact hk
        · rw [hnone] at hrequest
          cases hrequest
  | send | receive | receive_within | expire => rfl

/-- A call that starts while nothing is under way is active, or it has rejected its
arguments. -/
theorem Quiet.active (h : Quiet s) (hstart : s.tasks i = (calls i).run overflow_checks) :
    Active overflow_checks calls i s 0 ∨ Done i s 0 := by
  cases harguments : (calls i).arguments overflow_checks with
  | error stop =>
    rw [ServiceCall.run_of_arguments_error harguments] at hstart
    refine .inr ⟨.error stop, hstart, by simp [h.1], Nat.zero_le 1, fun v hv => ?_⟩
    cases hv
  | ok data =>
    rw [ServiceCall.run_of_arguments_ok harguments] at hstart
    exact .inl ⟨data, sending 0, hstart, h, rfl⟩

/-- How far the calls have got, and how many requests of call `i` were carried out:
none before its turn, as many as its place says on its turn, and at most one after
it. -/
inductive TurnCount (overflow_checks : Bool) (calls : ℕ → ServiceCall) (i : ℕ) (s : ClientNet ℕ)
    (n : Nat) (k : ℕ) : Prop where
  | before (hk : k < i) (h : Drains overflow_checks calls k s) (hn : n = 0)
  | turn (hk : k = i) (h : Active overflow_checks calls i s n)
  | done (hk : i ≤ k) (h : Done i s n)

/-- A call that has not started is about to do so, or it has rejected its arguments.
-/
theorem Quiet.turnCount (h : Quiet s)
    (hturn : Net.Turn (fun j => (calls j).run overflow_checks) s k)
    (hstart : s.tasks k = (calls k).run overflow_checks)
    (hnew : s.tasks i = (calls i).run overflow_checks) :
    TurnCount overflow_checks calls i s 0 k := by
  rcases Nat.lt_trichotomy k i with hlt | rfl | hgt
  · exact .before hlt (h.drains hstart) rfl
  · rcases h.active hstart with hactive | hdone
    · exact .turn rfl hactive
    · exact .done (Nat.le_refl k) hdone
  · obtain ⟨result, hready⟩ := hturn.before i hgt
    rcases h.active hnew with hactive | hdone
    · exact .done (Nat.le_of_lt hgt) (hactive.done hready)
    · exact .done (Nat.le_of_lt hgt) hdone

/-- Who passes the turn on has left nothing, so call `i` is as far as it was or
about to start. -/
theorem TurnCount.pass {k' : ℕ} (h : TurnCount overflow_checks calls i s n k) (hlt : k < k')
    (hturn : Net.Turn (fun j => (calls j).run overflow_checks) s k)
    (hturn' : Net.Turn (fun j => (calls j).run overflow_checks) s k')
    (hstart : s.tasks k' = (calls k').run overflow_checks) {result : Outcome UdsError UdsResponse}
    (hready : s.tasks k = .ready result) : TurnCount overflow_checks calls i s n k' := by
  cases h with
  | before hk hdrains hn =>
    subst hn
    exact (hdrains.quiet hready).turnCount hturn' hstart (hturn.after i hk)
  | turn hk hactive =>
    subst hk
    exact .done (Nat.le_of_lt hlt) (hactive.done hready)
  | done hk hdone => exact .done (Nat.le_trans hk (Nat.le_of_lt hlt)) hdone

theorem TurnCount.step (h : TurnCount overflow_checks calls i s n k)
    (hstep : Net.Step EcuAnswers s a t) (hactor : ∀ j, a.actor = some j → j = k)
    (hleaves : a.task < i → LeavesNone a) :
    TurnCount overflow_checks calls i t (n + (carried_out calls [a]).count i) k := by
  cases h with
  | before hk hdrains hn =>
    rw [hdrains.carried_out_eq_zero hstep (Nat.ne_of_lt hk)]
    exact .before hk (hdrains.step hstep hactor fun htask => hleaves (htask ▸ hk)) hn
  | turn hk hactive =>
    subst hk
    rcases hactive.step hstep hactor with hactive' | hdone
    · exact .turn rfl hactive'
    · exact .done (Nat.le_refl k) hdone
  | done hk hdone =>
    refine .done hk (hdone.step hstep fun j hj => ?_)
    rw [hactor j hj]
    exact hk

theorem turnCount_of_reach
    (h : Reach (Net.SequentialStep EcuAnswers) (ClientNet.start overflow_checks calls) acts s)
    (hleaves : ∀ a ∈ acts, a.task < i → LeavesNone a) :
    ∃ k, Net.Turn (fun j => (calls j).run overflow_checks) s k ∧
      TurnCount overflow_checks calls i s ((carried_out calls acts).count i) k := by
  induction h with
  | nil =>
    have hquiet : Quiet (ClientNet.start overflow_checks calls) := ⟨rfl, rfl⟩
    exact ⟨0, Net.turn_start _, hquiet.turnCount (Net.turn_start _) rfl rfl⟩
  | @snoc acts s t a _ hstep ih =>
    obtain ⟨k, hturn, hturnCount⟩ := ih fun b hb => hleaves b (List.mem_append_left _ hb)
    obtain ⟨k', hactor, hturn', hnext⟩ := hturn.step hstep
    refine ⟨k', hturn', ?_⟩
    rw [carried_out_append, List.count_append]
    -- the call that acts has the turn before it acts
    have hbefore : TurnCount overflow_checks calls i s ((carried_out calls acts).count i) k' := by
      rcases hnext with rfl | ⟨hlt, hstart, result, hready⟩
      · exact hturnCount
      · refine hturnCount.pass hlt hturn ⟨fun j hj => ?_, fun j hj => ?_⟩ hstart hready
        · have hother : a.actor ≠ some j := fun heq => Nat.ne_of_lt hj (hactor j heq)
          rw [← hstep.1.tasks_of_actor_ne hother]
          exact hturn'.before j hj
        · exact hturn.after j (Nat.lt_trans hlt hj)
    exact hbefore.step hstep.1 hactor (hleaves a List.mem_concat_self)

theorem Active.carried_out_le (h : Active overflow_checks calls i s n) : n ≤ 1 := by
  obtain ⟨data, place, -, hprogress⟩ := h
  cases place with
  | sending => exact hprogress.2 ▸ Nat.zero_le 1
  | receiving =>
    rcases hprogress with ⟨_, -, -, hn⟩ | ⟨-, ⟨_, -, -, hn⟩ | ⟨_, _, -, -, hn⟩⟩ <;> omega
  | waiting => exact Nat.le_of_eq hprogress.2
  | returned => exact hprogress.2.1

/-- Calls made one after the other, with an ECU that may answer busy or announce
delays, on a socket that does not fail. As long as no timer of an earlier call
expires and no earlier request gets two pending answers, the ECU carries out at most
one request of a call, and exactly one if the call succeeds. -/
theorem executed_at_most_once
    (h : Reach (Net.SequentialStep EcuAnswers) (ClientNet.start overflow_checks calls) acts s)
    (hleaves : ∀ a ∈ acts, a.task < i → LeavesNone a) :
    (carried_out calls acts).count i ≤ 1 ∧
      ∀ v, s.tasks i = .ready (.ok v) → (carried_out calls acts).count i = 1 := by
  obtain ⟨k, hturn, hturnCount⟩ := turnCount_of_reach h hleaves
  cases hturnCount with
  | before hk hdrains hn =>
    refine ⟨hn ▸ Nat.zero_le 1, fun v hv => ?_⟩
    have hrun : (calls i).run overflow_checks = .ready (.ok v) := (hturn.after i hk).symm.trans hv
    cases harguments : (calls i).arguments overflow_checks with
    | error stop =>
      rw [ServiceCall.run_of_arguments_error harguments] at hrun
      cases hrun
    | ok data =>
      rw [ServiceCall.run_of_arguments_ok harguments] at hrun
      cases hrun
  | turn hk hactive =>
    refine ⟨hactive.carried_out_le, fun v hv => ?_⟩
    obtain ⟨result, hready, -, -, hok⟩ := hactive.done hv
    rw [hv] at hready
    exact hok v (Future.ready.inj hready).symm
  | done hk hdone =>
    obtain ⟨result, hready, -, hle, hok⟩ := hdone
    refine ⟨hle, fun v hv => ?_⟩
    rw [hv] at hready
    exact hok v (Future.ready.inj hready).symm

/-- The first read gets its byte after a pending answer, and the second its own. -/
def two_reads : List (Action ℕ Packet) :=
  [.send 0, .answer 0 [[0x7F, 0x23, 0x78], [0x63, 0xAA]], .receive 0, .receive 0,
    .send 1, .answer 1 [[0x63, 0xBB]], .receive 1]

theorem reach_two_reads :
    ∃ s, Reach (Net.SequentialStep EcuAnswers) (ClientNet.start true successive_reads) two_reads s ∧
      s.tasks 1 = .ready (.ok (.ReadMemoryByAddress (.Parsed ⟨[0xBB]⟩))) := by
  have hwaiting : first_read_waiting.tasks 0 =
      (successive_reads 0).rest true [0x11, 0x10, 0x01] waiting := rfl
  have hdelayed := Reach.snoc reach_first_read_waiting
    (.first (step_waiting hwaiting rfl) (by rintro i ⟨⟩; rfl))
  exact ⟨_, reach_ecuAnswers (reach_second_read hdelayed rfl rfl rfl rfl), rfl⟩

theorem executed_at_most_once_reads : (carried_out successive_reads two_reads).count 1 = 1 := by
  obtain ⟨s, hreach, hready⟩ := reach_two_reads
  exact (executed_at_most_once hreach (by simp [two_reads, LeavesNone])).2 _ hready

end ClientNet

end uds_rs.uds
