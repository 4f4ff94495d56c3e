import UdsRs.AsyncSock.Serve
import UdsRs.Uds.SendAndReceive.Runs

namespace uds_rs.uds.Stage

open async_sock lts rust NegativeResponseCode UdsClient

variable {overflow_checks : Bool} {sid : UInt8} {data : Packet}

/-- The busy answer that ends a call: by an overflow panic with overflow checks,
otherwise because the counter has wrapped around to zero. The counter starts at zero
and is decremented before it is compared with zero, so it counts away from its limit
and not towards it. -/
def retry_limit (overflow_checks : Bool) : Nat :=
  if overflow_checks then 2 ^ 31 + 1 else 2 ^ 32

theorem retry_limit_le (overflow_checks : Bool) : retry_limit overflow_checks ≤ 2 ^ 32 := by
  cases overflow_checks <;> decide

theorem lt_retry_limit (overflow_checks : Bool) : 2 ^ 31 < retry_limit overflow_checks := by
  cases overflow_checks <;> decide

/-- How a call ends at its last busy answer: with overflow checks by a panic,
otherwise with the NRC of that answer. -/
def give_up (overflow_checks : Bool) (sid : UInt8) : Outcome UdsError Packet :=
  if overflow_checks then .error (.panic .arithmetic_overflow)
  else err (.NRC ⟨sid, BusyRepeatRequest⟩)

/-- A busy answer after `n` earlier ones is repeated unless it is the last. -/
theorem judge_busy {n : Nat} {raw : Packet} (hn : n < retry_limit overflow_checks)
    (hbusy : Busy sid raw) :
    judge overflow_checks sid (i32_neg n) raw =
      if n + 1 = retry_limit overflow_checks then returned (give_up overflow_checks sid)
      else sending (i32_neg (n + 1)) := by
  have hbound : n < 2 ^ 32 := Nat.lt_of_lt_of_le hn (retry_limit_le overflow_checks)
  have hzero : i32_neg (n + 1) = 0 ↔ n + 1 = 2 ^ 32 := by
    rw [i32_neg_eq_zero_iff]
    omega
  simp only [judge, verdict_eq_busy_iff.mpr hbusy, i32_sub_neg_one overflow_checks hbound]
  cases overflow_checks with
  | true =>
    have hlimit : n + 1 = retry_limit true ↔ n = 2 ^ 31 := Nat.succ_inj
    by_cases hmin : n = 2 ^ 31
    · rw [if_pos (hlimit.mpr hmin), if_pos ⟨rfl, hmin⟩]
      rfl
    · have hne : ¬ i32_neg (n + 1) = 0 := by
        have hlt : n < 2 ^ 31 + 1 := hn
        rw [hzero]
        omega
      simp only [hlimit, hmin, hne, and_false, reduceIte]
  | false =>
    have hlimit : n + 1 = retry_limit false ↔ n + 1 = 2 ^ 32 := Iff.rfl
    simp only [hlimit, hzero, Bool.false_eq_true, false_and, reduceIte, give_up]

/-- What a run has done when it is about to send, or waits for the answer: only busy
answers so far, each counted and each request repeated. -/
structure Tally (overflow_checks : Bool) (sid : UInt8) (data : Packet) (n sends : Nat)
    (es : List (Event Packet UdsCommunicationError)) : Prop where
  below : n < retry_limit overflow_checks
  busy : ∀ raw ∈ deliveries es, Busy sid raw
  count : (deliveries es).length = n
  repeated : transmissions es = List.replicate sends (sid :: data)

/-- The counter is the number of busy answers, downwards from zero. -/
def Counted (overflow_checks : Bool) (sid : UInt8) (data : Packet)
    (es : List (Event Packet UdsCommunicationError)) : Stage → Prop
  | sending retry_counter =>
    ∃ n, retry_counter = i32_neg n ∧ Tally overflow_checks sid data n n es
  | receiving retry_counter =>
    ∃ n, retry_counter = i32_neg n ∧ Tally overflow_checks sid data n (n + 1) es
  | waiting | returned _ =>
    ∃ sends ≤ retry_limit overflow_checks, transmissions es = List.replicate sends (sid :: data)

theorem Counted.step {es : List (Event Packet UdsCommunicationError)} {s t : Stage}
    {e : Event Packet UdsCommunicationError} (hcounted : Counted overflow_checks sid data es s)
    (hstep : Step overflow_checks sid data s e t) :
    Counted overflow_checks sid data (es ++ [e]) t := by
  cases hstep with
  | sent retry_counter =>
    obtain ⟨n, rfl, htally⟩ := hcounted
    refine ⟨n, rfl, htally.below, by simpa using htally.busy, by simpa using htally.count, ?_⟩
    simp [htally.repeated, List.replicate_succ']
  | send_failed retry_counter e =>
    obtain ⟨n, rfl, htally⟩ := hcounted
    exact ⟨n, Nat.le_of_lt htally.below, by simpa using htally.repeated⟩
  | received retry_counter raw =>
    obtain ⟨n, rfl, htally⟩ := hcounted
    have hsends : transmissions (es ++ [.received (.ok raw)]) =
        List.replicate (n + 1) (sid :: data) := by simpa using htally.repeated
    by_cases hbusy : Busy sid raw
    · rw [judge_busy htally.below hbusy]
      split
      · exact ⟨n + 1, htally.below, hsends⟩
      · next hnot =>
        refine ⟨n + 1, rfl, by have := htally.below; omega, ?_, by simp [htally.count], hsends⟩
        intro p hp
        have hcases : p ∈ deliveries es ∨ p = raw := by simpa using hp
        rcases hcases with hold | rfl
        · exact htally.busy p hold
        · exact hbusy
    · rcases judge_cases overflow_checks sid (i32_neg n) raw with
        ⟨result, hjudge⟩ | ⟨-, hjudge⟩ | ⟨_, hverdict, -⟩
      · rw [hjudge]
        exact ⟨n + 1, htally.below, hsends⟩
      · rw [hjudge]
        exact ⟨n + 1, htally.below, hsends⟩
      · exact absurd (verdict_eq_busy_iff.mp hverdict) hbusy
  | receive_failed retry_counter e =>
    obtain ⟨n, rfl, htally⟩ := hcounted
    exact ⟨n + 1, htally.below, by simpa using htally.repeated⟩
  | delayed raw => simpa [Counted] using hcounted
  | wait_failed e => simpa [Counted] using hcounted
  | expired => simpa [Counted] using hcounted

theorem counted_of_visits {es : List (Event Packet UdsCommunicationError)} {s : Stage}
    (h : Visits overflow_checks sid data es s) : Counted overflow_checks sid data es s := by
  refine Reach.history_invariant ?_ (fun es s e t hcounted hstep => hcounted.step hstep) h
  exact ⟨0, rfl, Nat.lt_of_le_of_lt (Nat.zero_le _) (lt_retry_limit overflow_checks), by simp, rfl, rfl⟩

theorem busy_of_visits_receiving {es : List (Event Packet UdsCommunicationError)}
    {retry_counter : Int32} (h : Visits overflow_checks sid data es (receiving retry_counter)) :
    ∀ raw ∈ deliveries es, Busy sid raw := by
  obtain ⟨n, -, htally⟩ := counted_of_visits h
  exact htally.busy

theorem busy_of_visits_sending {es : List (Event Packet UdsCommunicationError)}
    {retry_counter : Int32} (h : Visits overflow_checks sid data es (sending retry_counter)) :
    ∀ raw ∈ deliveries es, Busy sid raw := by
  obtain ⟨n, -, htally⟩ := counted_of_visits h
  exact htally.busy

/-- Whoever waits under the timer has had busy answers and then a pending one. -/
theorem deliveries_of_visits_waiting {es : List (Event Packet UdsCommunicationError)}
    (h : Visits overflow_checks sid data es waiting) :
    ∃ busy pend, deliveries es = busy ++ [pend] ∧ (∀ raw ∈ busy, Busy sid raw) ∧
      Pending sid pend := by
  obtain ⟨es', retry_counter, pend, rfl, hverdict, hrun⟩ := visits_waiting h
  exact ⟨deliveries es', pend, by simp, busy_of_visits_receiving hrun,
    verdict_eq_pending_iff.mp hverdict⟩

/-- A packet that neither repeats nor delays the request is the last one of the run:
it is judged, or handed out after a pending answer. -/
theorem decided_of_returns {es : List (Event Packet UdsCommunicationError)}
    {result : Outcome UdsError Packet} {raw : Packet}
    (h : Returns (UdsClient.send_and_receive overflow_checks (sid :: data)) es result)
    (hmem : raw ∈ deliveries es) (hnotbusy : ¬ Busy sid raw) (hnotpending : ¬ Pending sid raw) :
    (∃ es' retry_counter, es = es' ++ [.received (.ok raw)] ∧
      Visits overflow_checks sid data es' (receiving retry_counter) ∧
      judge overflow_checks sid retry_counter raw = returned result) ∨
    ∃ es', es = es' ++ [.waited (some (.ok raw))] ∧
      Visits overflow_checks sid data es' waiting ∧ result = .ok raw := by
  have hwaiting : ∀ {es'}, Visits overflow_checks sid data es' waiting → raw ∉ deliveries es' := by
    intro es' hrun hmem'
    obtain ⟨busy, pend, hdeliveries, hbusy, hpending⟩ := deliveries_of_visits_waiting hrun
    rw [hdeliveries] at hmem'
    cases List.mem_append.mp hmem' with
    | inl hold => exact hnotbusy (hbusy raw hold)
    | inr hlast => exact hnotpending (List.mem_singleton.mp hlast ▸ hpending)
  cases ending_of_returns h with
  | send_failed e hrun =>
    exact absurd (busy_of_visits_sending hrun raw (by simpa using hmem)) hnotbusy
  | @judged es retry_counter p _ hrun hjudge =>
    have hcases : raw ∈ deliveries es ∨ raw = p := by simpa using hmem
    obtain rfl := hcases.resolve_left fun hold => hnotbusy (busy_of_visits_receiving hrun raw hold)
    exact .inl ⟨es, retry_counter, rfl, hrun, hjudge⟩
  | receive_failed e hrun =>
    exact absurd (busy_of_visits_receiving hrun raw (by simpa using hmem)) hnotbusy
  | @delayed es p hrun =>
    have hcases : raw ∈ deliveries es ∨ raw = p := by simpa using hmem
    obtain rfl := hcases.resolve_left (hwaiting hrun)
    exact .inr ⟨es, rfl, hrun, rfl⟩
  | wait_failed e hrun => exact absurd (by simpa using hmem) (hwaiting hrun)
  | expired hrun => exact absurd (by simpa using hmem) (hwaiting hrun)

theorem returns_last_positive {es : List (Event Packet UdsCommunicationError)}
    {result : Outcome UdsError Packet} {raw : Packet}
    (h : Returns (UdsClient.send_and_receive overflow_checks (sid :: data)) es result)
    (hlast : (deliveries es).getLast? = some raw) (haccept : verdict sid raw = .accept) :
    result = .ok raw := by
  have hnotbusy : ¬ Busy sid raw := by
    intro hbusy
    rw [verdict_eq_busy_iff.mpr hbusy] at haccept
    cases haccept
  have hnotpending : ¬ Pending sid raw := by
    intro hpending
    rw [verdict_eq_pending_iff.mpr hpending] at haccept
    cases haccept
  rcases decided_of_returns h (List.mem_of_getLast? hlast) hnotbusy hnotpending with
    ⟨_, _, -, -, hjudge⟩ | ⟨_, -, -, hok⟩
  · rcases judge_returned hjudge with ⟨-, hok⟩ | ⟨e, hreject, -⟩ | ⟨hbusy, -⟩
    · exact hok
    · rw [haccept] at hreject
      cases hreject
    · rw [haccept] at hbusy
      cases hbusy
  · exact hok

/-- An empty packet ends the exchange with an error, except after a pending answer,
where it is handed out. -/
theorem returns_empty {es : List (Event Packet UdsCommunicationError)}
    {result : Outcome UdsError Packet}
    (h : Returns (UdsClient.send_and_receive overflow_checks (sid :: data)) es result)
    (hempty : [] ∈ deliveries es) :
    (result = err .ResponseEmpty ∧ ∀ raw ∈ deliveries es, Busy sid raw ∨ raw = []) ∨
      (result = .ok [] ∧ ∃ busy pend, deliveries es = busy ++ [pend, []] ∧ Pending sid pend) := by
  rcases decided_of_returns h hempty nofun nofun with
    ⟨es', retry_counter, rfl, hrun, hjudge⟩ | ⟨es', rfl, hrun, hok⟩
  · have hreturned : returned (err .ResponseEmpty) = returned result := hjudge
    cases hreturned
    refine .inl ⟨rfl, ?_⟩
    intro p hp
    have hcases : p ∈ deliveries es' ∨ p = [] := by simpa using hp
    exact hcases.imp_left (busy_of_visits_receiving hrun p)
  · obtain ⟨busy, pend, hdeliveries, -, hpending⟩ := deliveries_of_visits_waiting hrun
    exact .inr ⟨hok, busy, pend, by simp [hdeliveries], hpending⟩

end uds_rs.uds.Stage
