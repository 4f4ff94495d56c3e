import UdsRs.Uds.SendAndReceive.Stage

namespace uds_rs.uds.Stage

open async_sock lts rust NegativeResponseCode

variable {overflow_checks : Bool} {sid : UInt8} {data : Packet}
  {es : List (Event Packet UdsCommunicationError)}

/-- The part of a run that has got as far as `s`. One inversion lemma for each place
says how a run got there, and together they give the shape of every run: busy
answers, each repeated, then at most one pending answer and the packet that ends the
exchange. -/
abbrev Visits (overflow_checks : Bool) (sid : UInt8) (data : Packet)
    (es : List (Event Packet UdsCommunicationError)) (s : Stage) : Prop :=
  Reach (Step overflow_checks sid data) (sending 0) es s

theorem judge_cases (overflow_checks : Bool) (sid : UInt8) (retry_counter : Int32) (raw : Packet) :
    (∃ result, judge overflow_checks sid retry_counter raw = returned result) ∨
      (verdict sid raw = .pending ∧ judge overflow_checks sid retry_counter raw = waiting) ∨
      ∃ retry_counter', verdict sid raw = .busy ∧ retry_counter' ≠ 0 ∧
        (i32_sub overflow_checks retry_counter 1 : Outcome UdsError Int32) = .ok retry_counter' ∧
        judge overflow_checks sid retry_counter raw = sending retry_counter' := by
  cases hverdict : verdict sid raw with
  | accept => simp [judge, hverdict]
  | reject e => simp [judge, hverdict]
  | pending => simp [judge, hverdict]
  | busy =>
    cases hsub : (i32_sub overflow_checks retry_counter 1 : Outcome UdsError Int32) with
    | error stop => simp [judge, hverdict, hsub]
    | ok retry_counter' =>
      by_cases hzero : retry_counter' = 0
      · simp [judge, hverdict, hsub, hzero]
      · simp [judge, hverdict, hsub, hzero]

theorem visits_sending {retry_counter : Int32}
    (h : Visits overflow_checks sid data es (sending retry_counter)) :
    (es = [] ∧ retry_counter = 0) ∨
      ∃ es' previous raw, es = es' ++ [.received (.ok raw)] ∧ verdict sid raw = .busy ∧
        retry_counter ≠ 0 ∧
        (i32_sub overflow_checks previous 1 : Outcome UdsError Int32) = .ok retry_counter ∧
        Visits overflow_checks sid data es' (receiving previous) := by
  generalize hstage : sending retry_counter = s at h
  cases h with
  | nil => exact .inl ⟨rfl, Stage.sending.inj hstage⟩
  | @snoc es' s _ _ hrun hstep =>
    apply Or.inr
    cases hstep with
    | received previous raw =>
      rcases judge_cases overflow_checks sid previous raw with
        ⟨result, hjudge⟩ | ⟨-, hjudge⟩ | ⟨next, hbusy, hzero, hsub, hjudge⟩
      · rw [hjudge] at hstage
        cases hstage
      · rw [hjudge] at hstage
        cases hstage
      · rw [hjudge] at hstage
        cases hstage
        exact ⟨es', previous, raw, rfl, hbusy, hzero, hsub, hrun⟩
    | _ => cases hstage

theorem visits_receiving {retry_counter : Int32}
    (h : Visits overflow_checks sid data es (receiving retry_counter)) :
    ∃ es', es = es' ++ [.sent (sid :: data) (.ok ())] ∧
      Visits overflow_checks sid data es' (sending retry_counter) := by
  generalize hstage : receiving retry_counter = s at h
  cases h with
  | nil => cases hstage
  | @snoc es' s _ _ hrun hstep =>
    cases hstep with
    | sent => cases hstage; exact ⟨es', rfl, hrun⟩
    | received previous raw =>
      rcases judge_cases overflow_checks sid previous raw with
        ⟨result, hjudge⟩ | ⟨-, hjudge⟩ | ⟨next, -, -, -, hjudge⟩
      all_goals
        rw [hjudge] at hstage
        cases hstage
    | _ => cases hstage

theorem visits_waiting (h : Visits overflow_checks sid data es waiting) :
    ∃ es' retry_counter raw, es = es' ++ [.received (.ok raw)] ∧ verdict sid raw = .pending ∧
      Visits overflow_checks sid data es' (receiving retry_counter) := by
  generalize hstage : waiting = s at h
  cases h with
  | nil => cases hstage
  | @snoc es' s _ _ hrun hstep =>
    cases hstep with
    | received previous raw =>
      rcases judge_cases overflow_checks sid previous raw with
        ⟨result, hjudge⟩ | ⟨hpending, -⟩ | ⟨next, -, -, -, hjudge⟩
      · rw [hjudge] at hstage
        cases hstage
      · exact ⟨es', previous, raw, rfl, hpending, hrun⟩
      · rw [hjudge] at hstage
        cases hstage
    | _ => cases hstage

/-- How an exchange can end, with the last operation and what was received before
it. -/
inductive Ending (overflow_checks : Bool) (sid : UInt8) (data : Packet) :
    List (Event Packet UdsCommunicationError) → Outcome UdsError Packet → Prop where
  | send_failed {es : List (Event Packet UdsCommunicationError)} {retry_counter : Int32}
      (e : UdsCommunicationError)
      (hrun : Visits overflow_checks sid data es (sending retry_counter)) :
      Ending overflow_checks sid data (es ++ [.sent (sid :: data) (.error e)])
        (err (.CommunicationError e))
  | judged {es : List (Event Packet UdsCommunicationError)} {retry_counter : Int32} {raw : Packet}
      {result : Outcome UdsError Packet}
      (hrun : Visits overflow_checks sid data es (receiving retry_counter))
      (hjudge : judge overflow_checks sid retry_counter raw = returned result) :
      Ending overflow_checks sid data (es ++ [.received (.ok raw)]) result
  | receive_failed {es : List (Event Packet UdsCommunicationError)} {retry_counter : Int32}
      (e : UdsCommunicationError)
      (hrun : Visits overflow_checks sid data es (receiving retry_counter)) :
      Ending overflow_checks sid data (es ++ [.received (.error e)]) (err (.CommunicationError e))
  | delayed {es : List (Event Packet UdsCommunicationError)} (raw : Packet)
      (hrun : Visits overflow_checks sid data es waiting) :
      Ending overflow_checks sid data (es ++ [.waited (some (.ok raw))]) (.ok raw)
  | wait_failed {es : List (Event Packet UdsCommunicationError)} (e : UdsCommunicationError)
      (hrun : Visits overflow_checks sid data es waiting) :
      Ending overflow_checks sid data (es ++ [.waited (some (.error e))])
        (err (.CommunicationError e))
  | expired {es : List (Event Packet UdsCommunicationError)}
      (hrun : Visits overflow_checks sid data es waiting) :
      Ending overflow_checks sid data (es ++ [.waited none])
        (err (.NRC ⟨sid, RequestCorrectlyReceivedResponsePending⟩))

theorem visits_returned {result : Outcome UdsError Packet}
    (h : Visits overflow_checks sid data es (returned result)) :
    Ending overflow_checks sid data es result := by
  generalize hstage : returned result = s at h
  cases h with
  | nil => cases hstage
  | @snoc es' s _ _ hrun hstep =>
    cases hstep with
    | sent => cases hstage
    | send_failed _ e => cases hstage; exact .send_failed e hrun
    | received previous raw => exact .judged hrun hstage.symm
    | receive_failed _ e => cases hstage; exact .receive_failed e hrun
    | delayed raw => cases hstage; exact .delayed raw hrun
    | wait_failed e => cases hstage; exact .wait_failed e hrun
    | expired => cases hstage; exact .expired hrun

theorem ending_of_returns {result : Outcome UdsError Packet}
    (h : Returns (UdsClient.send_and_receive overflow_checks (sid :: data)) es result) :
    Ending overflow_checks sid data es result := visits_returned (returns_iff.mp h)

theorem judge_returned {retry_counter : Int32} {raw : Packet} {result : Outcome UdsError Packet}
    (h : judge overflow_checks sid retry_counter raw = returned result) :
    (verdict sid raw = .accept ∧ result = .ok raw) ∨
      (∃ e, verdict sid raw = .reject e ∧ result = err e) ∨
      (verdict sid raw = .busy ∧ (result = err (.NRC ⟨sid, BusyRepeatRequest⟩) ∨
        result = .error (.panic .arithmetic_overflow))) := by
  cases hverdict : verdict sid raw with
  | accept =>
    simp only [judge, hverdict] at h
    cases h
    exact .inl ⟨rfl, rfl⟩
  | reject e =>
    simp only [judge, hverdict] at h
    cases h
    exact .inr (.inl ⟨e, rfl, rfl⟩)
  | pending =>
    simp only [judge, hverdict] at h
    cases h
  | busy =>
    simp only [judge, hverdict] at h
    refine .inr (.inr ⟨rfl, ?_⟩)
    split at h
    · next stop hsub =>
      cases h
      rw [panic_of_i32_sub_eq_error hsub]
      exact .inr rfl
    · split_ifs at h
      cases h
      exact .inl rfl

theorem accept_of_judge_ok {retry_counter : Int32} {raw p : Packet}
    (h : judge overflow_checks sid retry_counter raw = returned (.ok p)) :
    raw = p ∧ verdict sid raw = .accept := by
  rcases judge_returned h with ⟨hverdict, hok⟩ | ⟨e, -, herr⟩ | ⟨-, hbusy | hpanic⟩
  · cases hok
    exact ⟨rfl, hverdict⟩
  · cases herr
  · cases hbusy
  · cases hpanic

/-- A returned packet was taken from the socket by the last operation, by the
receive or by the one under the timer. -/
theorem last_of_returns_ok {p : Packet}
    (h : Returns (UdsClient.send_and_receive overflow_checks (sid :: data)) es (.ok p)) :
    ∃ es' e, es = es' ++ [e] ∧ e.delivered = some p := by
  generalize hresult : (Except.ok p : Outcome UdsError Packet) = result at h
  cases ending_of_returns h with
  | send_failed => cases hresult
  | judged hrun hjudge =>
    obtain ⟨rfl, -⟩ := accept_of_judge_ok (hresult ▸ hjudge)
    exact ⟨_, _, rfl, rfl⟩
  | receive_failed => cases hresult
  | delayed raw hrun =>
    cases hresult
    exact ⟨_, _, rfl, rfl⟩
  | wait_failed => cases hresult
  | expired => cases hresult

end uds_rs.uds.Stage
