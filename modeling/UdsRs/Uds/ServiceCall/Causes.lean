import UdsRs.Uds.ServiceCall.Errors
import UdsRs.Uds.ServiceCall.Runs

namespace uds_rs.uds

open async_sock rust TryFromPrimitive NegativeResponseCode UdsClient Stage

variable {overflow_checks : Bool} {sid : UInt8} {raw : Packet} {e : UdsError}
  {es : List (Event Packet UdsCommunicationError)}

/-- What the exchange refuses a packet for, with the error that says so. -/
inductive Refusal (sid : UInt8) (raw : Packet) : UdsError → Prop where
  | empty (h : raw = [] ∨ ShortNegative raw) : Refusal sid raw .ResponseEmpty
  | unknown {rejected_sid code : UInt8} {rest : Packet}
      (hraw : raw = NEGATIVE_RESPONSE_SID :: rejected_sid :: code :: rest)
      (hcode : ∀ nrc : NegativeResponseCode, to_u8 nrc ≠ code) :
      Refusal sid raw (.UnknownNRC rejected_sid code)
  | foreign {rejected_sid : UInt8} {nrc : NegativeResponseCode} {rest : Packet}
      (hraw : raw = NEGATIVE_RESPONSE_SID :: rejected_sid :: to_u8 nrc :: rest)
      (hsid : rejected_sid ≠ sid) : Refusal sid raw (.SidMismatch sid rejected_sid raw)
  | negative {nrc : NegativeResponseCode} {rest : Packet}
      (hraw : raw = NEGATIVE_RESPONSE_SID :: sid :: to_u8 nrc :: rest)
      (hbusy : nrc ≠ BusyRepeatRequest)
      (hpending : nrc ≠ RequestCorrectlyReceivedResponsePending) : Refusal sid raw (.NRC ⟨sid, nrc⟩)

theorem refusal_of_verdict (h : verdict sid raw = .reject e) : Refusal sid raw e := by
  rcases packet_cases raw with
    rfl | ⟨first, rest, hfirst, rfl⟩ | rfl | ⟨rejected_sid, rfl⟩ | ⟨rejected_sid, code, rest, rfl⟩
  · cases h
    exact .empty (.inl rfl)
  · rw [verdict_positive hfirst] at h
    cases h
  · cases h
    exact .empty (.inr (.inl rfl))
  · cases h
    exact .empty (.inr (.inr ⟨rejected_sid, rfl⟩))
  · rw [verdict_negative] at h
    cases hcode : (try_from_primitive code : Except _ NegativeResponseCode) with
    | error unknown =>
      rw [hcode] at h
      cases h
      exact .unknown rfl (try_from_primitive_eq_error_iff.mp hcode).2
    | ok nrc =>
      obtain rfl := try_from_primitive_eq_ok_iff.mp hcode
      rw [hcode] at h
      dsimp only at h
      split_ifs at h with hsid hbusy hpending
      · cases h
        exact .foreign rfl hsid
      · cases h
        obtain rfl := not_not.mp hsid
        exact .negative rfl hbusy hpending

theorem Refusal.verdict_eq (h : Refusal sid raw e) : verdict sid raw = .reject e := by
  cases h with
  | empty h =>
    rcases h with rfl | rfl | ⟨rejected_sid, rfl⟩
    · rfl
    · rfl
    · rfl
  | unknown hraw hcode =>
    subst hraw
    exact verdict_unknown hcode sid _ _
  | foreign hraw hsid =>
    subst hraw
    exact verdict_foreign hsid _ _
  | negative hraw hbusy hpending =>
    subst hraw
    rw [verdict_nrc, if_neg hbusy, if_neg hpending]

theorem verdict_eq_reject_iff : verdict sid raw = .reject e ↔ Refusal sid raw e :=
  ⟨refusal_of_verdict, Refusal.verdict_eq⟩

namespace ServiceCall

variable {call : ServiceCall}

/-- What makes a call return the error after the operations: its arguments, the last
operation and the packet it delivered, or the number of busy answers before. The
result of the call is not mentioned. -/
inductive Cause (overflow_checks : Bool) (call : ServiceCall)
    (es : List (Event Packet UdsCommunicationError)) : UdsError → Prop where
  | arguments (h : call.arguments overflow_checks = err .InvalidArgument) :
      Cause overflow_checks call es .InvalidArgument
  | socket {last : Event Packet UdsCommunicationError} {failure : UdsCommunicationError}
      (hlast : es.getLast? = some last) (h : last.failure = some failure) :
      Cause overflow_checks call es (.CommunicationError failure)
  | timeout (hlast : es.getLast? = some (.waited none)) :
      Cause overflow_checks call es (.NRC ⟨call.sid, RequestCorrectlyReceivedResponsePending⟩)
  | refused {raw : Packet} {e : UdsError} (hlast : es.getLast? = some (.received (.ok raw)))
      (h : Refusal call.sid raw e) : Cause overflow_checks call es e
  /-- The counter has wrapped around; with overflow checks the call panics before that. -/
  | exhausted {raw : Packet} (hlast : es.getLast? = some (.received (.ok raw)))
      (hbusy : ∀ raw ∈ deliveries es, Busy call.sid raw) (hcount : (deliveries es).length = 2 ^ 32)
      (hbuild : overflow_checks = false) :
      Cause overflow_checks call es (.NRC ⟨call.sid, BusyRepeatRequest⟩)
  | unparsed {raw : Packet} {e : UdsError}
      (hlast : es.getLast? = some (.received (.ok raw)) ∧ verdict call.sid raw = .accept ∨
        es.getLast? = some (.waited (some (.ok raw))))
      (h : call.parse raw = err e) : Cause overflow_checks call es e

section LastOperation

variable {data : Packet}

theorem cause_of_failure (hdata : call.arguments overflow_checks = .ok data)
    {last : Event Packet UdsCommunicationError} {failure : UdsCommunicationError}
    (hlast : es.getLast? = some last) (hfailure : last.failure = some failure) :
    Cause overflow_checks call es e ↔ e = .CommunicationError failure := by
  constructor
  · intro h
    cases h with
    | arguments h =>
      rw [hdata] at h
      cases h
    | socket hlast' h =>
      cases hlast.symm.trans hlast'
      cases hfailure.symm.trans h
      rfl
    | timeout hlast' =>
      cases hlast.symm.trans hlast'
      cases hfailure
    | refused hlast' | exhausted hlast' =>
      cases hlast.symm.trans hlast'
      cases hfailure
    | unparsed hlast' =>
      rcases hlast' with ⟨hlast', -⟩ | hlast'
      · cases hlast.symm.trans hlast'
        cases hfailure
      · cases hlast.symm.trans hlast'
        cases hfailure
  · rintro rfl
    exact .socket hlast hfailure

theorem cause_of_expired (hdata : call.arguments overflow_checks = .ok data)
    (hlast : es.getLast? = some (.waited none)) :
    Cause overflow_checks call es e ↔
      e = .NRC ⟨call.sid, RequestCorrectlyReceivedResponsePending⟩ := by
  constructor
  · intro h
    cases h with
    | arguments h =>
      rw [hdata] at h
      cases h
    | socket hlast' h =>
      cases hlast.symm.trans hlast'
      cases h
    | timeout => rfl
    | refused hlast' | exhausted hlast' => cases hlast.symm.trans hlast'
    | unparsed hlast' =>
      rcases hlast' with ⟨hlast', -⟩ | hlast'
      · cases hlast.symm.trans hlast'
      · cases hlast.symm.trans hlast'
  · rintro rfl
    exact .timeout hlast

theorem cause_of_waited (hdata : call.arguments overflow_checks = .ok data)
    (hlast : es.getLast? = some (.waited (some (.ok raw)))) :
    Cause overflow_checks call es e ↔ call.parse raw = err e := by
  constructor
  · intro h
    cases h with
    | arguments h =>
      rw [hdata] at h
      cases h
    | socket hlast' h =>
      cases hlast.symm.trans hlast'
      cases h
    | timeout hlast' => cases hlast.symm.trans hlast'
    | refused hlast' | exhausted hlast' => cases hlast.symm.trans hlast'
    | unparsed hlast' h =>
      rcases hlast' with ⟨hlast', -⟩ | hlast'
      · cases hlast.symm.trans hlast'
      · cases hlast.symm.trans hlast'
        exact h
  · exact .unparsed (.inr hlast)

theorem cause_of_received (hdata : call.arguments overflow_checks = .ok data)
    (hlast : es.getLast? = some (.received (.ok raw))) :
    Cause overflow_checks call es e ↔
      Refusal call.sid raw e ∨ (verdict call.sid raw = .accept ∧ call.parse raw = err e) ∨
        (overflow_checks = false ∧ (∀ raw ∈ deliveries es, Busy call.sid raw) ∧
          (deliveries es).length = 2 ^ 32 ∧ e = .NRC ⟨call.sid, BusyRepeatRequest⟩) := by
  constructor
  · intro h
    cases h with
    | arguments h =>
      rw [hdata] at h
      cases h
    | socket hlast' h =>
      cases hlast.symm.trans hlast'
      cases h
    | timeout hlast' => cases hlast.symm.trans hlast'
    | refused hlast' h =>
      cases hlast.symm.trans hlast'
      exact .inl h
    | exhausted hlast' hbusy hcount hbuild => exact .inr (.inr ⟨hbuild, hbusy, hcount, rfl⟩)
    | unparsed hlast' h =>
      rcases hlast' with ⟨hlast', haccept⟩ | hlast'
      · cases hlast.symm.trans hlast'
        exact .inr (.inl ⟨haccept, h⟩)
      · cases hlast.symm.trans hlast'
  · rintro (h | ⟨haccept, h⟩ | ⟨hbuild, hbusy, hcount, rfl⟩)
    · exact .refused hlast h
    · exact .unparsed (.inl ⟨hlast, haccept⟩) h
    · exact .exhausted hlast hbusy hcount hbuild

end LastOperation

section Closings

variable {data : Packet} {busy : List Packet}

theorem getLast?_judged (request : Packet) (busy : List Packet) (raw : Packet) :
    (rounds request busy ++ [Event.sent request (.ok ()), .received (.ok raw)]).getLast? =
      some (.received (.ok raw)) := by simp

theorem getLast?_waited (request : Packet) (busy : List Packet) (pend : Packet)
    (r : Option (Except UdsCommunicationError Packet)) :
    (rounds request busy ++ [Event.sent request (.ok ()), .received (.ok pend),
      .waited r]).getLast? = some (.waited r) := by simp

/-- A packet that is judged is accepted, refused or the last of the busy ones, and
never two of these. -/
theorem judged_error_iff (hdata : call.arguments overflow_checks = .ok data)
    (hbusy : BusyRounds overflow_checks call.sid busy) {raw : Packet}
    {inner : Outcome UdsError Packet}
    (hlast : Closing overflow_checks call.sid data busy.length
      [.sent (call.sid :: data) (.ok ()), .received (.ok raw)] inner) :
    (inner >>= call.parse) = err e ↔
      Cause overflow_checks call (rounds (call.sid :: data) busy ++
        [.sent (call.sid :: data) (.ok ()), .received (.ok raw)]) e := by
  rw [cause_of_received hdata (getLast?_judged _ busy raw), ← verdict_eq_reject_iff]
  have hlastbusy : (∀ p ∈ deliveries (rounds (call.sid :: data) busy ++
      [Event.sent (call.sid :: data) (.ok ()), .received (.ok raw)]), Busy call.sid p) →
        verdict call.sid raw = .busy := by
    intro hall
    exact verdict_eq_busy_iff.mpr (hall raw (by simp))
  cases hlast with
  | accepted haccept =>
    rw [haccept, ok_bind]
    constructor
    · exact fun he => .inr (.inl ⟨rfl, he⟩)
    · rintro (hreject | ⟨-, he⟩ | ⟨-, hall, -⟩)
      · cases hreject
      · exact he
      · cases haccept.symm.trans (hlastbusy hall)
  | rejected hreject =>
    rw [hreject, err_bind]
    constructor
    · intro he
      cases he
      exact .inl rfl
    · rintro (he | ⟨haccept, -⟩ | ⟨-, hall, -⟩)
      · cases he
        rfl
      · cases haccept
      · cases hreject.symm.trans (hlastbusy hall)
  | gave_up hraw hlimit =>
    rw [verdict_eq_busy_iff.mpr hraw]
    cases overflow_checks with
    | true =>
      constructor
      · nofun
      · rintro (hreject | ⟨haccept, -⟩ | ⟨hbuild, -⟩)
        · cases hreject
        · cases haccept
        · cases hbuild
    | false =>
      constructor
      · intro he
        cases he
        refine .inr (.inr ⟨rfl, ?_, ?_, rfl⟩)
        · intro p hp
          have hcases : p ∈ busy ∨ p = raw := by simpa using hp
          rcases hcases with hold | rfl
          · exact hbusy.all p hold
          · exact hraw
        · have hcount : busy.length + 1 = 2 ^ 32 := hlimit
          simpa using hcount
      · rintro (hreject | ⟨haccept, -⟩ | ⟨-, -, -, rfl⟩)
        · cases hreject
        · cases haccept
        · rfl

theorem closing_error_iff (hdata : call.arguments overflow_checks = .ok data)
    (hbusy : BusyRounds overflow_checks call.sid busy)
    {last : List (Event Packet UdsCommunicationError)} {inner : Outcome UdsError Packet}
    (hlast : Closing overflow_checks call.sid data busy.length last inner) :
    (inner >>= call.parse) = err e ↔
      Cause overflow_checks call (rounds (call.sid :: data) busy ++ last) e := by
  cases hlast with
  | send_failed f =>
    rw [cause_of_failure hdata List.getLast?_concat rfl, err_bind, err_inj, eq_comm]
  | receive_failed f =>
    have hfailed : (rounds (call.sid :: data) busy ++
        [Event.sent (call.sid :: data) (.ok ()), .received (.error f)]).getLast? =
          some (.received (.error f)) := by simp
    rw [cause_of_failure hdata hfailed rfl, err_bind, err_inj, eq_comm]
  | accepted haccept => exact judged_error_iff hdata hbusy (.accepted haccept)
  | rejected hreject => exact judged_error_iff hdata hbusy (.rejected hreject)
  | gave_up hraw hlimit => exact judged_error_iff hdata hbusy (.gave_up hraw hlimit)
  | delayed hpending raw => rw [cause_of_waited hdata (getLast?_waited _ _ _ _), ok_bind]
  | wait_failed hpending f =>
    rw [cause_of_failure hdata (getLast?_waited _ _ _ _) rfl, err_bind, err_inj, eq_comm]
  | expired hpending =>
    rw [cause_of_expired hdata (getLast?_waited _ _ _ _), err_bind, err_inj, eq_comm]

end Closings

theorem cause_of_returns (h : Returns (call.run overflow_checks) es (err e)) :
    Cause overflow_checks call es e := by
  rcases returns_run_iff_rounds.mp h with
    ⟨hinvalid, rfl, he⟩ | ⟨data, busy, last, inner, hdata, hbusy, rfl, hlast, he⟩
  · cases he
    exact .arguments hinvalid
  · exact (closing_error_iff hdata hbusy hlast).mp he.symm

/-- A completed call returns an error exactly when its run shows the cause of it. An
error so tells its caller which operation was the last and what was wrong with it.
-/
theorem error_iff_cause {result : EcuResponseResult}
    (h : Returns (call.run overflow_checks) es result) (e : UdsError) :
    result = err e ↔ Cause overflow_checks call es e := by
  constructor
  · rintro rfl
    exact cause_of_returns h
  · intro hcause
    rcases returns_run_iff_rounds.mp h with
      ⟨-, rfl, rfl⟩ | ⟨data, busy, last, inner, hdata, hbusy, rfl, hlast, rfl⟩
    · cases hcause with
      | arguments => rfl
      | socket hnone | timeout hnone | refused hnone | exhausted hnone => cases hnone
      | unparsed hnone => rcases hnone with ⟨hnone, -⟩ | hnone <;> cases hnone
    · exact (closing_error_iff hdata hbusy hlast).mpr hcause

theorem error_iff_cause_write :
    Cause true (write_data_by_identifier 0xF190 [0xAA])
      [.sent [0x2E, 0xF1, 0x90, 0xAA] (.ok ()), .received (.ok [0x7F, 0x2E, 0x78]), .waited none]
      (.NRC ⟨0x2E, RequestCorrectlyReceivedResponsePending⟩) := by
  have hpending : Pending 0x2E [0x7F, 0x2E, 0x78] := by decide
  have hrun := returns_run_iff_rounds.mpr (.inr ⟨[0xF1, 0x90, 0xAA], [], _, _,
    (rfl : (write_data_by_identifier 0xF190 [0xAA]).arguments true = _), busyRounds_nil true 0x2E,
    rfl, .expired hpending, rfl⟩)
  exact (error_iff_cause hrun _).mp rfl

end ServiceCall

end uds_rs.uds
