import UdsRs.Uds.SendAndReceive.Served

namespace uds_rs.uds

open async_sock rust TryFromPrimitive NegativeResponseCode UdsClient Stage

variable {overflow_checks : Bool} {sid : UInt8} {data : Packet}

/-- The packet neither asks the client to repeat nor to wait. Before it come busy
and pending answers, and it is what an exchange should be decided by. -/
def Decisive (sid : UInt8) (f : Packet) : Prop := ¬ Busy sid f ∧ ¬ Pending sid f

instance (sid : UInt8) (f : Packet) : Decidable (Decisive sid f) :=
  inferInstanceAs (Decidable (_ ∧ _))

abbrev answered (overflow_checks : Bool) (sid : UInt8) (data : Packet) (ws : List Packet)
    (f : Packet) (rest : Stream' Packet) : Outcome UdsError Packet :=
  serve (send_and_receive overflow_checks (sid :: data)) (ws ++ₛ Stream'.cons f rest)

/-- The result depends only on `f`, and in the way `f` reads: a positive response is
returned, a negative one is the error that it spells out, and nothing is returned
that was not checked. -/
structure DecidedBy (overflow_checks : Bool) (sid : UInt8) (data : Packet) (ws : List Packet)
    (f : Packet) (rest : Stream' Packet) : Prop where
  only : ∀ rest', answered overflow_checks sid data ws f rest =
    answered overflow_checks sid data [] f rest'
  positive : f ≠ [] → f.head? ≠ some NEGATIVE_RESPONSE_SID →
    answered overflow_checks sid data ws f rest = .ok f
  nrc : ∀ nrc tail, f = NEGATIVE_RESPONSE_SID :: sid :: to_u8 (nrc : NegativeResponseCode) :: tail →
    answered overflow_checks sid data ws f rest = err (.NRC ⟨sid, nrc⟩)
  error : ∀ e, parse_for_error f = err e →
    (∀ rejected_sid tail, f = NEGATIVE_RESPONSE_SID :: rejected_sid :: tail → rejected_sid = sid) →
    answered overflow_checks sid data ws f rest = err e
  checked : ∀ r, answered overflow_checks sid data ws f rest = .ok r →
    r ≠ [] ∧ r.head? ≠ some NEGATIVE_RESPONSE_SID ∧ parse_for_error r = .ok ()

theorem Decisive.verdict_cases {f : Packet} (hf : Decisive sid f) :
    verdict sid f = .accept ∨ ∃ e, verdict sid f = .reject e := by
  cases hverdict : verdict sid f with
  | accept => exact .inl rfl
  | busy => exact absurd (verdict_eq_busy_iff.mp hverdict) hf.1
  | pending => exact absurd (verdict_eq_pending_iff.mp hverdict) hf.2
  | reject e => exact .inr ⟨e, rfl⟩

/-- A decisive packet ends the exchange in the same way at any counter. -/
theorem Decisive.judge_eq {f : Packet} (hf : Decisive sid f) (overflow_checks : Bool) :
    ∃ result, ∀ retry_counter, judge overflow_checks sid retry_counter f = returned result := by
  rcases hf.verdict_cases with haccept | ⟨e, hreject⟩
  · exact ⟨.ok f, judge_accept haccept⟩
  · exact ⟨err e, judge_reject hreject⟩

theorem answered_of_busy {ws : List Packet} {f : Packet} {result : Outcome UdsError Packet}
    (rest : Stream' Packet) (hbusy : ∀ raw ∈ ws, Busy sid raw)
    (hlimit : ws.length < retry_limit overflow_checks)
    (hjudge : ∀ retry_counter, judge overflow_checks sid retry_counter f = returned result) :
    answered overflow_checks sid data ws f rest = result :=
  (serve_returned data hbusy hlimit hjudge rest).1

theorem answered_first {f : Packet} {result : Outcome UdsError Packet} (rest : Stream' Packet)
    (hjudge : ∀ retry_counter, judge overflow_checks sid retry_counter f = returned result) :
    answered overflow_checks sid data [] f rest = result := by
  have hlimit : ([] : List Packet).length < retry_limit overflow_checks :=
    Nat.lt_of_le_of_lt (Nat.zero_le _) (lt_retry_limit overflow_checks)
  exact answered_of_busy rest (by simp) hlimit hjudge

/-- After a pending answer the next packet is handed out unseen, whatever it is. -/
theorem answered_of_pending {bs : List Packet} {pend : Packet} (f : Packet) (rest : Stream' Packet)
    (hbusy : ∀ raw ∈ bs, Busy sid raw) (hlimit : bs.length < retry_limit overflow_checks)
    (hpending : Pending sid pend) :
    answered overflow_checks sid data (bs ++ [pend]) f rest = .ok f := by
  unfold answered
  rw [Stream'.append_append_stream]
  exact serve_pending data hbusy hlimit hpending f rest

theorem answered_of_pending_cons {bs more : List Packet} {pend w : Packet} (f : Packet)
    (rest : Stream' Packet) (hbusy : ∀ raw ∈ bs, Busy sid raw)
    (hlimit : bs.length < retry_limit overflow_checks) (hpending : Pending sid pend) :
    answered overflow_checks sid data (bs ++ pend :: w :: more) f rest = .ok w := by
  unfold answered
  rw [Stream'.append_append_stream]
  exact serve_pending data hbusy hlimit hpending w (more ++ₛ Stream'.cons f rest)

/-- Where the answers before `f` are all busy, `f` is judged like a first answer. -/
theorem decidedBy_of_busy {ws : List Packet} {f : Packet} (rest : Stream' Packet)
    (hbusy : ∀ raw ∈ ws, Busy sid raw) (hlimit : ws.length < retry_limit overflow_checks)
    (hf : Decisive sid f) : DecidedBy overflow_checks sid data ws f rest := by
  have hreject : ∀ {e}, verdict sid f = .reject e →
      answered overflow_checks sid data ws f rest = err e :=
    fun hverdict => answered_of_busy rest hbusy hlimit (judge_reject hverdict)
  have haccept : parse_for_error f = .ok () →
      answered overflow_checks sid data ws f rest = .ok f :=
    fun hok => answered_of_busy rest hbusy hlimit (judge_accept (verdict_eq_accept_iff.mpr hok))
  refine ⟨?_, ?_, ?_, ?_, ?_⟩
  · intro rest'
    obtain ⟨result, hjudge⟩ := hf.judge_eq overflow_checks
    rw [answered_of_busy rest hbusy hlimit hjudge, answered_first rest' hjudge]
  · intro hne hhead
    exact haccept (parse_for_error_eq_ok_iff.mpr ⟨hne, hhead⟩)
  · rintro nrc tail rfl
    have hnotbusy : nrc ≠ BusyRepeatRequest := fun h => hf.1 (h ▸ rfl)
    have hnotpending : nrc ≠ RequestCorrectlyReceivedResponsePending := fun h => hf.2 (h ▸ rfl)
    exact hreject (by rw [verdict_nrc, if_neg hnotbusy, if_neg hnotpending])
  · intro e herror hsid
    exact hreject (verdict_of_parse_for_error herror hf.1 hf.2 hsid)
  · intro r hr
    rcases hf.verdict_cases with hverdict | ⟨e, hverdict⟩
    · have hchecked := verdict_eq_accept_iff.mp hverdict
      obtain ⟨hne, hhead⟩ := parse_for_error_eq_ok_iff.mp hchecked
      rw [haccept hchecked] at hr
      cases hr
      exact ⟨hne, hhead, hchecked⟩
    · rw [hreject hverdict] at hr
      cases hr

/-- A positive response after one pending answer is handed out unseen, which is what
checking it would give. -/
theorem decidedBy_of_pending {bs : List Packet} {pend f : Packet} (rest : Stream' Packet)
    (hbusy : ∀ raw ∈ bs, Busy sid raw) (hlimit : bs.length < retry_limit overflow_checks)
    (hpending : Pending sid pend) (hne : f ≠ []) (hhead : f.head? ≠ some NEGATIVE_RESPONSE_SID) :
    DecidedBy overflow_checks sid data (bs ++ [pend]) f rest := by
  have hanswered : answered overflow_checks sid data (bs ++ [pend]) f rest = .ok f :=
    answered_of_pending f rest hbusy hlimit hpending
  have hchecked : parse_for_error f = .ok () := parse_for_error_eq_ok_iff.mpr ⟨hne, hhead⟩
  refine ⟨?_, fun _ _ => hanswered, ?_, ?_, ?_⟩
  · intro rest'
    have hverdict : verdict sid f = .accept := verdict_eq_accept_iff.mpr hchecked
    rw [hanswered, answered_first rest' (judge_accept hverdict)]
  · rintro nrc tail rfl
    exact absurd rfl hhead
  · intro e herror
    rw [hchecked] at herror
    cases herror
  · intro r hr
    rw [hanswered] at hr
    cases hr
    exact ⟨hne, hhead, hchecked⟩

/-- With a pending answer anywhere else the client returns a packet it has not
checked, so this is the only place for one. -/
theorem DecidedBy.busy_or_pending {ws : List Packet} {f : Packet} {rest : Stream' Packet}
    (h : DecidedBy overflow_checks sid data ws f rest)
    (hws : ∀ raw ∈ ws, Busy sid raw ∨ Pending sid raw)
    (hlimit : ws.countP (fun raw => Busy sid raw) < retry_limit overflow_checks) :
    (∀ raw ∈ ws, Busy sid raw) ∨ ∃ bs pend, ws = bs ++ [pend] ∧ (∀ raw ∈ bs, Busy sid raw) ∧
      Pending sid pend ∧ f ≠ [] ∧ f.head? ≠ some NEGATIVE_RESPONSE_SID := by
  cases hfind : ws.find? (fun raw => ¬ Busy sid raw) with
  | none => exact .inl (by simpa using hfind)
  | some pend =>
    obtain ⟨hnotbusy, bs, more, rfl, hbs⟩ := List.find?_eq_some_iff_append.mp hfind
    have hbusy : ∀ raw ∈ bs, Busy sid raw := by simpa using hbs
    have hpending : Pending sid pend := by
      have hcases := hws pend (by simp)
      have hne : ¬ Busy sid pend := by simpa using hnotbusy
      exact hcases.resolve_left hne
    have hcount : bs.countP (fun raw => Busy sid raw) = bs.length :=
      List.countP_eq_length.mpr (by simpa using hbusy)
    have hbound : bs.length < retry_limit overflow_checks := by
      rw [List.countP_append, hcount] at hlimit
      omega
    cases more with
    | nil =>
      obtain ⟨hne, hhead, -⟩ := h.checked f (answered_of_pending f rest hbusy hbound hpending)
      exact .inr ⟨bs, pend, rfl, hbusy, hpending, hne, hhead⟩
    | cons w more =>
      obtain ⟨-, -, hchecked⟩ :=
        h.checked w (answered_of_pending_cons f rest hbusy hbound hpending)
      have hw : verdict sid w = .accept := verdict_eq_accept_iff.mpr hchecked
      rcases hws w (by simp) with hbusyw | hpendingw
      · rw [verdict_eq_busy_iff.mpr hbusyw] at hw
        cases hw
      · rw [verdict_eq_pending_iff.mpr hpendingw] at hw
        cases hw

/-- Busy and pending answers followed by a decisive packet are resolved by that
packet exactly when none of them is pending, or only the last one is and the
decisive packet is a positive response. The busy answers must not use up the retry
limit; the packets after `f` are of no account. -/
theorem decidedBy_iff {ws : List Packet} {f : Packet} (rest : Stream' Packet)
    (hws : ∀ raw ∈ ws, Busy sid raw ∨ Pending sid raw)
    (hlimit : ws.countP (fun raw => Busy sid raw) < retry_limit overflow_checks)
    (hf : Decisive sid f) :
    DecidedBy overflow_checks sid data ws f rest ↔
      (∀ raw ∈ ws, Busy sid raw) ∨ ∃ bs pend, ws = bs ++ [pend] ∧ (∀ raw ∈ bs, Busy sid raw) ∧
        Pending sid pend ∧ f ≠ [] ∧ f.head? ≠ some NEGATIVE_RESPONSE_SID := by
  constructor
  · intro h
    exact h.busy_or_pending hws hlimit
  · rintro (hbusy | ⟨bs, pend, rfl, hbusy, hpending, hne, hhead⟩)
    · have hcount : ws.countP (fun raw => Busy sid raw) = ws.length :=
        List.countP_eq_length.mpr (by simpa using hbusy)
      exact decidedBy_of_busy rest hbusy (hcount ▸ hlimit) hf
    · have hcount : bs.countP (fun raw => Busy sid raw) = bs.length :=
        List.countP_eq_length.mpr (by simpa using hbusy)
      rw [List.countP_append, hcount] at hlimit
      exact decidedBy_of_pending rest hbusy (by omega) hpending hne hhead

theorem decidedBy_iff_read_memory :
    DecidedBy true 0x23 [0x11, 0x10, 0x01] [[0x7F, 0x23, 0x21], [0x7F, 0x23, 0x78]] [0x63, 0xAA]
      (Stream'.const []) := by
  apply (decidedBy_iff (Stream'.const []) (by decide) (by decide) (by decide)).mpr
  exact .inr ⟨[[0x7F, 0x23, 0x21]], [0x7F, 0x23, 0x78], rfl, by decide, by decide, by decide, by decide⟩

/-- After two pending answers the second one is returned as the response, although a
negative packet is never one. -/
theorem not_decidedBy_of_two_pending :
    (∀ raw ∈ [[0x7F, 0x23, 0x78], [0x7F, 0x23, 0x78]], Busy 0x23 raw ∨ Pending 0x23 raw) ∧
      [[0x7F, 0x23, 0x78], [0x7F, 0x23, 0x78]].countP (fun raw => Busy 0x23 raw) <
        retry_limit true ∧
      Decisive 0x23 [0x63, 0xAA] ∧
      ¬ DecidedBy true 0x23 [0x11, 0x10, 0x01] [[0x7F, 0x23, 0x78], [0x7F, 0x23, 0x78]] [0x63, 0xAA]
        (Stream'.const []) := by
  refine ⟨by decide, by decide, by decide, ?_⟩
  intro h
  have hanswered : answered true 0x23 [0x11, 0x10, 0x01] ([] ++ [[0x7F, 0x23, 0x78], [0x7F, 0x23, 0x78]])
      [0x63, 0xAA] (Stream'.const []) = .ok [0x7F, 0x23, 0x78] :=
    answered_of_pending_cons [0x63, 0xAA] (Stream'.const []) (by simp) (by decide) (by decide)
  obtain ⟨-, hhead, -⟩ := h.checked [0x7F, 0x23, 0x78] hanswered
  exact hhead rfl

end uds_rs.uds
