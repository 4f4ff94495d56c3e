import UdsRs.Uds.SendAndReceive.Served

namespace uds_rs.uds

open async_sock rust TryFromPrimitive NegativeResponseCode UdsClient Stage

variable {overflow_checks : Bool} {sid : UInt8} {data : Packet}

/-- An error that reports an NRC reports it for the service of the request. -/
structure Attributed (sid : UInt8) (result : Outcome UdsError Packet) : Prop where
  nrc : ∀ nrc, result = err (.NRC nrc) → nrc.rejected_sid = sid
  unknown : ∀ rejected_sid code, result = err (.UnknownNRC rejected_sid code) → rejected_sid = sid

/-- A negative response of another service with a code that is no NRC.
`parse_for_error` classifies the code before the loop looks at the rejected SID, and
a code it does not know ends the exchange before that look. -/
def ForeignUnknown (sid : UInt8) (raw : Packet) : Prop :=
  ∃ rejected_sid code rest, raw = NEGATIVE_RESPONSE_SID :: rejected_sid :: code :: rest ∧
    rejected_sid ≠ sid ∧ ∀ nrc : NegativeResponseCode, to_u8 nrc ≠ code

theorem ForeignUnknown.not_busy {raw : Packet} (h : ForeignUnknown sid raw) : ¬ Busy sid raw := by
  obtain ⟨rejected_sid, code, rest, rfl, hsid, -⟩ := h
  intro hbusy
  obtain ⟨tail, htail⟩ := negative_iff.mp hbusy
  cases htail
  exact hsid rfl

/-- After the busy answers the packet `raw` is reported as a response to another
service and nothing more is transmitted. -/
structure ReportsMismatch (overflow_checks : Bool) (sid : UInt8) (data : Packet)
    (busy : List Packet) (rejected_sid : UInt8) (raw : Packet) (stream : Stream' Packet) : Prop where
  result : serve (send_and_receive overflow_checks (sid :: data)) (busy ++ₛ Stream'.cons raw stream) =
    err (.SidMismatch sid rejected_sid raw)
  silent : transmissions (transcript (send_and_receive overflow_checks (sid :: data))
      (busy ++ₛ Stream'.cons raw stream)) =
    List.replicate (busy.length + 1) (sid :: data)

theorem serve_foreign_unknown {busy : List Packet} {rejected_sid code : UInt8} (tail : Packet)
    (stream : Stream' Packet) (hbusy : ∀ raw ∈ busy, Busy sid raw)
    (hlimit : busy.length < retry_limit overflow_checks)
    (hcode : ∀ nrc : NegativeResponseCode, to_u8 nrc ≠ code) :
    serve (send_and_receive overflow_checks (sid :: data))
        (busy ++ₛ Stream'.cons (NEGATIVE_RESPONSE_SID :: rejected_sid :: code :: tail) stream) =
      err (.UnknownNRC rejected_sid code) := by
  have hverdict := verdict_unknown hcode sid rejected_sid tail
  exact (serve_returned data hbusy hlimit (judge_reject hverdict) stream).1

theorem reportsMismatch_iff {busy : List Packet} {rejected_sid code : UInt8} (tail : Packet)
    (stream : Stream' Packet) (hbusy : ∀ raw ∈ busy, Busy sid raw)
    (hlimit : busy.length < retry_limit overflow_checks) (hsid : rejected_sid ≠ sid) :
    ReportsMismatch overflow_checks sid data busy rejected_sid
        (NEGATIVE_RESPONSE_SID :: rejected_sid :: code :: tail) stream ↔
      ∃ nrc : NegativeResponseCode, to_u8 nrc = code := by
  constructor
  · intro h
    by_contra hnone
    have hresult := h.result
    rw [serve_foreign_unknown tail stream hbusy hlimit (not_exists.mp hnone)] at hresult
    cases err_inj.mp hresult
  · rintro ⟨nrc, rfl⟩
    have hverdict := verdict_foreign hsid nrc tail
    obtain ⟨hserve, hsends⟩ := serve_returned data hbusy hlimit (judge_reject hverdict) stream
    exact ⟨hserve, hsends⟩

theorem attributed_ok (raw : Packet) : Attributed sid (.ok raw) := ⟨nofun, nofun⟩

theorem attributed_communication_error (e : UdsCommunicationError) :
    Attributed sid (err (.CommunicationError e)) := ⟨nofun, nofun⟩

/-- A judged packet is blamed on its own service unless its code is unknown. -/
theorem attributed_of_judge {retry_counter : Int32} {raw : Packet}
    {result : Outcome UdsError Packet}
    (hjudge : judge overflow_checks sid retry_counter raw = returned result)
    (hraw : ¬ ForeignUnknown sid raw) : Attributed sid result := by
  rcases judge_returned hjudge with ⟨-, rfl⟩ | ⟨e, hverdict, rfl⟩ | ⟨-, rfl | rfl⟩
  · exact attributed_ok raw
  · refine ⟨?_, ?_⟩
    · intro nrc hnrc
      cases err_inj.mp hnrc
      exact rejected_sid_of_verdict_nrc hverdict
    · intro rejected_sid code hunknown
      cases err_inj.mp hunknown
      obtain ⟨⟨rest, rfl⟩, hcode⟩ := packet_of_verdict_unknown hverdict
      by_contra hsid
      exact hraw ⟨rejected_sid, code, rest, rfl, hsid, hcode⟩
  · refine ⟨?_, nofun⟩
    intro nrc hnrc
    cases err_inj.mp hnrc
    rfl
  · exact ⟨nofun, nofun⟩

/-- Without a pending answer an exchange attributes its error to its own service
exactly when the last packet is not a foreign one with an unknown code. -/
theorem attributed_iff {es : List (Event Packet UdsCommunicationError)}
    {result : Outcome UdsError Packet}
    (h : Returns (send_and_receive overflow_checks (sid :: data)) es result)
    (hpending : ∀ raw ∈ deliveries es, ¬ Pending sid raw) :
    Attributed sid result ↔ ∀ raw ∈ (deliveries es).getLast?, ¬ ForeignUnknown sid raw := by
  cases ending_of_returns h with
  | @send_failed es _ e hrun =>
    apply iff_of_true (attributed_communication_error e)
    intro raw hraw hforeign
    have hmem : raw ∈ deliveries es := List.mem_of_getLast? (by simpa using hraw)
    exact hforeign.not_busy (busy_of_visits_sending hrun raw hmem)
  | @judged es retry_counter raw result hrun hjudge =>
    have hlast : (deliveries (es ++ [.received (.ok raw)])).getLast? = some raw := by simp
    simp only [hlast, Option.mem_some_iff, forall_eq']
    constructor
    · rintro hattributed ⟨rejected_sid, code, rest, rfl, hsid, hcode⟩
      rw [judge_reject (verdict_unknown hcode sid rejected_sid rest)] at hjudge
      cases hjudge
      exact hsid (hattributed.unknown rejected_sid code rfl)
    · intro hraw
      exact attributed_of_judge hjudge hraw
  | @receive_failed es _ e hrun =>
    apply iff_of_true (attributed_communication_error e)
    intro raw hraw hforeign
    have hmem : raw ∈ deliveries es := List.mem_of_getLast? (by simpa using hraw)
    exact hforeign.not_busy (busy_of_visits_receiving hrun raw hmem)
  -- whoever waits under the timer has had a pending answer
  | delayed | wait_failed | expired =>
    rename_i hrun
    obtain ⟨busy, pend, hdeliveries, -, hpend⟩ := deliveries_of_visits_waiting hrun
    exact absurd hpend (hpending pend (by simp [hdeliveries]))

/-- Negative responses of other services are kept off the request exactly as far as
their codes are known: after any number of busy answers, and in every run without a
pending answer. After a pending answer no packet is looked at, so nothing is claimed
there. -/
theorem rejected_sid_checked_iff :
    (∀ busy rejected_sid code tail stream, (∀ raw ∈ busy, Busy sid raw) →
      busy.length < retry_limit overflow_checks → rejected_sid ≠ sid →
      (ReportsMismatch overflow_checks sid data busy rejected_sid
          (NEGATIVE_RESPONSE_SID :: rejected_sid :: code :: tail) stream ↔
        ∃ nrc : NegativeResponseCode, to_u8 nrc = code)) ∧
    ∀ es result, Returns (send_and_receive overflow_checks (sid :: data)) es result →
      (∀ raw ∈ deliveries es, ¬ Pending sid raw) →
      (Attributed sid result ↔ ∀ raw ∈ (deliveries es).getLast?, ¬ ForeignUnknown sid raw) := by
  constructor
  · intro busy rejected_sid code tail stream hbusy hlimit hsid
    exact reportsMismatch_iff tail stream hbusy hlimit hsid
  · intro es result h hpending
    exact attributed_iff h hpending

theorem rejected_sid_checked_iff_write :
    ReportsMismatch true 0x23 [0x11, 0x10, 0x01] [[0x7F, 0x23, 0x21]] 0x2E [0x7F, 0x2E, 0x31]
        (Stream'.const []) ∧
      Attributed 0x23 (err (.SidMismatch 0x23 0x2E [0x7F, 0x2E, 0x31])) := by
  have hjudge : judge true 0x23 0 [0x7F, 0x2E, 0x31] =
      returned (err (.SidMismatch 0x23 0x2E [0x7F, 0x2E, 0x31])) := by decide
  have hrun : Returns (send_and_receive true [0x23, 0x11, 0x10, 0x01])
      [.sent [0x23, 0x11, 0x10, 0x01] (.ok ()), .received (.ok [0x7F, 0x2E, 0x31])]
      (err (.SidMismatch 0x23 0x2E [0x7F, 0x2E, 0x31])) :=
    returns_iff.mpr (.snoc (.snoc .nil (.sent 0)) (hjudge ▸ .received 0 [0x7F, 0x2E, 0x31]))
  constructor
  · exact (rejected_sid_checked_iff.1 [[0x7F, 0x23, 0x21]] 0x2E 0x31 [] (Stream'.const [])
      (by decide) (by decide) (by decide)).mpr ⟨.RequestOutOfRange, rfl⟩
  · apply (rejected_sid_checked_iff.2 _ _ hrun (by decide)).mpr
    rintro raw hraw ⟨rejected_sid, code, rest, rfl, -, hcode⟩
    cases hraw
    exact hcode .RequestOutOfRange rfl

/-- The same rejection with the code 0xFF, which is no NRC, is reported with the SID
of the write. -/
theorem not_reportsMismatch_unknown :
    ¬ ReportsMismatch true 0x23 [0x11, 0x10, 0x01] [[0x7F, 0x23, 0x21]] 0x2E [0x7F, 0x2E, 0xFF]
      (Stream'.const []) := by
  intro h
  have hcode : ∀ nrc : NegativeResponseCode, to_u8 nrc ≠ 0xFF := by
    intro nrc
    cases nrc <;> decide
  have hserve : serve (send_and_receive true [0x23, 0x11, 0x10, 0x01])
      ([[0x7F, 0x23, 0x21]] ++ₛ Stream'.cons [0x7F, 0x2E, 0xFF] (Stream'.const [])) =
        err (.UnknownNRC 0x2E 0xFF) :=
    serve_foreign_unknown [] (Stream'.const []) (by decide) (by decide) hcode
  have hresult := h.result
  rw [hserve] at hresult
  cases err_inj.mp hresult

end uds_rs.uds
