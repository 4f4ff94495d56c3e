import UdsRs.Uds.SendAndReceive

namespace uds_rs.uds

open rust TryFromPrimitive NegativeResponseCode

/-- A negative response with the given rejected SID and NRC byte; whatever follows
the three bytes is ignored. -/
def Negative (sid code : UInt8) (raw : Packet) : Prop :=
  raw.take 3 = [NEGATIVE_RESPONSE_SID, sid, code]

instance (sid code : UInt8) (raw : Packet) : Decidable (Negative sid code raw) :=
  inferInstanceAs (Decidable (_ = _))

theorem negative_iff {sid code : UInt8} {raw : Packet} :
    Negative sid code raw ↔ ∃ rest, raw = NEGATIVE_RESPONSE_SID :: sid :: code :: rest := by
  rcases raw with _ | ⟨a, _ | ⟨b, _ | ⟨c, rest⟩⟩⟩ <;> simp [Negative]

@[simp] theorem negative_cons (sid code : UInt8) (rest : Packet) :
    Negative sid code (NEGATIVE_RESPONSE_SID :: sid :: code :: rest) := rfl

/-- What the client makes of a packet in an exchange whose request starts with
`sid`. It depends on the packet and the SID, not on what was received before. -/
inductive Verdict where
  | accept
  | busy
  | pending
  | reject (e : UdsError)
  deriving DecidableEq, Repr

def verdict (sid : UInt8) (raw : Packet) : Verdict :=
  match raw with
  | [] => .reject .ResponseEmpty
  | first :: rest =>
    if first ≠ NEGATIVE_RESPONSE_SID then .accept
    else
      match rest with
      | rejected_sid :: code :: _ =>
        match (try_from_primitive code : Except _ NegativeResponseCode) with
        | .error _ => .reject (.UnknownNRC rejected_sid code)
        | .ok nrc =>
          if rejected_sid ≠ sid then .reject (.SidMismatch sid rejected_sid raw)
          else if nrc = BusyRepeatRequest then .busy
          else if nrc = RequestCorrectlyReceivedResponsePending then .pending
          else .reject (.NRC ⟨rejected_sid, nrc⟩)
      | _ => .reject .ResponseEmpty

section ParseForError

@[simp] theorem parse_for_error_nil : parse_for_error [] = err .ResponseEmpty := rfl

@[simp] theorem parse_for_error_single :
    parse_for_error [NEGATIVE_RESPONSE_SID] = err .ResponseEmpty := rfl

@[simp] theorem parse_for_error_pair (rejected_sid : UInt8) :
    parse_for_error [NEGATIVE_RESPONSE_SID, rejected_sid] = err .ResponseEmpty := rfl

theorem parse_for_error_positive {first : UInt8} (h : first ≠ NEGATIVE_RESPONSE_SID)
    (rest : Packet) : parse_for_error (first :: rest) = .ok () := by
  simp [parse_for_error, h]

theorem parse_for_error_negative (rejected_sid code : UInt8) (rest : Packet) :
    parse_for_error (NEGATIVE_RESPONSE_SID :: rejected_sid :: code :: rest) =
      match (try_from_primitive code : Except _ NegativeResponseCode) with
      | .error _ => err (.UnknownNRC rejected_sid code)
      | .ok nrc => err (.NRC ⟨rejected_sid, nrc⟩) := by
  cases h : (try_from_primitive code : Except _ NegativeResponseCode) with
  | error e =>
    obtain ⟨rfl, -⟩ := try_from_primitive_eq_error_iff.mp h
    simp [parse_for_error, h]
  | ok nrc => simp [parse_for_error, h]

theorem packet_cases (raw : Packet) :
    raw = [] ∨ (∃ first rest, first ≠ NEGATIVE_RESPONSE_SID ∧ raw = first :: rest) ∨
      raw = [NEGATIVE_RESPONSE_SID] ∨ (∃ rejected_sid, raw = [NEGATIVE_RESPONSE_SID, rejected_sid]) ∨
      ∃ rejected_sid code rest, raw = NEGATIVE_RESPONSE_SID :: rejected_sid :: code :: rest := by
  cases raw with
  | nil => exact .inl rfl
  | cons first rest =>
    by_cases hfirst : first = NEGATIVE_RESPONSE_SID
    · subst hfirst
      rcases rest with _ | ⟨rejected_sid, _ | ⟨code, rest⟩⟩ <;> simp
    · exact .inr (.inl ⟨first, rest, hfirst, rfl⟩)

end ParseForError

/-- `[0x7F, sid, 0x21, ..]`: the ECU asks for the request of service `sid` to be
repeated. -/
abbrev Busy (sid : UInt8) (raw : Packet) : Prop := Negative sid (to_u8 BusyRepeatRequest) raw

/-- `[0x7F, sid, 0x78, ..]`: the ECU has received the request of service `sid` and
announces its response. -/
abbrev Pending (sid : UInt8) (raw : Packet) : Prop :=
  Negative sid (to_u8 RequestCorrectlyReceivedResponsePending) raw

theorem verdict_positive {sid first : UInt8} (h : first ≠ NEGATIVE_RESPONSE_SID) (rest : Packet) :
    verdict sid (first :: rest) = .accept := by
  simp [verdict, h]

theorem verdict_negative (sid rejected_sid code : UInt8) (rest : Packet) :
    verdict sid (NEGATIVE_RESPONSE_SID :: rejected_sid :: code :: rest) =
      match (try_from_primitive code : Except _ NegativeResponseCode) with
      | .error _ => .reject (.UnknownNRC rejected_sid code)
      | .ok nrc =>
        if rejected_sid ≠ sid then
          .reject (.SidMismatch sid rejected_sid
            (NEGATIVE_RESPONSE_SID :: rejected_sid :: code :: rest))
        else if nrc = BusyRepeatRequest then .busy
        else if nrc = RequestCorrectlyReceivedResponsePending then .pending
        else .reject (.NRC ⟨rejected_sid, nrc⟩) := by
  simp [verdict]

theorem verdict_nrc (sid : UInt8) (nrc : NegativeResponseCode) (rest : Packet) :
    verdict sid (NEGATIVE_RESPONSE_SID :: sid :: to_u8 nrc :: rest) =
      if nrc = BusyRepeatRequest then .busy
      else if nrc = RequestCorrectlyReceivedResponsePending then .pending
      else .reject (.NRC ⟨sid, nrc⟩) := by
  rw [verdict_negative, try_from_primitive_to_u8]
  simp

theorem verdict_foreign {sid rejected_sid : UInt8} (hsid : rejected_sid ≠ sid)
    (nrc : NegativeResponseCode) (rest : Packet) :
    verdict sid (NEGATIVE_RESPONSE_SID :: rejected_sid :: to_u8 nrc :: rest) =
      .reject (.SidMismatch sid rejected_sid
        (NEGATIVE_RESPONSE_SID :: rejected_sid :: to_u8 nrc :: rest)) := by
  rw [verdict_negative, try_from_primitive_to_u8]
  exact if_pos hsid

/-- An unknown code is reported with the SID it came with, whichever that is. -/
theorem verdict_unknown {code : UInt8} (hcode : ∀ nrc : NegativeResponseCode, to_u8 nrc ≠ code)
    (sid rejected_sid : UInt8) (rest : Packet) :
    verdict sid (NEGATIVE_RESPONSE_SID :: rejected_sid :: code :: rest) =
      .reject (.UnknownNRC rejected_sid code) := by
  have herror : (try_from_primitive code : Except _ NegativeResponseCode) = .error ⟨code⟩ :=
    try_from_primitive_eq_error_iff.mpr ⟨rfl, hcode⟩
  rw [verdict_negative, herror]

/-- Only a known code with the SID of the request keeps the exchange going. -/
theorem nrc_of_verdict {sid : UInt8} {raw : Packet}
    (h : verdict sid raw = .busy ∨ verdict sid raw = .pending) :
    ∃ nrc rest, raw = NEGATIVE_RESPONSE_SID :: sid :: to_u8 (nrc : NegativeResponseCode) :: rest := by
  rcases packet_cases raw with
    rfl | ⟨first, rest, hfirst, rfl⟩ | rfl | ⟨rejected_sid, rfl⟩ | ⟨rejected_sid, code, rest, rfl⟩
  · simp [verdict] at h
  · simp [verdict_positive hfirst] at h
  · simp [verdict] at h
  · simp [verdict] at h
  · rw [verdict_negative] at h
    cases hcode : (try_from_primitive code : Except _ NegativeResponseCode) with
    | error e => simp [hcode] at h
    | ok nrc =>
      obtain rfl := try_from_primitive_eq_ok_iff.mp hcode
      by_cases hsid : rejected_sid = sid
      · exact ⟨nrc, rest, by rw [hsid]⟩
      · simp [hcode, hsid] at h

theorem verdict_eq_busy_iff {sid : UInt8} {raw : Packet} : verdict sid raw = .busy ↔ Busy sid raw := by
  rw [Busy, negative_iff]
  constructor
  · intro h
    obtain ⟨nrc, rest, rfl⟩ := nrc_of_verdict (.inl h)
    rw [verdict_nrc] at h
    split_ifs at h with hbusy
    exact ⟨rest, by rw [hbusy]⟩
  · rintro ⟨rest, rfl⟩
    rw [verdict_nrc, if_pos rfl]

theorem verdict_eq_pending_iff {sid : UInt8} {raw : Packet} :
    verdict sid raw = .pending ↔ Pending sid raw := by
  rw [Pending, negative_iff]
  constructor
  · intro h
    obtain ⟨nrc, rest, rfl⟩ := nrc_of_verdict (.inr h)
    rw [verdict_nrc] at h
    split_ifs at h with hbusy hpending
    exact ⟨rest, by rw [hpending]⟩
  · rintro ⟨rest, rfl⟩
    rw [verdict_nrc, if_neg (by decide), if_pos rfl]

theorem Busy.not_pending {sid : UInt8} {raw : Packet} (h : Busy sid raw) : ¬ Pending sid raw := by
  intro hpending
  have hverdict := verdict_eq_busy_iff.mpr h
  rw [verdict_eq_pending_iff.mpr hpending] at hverdict
  cases hverdict

theorem verdict_eq_accept_iff {sid : UInt8} {raw : Packet} :
    verdict sid raw = .accept ↔ parse_for_error raw = .ok () := by
  rcases packet_cases raw with
    rfl | ⟨first, rest, hfirst, rfl⟩ | rfl | ⟨rejected_sid, rfl⟩ | ⟨rejected_sid, code, rest, rfl⟩
  · simp [verdict]
  · simp [verdict_positive hfirst, parse_for_error_positive hfirst]
  · simp [verdict]
  · simp [verdict]
  · rw [verdict_negative, parse_for_error_negative]
    split
    · simp
    · split_ifs <;> simp

theorem parse_for_error_eq_ok_iff {raw : Packet} :
    parse_for_error raw = .ok () ↔ raw ≠ [] ∧ raw.head? ≠ some NEGATIVE_RESPONSE_SID := by
  rcases packet_cases raw with
    rfl | ⟨first, rest, hfirst, rfl⟩ | rfl | ⟨rejected_sid, rfl⟩ | ⟨rejected_sid, code, rest, rfl⟩
  · simp
  · simp [parse_for_error_positive hfirst, hfirst]
  · simp
  · simp
  · rw [parse_for_error_negative]
    split <;> simp

/-- A packet that is neither busy nor pending and rejects no other SID is rejected
with the error `parse_for_error` finds in it. -/
theorem verdict_of_parse_for_error {sid : UInt8} {raw : Packet} {e : UdsError}
    (herror : parse_for_error raw = err e) (hbusy : ¬ Busy sid raw) (hpending : ¬ Pending sid raw)
    (hsid : ∀ rejected_sid rest, raw = NEGATIVE_RESPONSE_SID :: rejected_sid :: rest →
      rejected_sid = sid) : verdict sid raw = .reject e := by
  rcases packet_cases raw with
    rfl | ⟨first, rest, hfirst, rfl⟩ | rfl | ⟨rejected_sid, rfl⟩ | ⟨rejected_sid, code, rest, rfl⟩
  · simpa [verdict] using herror
  · simp [parse_for_error_positive hfirst] at herror
  · simpa [verdict] using herror
  · simpa [verdict] using herror
  · obtain rfl := hsid rejected_sid (code :: rest) rfl
    rw [verdict_negative]
    rw [parse_for_error_negative] at herror
    cases hcode : (try_from_primitive code : Except _ NegativeResponseCode) with
    | error e' => simpa [hcode] using herror
    | ok nrc =>
      obtain rfl := try_from_primitive_eq_ok_iff.mp hcode
      have hnotbusy : nrc ≠ BusyRepeatRequest := by
        rintro rfl
        exact hbusy rfl
      have hnotpending : nrc ≠ RequestCorrectlyReceivedResponsePending := by
        rintro rfl
        exact hpending rfl
      simpa [hcode, hnotbusy, hnotpending] using herror

theorem rejected_sid_of_verdict_nrc {sid : UInt8} {raw : Packet} {nrc : NrcData}
    (h : verdict sid raw = .reject (.NRC nrc)) : nrc.rejected_sid = sid := by
  rcases packet_cases raw with
    rfl | ⟨first, rest, hfirst, rfl⟩ | rfl | ⟨rejected_sid, rfl⟩ | ⟨rejected_sid, code, rest, rfl⟩
  · simp [verdict] at h
  · simp [verdict_positive hfirst] at h
  · simp [verdict] at h
  · simp [verdict] at h
  · rw [verdict_negative] at h
    split at h
    · simp at h
    · split_ifs at h with hsid
      · cases h
      · cases h
        exact not_not.mp hsid

theorem packet_of_verdict_unknown {sid rejected_sid code : UInt8} {raw : Packet}
    (h : verdict sid raw = .reject (.UnknownNRC rejected_sid code)) :
    (∃ rest, raw = NEGATIVE_RESPONSE_SID :: rejected_sid :: code :: rest) ∧
      ∀ nrc : NegativeResponseCode, to_u8 nrc ≠ code := by
  rcases packet_cases raw with
    rfl | ⟨first, rest, hfirst, rfl⟩ | rfl | ⟨received_sid, rfl⟩ | ⟨received_sid, byte, rest, rfl⟩
  · simp [verdict] at h
  · simp [verdict_positive hfirst] at h
  · simp [verdict] at h
  · simp [verdict] at h
  · rw [verdict_negative] at h
    cases hcode : (try_from_primitive byte : Except _ NegativeResponseCode) with
    | error e =>
      rw [hcode] at h
      cases h
      exact ⟨⟨rest, rfl⟩, (try_from_primitive_eq_error_iff.mp hcode).2⟩
    | ok nrc =>
      rw [hcode] at h
      dsimp only at h
      split_ifs at h <;> cases h

end uds_rs.uds
