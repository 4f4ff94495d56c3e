import UdsRs.Uds.SendAndReceive.Served

namespace uds_rs.uds

open async_sock lts rust NegativeResponseCode UdsClient Stage

variable {overflow_checks : Bool} {sid : UInt8} {data : Packet}
  {es : List (Event Packet UdsCommunicationError)}

/-- The request is sent and answered once for each of the packets; neither operation
fails. -/
def rounds (request : Packet) (busy : List Packet) : List (Event Packet UdsCommunicationError) :=
  busy.flatMap fun raw => [.sent request (.ok ()), .received (.ok raw)]

/-- Busy answers that do not use up the retry limit, so that the request is
transmitted after the last of them too. -/
structure BusyRounds (overflow_checks : Bool) (sid : UInt8) (busy : List Packet) : Prop where
  all : ∀ raw ∈ busy, Busy sid raw
  below : busy.length < retry_limit overflow_checks

/-- The last operations of an exchange after `n` busy rounds, and what it returns.
The eight closings refer neither to the code nor to its places, only to operations
and packets. -/
inductive Closing (overflow_checks : Bool) (sid : UInt8) (data : Packet) (n : Nat) :
    List (Event Packet UdsCommunicationError) → Outcome UdsError Packet → Prop where
  | send_failed (e : UdsCommunicationError) :
      Closing overflow_checks sid data n [.sent (sid :: data) (.error e)]
        (err (.CommunicationError e))
  | receive_failed (e : UdsCommunicationError) :
      Closing overflow_checks sid data n [.sent (sid :: data) (.ok ()), .received (.error e)]
        (err (.CommunicationError e))
  | accepted {raw : Packet} (h : verdict sid raw = .accept) :
      Closing overflow_checks sid data n [.sent (sid :: data) (.ok ()), .received (.ok raw)]
        (.ok raw)
  | rejected {raw : Packet} {e : UdsError} (h : verdict sid raw = .reject e) :
      Closing overflow_checks sid data n [.sent (sid :: data) (.ok ()), .received (.ok raw)] (err e)
  | gave_up {raw : Packet} (h : Busy sid raw) (hlimit : n + 1 = retry_limit overflow_checks) :
      Closing overflow_checks sid data n [.sent (sid :: data) (.ok ()), .received (.ok raw)]
        (give_up overflow_checks sid)
  | delayed {pend : Packet} (h : Pending sid pend) (raw : Packet) :
      Closing overflow_checks sid data n [.sent (sid :: data) (.ok ()), .received (.ok pend),
        .waited (some (.ok raw))] (.ok raw)
  | wait_failed {pend : Packet} (h : Pending sid pend) (e : UdsCommunicationError) :
      Closing overflow_checks sid data n [.sent (sid :: data) (.ok ()), .received (.ok pend),
        .waited (some (.error e))] (err (.CommunicationError e))
  | expired {pend : Packet} (h : Pending sid pend) :
      Closing overflow_checks sid data n [.sent (sid :: data) (.ok ()), .received (.ok pend),
        .waited none] (err (.NRC ⟨sid, RequestCorrectlyReceivedResponsePending⟩))

@[simp] theorem rounds_nil (request : Packet) : rounds request [] = [] := rfl

theorem rounds_concat (request raw : Packet) (busy : List Packet) :
    rounds request (busy ++ [raw]) =
      rounds request busy ++ [.sent request (.ok ())] ++ [.received (.ok raw)] := by
  simp [rounds]

@[simp] theorem deliveries_rounds (request : Packet) (busy : List Packet) :
    deliveries (rounds request busy) = busy := by
  induction busy with
  | nil => rfl
  | cons raw busy ih => simpa [rounds] using ih

@[simp] theorem transmissions_rounds (request : Packet) (busy : List Packet) :
    transmissions (rounds request busy) = List.replicate busy.length request := by
  induction busy with
  | nil => rfl
  | cons raw busy ih => simpa [rounds, List.replicate_succ] using ih

@[simp] theorem rounds_length (request : Packet) (busy : List Packet) :
    (rounds request busy).length = 2 * busy.length := by
  induction busy with
  | nil => rfl
  | cons raw busy ih =>
    have hcons : rounds request (raw :: busy) =
        .sent request (.ok ()) :: .received (.ok raw) :: rounds request busy := rfl
    rw [hcons, List.length_cons, List.length_cons, List.length_cons, ih]
    omega

theorem busyRounds_nil (overflow_checks : Bool) (sid : UInt8) :
    BusyRounds overflow_checks sid [] :=
  ⟨by simp, Nat.lt_of_le_of_lt (Nat.zero_le _) (lt_retry_limit overflow_checks)⟩

theorem BusyRounds.concat {busy : List Packet} {raw : Packet}
    (h : BusyRounds overflow_checks sid busy) (hraw : Busy sid raw)
    (hlimit : busy.length + 1 ≠ retry_limit overflow_checks) :
    BusyRounds overflow_checks sid (busy ++ [raw]) := by
  have hbelow := h.below
  constructor
  · intro p hp
    rcases List.mem_append.mp hp with hold | hnew
    · exact h.all p hold
    · exact List.mem_singleton.mp hnew ▸ hraw
  · rw [List.length_append, List.length_singleton]
    omega

/-- What the operations so far look like at each place of the exchange. -/
def Shaped (overflow_checks : Bool) (sid : UInt8) (data : Packet)
    (es : List (Event Packet UdsCommunicationError)) : Stage → Prop
  | sending retry_counter =>
    ∃ busy, BusyRounds overflow_checks sid busy ∧ retry_counter = i32_neg busy.length ∧
      es = rounds (sid :: data) busy
  | receiving retry_counter =>
    ∃ busy, BusyRounds overflow_checks sid busy ∧ retry_counter = i32_neg busy.length ∧
      es = rounds (sid :: data) busy ++ [.sent (sid :: data) (.ok ())]
  | waiting =>
    ∃ busy pend, BusyRounds overflow_checks sid busy ∧ Pending sid pend ∧
      es = rounds (sid :: data) busy ++ [.sent (sid :: data) (.ok ()), .received (.ok pend)]
  | returned result =>
    ∃ busy last, BusyRounds overflow_checks sid busy ∧ es = rounds (sid :: data) busy ++ last ∧
      Closing overflow_checks sid data busy.length last result

/-- A packet judged after `busy` closes the exchange, delays it or adds a round. -/
theorem Shaped.judge {busy : List Packet} (h : BusyRounds overflow_checks sid busy) (raw : Packet) :
    Shaped overflow_checks sid data
      (rounds (sid :: data) busy ++ [.sent (sid :: data) (.ok ())] ++ [.received (.ok raw)])
      (judge overflow_checks sid (i32_neg busy.length) raw) := by
  have hlast : rounds (sid :: data) busy ++ [.sent (sid :: data) (.ok ())] ++
      [.received (.ok raw)] =
        rounds (sid :: data) busy ++ [.sent (sid :: data) (.ok ()), .received (.ok raw)] := by simp
  cases hverdict : verdict sid raw with
  | accept =>
    rw [judge_accept hverdict]
    exact ⟨busy, _, h, hlast, .accepted hverdict⟩
  | reject e =>
    rw [judge_reject hverdict]
    exact ⟨busy, _, h, hlast, .rejected hverdict⟩
  | pending =>
    have hpending : Pending sid raw := verdict_eq_pending_iff.mp hverdict
    rw [judge_pending hpending]
    exact ⟨busy, raw, h, hpending, hlast⟩
  | busy =>
    have hbusy : Busy sid raw := verdict_eq_busy_iff.mp hverdict
    rw [judge_busy h.below hbusy]
    split
    · next hlimit => exact ⟨busy, _, h, hlast, .gave_up hbusy hlimit⟩
    · next hlimit =>
      refine ⟨busy ++ [raw], h.concat hbusy hlimit, ?_, (rounds_concat _ _ _).symm⟩
      rw [List.length_append, List.length_singleton]

theorem Shaped.step {s t : Stage} {e : Event Packet UdsCommunicationError}
    (h : Shaped overflow_checks sid data es s) (hstep : Step overflow_checks sid data s e t) :
    Shaped overflow_checks sid data (es ++ [e]) t := by
  cases hstep with
  | sent retry_counter =>
    obtain ⟨busy, hbusy, rfl, rfl⟩ := h
    exact ⟨busy, hbusy, rfl, rfl⟩
  | send_failed retry_counter e =>
    obtain ⟨busy, hbusy, -, rfl⟩ := h
    exact ⟨busy, _, hbusy, rfl, .send_failed e⟩
  | received retry_counter raw =>
    obtain ⟨busy, hbusy, rfl, rfl⟩ := h
    exact .judge hbusy raw
  | receive_failed retry_counter e =>
    obtain ⟨busy, hbusy, -, rfl⟩ := h
    exact ⟨busy, _, hbusy, by simp, .receive_failed e⟩
  | delayed raw =>
    obtain ⟨busy, pend, hbusy, hpending, rfl⟩ := h
    exact ⟨busy, _, hbusy, by simp, .delayed hpending raw⟩
  | wait_failed e =>
    obtain ⟨busy, pend, hbusy, hpending, rfl⟩ := h
    exact ⟨busy, _, hbusy, by simp, .wait_failed hpending e⟩
  | expired =>
    obtain ⟨busy, pend, hbusy, hpending, rfl⟩ := h
    exact ⟨busy, _, hbusy, by simp, .expired hpending⟩

theorem shaped_of_visits {s : Stage} (h : Visits overflow_checks sid data es s) :
    Shaped overflow_checks sid data es s :=
  Reach.history_invariant ⟨[], busyRounds_nil overflow_checks sid, rfl, rfl⟩
    (fun _ _ _ _ hshaped hstep => hshaped.step hstep) h

theorem visits_rounds (data : Packet) {busy : List Packet}
    (h : BusyRounds overflow_checks sid busy) :
    Visits overflow_checks sid data (rounds (sid :: data) busy) (sending (i32_neg busy.length)) := by
  induction busy using List.reverseRecOn with
  | nil => exact .nil
  | append_singleton busy raw ih =>
    have hlength : (busy ++ [raw]).length = busy.length + 1 := by simp
    have hbelow := h.below
    rw [hlength] at hbelow
    have hrounds : BusyRounds overflow_checks sid busy :=
      ⟨fun p hp => h.all p (List.mem_append_left _ hp), by omega⟩
    have hjudge : Stage.judge overflow_checks sid (i32_neg busy.length) raw =
        sending (i32_neg (busy.length + 1)) := by
      rw [judge_busy hrounds.below (h.all raw List.mem_concat_self), if_neg (by omega)]
    rw [rounds_concat, hlength, ← hjudge]
    exact .snoc (.snoc (ih hrounds) (.sent _)) (.received _ raw)

theorem visits_of_closing {busy : List Packet} {last : List (Event Packet UdsCommunicationError)}
    {result : Outcome UdsError Packet} (h : BusyRounds overflow_checks sid busy)
    (hlast : Closing overflow_checks sid data busy.length last result) :
    Visits overflow_checks sid data (rounds (sid :: data) busy ++ last) (returned result) := by
  have hsending := visits_rounds data h
  have hreceiving := Reach.snoc hsending (.sent (i32_neg busy.length))
  have hjudged : ∀ raw, Visits overflow_checks sid data
      (rounds (sid :: data) busy ++ [.sent (sid :: data) (.ok ()), .received (.ok raw)])
      (Stage.judge overflow_checks sid (i32_neg busy.length) raw) := by
    intro raw
    have hreceived := Reach.snoc hreceiving (.received (i32_neg busy.length) raw)
    rwa [List.append_assoc] at hreceived
  have hwaiting : ∀ pend, Pending sid pend → Visits overflow_checks sid data
      (rounds (sid :: data) busy ++ [.sent (sid :: data) (.ok ()), .received (.ok pend)])
      waiting := by
    intro pend hpending
    rw [← judge_pending hpending (i32_neg busy.length)]
    exact hjudged pend
  cases hlast with
  | send_failed e => exact .snoc hsending (.send_failed _ e)
  | receive_failed e =>
    have hfailed := Reach.snoc hreceiving (.receive_failed (i32_neg busy.length) e)
    rwa [List.append_assoc] at hfailed
  | accepted hverdict =>
    rw [← judge_accept hverdict (i32_neg busy.length)]
    exact hjudged _
  | rejected hverdict =>
    rw [← judge_reject hverdict (i32_neg busy.length)]
    exact hjudged _
  | gave_up hbusy hlimit =>
    have hjudge := judge_busy h.below hbusy
    rw [if_pos hlimit] at hjudge
    rw [← hjudge]
    exact hjudged _
  | delayed hpending raw =>
    have hdelayed := Reach.snoc (hwaiting _ hpending) (.delayed raw)
    rwa [List.append_assoc] at hdelayed
  | wait_failed hpending e =>
    have hfailed := Reach.snoc (hwaiting _ hpending) (.wait_failed e)
    rwa [List.append_assoc] at hfailed
  | expired hpending =>
    have hexpired := Reach.snoc (hwaiting _ hpending) .expired
    rwa [List.append_assoc] at hexpired

/-- The completed runs of an exchange are busy rounds below the limit and one
closing. Both directions hold, so that whatever can be said of such operation
sequences is all there is to say of the exchange. -/
theorem returns_iff_rounds {result : Outcome UdsError Packet} :
    Returns (send_and_receive overflow_checks (sid :: data)) es result ↔
      ∃ busy last, BusyRounds overflow_checks sid busy ∧ es = rounds (sid :: data) busy ++ last ∧
        Closing overflow_checks sid data busy.length last result := by
  rw [Stage.returns_iff]
  constructor
  · exact shaped_of_visits
  · rintro ⟨busy, last, hbusy, rfl, hlast⟩
    exact visits_of_closing hbusy hlast

end uds_rs.uds
