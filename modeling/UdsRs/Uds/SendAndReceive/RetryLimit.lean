import UdsRs.Uds.SendAndReceive.Served

namespace uds_rs.uds

open async_sock lts rust NegativeResponseCode UdsClient Stage

variable {overflow_checks : Bool} {sid : UInt8} {data : Packet} {stream : Stream' Packet}

/-- Wherever the loop gets to on the stream, its `retry_counter - 1` does not
overflow. -/
def SubtractionsInRange (overflow_checks : Bool) (sid : UInt8) (data : Packet)
    (stream : Stream' Packet) : Prop :=
  ∀ es retry_counter raw, Visits overflow_checks sid data es (receiving retry_counter) →
    deliveries es ++ [raw] = stream.take ((deliveries es).length + 1) → Busy sid raw →
    ¬ i32_sub_overflows retry_counter 1

/-- The limit is reached on busy answers only, never by an overflow, and bounds what
a call transmits whatever the socket and the timer do. -/
structure RetryLimitWorks (overflow_checks : Bool) (sid : UInt8) (data : Packet)
    (stream : Stream' Packet) : Prop where
  gives_up : (∀ i, Busy sid (stream.get i)) →
    serve (send_and_receive overflow_checks (sid :: data)) stream =
      err (.NRC ⟨sid, BusyRepeatRequest⟩)
  in_range : SubtractionsInRange overflow_checks sid data stream
  bounded : ∀ es g, Steps (send_and_receive overflow_checks (sid :: data)) es g →
    (transmissions es).length ≤ retry_limit overflow_checks

theorem transmissions_le_retry_limit {es : List (Event Packet UdsCommunicationError)}
    {g : UdsFuture Packet} (h : Steps (send_and_receive overflow_checks (sid :: data)) es g) :
    (transmissions es).length ≤ retry_limit overflow_checks := by
  obtain ⟨s, hvisits, -⟩ := Stage.steps_iff.mp h
  have hcounted := counted_of_visits hvisits
  cases s with
  | sending retry_counter =>
    obtain ⟨n, -, htally⟩ := hcounted
    have hbelow := htally.below
    rw [htally.repeated, List.length_replicate]
    omega
  | receiving retry_counter =>
    obtain ⟨n, -, htally⟩ := hcounted
    have hbelow := htally.below
    rw [htally.repeated, List.length_replicate]
    omega
  | waiting =>
    obtain ⟨sends, hsends, hrepeated⟩ := hcounted
    rwa [hrepeated, List.length_replicate]
  | returned result =>
    obtain ⟨sends, hsends, hrepeated⟩ := hcounted
    rwa [hrepeated, List.length_replicate]

theorem visits_of_busy (data : Packet) {n : Nat} (hlimit : n < retry_limit overflow_checks)
    (hbusy : ∀ i < n, Busy sid (stream.get i)) :
    ∃ es, Visits overflow_checks sid data es (receiving (i32_neg n)) ∧
      deliveries es = stream.take n := by
  induction n with
  | zero =>
    exact ⟨[.sent (sid :: data) (.ok ())], .snoc .nil (.sent 0), rfl⟩
  | succ n ih =>
    obtain ⟨es, hvisits, hdeliveries⟩ := ih (by omega) fun i hi => hbusy i (by omega)
    have hjudge : judge overflow_checks sid (i32_neg n) (stream.get n) = sending (i32_neg (n + 1)) := by
      rw [judge_busy (by omega) (hbusy n (by omega)), if_neg (by omega)]
    have hreceived : Step overflow_checks sid data (receiving (i32_neg n))
        (.received (.ok (stream.get n))) (sending (i32_neg (n + 1))) :=
      hjudge ▸ Step.received (i32_neg n) (stream.get n)
    refine ⟨es ++ [.received (.ok (stream.get n))] ++ [.sent (sid :: data) (.ok ())],
      .snoc (.snoc hvisits hreceived) (.sent _), ?_⟩
    rw [Stream'.take_succ', ← hdeliveries]
    simp

theorem mem_take_iff {n : Nat} {raw : Packet} :
    raw ∈ stream.take n ↔ ∃ i < n, raw = stream.get i := by
  induction n with
  | zero => simp
  | succ n ih =>
    rw [Stream'.take_succ', List.mem_append, List.mem_singleton, ih]
    constructor
    · rintro (⟨i, hi, rfl⟩ | rfl)
      · exact ⟨i, by omega, rfl⟩
      · exact ⟨n, by omega, rfl⟩
    · rintro ⟨i, hi, rfl⟩
      rcases Nat.lt_succ_iff_lt_or_eq.mp hi with hlt | rfl
      · exact .inl ⟨i, hlt, rfl⟩
      · exact .inr rfl

/-- On busy answers alone the client gives up at the limit, and only there. -/
theorem serve_all_busy (hbusy : ∀ i, Busy sid (stream.get i)) :
    serve (send_and_receive overflow_checks (sid :: data)) stream = give_up overflow_checks sid ∧
      transmissions (transcript (send_and_receive overflow_checks (sid :: data)) stream) =
        List.replicate (retry_limit overflow_checks) (sid :: data) := by
  have hpositive := lt_retry_limit overflow_checks
  obtain ⟨n, hn⟩ : ∃ n, n + 1 = retry_limit overflow_checks :=
    ⟨retry_limit overflow_checks - 1, by omega⟩
  have hsplit : stream.take n ++ₛ Stream'.cons (stream.get n) (stream.drop n).tail = stream := by
    have hget : stream.get n = (stream.drop n).head := by rw [Stream'.head_drop]
    rw [hget, Stream'.eta, Stream'.append_take_drop]
  have hbefore : ∀ raw ∈ stream.take n, Busy sid raw := by
    intro raw hraw
    obtain ⟨i, -, rfl⟩ := mem_take_iff.mp hraw
    exact hbusy i
  have hjudge : judge overflow_checks sid (i32_neg (stream.take n).length) (stream.get n) =
      returned (give_up overflow_checks sid) := by
    rw [Stream'.length_take, judge_busy (by omega) (hbusy n), if_pos hn]
  have hlimit : (stream.take n).length < retry_limit overflow_checks := by
    rw [Stream'.length_take]
    omega
  have hserved := serve_judged data hbefore hlimit (stream.get n) (stream.drop n).tail
  rw [hsplit, hjudge, Stream'.length_take, hn] at hserved
  simpa [future] using hserved

/-- A busy answer at `i32::MIN` overflows the counter; it is the first to do so, as
the subtraction is reached once for each busy answer. -/
theorem not_in_range_of_busy (hbusy : ∀ i ≤ 2 ^ 31, Busy sid (stream.get i)) :
    ¬ SubtractionsInRange overflow_checks sid data stream := by
  intro hrange
  obtain ⟨es, hvisits, hdeliveries⟩ := visits_of_busy data (lt_retry_limit overflow_checks)
    fun i hi => hbusy i (Nat.le_of_lt hi)
  have hnext : deliveries es ++ [stream.get (2 ^ 31)] =
      stream.take ((deliveries es).length + 1) := by
    rw [hdeliveries, Stream'.length_take, Stream'.take_succ' (2 ^ 31)]
  apply hrange es _ _ hvisits hnext (hbusy _ (Nat.le_refl _))
  exact (i32_sub_overflows_neg_iff (by decide)).mpr rfl

theorem in_range_of_not_busy {i : Nat} (hi : i ≤ 2 ^ 31) (hother : ¬ Busy sid (stream.get i)) :
    SubtractionsInRange overflow_checks sid data stream := by
  intro es retry_counter raw hvisits hnext hraw hoverflows
  obtain ⟨n, rfl, htally⟩ := counted_of_visits hvisits
  have hbound : n < 2 ^ 32 := Nat.lt_of_lt_of_le htally.below (retry_limit_le overflow_checks)
  have hn : n = 2 ^ 31 := (i32_sub_overflows_neg_iff hbound).mp hoverflows
  have hmem : stream.get i ∈ deliveries es ++ [raw] := by
    rw [hnext, htally.count, hn, mem_take_iff]
    exact ⟨i, by omega, rfl⟩
  rcases List.mem_append.mp hmem with hold | hlast
  · exact hother (htally.busy _ hold)
  · exact hother (List.mem_singleton.mp hlast ▸ hraw)

/-- The retry limit works exactly on the streams whose first 2^31 + 1 packets are
not all busy answers, in a build with overflow checks as in one without. -/
theorem retryLimitWorks_iff :
    RetryLimitWorks overflow_checks sid data stream ↔ ∃ i ≤ 2 ^ 31, ¬ Busy sid (stream.get i) := by
  constructor
  · intro h
    by_contra hnone
    have hbusy : ∀ i ≤ 2 ^ 31, Busy sid (stream.get i) := by
      intro i hi
      by_contra hother
      exact hnone ⟨i, hi, hother⟩
    exact not_in_range_of_busy hbusy h.in_range
  · rintro ⟨i, hi, hother⟩
    refine ⟨?_, in_range_of_not_busy hi hother, fun es g => transmissions_le_retry_limit⟩
    intro hbusy
    exact absurd (hbusy i) hother

/-- Busy answers forever make the counter overflow; with overflow checks the call
panics instead of returning the NRC. -/
theorem not_retryLimitWorks_of_busy_forever :
    ¬ RetryLimitWorks true 0x23 [0x11, 0x10, 0x01] (Stream'.const [0x7F, 0x23, 0x21]) ∧
      serve (send_and_receive true [0x23, 0x11, 0x10, 0x01]) (Stream'.const [0x7F, 0x23, 0x21]) =
        .error (.panic .arithmetic_overflow) := by
  have hbusy : ∀ i, Busy 0x23 ((Stream'.const [0x7F, 0x23, 0x21]).get i) := by
    intro i
    rw [Stream'.get_const]
    decide
  constructor
  · intro h
    exact not_in_range_of_busy (fun i _ => hbusy i) h.in_range
  · exact (serve_all_busy hbusy).1

end uds_rs.uds
