import UdsRs.Uds.Interleaved.Unread

namespace uds_rs.uds

open async_sock lts rust TryFromPrimitive NegativeResponseCode UdsClient Stage

theorem conforming_positive (call : ServiceCall) (data : Packet) :
    Conforming (call.sid :: data) [[call.sid + SEND_RECEIVE_SID_OFFSET]] := by
  refine ⟨call.sid, rfl, .inr ⟨[], [call.sid + SEND_RECEIVE_SID_OFFSET], rfl, by simp, ?_⟩⟩
  refine ⟨⟨?_, ?_⟩, ?_⟩
  · simp [Busy, Negative]
  · simp [Pending, Negative]
  · rintro rejected_sid rest heq
    simp at heq

namespace ClientNet

variable {ι : Type} [DecidableEq ι] {overflow_checks : Bool} {calls : ι → ServiceCall}
  {acts : List (Action ι Packet)} {s : ClientNet ι}

/-- While a call waits an answer is still to be read. It may be the answer to
another call, and is on the socket or still to be given. -/
theorem unread_pos (h : Reach (Net.Step Conforming) (ClientNet.start overflow_checks calls) acts s)
    {i : ι} (hi : (s.tasks i).awaiting = true) : s.answers ≠ [] ∨ s.requests ≠ [] := by
  obtain ⟨D, -, A, hA, hcard⟩ := exists_leftOver h
  have hpos : 0 < A.card := Finset.card_pos.mpr ⟨i, (hA i).mpr hi⟩
  by_contra hnone
  obtain ⟨hanswers, hrequests⟩ := not_or.mp hnone
  simp only [unread, not_not.mp hanswers, not_not.mp hrequests, List.countP_nil,
    List.length_nil] at hcard
  omega

/-- As long as one call has not ended a step is left: its own next operation, or the
answer that it waits for. -/
theorem step_left (h : Reach (Net.Step Conforming) (ClientNet.start overflow_checks calls) acts s)
    {i : ι} (hi : ∀ result, s.tasks i ≠ .ready result) :
    ∃ a t, Net.Step Conforming s a t := by
  cases htask : s.tasks i with
  | ready result => exact absurd htask (hi result)
  | send payload resume => exact ⟨_, _, .send htask⟩
  | receive_within millis resume => exact ⟨_, _, .expire htask⟩
  | receive resume =>
    cases hanswers : s.answers with
    | cons p rest => exact ⟨_, _, .receive htask hanswers⟩
    | nil =>
      cases hrequests : s.requests with
      | nil =>
        rcases unread_pos h (i := i) (by rw [htask]; rfl) with hsome | hsome
        · exact absurd hanswers hsome
        · exact absurd hrequests hsome
      | cons p rest =>
        obtain ⟨o, request⟩ := p
        obtain ⟨data, -, hrequest⟩ := (tagged_of_reach h).requests (o, request) (by simp [hrequests])
        obtain rfl : request = (calls o).sid :: data := hrequest
        exact ⟨_, _, .answer hrequests (conforming_positive (calls o) data)⟩

theorem length_le [Fintype ι]
    (h : Reach (Net.Step Conforming) (ClientNet.start overflow_checks calls) acts s) :
    acts.length ≤ Fintype.card ι * (3 * retry_limit overflow_checks + 1) := by
  have hbound := Net.length_le_of_reach h (fun i => (sends_le_busy h i).2.2)
    fun i => (sends_le_busy h i).2.1
  refine hbound.trans (Nat.mul_le_mul_left _ ?_)
  omega

/-- With a conforming ECU and a socket that does not fail, whatever calls share the
client and in any order of their steps: as long as one call has not ended, by
returning or by a panic, a step is left. Of finitely many calls every run is
bounded, as each of them transmits boundedly often, and can be continued until all
of them have ended. -/
theorem every_call_ends
    (h : Reach (Net.Step Conforming) (ClientNet.start overflow_checks calls) acts s) :
    ((∃ i, ∀ result, s.tasks i ≠ .ready result) → ∃ a t, Net.Step Conforming s a t) ∧
      ∀ _ : Fintype ι, acts.length ≤ Fintype.card ι * (3 * retry_limit overflow_checks + 1) ∧
        ∃ acts' t, Reach (Net.Step Conforming) s acts' t ∧
          ∀ i, ∃ result, t.tasks i = .ready result := by
  refine ⟨fun ⟨i, hi⟩ => step_left h hi, fun _ => ⟨length_le h, ?_⟩⟩
  obtain ⟨acts', t, hrun, hreach, hstuck⟩ := Reach.exists_stuck (fun _ _ hrun => length_le hrun) h
  refine ⟨acts', t, hrun, fun i => ?_⟩
  by_contra hnone
  obtain ⟨a, u, hstep⟩ := step_left hreach (i := i) fun result hready => hnone ⟨result, hready⟩
  exact hstuck a u hstep

theorem every_call_ends_lone_read :
    ∃ acts t, Reach (Net.Step Conforming) (ClientNet.start true lone_read) acts t ∧
      ∀ i, ∃ result, t.tasks i = .ready result :=
  ((every_call_ends .nil).2 inferInstance).2

end ClientNet

end uds_rs.uds
