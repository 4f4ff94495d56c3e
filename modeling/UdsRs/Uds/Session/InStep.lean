import UdsRs.Uds.Session.OutOfStep

namespace uds_rs.uds.ClientNet

open async_sock lts rust NegativeResponseCode UdsClient Stage

section Last

variable {ι : Type} [DecidableEq ι] {overflow_checks : Bool} {calls : ι → ServiceCall}
  {acts : List (Action ι Packet)} {s : ClientNet ι} {i : ι}

end Last

variable {overflow_checks : Bool} {calls : ℕ → ServiceCall} {s t : ClientNet ℕ}
  {a : Action ℕ Packet} {acts : List (Action ℕ Packet)} {k : ℕ}

/-- What call `k` has taken once it has acted: its own answers where no earlier call
gave up, and an earlier one where one did. -/
structure InStep (calls : ℕ → ServiceCall) (k : ℕ) (s : ClientNet ℕ) : Prop where
  before : ∀ j < k, ∃ result, s.tasks j = .ready result
  own : (∀ j < k, ¬ GaveUp calls s j) →
    (∀ o ∈ Net.under_way s, k ≤ o) ∧ ∀ r ∈ s.receipts, r.receiver = k → r.origin = k
  earlier : (∃ j < k, GaveUp calls s j) → s.taken k ≠ [] →
    ∃ r ∈ s.receipts, r.receiver = k ∧ r.origin < k

theorem InStep.other (h : InStep calls k s) (hstep : Net.Step Conforming s a t)
    (hactor : a.actor ≠ some k) : InStep calls k t := by
  have hlate : ∀ j < k, a.actor ≠ some j := by
    intro j hj heq
    obtain ⟨result, hready⟩ := h.before j hj
    exact hstep.not_ready heq result hready
  have hgave : ∀ j < k, GaveUp calls t j ↔ GaveUp calls s j :=
    fun j hj => gaveUp_of_actor_ne hstep (hlate j hj)
  constructor
  · intro j hj
    rw [hstep.tasks_of_actor_ne (hlate j hj)]
    exact h.before j hj
  · intro hnone
    obtain ⟨hunder, hown⟩ := h.own fun j hj hgaveUp => hnone j hj ((hgave j hj).mpr hgaveUp)
    constructor
    · intro o ho
      rcases hstep.under_way_cases o ho with hold | hnew
      · exact hunder o hold
      · by_contra hlt
        exact hlate o (Nat.lt_of_not_le hlt) hnew
    · intro r hr hreceiver
      rcases hstep.receipts_cases r hr with hold | ⟨hnew, -⟩
      · exact hown r hold hreceiver
      · exact absurd (hreceiver ▸ hnew) hactor
  · rintro ⟨j, hj, hgaveUp⟩ htaken
    rw [hstep.taken_of_actor_ne hactor] at htaken
    obtain ⟨r, hr, hr'⟩ := h.earlier ⟨j, hj, (hgave j hj).mp hgaveUp⟩ htaken
    exact ⟨r, hstep.receipts_subset hr, hr'⟩

end uds_rs.uds.ClientNet
