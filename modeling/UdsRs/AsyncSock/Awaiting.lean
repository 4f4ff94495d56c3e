import UdsRs.AsyncSock.Net
import Mathlib.Data.Finset.Card

namespace async_sock

namespace Future

variable {Msg Err Fail α : Type}

def awaiting : Future Msg Err Fail α → Bool
  | receive _ | receive_within _ _ => true
  | ready _ | send _ _ => false

@[simp] theorem awaiting_ready (result : Except Fail α) :
    (ready result : Future Msg Err Fail α).awaiting = false := rfl

@[simp] theorem awaiting_send (payload : Msg) (resume : Except Err Unit → Future Msg Err Fail α) :
    (send payload resume).awaiting = false := rfl

@[simp] theorem awaiting_receive (resume : Except Err Msg → Future Msg Err Fail α) :
    (receive resume).awaiting = true := rfl

@[simp] theorem awaiting_receive_within (millis : Nat)
    (resume : Option (Except Err Msg) → Future Msg Err Fail α) :
    (receive_within millis resume).awaiting = true := rfl

end Future

namespace Net

variable {ι Msg Err Fail α : Type} [DecidableEq ι] {s t : Net ι Msg Err Fail α} {A : Finset ι}
  {i : ι}

/-- `A` are the tasks that wait for a message. There may be infinitely many tasks,
but only finitely many of them wait at a time, as every step changes one task. -/
def Awaiting (s : Net ι Msg Err Fail α) (A : Finset ι) : Prop :=
  ∀ i, i ∈ A ↔ (s.tasks i).awaiting = true

theorem Step.receipts_of_actor_ne {Answers : Msg → List Msg → Prop} {a : Action ι Msg}
    (h : Step Answers s a t) (hi : a.actor ≠ some i) :
    t.receipts.filter (·.receiver = i) = s.receipts.filter (·.receiver = i) := by
  cases h with
  | send | answer | expire => rfl
  | @receive j | @receive_within j =>
    have hj : j ≠ i := fun heq => hi (congrArg some heq)
    simp [hj]

omit [DecidableEq ι] in
theorem awaiting_empty_iff : Awaiting s ∅ ↔ ∀ i, (s.tasks i).awaiting = false := by
  simp [Awaiting]

/-- Where one task has changed, it alone can have entered or left the tasks that
wait. -/
theorem Awaiting.update (hA : Awaiting s A) (hother : ∀ j, j ≠ i → t.tasks j = s.tasks j) :
    ∃ B, Awaiting t B ∧
      B.card + (s.tasks i).awaiting.toNat = A.card + (t.tasks i).awaiting.toNat := by
  have hmem : ∀ j, j ≠ i → (j ∈ A ↔ (t.tasks j).awaiting = true) := by
    intro j hj
    rw [hother j hj]
    exact hA j
  have herase : (A.erase i).card + (s.tasks i).awaiting.toNat = A.card := by
    cases hs : (s.tasks i).awaiting with
    | true => exact Finset.card_erase_add_one ((hA i).mpr hs)
    | false =>
      have hnot : i ∉ A := fun hi => by simp [(hA i).mp hi] at hs
      rw [Finset.erase_eq_of_notMem hnot]
      rfl
  cases ht : (t.tasks i).awaiting with
  | true =>
    refine ⟨insert i (A.erase i), ?_, ?_⟩
    · intro j
      by_cases hj : j = i
      · simp [hj, ht]
      · simp [hj, hmem j hj]
    · rw [Finset.card_insert_of_notMem (Finset.notMem_erase i A), Bool.toNat_true]
      omega
  | false =>
    refine ⟨A.erase i, ?_, herase⟩
    intro j
    by_cases hj : j = i
    · simp [hj, ht]
    · simp [hj, hmem j hj]

end Net

end async_sock
