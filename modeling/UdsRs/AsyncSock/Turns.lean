import UdsRs.AsyncSock.Net
import Mathlib.Data.Nat.Notation

namespace async_sock

open lts

namespace Net

variable {Msg Err Fail α : Type} {Answers : Msg → List Msg → Prop}
  {tasks : ℕ → Future Msg Err Fail α} {s t : Net ℕ Msg Err Fail α} {a : Action ℕ Msg}

/-- A step of the system in which no task acts before its turn: every task before it
has returned. What belongs to those tasks may still be under way then. -/
def SequentialStep (Answers : Msg → List Msg → Prop) (s : Net ℕ Msg Err Fail α) (a : Action ℕ Msg)
    (t : Net ℕ Msg Err Fail α) : Prop :=
  Step Answers s a t ∧ ∀ i, a.actor = some i → ∀ j < i, ∃ result, s.tasks j = .ready result

theorem SequentialStep.mono {Answers' : Msg → List Msg → Prop}
    (h : SequentialStep Answers s a t)
    (hle : ∀ request msgs, Answers request msgs → Answers' request msgs) :
    SequentialStep Answers' s a t :=
  ⟨h.1.mono hle, h.2⟩

theorem SequentialStep.first (h : Step Answers s a t) (hactor : ∀ i, a.actor = some i → i = 0) :
    SequentialStep Answers s a t := by
  refine ⟨h, fun i hi j hj => ?_⟩
  obtain rfl := hactor i hi
  exact absurd hj (Nat.not_lt_zero j)

/-- It is the turn of task `k`: those before it have returned, and those after it
have not started. -/
structure Turn (tasks : ℕ → Future Msg Err Fail α) (s : Net ℕ Msg Err Fail α) (k : ℕ) : Prop where
  before : ∀ j < k, ∃ result, s.tasks j = .ready result
  after : ∀ j, k < j → s.tasks j = tasks j

theorem turn_start (tasks : ℕ → Future Msg Err Fail α) : Turn tasks (start tasks) 0 :=
  ⟨fun j hj => absurd hj (Nat.not_lt_zero j), fun _ _ => rfl⟩

theorem Step.not_ready (h : Step Answers s a t) {i : ℕ} (hactor : a.actor = some i)
    (result : Except Fail α) : s.tasks i ≠ .ready result := by
  intro hready
  cases h with
  | answer => cases hactor
  | send htask | receive htask | receive_within htask | expire htask =>
    cases hactor
    rw [hready] at htask
    cases htask

theorem Turn.stay {k : ℕ} (h : Turn tasks s k) (hstep : Step Answers s a t)
    (hactor : ∀ i, a.actor = some i → i = k) : Turn tasks t k := by
  have hother : ∀ j, j ≠ k → t.tasks j = s.tasks j :=
    fun j hj => hstep.tasks_of_actor_ne fun heq => hj (hactor j heq)
  refine ⟨fun j hj => ?_, fun j hj => ?_⟩
  · rw [hother j (Nat.ne_of_lt hj)]
    exact h.before j hj
  · rw [hother j (Nat.ne_of_gt hj)]
    exact h.after j hj

theorem Turn.pass {k i : ℕ} (h : Turn tasks s k) (hki : k < i) (hactor : a.actor = some i)
    (hstep : SequentialStep Answers s a t) : Turn tasks t i := by
  have hother : ∀ j, j ≠ i → t.tasks j = s.tasks j := by
    intro j hj
    refine hstep.1.tasks_of_actor_ne fun heq => hj ?_
    exact Option.some.inj (heq.symm.trans hactor)
  refine ⟨fun j hj => ?_, fun j hj => ?_⟩
  · rw [hother j (Nat.ne_of_lt hj)]
    exact hstep.2 i hactor j hj
  · rw [hother j (Nat.ne_of_gt hj)]
    exact h.after j (Nat.lt_trans hki hj)

/-- If a task acts, it is the one whose turn it is, or a later one that has not
started takes the turn of one that has returned. -/
theorem Turn.step {k : ℕ} (h : Turn tasks s k) (hstep : SequentialStep Answers s a t) :
    ∃ k', (∀ i, a.actor = some i → i = k') ∧ Turn tasks t k' ∧
      (k' = k ∨ (k < k' ∧ s.tasks k' = tasks k' ∧ ∃ result, s.tasks k = .ready result)) := by
  cases hactor : a.actor with
  | none =>
    have hnone : ∀ i, a.actor = some i → i = k := by
      intro i hi
      rw [hactor] at hi
      cases hi
    exact ⟨k, hactor ▸ hnone, h.stay hstep.1 hnone, .inl rfl⟩
  | some i =>
    have honly : ∀ j, some i = some j → j = i := fun j hj => (Option.some.inj hj).symm
    rcases Nat.lt_trichotomy i k with hlt | rfl | hgt
    · obtain ⟨result, hready⟩ := h.before i hlt
      exact absurd hready (hstep.1.not_ready hactor result)
    · exact ⟨i, honly, h.stay hstep.1 (hactor ▸ honly), .inl rfl⟩
    · exact ⟨i, honly, h.pass hgt hactor hstep, .inr ⟨hgt, h.after i hgt, hstep.2 i hactor k hgt⟩⟩

end Net

end async_sock
