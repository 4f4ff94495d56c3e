import Mathlib.Logic.Basic

namespace lts

variable {S L : Type}

/-- `init` reaches a state by taking the labelled steps in order. The labels are
kept with the run, so that a property may speak of the whole history and not only of
the state it has led to. -/
inductive Reach (Step : S → L → S → Prop) (init : S) : List L → S → Prop where
  | nil : Reach Step init [] init
  | snoc {ls : List L} {s t : S} {l : L} (hrun : Reach Step init ls s) (hstep : Step s l t) :
      Reach Step init (ls ++ [l]) t

namespace Reach

variable {Step : S → L → S → Prop} {init : S}

/-- An invariant of the initial state and of every step, of the labels taken so far
and the state reached, holds along every run. -/
theorem history_invariant {Inv : List L → S → Prop} (hinit : Inv [] init)
    (hpreserved : ∀ ls s l t, Inv ls s → Step s l t → Inv (ls ++ [l]) t)
    {ls : List L} {s : S} (h : Reach Step init ls s) : Inv ls s := by
  induction h with
  | nil => exact hinit
  | snoc _ hstep ih => exact hpreserved _ _ _ _ ih hstep

theorem mono {Step' : S → L → S → Prop} (hle : ∀ s l t, Step s l t → Step' s l t)
    {ls : List L} {s : S} (h : Reach Step init ls s) : Reach Step' init ls s := by
  induction h with
  | nil => exact .nil
  | snoc _ hstep ih => exact .snoc ih (hle _ _ _ hstep)

theorem snoc_iff {ls : List L} {l : L} {t : S} :
    Reach Step init (ls ++ [l]) t ↔ ∃ s, Reach Step init ls s ∧ Step s l t := by
  constructor
  · intro h
    generalize hlabels : ls ++ [l] = labels at h
    cases h with
    | nil => simp at hlabels
    | snoc hrun hstep =>
      obtain ⟨rfl, hlast⟩ := List.append_inj' hlabels rfl
      cases hlast
      exact ⟨_, hrun, hstep⟩
  · rintro ⟨s, hrun, hstep⟩
    exact .snoc hrun hstep

theorem nil_iff {t : S} : Reach Step init [] t ↔ t = init := by
  constructor
  · intro h
    generalize hlabels : ([] : List L) = labels at h
    cases h with
    | nil => rfl
    | snoc => simp at hlabels
  · rintro rfl
    exact .nil

theorem append {ls ls' : List L} {s t : S} (h : Reach Step init ls s) (h' : Reach Step s ls' t) :
    Reach Step init (ls ++ ls') t := by
  induction h' with
  | nil => rwa [List.append_nil]
  | snoc _ hstep ih =>
    rw [← List.append_assoc]
    exact .snoc ih hstep

/-- Where runs are bounded, every run can be continued until no step is left.
Together with a step that is always left before the goal this is termination at the
goal. -/
theorem exists_stuck {bound : Nat} (hbound : ∀ ls s, Reach Step init ls s → ls.length ≤ bound)
    {ls : List L} {s : S} (h : Reach Step init ls s) :
    ∃ ls' t, Reach Step s ls' t ∧ Reach Step init (ls ++ ls') t ∧ ∀ l u, ¬ Step t l u := by
  induction hleft : bound - ls.length using Nat.strongRecOn generalizing ls s with
  | ind left ih =>
    by_cases hstuck : ∀ l u, ¬ Step s l u
    · exact ⟨[], s, .nil, by rwa [List.append_nil], hstuck⟩
    · obtain ⟨l, u, hstep⟩ : ∃ l u, Step s l u := by simpa using hstuck
      have hnext : Reach Step init (ls ++ [l]) u := .snoc h hstep
      have hlength := hbound _ _ hnext
      rw [List.length_append, List.length_singleton] at hlength
      obtain ⟨ls', t, hrun, hreach, hdone⟩ := ih (bound - (ls ++ [l]).length)
        (by rw [List.length_append, List.length_singleton]; omega) hnext rfl
      have hone : Reach Step s [l] u := .snoc .nil hstep
      exact ⟨[l] ++ ls', t, hone.append hrun, by rwa [← List.append_assoc], hdone⟩

end Reach

end lts
