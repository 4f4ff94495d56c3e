import UdsRs.Rust.Outcome

namespace rust

variable {α β E : Type}

/-- Every way in which the code ends without `Ok` satisfies `P`. Code stops only in
the ways its steps do, on the values the steps before them can produce; there is one
rule for each construct. -/
def Stops (P : Stop E → Prop) (x : Outcome E α) : Prop := ∀ s, x = .error s → P s

variable {P : Stop E → Prop}

theorem stops_ok (a : α) : Stops P (.ok a : Outcome E α) := nofun

theorem stops_err {e : E} (h : P (.err e)) : Stops P (err e : Outcome E α) := by
  intro s hs
  cases hs
  exact h

theorem Stops.bind {x : Outcome E α} {f : α → Outcome E β} (hx : Stops P x)
    (hf : ∀ a, x = .ok a → Stops P (f a)) : Stops P (x >>= f) := by
  cases x with
  | ok a => exact hf a rfl
  | error s =>
    intro t ht
    cases ht
    exact hx s rfl

theorem Stops.ite {c : Prop} [Decidable c] {x y : Outcome E α} (hx : c → Stops P x)
    (hy : ¬ c → Stops P y) : Stops P (if c then x else y) := by
  by_cases hc : c
  · rw [if_pos hc]
    exact hx hc
  · rw [if_neg hc]
    exact hy hc

def NoPanic (x : Outcome E α) : Prop := ∀ p, x ≠ .error (.panic p)

theorem Stops.noPanic {x : Outcome E α} (hx : Stops P x) (h : ∀ p, ¬ P (.panic p)) : NoPanic x := by
  intro p hp
  exact h p (hx _ hp)

theorem NoPanic.err_of_not_ok {x : Outcome E α} (hx : NoPanic x) (hok : ∀ a, x ≠ .ok a) :
    ∃ e, x = err e := by
  cases x with
  | ok a => exact absurd rfl (hok a)
  | error s =>
    cases s with
    | err e => exact ⟨e, rfl⟩
    | panic p => exact absurd rfl (hx p)

end rust
