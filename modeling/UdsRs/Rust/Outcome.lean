import Mathlib.Tactic.Common

namespace rust

inductive Panic where
  | index_out_of_bounds
  | arithmetic_overflow
  deriving DecidableEq, Repr

/-- How a function that returns `Result<T, E>` can end without an `Ok` value: by
`Err`, or by a panic, which no caller sees as an error. -/
inductive Stop (E : Type) where
  | err (e : E)
  | panic (p : Panic)
  deriving DecidableEq, Repr

/-- What a function that returns `Result<T, E>` ends with. Its bind is `?`, which
passes `Err` on, and a panic with it. -/
abbrev Outcome (E α : Type) : Type := Except (Stop E) α

variable {α β E F : Type}

@[simp] theorem ok_bind (a : α) (f : α → Outcome E β) : (Except.ok a >>= f) = f a := rfl

@[simp] theorem error_bind (s : Stop E) (f : α → Outcome E β) :
    (Except.error s >>= f) = .error s := rfl

@[simp] theorem pure_eq_ok (a : α) : (pure a : Outcome E α) = .ok a := rfl

@[simp] theorem throw_eq_error (s : Stop E) : (throw s : Outcome E α) = .error s := rfl

theorem bind_eq_ok_iff {x : Outcome E α} {f : α → Outcome E β} {b : β} :
    (x >>= f) = .ok b ↔ ∃ a, x = .ok a ∧ f a = .ok b := by
  cases x <;> simp

def err (e : E) : Outcome E α := .error (.err e)

@[simp] theorem err_bind (e : E) (f : α → Outcome E β) : (err e >>= f) = err e := rfl

@[simp] theorem err_ne_ok (e : E) (a : α) : (err e : Outcome E α) ≠ .ok a := nofun

@[simp] theorem ok_ne_err (e : E) (a : α) : (Except.ok a : Outcome E α) ≠ err e := nofun

@[simp] theorem err_inj {e e' : E} : (err e : Outcome E α) = err e' ↔ e = e' := by
  simp [err]

def ok_or (o : Option α) (e : E) : Outcome E α :=
  match o with
  | some a => .ok a
  | none => err e

@[simp] theorem ok_or_some (a : α) (e : E) : ok_or (some a) e = .ok a := rfl

@[simp] theorem ok_or_none (e : E) : (ok_or none e : Outcome E α) = err e := rfl

/-- `Result::map_err` on a result that cannot panic, such as that of a conversion.
-/
def map_err (r : Except F α) (f : F → E) : Outcome E α :=
  match r with
  | .ok a => .ok a
  | .error e => err (f e)

@[simp] theorem map_err_ok (a : α) (f : F → E) : map_err (.ok a) f = .ok a := rfl

@[simp] theorem map_err_error (e : F) (f : F → E) :
    (map_err (.error e) f : Outcome E α) = err (f e) := rfl

@[simp] theorem map_err_eq_ok_iff {r : Except F α} {f : F → E} {a : α} :
    map_err r f = .ok a ↔ r = .ok a := by
  cases r <;> simp

/-- `Iterator::next` of a slice iterator, with the iterator that remains. It is the
bytes that are still to be read, so reading is a case split on a list. -/
def next : List α → Option (α × List α)
  | [] => none
  | x :: rest => some (x, rest)

@[simp] theorem next_nil : next ([] : List α) = none := rfl

@[simp] theorem next_cons (x : α) (rest : List α) : next (x :: rest) = some (x, rest) := rfl

/-- `xs[i]`, which panics where the index is out of bounds. -/
def index (xs : List α) (i : Nat) : Outcome E α :=
  match xs[i]? with
  | some x => .ok x
  | none => .error (.panic .index_out_of_bounds)

@[simp] theorem index_cons_zero (x : α) (rest : List α) :
    (index (x :: rest) 0 : Outcome E α) = .ok x := rfl

@[simp] theorem index_nil (i : Nat) :
    (index ([] : List α) i : Outcome E α) = .error (.panic .index_out_of_bounds) := rfl

/-- `xs[start..]`, which panics where `start` is beyond the end. -/
def slice_from (xs : List α) (start : Nat) : Outcome E (List α) :=
  if start ≤ xs.length then .ok (xs.drop start) else .error (.panic .index_out_of_bounds)

theorem slice_from_eq_ok {xs : List α} {start : Nat} (h : start ≤ xs.length) :
    (slice_from xs start : Outcome E (List α)) = .ok (xs.drop start) := by
  unfold slice_from
  rw [if_pos h]

@[simp] theorem slice_from_cons_one (x : α) (rest : List α) :
    (slice_from (x :: rest) 1 : Outcome E (List α)) = .ok rest := by
  simp [slice_from]

end rust
