import UdsRs.AsyncSock.Steps
import UdsRs.Lts.Reach
import Mathlib.Data.List.Induction

namespace async_sock

open lts

variable {Msg Err Fail α S : Type}

theorem Steps.snoc_iff {f h : Future Msg Err Fail α} {es : List (Event Msg Err)}
    {e : Event Msg Err} : Steps f (es ++ [e]) h ↔ ∃ g, Steps f es g ∧ Steps g [e] h := by
  constructor
  · intro hrun
    induction es generalizing f with
    | nil => exact ⟨f, .refl f, hrun⟩
    | cons first rest ih =>
      cases hrun with
      | send hrest =>
        obtain ⟨g, hg, hlast⟩ := ih hrest
        exact ⟨g, .send hg, hlast⟩
      | receive hrest =>
        obtain ⟨g, hg, hlast⟩ := ih hrest
        exact ⟨g, .receive hg, hlast⟩
      | receive_within hrest =>
        obtain ⟨g, hg, hlast⟩ := ih hrest
        exact ⟨g, .receive_within hg, hlast⟩
  · rintro ⟨g, hfirst, hlast⟩
    exact hfirst.append hlast

theorem Steps.nil_iff {f g : Future Msg Err Fail α} : Steps f [] g ↔ g = f := by
  constructor
  · intro h
    cases h
    rfl
  · rintro rfl
    exact .refl _

theorem steps_send_one_iff {payload : Msg} {resume : Except Err Unit → Future Msg Err Fail α}
    {e : Event Msg Err} {g : Future Msg Err Fail α} :
    Steps (.send payload resume) [e] g ↔ ∃ r, e = .sent payload r ∧ g = resume r := by
  constructor
  · intro h
    cases h with
    | send hrest => exact ⟨_, rfl, Steps.nil_iff.mp hrest⟩
  · rintro ⟨r, rfl, rfl⟩
    exact .send (.refl _)

theorem steps_receive_one_iff {resume : Except Err Msg → Future Msg Err Fail α}
    {e : Event Msg Err} {g : Future Msg Err Fail α} :
    Steps (.receive resume) [e] g ↔ ∃ r, e = .received r ∧ g = resume r := by
  constructor
  · intro h
    cases h with
    | receive hrest => exact ⟨_, rfl, Steps.nil_iff.mp hrest⟩
  · rintro ⟨r, rfl, rfl⟩
    exact .receive (.refl _)

theorem steps_receive_within_one_iff {millis : Nat}
    {resume : Option (Except Err Msg) → Future Msg Err Fail α}
    {e : Event Msg Err} {g : Future Msg Err Fail α} :
    Steps (.receive_within millis resume) [e] g ↔ ∃ r, e = .waited r ∧ g = resume r := by
  constructor
  · intro h
    cases h with
    | receive_within hrest => exact ⟨_, rfl, Steps.nil_iff.mp hrest⟩
  · rintro ⟨r, rfl, rfl⟩
    exact .receive_within (.refl _)

theorem not_steps_ready_one {result : Except Fail α} {e : Event Msg Err}
    {g : Future Msg Err Fail α} : ¬ Steps (.ready result) [e] g := by
  intro h
  cases h

/-- The places `S` with their transitions are exactly the futures `future s`, one
operation at a time. A future is often easier to reason about through the places it
can be suspended at than through its own tree. -/
def Represents (Step : S → Event Msg Err → S → Prop) (future : S → Future Msg Err Fail α) : Prop :=
  ∀ s e g, Steps (future s) [e] g ↔ ∃ t, Step s e t ∧ g = future t

/-- Single operations that agree make whole runs agree, so that an invariant of the
places is one of the future. -/
theorem Represents.steps_iff {Step : S → Event Msg Err → S → Prop}
    {future : S → Future Msg Err Fail α} (hstep : Represents Step future)
    (s : S) (es : List (Event Msg Err)) (g : Future Msg Err Fail α) :
    Steps (future s) es g ↔ ∃ t, Reach Step s es t ∧ g = future t := by
  induction es using List.reverseRecOn generalizing g with
  | nil => simp [Steps.nil_iff, Reach.nil_iff]
  | append_singleton es e ih =>
    constructor
    · intro hrun
      obtain ⟨f, hfirst, hlast⟩ := Steps.snoc_iff.mp hrun
      obtain ⟨t, hreach, rfl⟩ := (ih f).mp hfirst
      obtain ⟨u, hu, rfl⟩ := (hstep t e g).mp hlast
      exact ⟨u, .snoc hreach hu, rfl⟩
    · rintro ⟨u, hreach, rfl⟩
      obtain ⟨t, hfirst, hlast⟩ := Reach.snoc_iff.mp hreach
      have hmiddle : Steps (future s) es (future t) := (ih _).mpr ⟨t, hfirst, rfl⟩
      exact Steps.snoc_iff.mpr ⟨future t, hmiddle, (hstep t e _).mpr ⟨u, hlast, rfl⟩⟩

end async_sock
