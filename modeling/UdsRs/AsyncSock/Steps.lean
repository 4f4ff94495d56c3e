import UdsRs.AsyncSock.Future

namespace async_sock

variable {Msg Err Fail α β : Type}

/-- `f` reaches `g` when its next operations complete as the events say. The events
are any that fit the operations of `f`: nothing is assumed about the socket, the
peer or the timer, and a run may stop at any suspension point. -/
inductive Steps : Future Msg Err Fail α → List (Event Msg Err) → Future Msg Err Fail α → Prop where
  | refl (f : Future Msg Err Fail α) : Steps f [] f
  | send {payload : Msg} {resume : Except Err Unit → Future Msg Err Fail α}
      {r : Except Err Unit} {es : List (Event Msg Err)} {g : Future Msg Err Fail α}
      (hrest : Steps (resume r) es g) : Steps (.send payload resume) (.sent payload r :: es) g
  | receive {resume : Except Err Msg → Future Msg Err Fail α}
      {r : Except Err Msg} {es : List (Event Msg Err)} {g : Future Msg Err Fail α}
      (hrest : Steps (resume r) es g) : Steps (.receive resume) (.received r :: es) g
  | receive_within {millis : Nat} {resume : Option (Except Err Msg) → Future Msg Err Fail α}
      {r : Option (Except Err Msg)} {es : List (Event Msg Err)} {g : Future Msg Err Fail α}
      (hrest : Steps (resume r) es g) : Steps (.receive_within millis resume) (.waited r :: es) g

/-- `f` runs to completion on the events and returns `result`, which may be a
failure. -/
def Returns (f : Future Msg Err Fail α) (es : List (Event Msg Err)) (result : Except Fail α) : Prop :=
  Steps f es (.ready result)

def deliveries (es : List (Event Msg Err)) : List Msg := es.filterMap Event.delivered

def transmissions (es : List (Event Msg Err)) : List Msg := es.filterMap Event.transmitted

@[simp] theorem deliveries_nil : deliveries ([] : List (Event Msg Err)) = [] := rfl

@[simp] theorem transmissions_nil : transmissions ([] : List (Event Msg Err)) = [] := rfl

@[simp] theorem deliveries_append (es fs : List (Event Msg Err)) :
    deliveries (es ++ fs) = deliveries es ++ deliveries fs := List.filterMap_append

@[simp] theorem transmissions_append (es fs : List (Event Msg Err)) :
    transmissions (es ++ fs) = transmissions es ++ transmissions fs := List.filterMap_append

@[simp] theorem deliveries_cons (e : Event Msg Err) (es : List (Event Msg Err)) :
    deliveries (e :: es) = e.delivered.toList ++ deliveries es := by
  cases h : e.delivered <;> simp [deliveries, h]

@[simp] theorem transmissions_cons (e : Event Msg Err) (es : List (Event Msg Err)) :
    transmissions (e :: es) = e.transmitted.toList ++ transmissions es := by
  cases h : e.transmitted <;> simp [transmissions, h]

namespace Steps

theorem append {f g h : Future Msg Err Fail α} {es fs : List (Event Msg Err)}
    (hfirst : Steps f es g) (hsecond : Steps g fs h) : Steps f (es ++ fs) h := by
  induction hfirst with
  | refl => exact hsecond
  | send _ ih => exact .send (ih hsecond)
  | receive _ ih => exact .receive (ih hsecond)
  | receive_within _ ih => exact .receive_within (ih hsecond)

theorem ready_iff {result : Except Fail α} {es : List (Event Msg Err)} {g : Future Msg Err Fail α} :
    Steps (.ready result) es g ↔ es = [] ∧ g = .ready result := by
  constructor
  · intro h
    cases h
    exact ⟨rfl, rfl⟩
  · rintro ⟨rfl, rfl⟩
    exact .refl _

theorem bind_left {f g : Future Msg Err Fail α} {es : List (Event Msg Err)}
    (h : Steps f es g) (next : α → Future Msg Err Fail β) : Steps (f >>= next) es (g >>= next) := by
  induction h with
  | refl => exact .refl _
  | send _ ih => exact .send ih
  | receive _ ih => exact .receive ih
  | receive_within _ ih => exact .receive_within ih

/-- Where `next` never suspends, a run of `f >>= next` is a run of `f`, whether it
has come to its end or not. -/
theorem of_bind_ready {f : Future Msg Err Fail α} {next : α → Except Fail β}
    {es : List (Event Msg Err)} {t : Future Msg Err Fail β}
    (h : Steps (f >>= fun a => .ready (next a)) es t) :
    ∃ g, Steps f es g ∧ t = (g >>= fun a => .ready (next a)) := by
  induction f generalizing es with
  | ready result =>
    cases result with
    | error e =>
      obtain ⟨rfl, rfl⟩ := ready_iff.mp h
      exact ⟨_, .refl _, rfl⟩
    | ok a =>
      obtain ⟨rfl, rfl⟩ := ready_iff.mp h
      exact ⟨_, .refl _, rfl⟩
  | send payload resume ih =>
    cases h with
    | refl => exact ⟨_, .refl _, rfl⟩
    | send hrest =>
      obtain ⟨g, hg, rfl⟩ := ih _ hrest
      exact ⟨g, .send hg, rfl⟩
  | receive resume ih =>
    cases h with
    | refl => exact ⟨_, .refl _, rfl⟩
    | receive hrest =>
      obtain ⟨g, hg, rfl⟩ := ih _ hrest
      exact ⟨g, .receive hg, rfl⟩
  | receive_within millis resume ih =>
    cases h with
    | refl => exact ⟨_, .refl _, rfl⟩
    | receive_within hrest =>
      obtain ⟨g, hg, rfl⟩ := ih _ hrest
      exact ⟨g, .receive_within hg, rfl⟩

end Steps

/-- A computation that post-processes the result of `f` returns exactly the
post-processed results of `f`, on the same operations. -/
theorem returns_bind_ready_iff {f : Future Msg Err Fail α} {next : α → Except Fail β}
    {es : List (Event Msg Err)} {result : Except Fail β} :
    Returns (f >>= fun a => .ready (next a)) es result ↔
      ∃ inner, Returns f es inner ∧ result = inner >>= next := by
  constructor
  · intro h
    obtain ⟨g, hg, hready⟩ := Steps.of_bind_ready h
    cases g with
    | ready inner =>
      refine ⟨inner, hg, ?_⟩
      cases inner with
      | error e => exact Future.ready.inj hready
      | ok a => exact Future.ready.inj hready
    | send => cases hready
    | receive => cases hready
    | receive_within => cases hready
  · rintro ⟨inner, hinner, rfl⟩
    have h := Steps.bind_left hinner fun a => .ready (next a)
    cases inner <;> exact h

end async_sock
