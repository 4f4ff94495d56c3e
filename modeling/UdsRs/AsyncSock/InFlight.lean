import UdsRs.AsyncSock.Turns

namespace async_sock

open lts

namespace Net

variable {Msg Err Fail α : Type} {Answers : Msg → List Msg → Prop}
  {tasks : ℕ → Future Msg Err Fail α} {s t : Net ℕ Msg Err Fail α} {acts : List (Action ℕ Msg)}
  {a : Action ℕ Msg} {k : ℕ}

/-- The tasks whose answers and requests are under way, oldest first. The answers
come before the requests, as the peer answers the oldest request first. -/
def under_way (s : Net ℕ Msg Err Fail α) : List ℕ :=
  s.answers.map Prod.fst ++ s.requests.map Prod.fst

/-- What is under way stands in the order of the turns, and none of it is for a task
after `k`. The queues are FIFO, so a task that comes to an answer of its own has
seen all older ones go. -/
structure Queued (s : Net ℕ Msg Err Fail α) (k : ℕ) : Prop where
  sorted : (under_way s).Pairwise (· ≤ ·)
  le : ∀ o ∈ under_way s, o ≤ k

theorem Step.under_way_cases (h : Step Answers s a t) :
    ∀ o ∈ under_way t, o ∈ under_way s ∨ a.actor = some o := by
  intro o ho
  cases h with
  | @send i payload resume htask =>
    simp only [under_way, List.map_append, List.map_cons, List.map_nil, List.mem_append,
      List.mem_singleton] at ho ⊢
    rcases ho with hanswer | hrequest | rfl
    · exact .inl (.inl hanswer)
    · exact .inl (.inr hrequest)
    · exact .inr rfl
  | @answer i request rest msgs hrequest hanswer =>
    refine .inl ?_
    simp only [under_way, hrequest, List.map_append, List.map_map, List.map_cons, List.mem_append,
      List.mem_cons] at ho ⊢
    rcases ho with (hold | hnew) | hlater
    · exact .inl hold
    · obtain ⟨msg, -, rfl⟩ := List.mem_map.mp hnew
      exact .inr (.inl rfl)
    · exact .inr (.inr hlater)
  | receive htask hanswer | receive_within htask hanswer =>
    refine .inl ?_
    simp only [under_way, hanswer, List.map_cons, List.cons_append]
    exact List.mem_cons_of_mem _ ho
  | expire => exact .inl ho

/-- What a step hands over was under way, and goes to the task that acts. -/
theorem Step.receipts_cases (h : Step Answers s a t) :
    ∀ r ∈ t.receipts, r ∈ s.receipts ∨ (a.actor = some r.receiver ∧ r.origin ∈ under_way s) := by
  intro r hr
  cases h with
  | send | answer | expire => exact .inl hr
  | receive htask hanswer | receive_within htask hanswer =>
    rcases List.mem_append.mp hr with hold | hnew
    · exact .inl hold
    · obtain rfl := List.mem_singleton.mp hnew
      exact .inr ⟨rfl, by simp [under_way, hanswer]⟩

theorem Step.receipts_subset (h : Step Answers s a t) : s.receipts ⊆ t.receipts := by
  cases h with
  | send | answer | expire => exact List.Subset.refl _
  | receive | receive_within => exact List.subset_append_left _ _

theorem Queued.mono {k' : ℕ} (h : Queued s k) (hle : k ≤ k') : Queued s k' :=
  ⟨h.sorted, fun o ho => Nat.le_trans (h.le o ho) hle⟩

/-- An answered request makes room for any number of messages of the same task. -/
theorem pairwise_replicate {older newer : List ℕ} {i : ℕ}
    (h : (older ++ i :: newer).Pairwise (· ≤ ·)) (n : ℕ) :
    (older ++ List.replicate n i ++ newer).Pairwise (· ≤ ·) := by
  obtain ⟨holder, hrest, hcross⟩ := List.pairwise_append.mp h
  obtain ⟨hi, hnewer⟩ := List.pairwise_cons.mp hrest
  rw [List.append_assoc]
  refine List.pairwise_append.mpr ⟨holder, List.pairwise_append.mpr ⟨?_, hnewer, ?_⟩, ?_⟩
  · exact List.pairwise_replicate.mpr (.inr (Nat.le_refl i))
  · intro a ha b hb
    rw [List.eq_of_mem_replicate ha]
    exact hi b hb
  · intro a ha b hb
    rcases List.mem_append.mp hb with hnew | hold
    · rw [List.eq_of_mem_replicate hnew]
      exact hcross a ha i List.mem_cons_self
    · exact hcross a ha b (List.mem_cons_of_mem _ hold)

theorem Queued.step (h : Queued s k) (hstep : Step Answers s a t)
    (hactor : ∀ i, a.actor = some i → i = k) : Queued t k := by
  obtain ⟨hsorted, hle⟩ := h
  unfold under_way at hsorted hle
  cases hstep with
  | @send i payload resume htask =>
    obtain rfl := hactor i rfl
    constructor <;> simp only [under_way, List.map_append, List.map_cons, List.map_nil] <;>
      rw [← List.append_assoc]
    · refine List.pairwise_append.mpr ⟨hsorted, List.pairwise_singleton _ _, ?_⟩
      simpa using hle
    · intro o ho
      rcases List.mem_append.mp ho with hold | hnew
      · exact hle o hold
      · exact Nat.le_of_eq (List.mem_singleton.mp hnew)
  | @answer i request rest msgs hrequest hanswer =>
    simp only [hrequest, List.map_cons] at hsorted hle
    have hmap : (msgs.map (i, ·)).map Prod.fst = List.replicate msgs.length i := by
      simp [Function.comp_def]
    constructor <;> simp only [under_way, List.map_append, hmap]
    · exact pairwise_replicate hsorted msgs.length
    · intro o ho
      apply hle
      simp only [List.mem_append, List.mem_cons, List.mem_replicate] at ho ⊢
      rcases ho with (hold | ⟨-, rfl⟩) | hnew
      · exact .inl hold
      · exact .inr (.inl rfl)
      · exact .inr (.inr hnew)
  | receive htask hanswer | receive_within htask hanswer =>
    simp only [hanswer, List.map_cons, List.cons_append] at hsorted hle
    exact ⟨(List.pairwise_cons.mp hsorted).2, fun o ho => hle o (List.mem_cons_of_mem _ ho)⟩
  | expire => exact ⟨hsorted, hle⟩

end Net

end async_sock
