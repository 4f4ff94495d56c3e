import UdsRs.AsyncSock.Awaiting
import UdsRs.Uds.Interleaved.Retransmissions

namespace uds_rs.uds

open async_sock lts rust TryFromPrimitive NegativeResponseCode UdsClient Stage

namespace ServiceCall

variable {overflow_checks : Bool} {call : ServiceCall} {data : Packet}

theorem awaiting_run (call : ServiceCall) (overflow_checks : Bool) :
    (call.run overflow_checks).awaiting = false := by
  rcases call.arguments_cases with hinvalid | ⟨data, hdata⟩
  · rw [run_of_arguments_error (hinvalid overflow_checks)]
    rfl
  · rw [run_of_arguments_ok (hdata overflow_checks)]
    rfl

theorem awaiting_rest (place : Stage) :
    (call.rest overflow_checks data place).awaiting = true ↔
      (∃ retry_counter, place = receiving retry_counter) ∨ place = waiting := by
  cases place with
  | sending retry_counter =>
    have hfalse : (call.rest overflow_checks data (sending retry_counter)).awaiting = false := rfl
    simp [hfalse]
  | receiving retry_counter =>
    have htrue : (call.rest overflow_checks data (receiving retry_counter)).awaiting = true := rfl
    simp [htrue]
  | waiting =>
    have htrue : (call.rest overflow_checks data waiting).awaiting = true := rfl
    simp [htrue]
  | returned result =>
    rw [rest_returned]
    simp

/-- After a packet was judged the call waits on only if the packet was pending. -/
theorem awaiting_judge (retry_counter : Int32) (raw : Packet) :
    (call.rest overflow_checks data (judge overflow_checks call.sid retry_counter raw)).awaiting =
      true ↔ Pending call.sid raw := by
  rw [awaiting_rest, ← verdict_eq_pending_iff]
  rcases judge_cases overflow_checks call.sid retry_counter raw with
    ⟨result, hjudge⟩ | ⟨hpending, hjudge⟩ | ⟨next, hbusy, -, -, hjudge⟩
  · rw [hjudge]
    refine iff_of_false (by simp) ?_
    intro hpending
    rw [judge_pending (verdict_eq_pending_iff.mp hpending)] at hjudge
    cases hjudge
  · rw [hjudge, hpending]
    simp
  · rw [hjudge, hbusy]
    simp

end ServiceCall

namespace ClientNet

variable {ι : Type} {overflow_checks : Bool} {calls : ι → ServiceCall}
  {acts acts' : List (Action ι Packet)} {s t : ClientNet ι} {a : Action ι Packet} {i : ι}

/-- The settling answers under way and the requests that are still to be settled.
Each transmission adds one to them, and each exchange takes at most one away. -/
def unread (calls : ι → ServiceCall) (s : ClientNet ι) : Nat :=
  s.answers.countP (fun p => ¬ Pending (calls p.1).sid p.2) + s.requests.length

variable [DecidableEq ι]

/-- The call has returned, and the last packet it took was a pending one, for
whichever call. The answer that was announced is then taken by another call or by
none. -/
def GaveUp (calls : ι → ServiceCall) (s : ClientNet ι) (i : ι) : Prop :=
  (∃ result, s.tasks i = .ready result) ∧
    ∃ r, (s.receipts.filter (·.receiver = i)).getLast? = some r ∧ Pending (calls r.origin).sid r.msg

/-- The answers still to be read are as many as the calls that wait, and those in
`D`, which have given up. What the waiting calls do not take is left over by the
others. -/
def LeftOver (calls : ι → ServiceCall) (s : ClientNet ι) (D : Finset ι) : Prop :=
  (∀ i, i ∈ D ↔ GaveUp calls s i) ∧ ∃ A, Net.Awaiting s A ∧ A.card + D.card = unread calls s

theorem leftOver_start (overflow_checks : Bool) (calls : ι → ServiceCall) :
    LeftOver calls (ClientNet.start overflow_checks calls) ∅ := by
  constructor
  · intro i
    refine iff_of_false (Finset.notMem_empty i) ?_
    rintro ⟨-, r, hlast, -⟩
    cases hlast
  · exact ⟨∅, Net.awaiting_empty_iff.mpr fun i => (calls i).awaiting_run overflow_checks, rfl⟩

theorem GaveUp.step {Answers : Packet → List Packet → Prop} (h : GaveUp calls s i)
    (hstep : Net.Step Answers s a t) : GaveUp calls t i := by
  obtain ⟨⟨result, hready⟩, hlast⟩ := h
  have hother : a.actor ≠ some i := by
    intro hactor
    cases hstep with
    | answer => cases hactor
    | send htask | receive htask | receive_within htask | expire htask =>
      cases hactor
      rw [hready] at htask
      cases htask
  refine ⟨⟨result, (hstep.tasks_of_actor_ne hother).trans hready⟩, ?_⟩
  rwa [hstep.receipts_of_actor_ne hother]

theorem gaveUp_of_actor_ne {Answers : Packet → List Packet → Prop}
    (hstep : Net.Step Answers s a t) (hi : a.actor ≠ some i) :
    GaveUp calls t i ↔ GaveUp calls s i := by
  rw [GaveUp, GaveUp, hstep.tasks_of_actor_ne hi, hstep.receipts_of_actor_ne hi]

theorem place_of_reach
    (h : Reach (Net.Step Conforming) (ClientNet.start overflow_checks calls) acts s) (i : ι) :
    (∃ result, s.tasks i = .ready result) ∨
      ∃ data place, s.tasks i = (calls i).rest overflow_checks data place := by
  obtain ⟨es, hes, -⟩ := Net.run_of_reach h i
  rcases ServiceCall.visits_of_steps hes with ⟨-, -, hready⟩ | ⟨data, place, -, -, hrest⟩
  · exact .inl ⟨_, hready⟩
  · exact .inr ⟨data, place, hrest⟩

theorem awaiting_sent
    (h : Reach (Net.Step Conforming) (ClientNet.start overflow_checks calls) acts s)
    {payload : Packet} {resume : Except UdsCommunicationError Unit → UdsFuture UdsResponse}
    (htask : s.tasks i = .send payload resume) : (resume (.ok ())).awaiting = true := by
  rcases place_of_reach h i with ⟨result, hready⟩ | ⟨data, place, hrest⟩
  · rw [hready] at htask
    cases htask
  · rw [hrest] at htask
    obtain ⟨retry_counter, -, -, hresume⟩ := ServiceCall.sending_of_rest htask
    rw [hresume]
    rfl

/-- A call that has received waits on only if the packet was pending. -/
theorem awaiting_received
    (h : Reach (Net.Step Conforming) (ClientNet.start overflow_checks calls) acts s)
    {resume : Except UdsCommunicationError Packet → UdsFuture UdsResponse}
    (htask : s.tasks i = .receive resume) (msg : Packet) :
    (resume (.ok msg)).awaiting = true ↔ Pending (calls i).sid msg := by
  rcases place_of_reach h i with ⟨result, hready⟩ | ⟨data, place, hrest⟩
  · rw [hready] at htask
    cases htask
  · rw [hrest] at htask
    obtain ⟨retry_counter, -, hresume⟩ := ServiceCall.receiving_of_rest htask
    rw [hresume msg, ServiceCall.awaiting_judge]

theorem ready_waited
    (h : Reach (Net.Step Conforming) (ClientNet.start overflow_checks calls) acts s) {millis : Nat}
    {resume : Option (Except UdsCommunicationError Packet) → UdsFuture UdsResponse}
    (htask : s.tasks i = .receive_within millis resume) :
    (∃ result, resume none = .ready result) ∧
      ∀ msg, ∃ result, resume (some (.ok msg)) = .ready result := by
  rcases place_of_reach h i with ⟨result, hready⟩ | ⟨data, place, hrest⟩
  · rw [hready] at htask
    cases htask
  · rw [hrest] at htask
    obtain ⟨-, hparsed, e, hexpired⟩ := ServiceCall.waiting_of_rest htask
    exact ⟨⟨_, hexpired⟩, fun msg => ⟨_, hparsed msg⟩⟩

/-- What settles the request of one call delays no other call, so it does not matter
by whose SID an answer under way is looked at. -/
theorem pending_of_head
    (h : Reach (Net.Step Conforming) (ClientNet.start overflow_checks calls) acts s) {o : ι}
    {msg : Packet} {rest : List (ι × Packet)} (hanswers : s.answers = (o, msg) :: rest)
    {sid : UInt8} (hpending : Pending sid msg) : Pending (calls o).sid msg := by
  obtain ⟨request, msgs, ⟨data, -, rfl⟩, hanswer, hmem⟩ :=
    (tagged_of_reach h).answers (o, msg) (by simp [hanswers])
  by_contra hsettling
  exact hanswer.not_pending hmem hsettling hpending

/-- A call that is given a pending packet and does not wait has returned. -/
theorem ready_of_pending
    (h : Reach (Net.Step Conforming) (ClientNet.start overflow_checks calls) acts s)
    {resume : Except UdsCommunicationError Packet → UdsFuture UdsResponse}
    (htask : s.tasks i = .receive resume) {msg : Packet} {sid : UInt8} (hpending : Pending sid msg)
    (hafter : (resume (.ok msg)).awaiting = false) : ∃ result, resume (.ok msg) = .ready result := by
  rcases place_of_reach h i with ⟨result, hready⟩ | ⟨data, place, hrest⟩
  · rw [hready] at htask
    cases htask
  · rw [hrest] at htask
    obtain ⟨retry_counter, -, hresume⟩ := ServiceCall.receiving_of_rest htask
    rw [hresume msg] at hafter ⊢
    rcases judge_cases overflow_checks (calls i).sid retry_counter msg with
      ⟨result, hjudge⟩ | ⟨-, hjudge⟩ | ⟨next, hbusy, -⟩
    · rw [hjudge, ServiceCall.rest_returned]
      exact ⟨_, rfl⟩
    · rw [hjudge] at hafter
      cases hafter
    · exact absurd hpending (verdict_eq_busy_iff.mp hbusy).not_pending_any

/-- The last packet a call under the timer took was a pending one. -/
theorem pending_of_waiting
    (h : Reach (Net.Step Conforming) (ClientNet.start overflow_checks calls) acts s) {millis : Nat}
    {resume : Option (Except UdsCommunicationError Packet) → UdsFuture UdsResponse}
    (htask : s.tasks i = .receive_within millis resume) :
    ∃ r, (s.receipts.filter (·.receiver = i)).getLast? = some r ∧
      Pending (calls r.origin).sid r.msg := by
  obtain ⟨es, hes, htaken⟩ := Net.run_of_reach h i
  rcases ServiceCall.visits_of_steps hes with ⟨-, -, hready⟩ | ⟨data, place, -, hvisits, hrest⟩
  · rw [hready] at htask
    cases htask
  · rw [hrest] at htask
    obtain ⟨rfl, -, -⟩ := ServiceCall.waiting_of_rest htask
    obtain ⟨es', previous, raw, rfl, hverdict, -⟩ := visits_waiting hvisits
    have hlast : (s.taken i).getLast? = some raw := by
      rw [← htaken, List.append_cons, deliveries_append]
      simp
    rw [Net.taken, List.getLast?_map] at hlast
    obtain ⟨r, hr, rfl⟩ := Option.map_eq_some_iff.mp hlast
    refine ⟨r, hr, ?_⟩
    obtain ⟨request, msgs, ⟨data, -, rfl⟩, hanswer, hmem⟩ :=
      (tagged_of_reach h).receipts r (receiver_of_last hr).1
    by_contra hsettling
    exact hanswer.not_pending hmem hsettling (verdict_eq_pending_iff.mp hverdict)

omit [DecidableEq ι] in
theorem unread_of_head {o : ι} {msg : Packet} {rest : List (ι × Packet)}
    (hanswers : s.answers = (o, msg) :: rest) (hrest : t.answers = rest)
    (hrequests : t.requests = s.requests) :
    unread calls s = unread calls t + if Pending (calls o).sid msg then 0 else 1 := by
  by_cases hpending : Pending (calls o).sid msg
  · simp [unread, hanswers, hrest, hrequests, hpending]
  · simp [unread, hanswers, hrest, hrequests, hpending]
    omega

theorem tasks_of_ne (hstep : Net.Step Conforming s a t) (hactor : a.actor = some i) :
    ∀ j, j ≠ i → t.tasks j = s.tasks j := by
  intro j hj
  exact hstep.tasks_of_actor_ne fun heq => hj (Option.some.inj (heq.symm.trans hactor))

/-- Where the call that acts has not given up, the calls that have are the same. -/
theorem LeftOver.keep {D : Finset ι} (hD : ∀ j, j ∈ D ↔ GaveUp calls s j)
    (hstep : Net.Step Conforming s a t) (hactor : ∀ i, a.actor = some i → ¬ GaveUp calls t i) :
    ∀ j, j ∈ D ↔ GaveUp calls t j := by
  intro j
  by_cases hj : a.actor = some j
  · refine iff_of_false (fun hmem => hactor j hj ?_) (hactor j hj)
    exact ((hD j).mp hmem).step hstep
  · exact (hD j).trans (gaveUp_of_actor_ne hstep hj).symm

theorem LeftOver.join {D : Finset ι} (hD : ∀ j, j ∈ D ↔ GaveUp calls s j)
    (hstep : Net.Step Conforming s a t) (hactor : a.actor = some i) (hi : GaveUp calls t i) :
    ∀ j, j ∈ insert i D ↔ GaveUp calls t j := by
  intro j
  by_cases hj : j = i
  · subst hj
    simp [hi]
  · have hne : a.actor ≠ some j := fun heq => hj (Option.some.inj (heq.symm.trans hactor))
    rw [Finset.mem_insert, or_iff_right hj, gaveUp_of_actor_ne hstep hne]
    exact hD j

theorem not_gaveUp_of_awaiting (h : (s.tasks i).awaiting = true) : ¬ GaveUp calls s i := by
  rintro ⟨⟨result, hready⟩, -⟩
  rw [hready] at h
  cases h

/-- A call that takes a packet waits on, has given up, or was given the answer that
settles a request. -/
theorem LeftOver.take {D : Finset ι} {o : ι} {msg : Packet} {rest : List (ι × Packet)}
    (h : LeftOver calls s D) (hstep : Net.Step Conforming s a t) (hactor : a.actor = some i)
    (hbefore : (s.tasks i).awaiting = true)
    (hafter : (t.tasks i).awaiting = true → Pending (calls o).sid msg)
    (hready : (t.tasks i).awaiting = false → Pending (calls o).sid msg →
      ∃ result, t.tasks i = .ready result)
    (hanswers : s.answers = (o, msg) :: rest) (hrest : t.answers = rest)
    (hrequests : t.requests = s.requests) (hreceipts : t.receipts = s.receipts ++ [⟨i, o, msg⟩]) :
    ∃ D', D ⊆ D' ∧ LeftOver calls t D' := by
  obtain ⟨hD, A, hA, hcard⟩ := h
  obtain ⟨B, hB, hcardB⟩ := hA.update (tasks_of_ne hstep hactor)
  have hunread : unread calls s = unread calls t + if Pending (calls o).sid msg then 0 else 1 :=
    unread_of_head hanswers hrest hrequests
  have hlast : (t.receipts.filter (·.receiver = i)).getLast? = some ⟨i, o, msg⟩ := by
    simp [hreceipts]
  rw [hbefore, Bool.toNat_true] at hcardB
  by_cases hpending : Pending (calls o).sid msg
  · rw [if_pos hpending] at hunread
    cases ht : (t.tasks i).awaiting with
    | true =>
      rw [ht, Bool.toNat_true] at hcardB
      refine ⟨D, Finset.Subset.refl D, LeftOver.keep hD hstep ?_, B, hB, by omega⟩
      intro j hj
      obtain rfl : i = j := Option.some.inj (hactor.symm.trans hj)
      exact not_gaveUp_of_awaiting ht
    | false =>
      rw [ht, Bool.toNat_false] at hcardB
      have hi : GaveUp calls t i := ⟨hready ht hpending, _, hlast, hpending⟩
      have hnew : i ∉ D := fun hmem => not_gaveUp_of_awaiting hbefore ((hD i).mp hmem)
      refine ⟨insert i D, Finset.subset_insert i D, LeftOver.join hD hstep hactor hi, B, hB, ?_⟩
      rw [Finset.card_insert_of_notMem hnew]
      omega
  · rw [if_neg hpending] at hunread
    have ht : (t.tasks i).awaiting = false :=
      Bool.eq_false_iff.mpr fun ht => hpending (hafter ht)
    rw [ht, Bool.toNat_false] at hcardB
    refine ⟨D, Finset.Subset.refl D, LeftOver.keep hD hstep ?_, B, hB, by omega⟩
    rintro j hj ⟨-, r, hr, hgiven⟩
    obtain rfl : i = j := Option.some.inj (hactor.symm.trans hj)
    obtain rfl : ⟨i, o, msg⟩ = r := Option.some.inj (hlast.symm.trans hr)
    exact hpending hgiven

/-- Every step keeps the two sides equal, and no call takes back that it has given
up. -/
theorem LeftOver.step {D : Finset ι} (h : LeftOver calls s D)
    (hreach : Reach (Net.Step Conforming) (ClientNet.start overflow_checks calls) acts s)
    (hstep : Net.Step Conforming s a t) : ∃ D', D ⊆ D' ∧ LeftOver calls t D' := by
  have hkept := hstep
  cases hstep with
  | @send i payload resume htask =>
    have hsent : (resume (.ok ())).awaiting = true := awaiting_sent hreach htask
    obtain ⟨hD, A, hA, hcard⟩ := h
    obtain ⟨B, hB, hcardB⟩ := hA.update (tasks_of_ne hkept rfl)
    simp only [Function.update_self, hsent, htask, Future.awaiting_send, Bool.toNat_false,
      Bool.toNat_true] at hcardB
    refine ⟨D, Finset.Subset.refl D, LeftOver.keep hD hkept ?_, B, hB, ?_⟩
    · intro j hj
      obtain rfl : i = j := Option.some.inj hj
      refine not_gaveUp_of_awaiting ?_
      simpa using hsent
    · simp only [unread, List.length_append, List.length_singleton] at hcard ⊢
      omega
  | @answer i request rest msgs hrequest hanswer =>
    obtain ⟨data, -, hdata⟩ := (tagged_of_reach hreach).requests (i, request) (by simp [hrequest])
    obtain rfl : request = (calls i).sid :: data := hdata
    have hcount := hanswer.countP_settling
    obtain ⟨hD, A, hA, hcard⟩ := h
    refine ⟨D, Finset.Subset.refl D, LeftOver.keep hD hkept nofun, A, hA, ?_⟩
    simp only [unread, hrequest, List.length_cons, List.countP_append, List.countP_map,
      Function.comp_def, hcount] at hcard ⊢
    omega
  | @receive i origin msg rest resume htask hanswers =>
    have hreceived := awaiting_received hreach htask msg
    refine h.take hkept rfl (by simp [htask]) ?_ ?_ hanswers rfl rfl rfl
    · intro hafter
      simp only [Function.update_self] at hafter
      exact pending_of_head hreach hanswers (hreceived.mp hafter)
    · intro hafter hpending
      simp only [Function.update_self] at hafter ⊢
      exact ready_of_pending hreach htask hpending hafter
  | @receive_within i origin msg rest millis resume htask hanswers =>
    obtain ⟨-, hready⟩ := ready_waited hreach htask
    obtain ⟨result, hresult⟩ := hready msg
    refine h.take hkept rfl (by simp [htask]) ?_ ?_ hanswers rfl rfl rfl
    · intro hafter
      simp [hresult] at hafter
    · intro _ _
      exact ⟨result, by simp [hresult]⟩
  | @expire i millis resume htask =>
    obtain ⟨⟨result, hresult⟩, -⟩ := ready_waited hreach htask
    obtain ⟨hD, A, hA, hcard⟩ := h
    obtain ⟨B, hB, hcardB⟩ := hA.update (tasks_of_ne hkept rfl)
    simp only [Function.update_self, hresult, htask, Future.awaiting_receive_within,
      Future.awaiting_ready, Bool.toNat_false, Bool.toNat_true] at hcardB
    have hnew : i ∉ D := by
      intro hmem
      exact not_gaveUp_of_awaiting (by simp [htask]) ((hD i).mp hmem)
    obtain ⟨r, hlast, hpending⟩ := pending_of_waiting hreach htask
    have hi : GaveUp calls { s with tasks := Function.update s.tasks i (resume none) } i :=
      ⟨⟨result, by simp [hresult]⟩, r, hlast, hpending⟩
    refine ⟨insert i D, Finset.subset_insert i D, LeftOver.join hD hkept rfl hi, B, hB, ?_⟩
    rw [Finset.card_insert_of_notMem hnew]
    simp only [unread] at hcard ⊢
    omega

/-- The equation holds in every state, and the calls that have given up in it have
given up in every later one. -/
theorem LeftOver.of_reach {D : Finset ι} (h : LeftOver calls s D)
    (hreach : Reach (Net.Step Conforming) (ClientNet.start overflow_checks calls) acts s)
    (hrun : Reach (Net.Step Conforming) s acts' t) : ∃ D', D ⊆ D' ∧ LeftOver calls t D' := by
  induction hrun with
  | nil => exact ⟨D, Finset.Subset.refl D, h⟩
  | snoc hbefore hstep ih =>
    obtain ⟨D₁, hsub₁, hleftOver₁⟩ := ih
    obtain ⟨D₂, hsub₂, hleftOver₂⟩ := hleftOver₁.step (hreach.append hbefore) hstep
    exact ⟨D₂, hsub₁.trans hsub₂, hleftOver₂⟩

theorem exists_leftOver
    (h : Reach (Net.Step Conforming) (ClientNet.start overflow_checks calls) acts s) :
    ∃ D, LeftOver calls s D := by
  obtain ⟨D, -, hleftOver⟩ := (leftOver_start overflow_checks calls).of_reach .nil h
  exact ⟨D, hleftOver⟩

/-- With a conforming ECU and a socket that does not fail, whatever calls share the
client and in any order of their steps: one answer is still to be read for each call
that waits, and one for each call that gave up on a pending packet, which no later
step takes back. An answer that is left over is so never made good. -/
theorem unread_eq_awaiting_add_gaveUp
    (h : Reach (Net.Step Conforming) (ClientNet.start overflow_checks calls) acts s) :
    ∃ D, LeftOver calls s D ∧
      ∀ acts' t, Reach (Net.Step Conforming) s acts' t → ∃ E, D ⊆ E ∧ LeftOver calls t E := by
  obtain ⟨D, hleftOver⟩ := exists_leftOver h
  exact ⟨D, hleftOver, fun _ _ hrun => hleftOver.of_reach h hrun⟩

/-- The read has given up under the timer, and its answer is under way. -/
def lone_read_expired : ClientNet Unit where
  tasks _ := .ready (err (.NRC ⟨0x23, RequestCorrectlyReceivedResponsePending⟩))
  requests := []
  answers := [((), [0x63, 0xAA])]
  receipts := [⟨(), (), [0x7F, 0x23, 0x78]⟩]

theorem reach_lone_read_expired :
    Reach (Net.Step Conforming) (ClientNet.start true lone_read)
      [.send (), .answer () [[0x7F, 0x23, 0x78], [0x63, 0xAA]], .receive (), .expire ()]
      lone_read_expired := by
  have hwaiting : Reach (Net.Step Conforming) (ClientNet.start true lone_read)
      [.send (), .answer () [[0x7F, 0x23, 0x78], [0x63, 0xAA]], .receive ()]
      ⟨fun _ => (lone_read ()).rest true [0x11, 0x10, 0x01] waiting, [], [((), [0x63, 0xAA])],
        [⟨(), (), [0x7F, 0x23, 0x78]⟩]⟩ := lone_read_round .nil (conforming_delayed_read 0x10 0xAA)
  have hexpired := Reach.snoc hwaiting (step_expired rfl)
  rw [Function.update_eq_const_of_subsingleton] at hexpired
  exact hexpired

theorem unread_eq_awaiting_add_gaveUp_lone_read :
    ∃ D, LeftOver lone_read lone_read_expired D ∧
      ∀ acts' t, Reach (Net.Step Conforming) lone_read_expired acts' t →
        ∃ E, D ⊆ E ∧ LeftOver lone_read t E :=
  unread_eq_awaiting_add_gaveUp reach_lone_read_expired

end ClientNet

end uds_rs.uds
