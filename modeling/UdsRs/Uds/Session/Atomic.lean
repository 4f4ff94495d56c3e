import UdsRs.Uds.Session.Executed

namespace uds_rs.uds

open async_sock lts rust UdsClient Stage

/-- What an ECU is for: a state, and for each request the state after it and the
final response. It carries out one request at a time and knows nothing of
repetitions, delays or other calls. -/
structure Ecu (σ : Type) where
  initial : σ
  serve : σ → Packet → σ × Packet

namespace Ecu

variable {σ : Type} (ecu : Ecu σ)

def run (state : σ) (requests : List Packet) : σ :=
  requests.foldl (fun state request => (ecu.serve state request).1) state

def respond (requests : List Packet) (request : Packet) : Packet :=
  (ecu.serve (ecu.run ecu.initial requests) request).2

@[simp] theorem run_nil (state : σ) : ecu.run state [] = state := rfl

@[simp] theorem run_cons (state : σ) (request : Packet) (requests : List Packet) :
    ecu.run state (request :: requests) = ecu.run (ecu.serve state request).1 requests := rfl

theorem run_append (state : σ) (earlier later : List Packet) :
    ecu.run state (earlier ++ later) = ecu.run (ecu.run state earlier) later := List.foldl_append

end Ecu

/-- A packet that the parser of the call accepts is the final response, and the ECU
has carried the request out. -/
theorem final_of_parse_ok {call : ServiceCall} {data : Packet} {msgs : List Packet} {raw : Packet}
    {v : UdsResponse} (h : EcuAnswers (call.sid :: data) msgs) (hmem : raw ∈ msgs)
    (hparse : call.parse raw = .ok v) : msgs.getLast? = some raw ∧ ¬ Busy call.sid raw := by
  have hpositive : ∀ code, ¬ Negative call.sid code raw := by
    intro code hnegative
    obtain ⟨rest, rfl⟩ := ServiceCall.first_of_parse_ok hparse
    obtain ⟨tail, htail⟩ := negative_iff.mp hnegative
    exact ServiceCall.sid_offset_ne_negative call (List.cons.inj htail).1
  refine ⟨?_, hpositive _⟩
  rcases answersBy_cons_iff.mp h with ⟨busy, rfl, hbusy⟩ | ⟨pendings, f, rfl, hpendings, -⟩
  · obtain rfl := List.mem_singleton.mp hmem
    exact absurd hbusy (hpositive _)
  · rcases List.mem_append.mp hmem with hpending | hlast
    · exact absurd (hpendings raw hpending) (hpositive _)
    · obtain rfl := List.mem_singleton.mp hlast
      exact List.getLast?_concat

namespace ClientNet

variable {overflow_checks : Bool} {calls : ℕ → ServiceCall} {s t : ClientNet ℕ}
  {a : Action ℕ Packet} {acts : List (Action ℕ Packet)} {i k n : ℕ}

def request_of (overflow_checks : Bool) (calls : ℕ → ServiceCall) (i : ℕ) : Packet :=
  match (calls i).arguments overflow_checks with
  | .ok data => (calls i).sid :: data
  | .error _ => []

/-- The state of the ECU after what it has carried out for the calls before call
`k`. -/
def state_before {σ : Type} (ecu : Ecu σ) (overflow_checks : Bool) (calls : ℕ → ServiceCall)
    (acts : List (Action ℕ Packet)) (k : ℕ) : σ :=
  ecu.run ecu.initial (((carried_out calls acts).filter (· < k)).map
    (request_of overflow_checks calls))

/-- What the ECU answered other than busy ends with the response that `ecu` gives to
that request after those carried out before. -/
def ServedBy {σ : Type} (ecu : Ecu σ) (overflow_checks : Bool) (calls : ℕ → ServiceCall)
    (acts : List (Action ℕ Packet)) : Prop :=
  ∀ before i msgs after, acts = before ++ .answer i msgs :: after →
    (∃ raw ∈ msgs, ¬ Busy (calls i).sid raw) →
      msgs.getLast? = some (ecu.respond ((carried_out calls before).map
        (request_of overflow_checks calls)) (request_of overflow_checks calls i))

theorem ServedBy.nil {σ : Type} (ecu : Ecu σ) : ServedBy ecu overflow_checks calls [] := by
  intro before i msgs after hacts
  simp at hacts

theorem ServedBy.concat {σ : Type} {ecu : Ecu σ} (h : ServedBy ecu overflow_checks calls acts)
    (hlast : ∀ i msgs, a = .answer i msgs → (∃ raw ∈ msgs, ¬ Busy (calls i).sid raw) →
      msgs.getLast? = some (ecu.respond ((carried_out calls acts).map
        (request_of overflow_checks calls)) (request_of overflow_checks calls i))) :
    ServedBy ecu overflow_checks calls (acts ++ [a]) := by
  intro before i msgs after hacts hexecuted
  rcases List.eq_nil_or_concat after with rfl | ⟨after, b, rfl⟩
  · obtain ⟨rfl, ha⟩ := List.append_inj' hacts rfl
    exact hlast i msgs (List.cons.inj ha).1 hexecuted
  · rw [List.concat_eq_append, ← List.cons_append, ← List.append_assoc] at hacts
    obtain ⟨rfl, -⟩ := List.append_inj' hacts rfl
    exact h before i msgs after rfl hexecuted

/-- A call on its turn that the ECU answers with its response keeps the session one
that the ECU serves. -/
theorem ServedBy.round {σ : Type} {ecu : Ecu σ} (h : ServedBy ecu overflow_checks calls acts)
    {msgs : List Packet} (hserved : msgs.getLast? = some (ecu.respond ((carried_out calls acts).map
      (request_of overflow_checks calls)) (request_of overflow_checks calls k))) :
    ServedBy ecu overflow_checks calls
      (acts ++ [.send k] ++ [.answer k msgs] ++ [.receive k]) := by
  refine .concat (.concat (.concat h nofun) ?_) nofun
  rintro i msgs ⟨⟩ -
  have hsame : carried_out calls (acts ++ [.send k]) = carried_out calls acts := by
    rw [carried_out_append]
    exact List.append_nil _
  rwa [hsame]

/-- A request under way when one of call `i` was carried out is of a later call. -/
theorem TurnCount.head_after (h : TurnCount overflow_checks calls i s n k) (hn : 0 < n) {j : ℕ}
    {request : Packet} {rest : List (ℕ × Packet)} (hrequests : s.requests = (j, request) :: rest) :
    i < j := by
  cases h with
  | before hk hdrains hzero => omega
  | turn hk hactive =>
    obtain ⟨data, place, -, hprogress⟩ := hactive
    cases place with
    | sending => exact absurd hprogress.2 (by omega)
    | waiting | returned =>
      rw [hprogress.1] at hrequests
      cases hrequests
    | receiving =>
      rcases hprogress with ⟨_, -, -, hzero⟩ | ⟨hnone, -⟩
      · omega
      · rw [hnone] at hrequests
        cases hrequests
  | done hk hdone =>
    obtain ⟨_, -, hlater, -⟩ := hdone
    exact hlater (j, request) (hrequests ▸ List.mem_cons_self)

/-- Requests are carried out in the order of the calls, each at most once. -/
theorem carried_out_pairwise
    (h : Reach (Net.SequentialStep EcuAnswers) (ClientNet.start overflow_checks calls) acts s)
    (hleaves : ∀ a ∈ acts, LeavesNone a) : (carried_out calls acts).Pairwise (· < ·) := by
  induction h with
  | nil => exact List.Pairwise.nil
  | @snoc acts s t a hrun hstep ih =>
    have hbefore : ∀ b ∈ acts, LeavesNone b := fun b hb => hleaves b (List.mem_append_left _ hb)
    rw [carried_out_append]
    cases a with
    | send | receive | expire => simpa [carried_out] using ih hbefore
    | answer j msgs =>
      rw [carried_out_answer]
      split
      · refine List.pairwise_append.mpr ⟨ih hbefore, List.pairwise_singleton _ _, ?_⟩
        intro i hi j' hj'
        rw [List.mem_singleton.mp hj']
        obtain ⟨k, -, hturnCount⟩ := turnCount_of_reach hrun fun b hb _ => hbefore b hb
        cases hstep.1 with
        | answer hrequest => exact hturnCount.head_after (List.count_pos_iff.mpr hi) hrequest
      · simpa using ih hbefore

theorem filter_lt_of_pairwise {earlier later : List ℕ}
    (h : (earlier ++ i :: later).Pairwise (· < ·)) :
    (earlier ++ i :: later).filter (· < i) = earlier := by
  obtain ⟨-, hrest, hcross⟩ := List.pairwise_append.mp h
  have hlater : ∀ j ∈ later, i < j := (List.pairwise_cons.mp hrest).1
  have hnone : (i :: later).filter (· < i) = [] := by
    refine List.filter_eq_nil_iff.mpr fun j hj => ?_
    rcases List.mem_cons.mp hj with rfl | hmem
    · simp
    · simpa using Nat.le_of_lt (hlater j hmem)
  have hall : earlier.filter (· < i) = earlier :=
    List.filter_eq_self.mpr fun j hj => decide_eq_true (hcross j hj i List.mem_cons_self)
  rw [List.filter_append, hnone, hall, List.append_nil]

theorem filter_lt_succ_of_mem {l : List ℕ} (h : l.Pairwise (· < ·)) (hk : k ∈ l) :
    l.filter (· < k + 1) = l.filter (· < k) ++ [k] := by
  obtain ⟨earlier, later, rfl⟩ := List.append_of_mem hk
  rw [filter_lt_of_pairwise h]
  obtain ⟨-, hrest, hcross⟩ := List.pairwise_append.mp h
  have hlater : ∀ j ∈ later, k < j := (List.pairwise_cons.mp hrest).1
  have hall : earlier.filter (· < k + 1) = earlier :=
    List.filter_eq_self.mpr fun j hj =>
      decide_eq_true (Nat.lt_succ_of_lt (hcross j hj k List.mem_cons_self))
  have hnone : later.filter (· < k + 1) = [] :=
    List.filter_eq_nil_iff.mpr fun j hj => by
      have hlt := hlater j hj
      simp only [decide_eq_true_eq]
      omega
  rw [List.filter_append, hall, List.filter_cons, if_pos (decide_eq_true (Nat.lt_succ_self k)),
    hnone]

theorem filter_lt_succ_of_notMem {l : List ℕ} (hk : k ∉ l) :
    l.filter (· < k + 1) = l.filter (· < k) := by
  refine List.filter_congr fun j hj => ?_
  have hne : j ≠ k := fun heq => hk (heq ▸ hj)
  rw [decide_eq_decide]
  omega

/-- The ECU goes on from one call to the next by carrying out its request, or stays
where it is if it has carried out none. -/
theorem state_before_succ {σ : Type} (ecu : Ecu σ)
    (h : (carried_out calls acts).Pairwise (· < ·)) (k : ℕ) :
    state_before ecu overflow_checks calls acts (k + 1) =
      if k ∈ carried_out calls acts then
        (ecu.serve (state_before ecu overflow_checks calls acts k)
          (request_of overflow_checks calls k)).1
      else state_before ecu overflow_checks calls acts k := by
  unfold state_before
  split
  · next hk =>
    rw [filter_lt_succ_of_mem h hk, List.map_append, Ecu.run_append]
    rfl
  · next hk => rw [filter_lt_succ_of_notMem hk]

/-- What none of the requests carried out between two calls changes, in the states
in which the ECU serves them, is the same before the later call. -/
theorem state_before_keeps {σ β : Type} {ecu : Ecu σ} (view : σ → β)
    (h : (carried_out calls acts).Pairwise (· < ·))
    (hkeeps : ∀ j ∈ carried_out calls acts, i < j → j < k →
      view (ecu.serve (state_before ecu overflow_checks calls acts j)
        (request_of overflow_checks calls j)).1 =
        view (state_before ecu overflow_checks calls acts j))
    (hik : i < k) :
    view (state_before ecu overflow_checks calls acts k) =
      view (state_before ecu overflow_checks calls acts (i + 1)) := by
  induction k, hik using Nat.le_induction with
  | base => rfl
  | succ k hk ih =>
    have hearlier := ih fun j hj hij hjk => hkeeps j hj hij (Nat.lt_succ_of_lt hjk)
    rw [state_before_succ ecu h, ← hearlier]
    split
    · next hmem => exact hkeeps k hmem hk (Nat.lt_succ_self k)
    · rfl

/-- A successful call was carried out after the calls before it, and has parsed the
response of the ECU to it. -/
theorem response_of_ok {σ : Type} {ecu : Ecu σ}
    (h : Reach (Net.SequentialStep EcuAnswers) (ClientNet.start overflow_checks calls) acts s)
    (hleaves : ∀ a ∈ acts, LeavesNone a) (hecu : ServedBy ecu overflow_checks calls acts)
    {v : UdsResponse} (hi : s.tasks i = .ready (.ok v)) :
    i ∈ carried_out calls acts ∧
      (calls i).parse (ecu.serve (state_before ecu overflow_checks calls acts i)
        (request_of overflow_checks calls i)).2 = .ok v := by
  have hplain := h.mono fun _ _ _ hseq => hseq.1
  obtain ⟨r, hlast, hparse⟩ := last_receipt_of_ok hplain hi
  obtain ⟨hmem, hreceiver⟩ := receiver_of_last hlast
  have horigin : r.origin = i :=
    (paired_of_reach h fun a ha _ => hleaves a ha).receipts r hmem hreceiver
  obtain ⟨before, msgs, after, u, request, rest, hacts, hu, hrequests, hanswer, hmsg⟩ :=
    (Net.answered_of_reach hplain).2 r hmem
  rw [horigin] at hacts hrequests
  obtain ⟨data, -, hdata⟩ := (tagged_of_reach hu).requests (i, request) (by simp [hrequests])
  obtain rfl : request = (calls i).sid :: data := hdata
  obtain ⟨hfinal, hnot⟩ := final_of_parse_ok hanswer hmsg hparse
  have hexecuted : ∃ raw ∈ msgs, ¬ Busy (calls i).sid raw := ⟨r.msg, hmsg, hnot⟩
  have hresponse := hecu before i msgs after hacts hexecuted
  have hcarried : carried_out calls acts =
      carried_out calls before ++ i :: carried_out calls after := by
    have hone : carried_out calls [.answer i msgs] = [i] := by
      rw [carried_out_answer, if_pos hexecuted]
    rw [hacts, List.append_cons, carried_out_append, carried_out_append, hone, ← List.append_cons]
  have hpairwise := carried_out_pairwise h hleaves
  rw [state_before, hcarried]
  rw [hcarried] at hpairwise
  rw [filter_lt_of_pairwise hpairwise]
  refine ⟨List.mem_append_right _ List.mem_cons_self, ?_⟩
  have hserved : r.msg = ecu.respond ((carried_out calls before).map
      (request_of overflow_checks calls)) (request_of overflow_checks calls i) :=
    Option.some.inj (hfinal.symm.trans hresponse)
  rw [hserved] at hparse
  exact hparse

/-- Calls made one after the other, none of which leaves an answer unread, on an ECU
that may answer busy and announce a delay, and on a socket that does not fail. The
calls are atomic steps of the ECU: its requests are carried out in the order of the
calls, each at most once, and a successful call returns the response of the ECU to
its own request in the state that the calls before it have led to. -/
theorem session_atomic {σ : Type} (ecu : Ecu σ)
    (h : Reach (Net.SequentialStep EcuAnswers) (ClientNet.start overflow_checks calls) acts s)
    (hleaves : ∀ a ∈ acts, LeavesNone a) (hecu : ServedBy ecu overflow_checks calls acts) :
    (carried_out calls acts).Pairwise (· < ·) ∧
      ∀ i v, s.tasks i = .ready (.ok v) → i ∈ carried_out calls acts ∧
        (calls i).parse (ecu.serve (state_before ecu overflow_checks calls acts i)
          (request_of overflow_checks calls i)).2 = .ok v :=
  ⟨carried_out_pairwise h hleaves, fun _ _ hi => response_of_ok h hleaves hecu hi⟩

def two_bytes : Ecu Unit where
  initial := ()
  serve _ request := ((), if request = [0x23, 0x11, 0x10, 0x01] then [0x63, 0xAA] else [0x63, 0xBB])

theorem servedBy_two_reads {σ : Type} {ecu : Ecu σ}
    (hfirst : ecu.respond [] [0x23, 0x11, 0x10, 0x01] = [0x63, 0xAA])
    (hsecond : ecu.respond [[0x23, 0x11, 0x10, 0x01]] [0x23, 0x11, 0x20, 0x01] = [0x63, 0xBB]) :
    ServedBy ecu true successive_reads two_reads := by
  have hstart : ServedBy ecu true successive_reads [] := .nil ecu
  have hwaiting : ServedBy ecu true successive_reads
      [.send 0, .answer 0 [[0x7F, 0x23, 0x78], [0x63, 0xAA]], .receive 0] := by
    refine hstart.round ?_
    exact congrArg some hfirst.symm
  have hdelayed : ServedBy ecu true successive_reads
      [.send 0, .answer 0 [[0x7F, 0x23, 0x78], [0x63, 0xAA]], .receive 0, .receive 0] :=
    .concat hwaiting nofun
  refine hdelayed.round ?_
  exact congrArg some hsecond.symm

theorem session_atomic_two_bytes :
    parse_response (two_bytes.serve (state_before two_bytes true successive_reads two_reads 1)
      (request_of true successive_reads 1)).2 = .ok (.ReadMemoryByAddress (.Parsed ⟨[0xBB]⟩)) := by
  obtain ⟨s, hreach, hready⟩ := reach_two_reads
  have hleaves : ∀ a ∈ two_reads, LeavesNone a := by
    simp [two_reads, LeavesNone]
  exact ((session_atomic two_bytes hreach hleaves
    (servedBy_two_reads rfl rfl)).2 1 _ hready).2

end ClientNet

end uds_rs.uds
