import UdsRs.AsyncSock.Operations
import UdsRs.Uds.Interleaved
import UdsRs.Uds.SendAndReceive.Answers
import UdsRs.Uds.ServiceCall.Causes

namespace uds_rs.uds

open async_sock lts rust UdsClient Stage

namespace ServiceCall

variable {overflow_checks : Bool} {call : ServiceCall} {data : Packet}
  {es : List (Event Packet UdsCommunicationError)}

/-- Every run of a call is a run through the places of its exchange, unless the call
has rejected its arguments. -/
theorem visits_of_steps {g : UdsFuture UdsResponse} (h : Steps (call.run overflow_checks) es g) :
    (call.arguments overflow_checks = err .InvalidArgument ∧ es = [] ∧
      g = .ready (err .InvalidArgument)) ∨
      ∃ data s, call.arguments overflow_checks = .ok data ∧
        Visits overflow_checks call.sid data es s ∧ g = call.rest overflow_checks data s := by
  rcases call.arguments_cases with hinvalid | ⟨data, hdata⟩
  · rw [run_of_arguments_error (hinvalid overflow_checks)] at h
    obtain ⟨rfl, rfl⟩ := Steps.ready_iff.mp h
    exact .inl ⟨hinvalid overflow_checks, rfl, rfl⟩
  · rw [run_of_arguments_ok (hdata overflow_checks)] at h
    obtain ⟨f, hf, rfl⟩ := Steps.of_bind_ready h
    obtain ⟨s, hvisits, rfl⟩ := Stage.steps_iff.mp hf
    exact .inr ⟨data, s, hdata overflow_checks, hvisits, rfl⟩

theorem sends_of_closing {n : Nat} {last : List (Event Packet UdsCommunicationError)}
    {inner : Outcome UdsError Packet} (h : Closing overflow_checks call.sid data n last inner) :
    (transmissions last).length ≤ 1 ∧ last.length ≤ 3 := by
  cases h <;> simp

/-- The request is transmitted at most once more than busy answers are received, and
the whole call takes at most two operations for each, and the wait. -/
theorem sends_le_of_visits {s : Stage} (h : Visits overflow_checks call.sid data es s) :
    (transmissions es).length ≤ call.busy_count es + 1 ∧
      (transmissions es).length ≤ retry_limit overflow_checks ∧
      es.length ≤ 2 * retry_limit overflow_checks + 1 := by
  have hshaped := shaped_of_visits h
  cases s with
  | sending retry_counter =>
    obtain ⟨busy, hbusy, -, rfl⟩ := hshaped
    have hcount : call.busy_count (rounds (call.sid :: data) busy) = busy.length := by
      rw [← List.append_nil (rounds _ _), busy_count_rounds hbusy.all]
      rfl
    have hbelow := hbusy.below
    rw [transmissions_rounds, List.length_replicate, rounds_length]
    omega
  | receiving retry_counter =>
    obtain ⟨busy, hbusy, -, rfl⟩ := hshaped
    have hbelow := hbusy.below
    rw [busy_count_rounds hbusy.all]
    simp only [transmissions_append, transmissions_rounds, transmissions_cons, transmissions_nil,
      Event.transmitted_sent_ok, Option.toList_some, List.length_append, List.length_replicate,
      List.length_cons, List.length_nil, rounds_length]
    omega
  | waiting =>
    obtain ⟨busy, pend, hbusy, -, rfl⟩ := hshaped
    have hbelow := hbusy.below
    rw [busy_count_rounds hbusy.all]
    simp only [transmissions_append, transmissions_rounds, transmissions_cons, transmissions_nil,
      Event.transmitted_sent_ok, Event.transmitted_received, Option.toList_some, Option.toList_none,
      List.length_append, List.length_replicate, List.length_cons, List.length_nil, rounds_length]
    omega
  | returned result =>
    obtain ⟨busy, last, hbusy, rfl, hlast⟩ := hshaped
    have hbelow := hbusy.below
    obtain ⟨hsends, hlength⟩ := sends_of_closing hlast
    rw [busy_count_rounds hbusy.all, transmissions_append, transmissions_rounds,
      List.length_append, List.length_replicate, List.length_append, rounds_length]
    omega

/-- A successful call has transmitted exactly once more than it was told to repeat.
-/
theorem sends_of_returns_ok {v : UdsResponse} (h : Returns (call.run overflow_checks) es (.ok v)) :
    (transmissions es).length = call.busy_count es + 1 := by
  rcases returns_run_iff_rounds.mp h with
    ⟨-, -, hok⟩ | ⟨data, busy, last, inner, -, hbusy, rfl, hlast, hok⟩
  · cases hok
  · obtain ⟨raw, rfl, hparse⟩ := bind_eq_ok_iff.mp hok.symm
    -- the packet handed out starts with the response SID, so it is not a busy answer
    have hnotbusy : ¬ Busy call.sid raw := by
      intro hraw
      obtain ⟨rest, rfl⟩ := first_of_parse_ok hparse
      obtain ⟨tail, htail⟩ := negative_iff.mp hraw
      exact sid_offset_ne_negative call (List.cons.inj htail).1
    rw [busy_count_rounds hbusy.all, transmissions_append, transmissions_rounds,
      List.length_append, List.length_replicate]
    generalize hinner : (Except.ok raw : Outcome UdsError Packet) = inner at hlast
    cases hlast with
    | accepted =>
      cases hinner
      simp [busy_count, hnotbusy]
    | delayed hpending =>
      cases hinner
      have hpend : ∀ pend, Pending call.sid pend → ¬ Busy call.sid pend :=
        fun _ hpend hbusy => hbusy.not_pending hpend
      simp [busy_count, hnotbusy, hpend _ hpending]
    | gave_up => cases overflow_checks <;> cases hinner
    | send_failed | receive_failed | rejected | wait_failed | expired => cases hinner

end ServiceCall

namespace ClientNet

variable {ι : Type} [DecidableEq ι] {overflow_checks : Bool} {calls : ι → ServiceCall}
  {Answers : Packet → List Packet → Prop} {acts : List (Action ι Packet)} {s : ClientNet ι}

theorem sends_le_busy (h : Reach (Net.Step Answers) (ClientNet.start overflow_checks calls) acts s)
    (i : ι) :
    (Net.senders acts).count i ≤ (s.taken i).countP (fun raw => Busy (calls i).sid raw) + 1 ∧
      (Net.senders acts).count i ≤ retry_limit overflow_checks ∧
      Net.operations i acts ≤ 2 * retry_limit overflow_checks + 1 := by
  obtain ⟨es, hes, hdeliveries, hsent, hlength, -⟩ := Net.operations_of_reach h i
  rw [← hsent, ← hlength, ← hdeliveries]
  rcases ServiceCall.visits_of_steps hes with ⟨-, rfl, -⟩ | ⟨data, place, -, hvisits, -⟩
  · exact ⟨Nat.zero_le _, Nat.zero_le _, Nat.zero_le _⟩
  · exact ServiceCall.sends_le_of_visits hvisits

/-- Where the ECU never answers busy, no call is given a busy answer. -/
theorem taken_not_busy
    (h : Reach (Net.Step Answers) (ClientNet.start overflow_checks calls) acts s) {sid : UInt8}
    (hnever : ∀ request msgs, Answers request msgs → ∀ msg ∈ msgs, ¬ Busy sid msg) (i : ι) :
    (s.taken i).countP (fun raw => Busy sid raw) = 0 := by
  apply List.countP_eq_zero.mpr
  intro msg hmsg
  obtain ⟨r, hr, rfl⟩ := List.mem_map.mp hmsg
  obtain ⟨request, msgs, -, hanswer, hmem⟩ :=
    (tagged_of_reach h).receipts r (List.mem_of_mem_filter hr)
  simpa using hnever request msgs hanswer r.msg hmem

/-- Whatever calls share the client, in any order of their steps and with any ECU,
on a socket that does not fail: a call transmits its request once more than it was
given busy answers for its service, or less often. It is exactly that often when it
succeeds, never when it has rejected its arguments, and at most once where the ECU
never answers busy. So each call pays for a repeated request with a busy answer it
has received itself. -/
theorem transmitted_once_per_busy
    (h : Reach (Net.Step Answers) (ClientNet.start overflow_checks calls) acts s) (i : ι) :
    (Net.senders acts).count i ≤ (s.taken i).countP (fun raw => Busy (calls i).sid raw) + 1 ∧
      (∀ v, s.tasks i = .ready (.ok v) → (Net.senders acts).count i =
        (s.taken i).countP (fun raw => Busy (calls i).sid raw) + 1) ∧
      ((calls i).arguments overflow_checks = err .InvalidArgument →
        (Net.senders acts).count i = 0) ∧
      ((∀ request msgs, Answers request msgs → ∀ msg ∈ msgs, ¬ Busy (calls i).sid msg) →
        (Net.senders acts).count i ≤ 1) := by
  have hle := (sends_le_busy h i).1
  obtain ⟨es, hes, hdeliveries, hsent, -⟩ := Net.operations_of_reach h i
  refine ⟨hle, ?_, ?_, ?_⟩
  · intro v hv
    rw [← hsent, ← hdeliveries]
    rw [hv] at hes
    exact ServiceCall.sends_of_returns_ok hes
  · intro hinvalid
    rw [← hsent]
    rcases ServiceCall.visits_of_steps hes with ⟨-, rfl, -⟩ | ⟨data, -, hdata, -⟩
    · rfl
    · rw [hinvalid] at hdata
      cases hdata
  · intro hnever
    rw [taken_not_busy h hnever i] at hle
    exact hle

def lone_read (_ : Unit) : ServiceCall := .read_memory_by_address 0x11 [0x10] [0x01]

theorem lone_read_round {init : ClientNet Unit} {acts : List (Action Unit Packet)}
    {retry_counter : Int32} {receipts : List (Receipt Unit Packet)} {raw : Packet}
    {left : List Packet}
    (h : Reach (Net.Step Conforming) init acts
      ⟨fun _ => (lone_read ()).rest true [0x11, 0x10, 0x01] (sending retry_counter), [], [], receipts⟩)
    (hanswer : Conforming [0x23, 0x11, 0x10, 0x01] (raw :: left)) :
    Reach (Net.Step Conforming) init
      (acts ++ [.send ()] ++ [.answer () (raw :: left)] ++ [.receive ()])
      ⟨fun _ => (lone_read ()).rest true [0x11, 0x10, 0x01] (judge true 0x23 retry_counter raw),
        [], left.map ((), ·), receipts ++ [⟨(), (), raw⟩]⟩ := by
  have hsent := Reach.snoc h (step_sending rfl)
  rw [Function.update_eq_const_of_subsingleton] at hsent
  have hreceived := Reach.snoc (.snoc hsent (.answer rfl hanswer)) (step_receiving rfl rfl)
  rw [Function.update_eq_const_of_subsingleton] at hreceived
  exact hreceived

/-- The read has repeated its request after a busy answer, and then returned its
byte. -/
def lone_read_repeated : ClientNet Unit where
  tasks _ := .ready (.ok (.ReadMemoryByAddress (.Parsed ⟨[0xAA]⟩)))
  requests := []
  answers := []
  receipts := [⟨(), (), [0x7F, 0x23, 0x21]⟩, ⟨(), (), [0x63, 0xAA]⟩]

theorem reach_lone_read_repeated :
    Reach (Net.Step Conforming) (ClientNet.start true lone_read)
      [.send (), .answer () [[0x7F, 0x23, 0x21]], .receive (), .send (), .answer () [[0x63, 0xAA]],
        .receive ()] lone_read_repeated := by
  have hbusy : Conforming [0x23, 0x11, 0x10, 0x01] [[0x7F, 0x23, 0x21]] :=
    ⟨0x23, rfl, .inl ⟨_, rfl, rfl⟩⟩
  have hfirst : Reach (Net.Step Conforming) (ClientNet.start true lone_read)
      [.send (), .answer () [[0x7F, 0x23, 0x21]], .receive ()]
      ⟨fun _ => (lone_read ()).rest true [0x11, 0x10, 0x01] (sending (-1)), [], [],
        [⟨(), (), [0x7F, 0x23, 0x21]⟩]⟩ := lone_read_round .nil hbusy
  exact lone_read_round hfirst (conforming_read 0x10 0xAA)

/-- The read was told once that the ECU is busy, and has transmitted twice. -/
theorem transmitted_once_per_busy_lone_read :
    2 = (lone_read_repeated.taken ()).countP (fun raw => Busy 0x23 raw) + 1 :=
  (transmitted_once_per_busy reach_lone_read_repeated ()).2.1 _ rfl

end ClientNet

end uds_rs.uds
