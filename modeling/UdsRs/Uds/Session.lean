import UdsRs.AsyncSock.Turns
import UdsRs.Uds.SendAndReceive.Answers
import UdsRs.Uds.ServiceCall.Suspended

namespace uds_rs.uds

open async_sock lts rust NegativeResponseCode UdsClient Stage

/-- The step is no expired timer and no answer with two or more pending packets. A
call that ends in one of these ways leaves answers under way, and the call after it
has no means to tell them from its own. -/
def LeavesNone (a : Action ℕ Packet) : Prop :=
  match a with
  | .expire _ => False
  | .answer _ msgs => msgs.length ≤ 2
  | .send _ | .receive _ => True

/-- Answers that one receive, or one and the receive under the timer, read to the
end. -/
def ReadToEnd (sid : UInt8) (msgs : List Packet) : Prop :=
  (∃ raw, msgs = [raw] ∧ ¬ Pending sid raw) ∨ ∃ raw f, msgs = [raw, f] ∧ Pending sid raw

theorem readToEnd_of_ecuAnswers {sid : UInt8} {data : Packet} {msgs : List Packet}
    (h : EcuAnswers (sid :: data) msgs) (hlength : msgs.length ≤ 2) : ReadToEnd sid msgs := by
  rcases answersBy_cons_iff.mp h with ⟨raw, rfl, hbusy⟩ | ⟨pendings, f, rfl, hpendings, hf⟩
  · exact .inl ⟨raw, rfl, hbusy.not_pending⟩
  · match pendings with
    | [] => exact .inl ⟨f, rfl, hf.2⟩
    | [raw] => exact .inr ⟨raw, f, rfl, hpendings raw (List.mem_singleton_self raw)⟩
    | _ :: _ :: _ => simp at hlength

namespace ClientNet

variable {overflow_checks : Bool} {calls : ℕ → ServiceCall} {s t : ClientNet ℕ}
  {a : Action ℕ Packet} {acts : List (Action ℕ Packet)} {i k : ℕ}

def Quiet (s : ClientNet ℕ) : Prop := s.requests = [] ∧ s.answers = []

/-- What is under way for call `k` at each place of its exchange. -/
def LeftToRead (k : ℕ) (sid : UInt8) (s : ClientNet ℕ) : Stage → Prop
  | sending _ | returned _ => Quiet s
  | receiving _ =>
    (∃ data, s.requests = [(k, sid :: data)] ∧ s.answers = []) ∨
      (s.requests = [] ∧ ReadToEnd sid (s.answers.map Prod.snd))
  | waiting => s.requests = [] ∧ ∃ f, s.answers.map Prod.snd = [f]

/-- Only what call `k` will still read is under way, so that the call leaves nothing
when it returns. -/
def Drains (overflow_checks : Bool) (calls : ℕ → ServiceCall) (k : ℕ) (s : ClientNet ℕ) : Prop :=
  (∃ result, s.tasks k = .ready result ∧ Quiet s) ∨
    ∃ data place, s.tasks k = (calls k).rest overflow_checks data place ∧
      LeftToRead k (calls k).sid s place

/-- Whatever is under way belongs to call `i`, as it does once the calls before it
have returned and left nothing. -/
structure Own (i : ℕ) (s : ClientNet ℕ) : Prop where
  requests : ∀ p ∈ s.requests, p.1 = i
  answers : ∀ p ∈ s.answers, p.1 = i

theorem Quiet.own (h : Quiet s) (i : ℕ) : Own i s := by
  constructor
  · simp [h.1]
  · simp [h.2]

theorem Quiet.drains (h : Quiet s) (hstart : s.tasks k = (calls k).run overflow_checks) :
    Drains overflow_checks calls k s := by
  cases harguments : (calls k).arguments overflow_checks with
  | error stop =>
    rw [ServiceCall.run_of_arguments_error harguments] at hstart
    exact .inl ⟨_, hstart, h⟩
  | ok data =>
    rw [ServiceCall.run_of_arguments_ok harguments] at hstart
    exact .inr ⟨data, sending 0, hstart, h⟩

theorem Drains.quiet (h : Drains overflow_checks calls k s) {result : Outcome UdsError UdsResponse}
    (hready : s.tasks k = .ready result) : Quiet s := by
  rcases h with ⟨_, -, hquiet⟩ | ⟨data, place, hrest, hremains⟩
  · exact hquiet
  · rw [hready] at hrest
    cases place with
    | returned => exact hremains
    | sending | receiving | waiting => cases hrest

/-- The answers that are left after one was judged are what the call will read. -/
theorem leftToRead_judge {sid : UInt8} {raw : Packet} {left : List (ℕ × Packet)}
    (hread : ReadToEnd sid (raw :: left.map Prod.snd)) (hrequests : t.requests = [])
    (hanswers : t.answers = left) (retry_counter : Int32) :
    LeftToRead k sid t (judge overflow_checks sid retry_counter raw) := by
  rcases hread with ⟨_, heq, hnot⟩ | ⟨_, f, heq, hpending⟩
  · obtain ⟨rfl, hleft⟩ := List.cons.inj heq
    have hquiet : Quiet t := ⟨hrequests, hanswers.trans (List.map_eq_nil_iff.mp hleft)⟩
    rcases judge_cases overflow_checks sid retry_counter raw with
      ⟨result, hjudge⟩ | ⟨hverdict, -⟩ | ⟨retry_counter', -, -, -, hjudge⟩
    · rw [hjudge]
      exact hquiet
    · exact absurd (verdict_eq_pending_iff.mp hverdict) hnot
    · rw [hjudge]
      exact hquiet
  · obtain ⟨rfl, hleft⟩ := List.cons.inj heq
    have hjudge : judge overflow_checks sid retry_counter raw = waiting := by
      simp [judge, verdict_eq_pending_iff.mpr hpending]
    rw [hjudge]
    exact ⟨hrequests, f, hanswers ▸ hleft⟩

/-- A call whose steps leave no answer unread keeps what is under way to itself. An
expired timer and a second pending answer are the steps that are excluded. -/
theorem Drains.step (h : Drains overflow_checks calls k s) (hstep : Net.Step EcuAnswers s a t)
    (hactor : ∀ j, a.actor = some j → j = k) (hleaves : a.task = k → LeavesNone a) :
    Drains overflow_checks calls k t := by
  rcases h with ⟨result, hready, hquiet⟩ | ⟨data, place, hrest, hremains⟩
  · cases hstep with
    | answer hrequest =>
      rw [hquiet.1] at hrequest
      cases hrequest
    | send htask | receive htask | receive_within htask | expire htask =>
      obtain rfl := hactor _ rfl
      rw [hready] at htask
      cases htask
  · cases hstep with
    | send htask =>
      obtain rfl := hactor _ rfl
      rw [hrest] at htask
      obtain ⟨retry_counter, rfl, rfl, hresume⟩ := ServiceCall.sending_of_rest htask
      refine .inr ⟨data, receiving retry_counter, ?_, .inl ⟨data, ?_, hremains.2⟩⟩
      · rw [← hresume]
        exact Function.update_self ..
      · rw [hremains.1]
        rfl
    | answer hrequest hanswer =>
      cases place with
      | sending | returned | waiting =>
        rw [hremains.1] at hrequest
        cases hrequest
      | receiving retry_counter =>
        rcases hremains with ⟨data', hone, hnone⟩ | ⟨hnone, -⟩
        · rw [hone] at hrequest
          cases hrequest
          refine .inr ⟨data, receiving retry_counter, hrest, .inr ⟨rfl, ?_⟩⟩
          have hread := readToEnd_of_ecuAnswers hanswer (hleaves rfl)
          simpa [hnone, Function.comp_def] using hread
        · rw [hnone] at hrequest
          cases hrequest
    | @receive j origin raw left resume htask hanswer =>
      obtain rfl := hactor _ rfl
      rw [hrest] at htask
      obtain ⟨retry_counter, rfl, hresume⟩ := ServiceCall.receiving_of_rest htask
      refine .inr ⟨data, judge overflow_checks (calls j).sid retry_counter raw, ?_, ?_⟩
      · rw [← hresume]
        exact Function.update_self ..
      · rcases hremains with ⟨_, -, hnone⟩ | ⟨hnone, hread⟩
        · rw [hnone] at hanswer
          cases hanswer
        · rw [hanswer] at hread
          refine leftToRead_judge hread ?_ ?_ retry_counter
          · exact hnone
          · rfl
    | @receive_within j origin raw left millis resume htask hanswer =>
      obtain rfl := hactor _ rfl
      rw [hrest] at htask
      obtain ⟨rfl, hresume, -⟩ := ServiceCall.waiting_of_rest htask
      obtain ⟨hrequests, f, hf⟩ := hremains
      rw [hanswer] at hf
      refine .inl ⟨(calls j).parse raw, ?_, hrequests, ?_⟩
      · rw [← hresume]
        exact Function.update_self ..
      · exact List.map_eq_nil_iff.mp (List.cons.inj hf).2
    | expire =>
      obtain rfl := hactor _ rfl
      exact (hleaves rfl).elim

theorem Own.step (h : Own i s) (hstep : Net.Step EcuAnswers s a t)
    (hactor : ∀ j, a.actor = some j → j = i) : Own i t := by
  cases hstep with
  | send =>
    refine ⟨fun p hp => ?_, h.answers⟩
    rcases List.mem_append.mp hp with hold | hnew
    · exact h.requests p hold
    · rw [List.mem_singleton.mp hnew]
      exact hactor _ rfl
  | @answer j request rest msgs hrequest =>
    refine ⟨fun p hp => h.requests p (hrequest ▸ List.mem_cons_of_mem _ hp), fun p hp => ?_⟩
    rcases List.mem_append.mp hp with hold | hnew
    · exact h.answers p hold
    · obtain ⟨msg, -, rfl⟩ := List.mem_map.mp hnew
      exact h.requests (j, request) (hrequest ▸ List.mem_cons_self)
  | receive _ hanswer | receive_within _ hanswer =>
    exact ⟨h.requests, fun p hp => h.answers p (hanswer ▸ List.mem_cons_of_mem _ hp)⟩
  | expire => exact ⟨h.requests, h.answers⟩

/-- Call `i` takes answers to its own requests only, and so it will as long as the
calls before it leave none unread. -/
structure Paired (overflow_checks : Bool) (calls : ℕ → ServiceCall) (i : ℕ) (s : ClientNet ℕ) :
    Prop where
  receipts : ∀ r ∈ s.receipts, r.receiver = i → r.origin = i
  turn : ∃ k, Net.Turn (fun j => (calls j).run overflow_checks) s k ∧
    (k < i → Drains overflow_checks calls k s) ∧ (k = i → Own i s)

theorem paired_start (overflow_checks : Bool) (calls : ℕ → ServiceCall) (i : ℕ) :
    Paired overflow_checks calls i (ClientNet.start overflow_checks calls) := by
  have hquiet : Quiet (ClientNet.start overflow_checks calls) := ⟨rfl, rfl⟩
  refine ⟨fun r hr => absurd hr List.not_mem_nil, 0, Net.turn_start _, ?_, ?_⟩
  · intro _
    exact hquiet.drains rfl
  · intro _
    exact hquiet.own i

/-- What a call takes when only its own answers are under way is its own. -/
theorem receipts_step (h : ∀ r ∈ s.receipts, r.receiver = i → r.origin = i)
    (hstep : Net.Step EcuAnswers s a t) (hown : a.actor = some i → Own i s) :
    ∀ r ∈ t.receipts, r.receiver = i → r.origin = i := by
  cases hstep with
  | send | answer | expire => exact h
  | receive _ hanswer | receive_within _ hanswer =>
    intro r hr hreceiver
    rcases List.mem_append.mp hr with hold | hnew
    · exact h r hold hreceiver
    · obtain rfl := List.mem_singleton.mp hnew
      exact (hown (congrArg some hreceiver)).answers _ (hanswer ▸ List.mem_cons_self)

theorem Paired.step (h : Paired overflow_checks calls i s)
    (hstep : Net.SequentialStep EcuAnswers s a t) (hleaves : a.task < i → LeavesNone a) :
    Paired overflow_checks calls i t := by
  obtain ⟨k, hturn, hdrains, hown⟩ := h.turn
  obtain ⟨k', hactor, hturn', hnext⟩ := hturn.step hstep
  -- the one whose turn it is now finds nothing but its own before it acts
  have hbefore : (k' < i → Drains overflow_checks calls k' s) ∧ (k' = i → Own i s) := by
    rcases hnext with rfl | ⟨hlt, hstart, result, hready⟩
    · exact ⟨hdrains, hown⟩
    · constructor
      · intro hi
        exact ((hdrains (Nat.lt_trans hlt hi)).quiet hready).drains hstart
      · rintro rfl
        exact ((hdrains hlt).quiet hready).own k'
  refine ⟨?_, k', hturn', ?_, ?_⟩
  · exact receipts_step h.receipts hstep.1 fun hi => hbefore.2 (hactor i hi).symm
  · intro hi
    exact (hbefore.1 hi).step hstep.1 hactor fun htask => hleaves (htask ▸ hi)
  · rintro rfl
    exact (hbefore.2 rfl).step hstep.1 hactor

theorem paired_of_reach
    (h : Reach (Net.SequentialStep EcuAnswers) (ClientNet.start overflow_checks calls) acts s)
    (hleaves : ∀ a ∈ acts, a.task < i → LeavesNone a) : Paired overflow_checks calls i s := by
  induction h with
  | nil => exact paired_start overflow_checks calls i
  | @snoc acts s t a _ hstep ih =>
    have hpaired := ih fun b hb => hleaves b (List.mem_append_left _ hb)
    exact hpaired.step hstep (hleaves a List.mem_concat_self)

section Round

variable {Answers : Packet → List Packet → Prop} {init : ClientNet ℕ} {data raw : Packet}
  {retry_counter : Int32} {msgs : List Packet} {o : ℕ} {left : List (ℕ × Packet)}

/-- A call on its turn transmits, its request is answered, and it receives the
oldest packet under way, which need not be an answer to it. -/
theorem reach_round (h : Reach (Net.SequentialStep Answers) init acts s)
    (hbefore : ∀ j < k, ∃ result, s.tasks j = .ready result)
    (hsending : s.tasks k = (calls k).rest overflow_checks data (sending retry_counter))
    (hrequests : s.requests = []) (hanswer : Answers ((calls k).sid :: data) msgs)
    (hanswers : s.answers ++ msgs.map (k, ·) = (o, raw) :: left) :
    Reach (Net.SequentialStep Answers) init
      (acts ++ [.send k] ++ [.answer k msgs] ++ [.receive k])
      ⟨Function.update s.tasks k ((calls k).rest overflow_checks data
        (judge overflow_checks (calls k).sid retry_counter raw)), [], left,
        s.receipts ++ [⟨k, o, raw⟩]⟩ := by
  have hsent := Reach.snoc h ⟨step_sending hsending, fun i hi => Option.some.inj hi ▸ hbefore⟩
  rw [hrequests] at hsent
  have hanswered := Reach.snoc hsent ⟨.answer rfl hanswer, nofun⟩
  have hturn : ∀ j < k, ∃ result, Function.update s.tasks k
      ((calls k).rest overflow_checks data (receiving retry_counter)) j = .ready result := by
    intro j hj
    rw [Function.update_of_ne (Nat.ne_of_lt hj)]
    exact hbefore j hj
  have hreceived := Reach.snoc hanswered
    ⟨step_receiving (Function.update_self ..) hanswers, fun i hi => Option.some.inj hi ▸ hturn⟩
  rw [Function.update_idem] at hreceived
  exact hreceived

end Round

def successive_reads (i : ℕ) : ServiceCall :=
  .read_memory_by_address 0x11 [if i = 0 then 0x10 else 0x20] [0x01]

/-- The first read waits under the timer, and its answer is under way. -/
def first_read_waiting : ClientNet ℕ where
  tasks := Function.update (fun i => (successive_reads i).run true) 0
    ((successive_reads 0).rest true [0x11, 0x10, 0x01] waiting)
  requests := []
  answers := [(0, [0x63, 0xAA])]
  receipts := [⟨0, 0, [0x7F, 0x23, 0x78]⟩]

theorem reach_first_read_waiting :
    Reach (Net.SequentialStep Conforming) (ClientNet.start true successive_reads)
      [.send 0, .answer 0 [[0x7F, 0x23, 0x78], [0x63, 0xAA]], .receive 0] first_read_waiting := by
  have hsending : (ClientNet.start true successive_reads).tasks 0 =
      (successive_reads 0).rest true [0x11, 0x10, 0x01] (sending 0) := rfl
  have hbefore : ∀ j < 0, ∃ result,
      (ClientNet.start true successive_reads).tasks j = .ready result :=
    fun j hj => absurd hj (Nat.not_lt_zero j)
  exact reach_round .nil hbefore hsending rfl (conforming_delayed_read 0x10 0xAA) rfl

/-- The first read has given up under the timer, and its answer is under way. -/
def first_read_expired : ClientNet ℕ where
  tasks := Function.update (fun i => (successive_reads i).run true) 0
    (.ready (err (.NRC ⟨0x23, RequestCorrectlyReceivedResponsePending⟩)))
  requests := []
  answers := [(0, [0x63, 0xAA])]
  receipts := [⟨0, 0, [0x7F, 0x23, 0x78]⟩]

theorem reach_first_read_expired :
    Reach (Net.SequentialStep Conforming) (ClientNet.start true successive_reads)
      [.send 0, .answer 0 [[0x7F, 0x23, 0x78], [0x63, 0xAA]], .receive 0, .expire 0]
      first_read_expired := by
  have hwaiting : first_read_waiting.tasks 0 =
      (successive_reads 0).rest true [0x11, 0x10, 0x01] waiting := rfl
  have hexpired := Reach.snoc reach_first_read_waiting
    (.first (step_expired hwaiting) (by rintro i ⟨⟩; rfl))
  rw [first_read_waiting, Function.update_idem] at hexpired
  exact hexpired

/-- Once the first read has returned, the second receives the oldest answer under
way. -/
theorem reach_second_read {init : ClientNet ℕ} {o : ℕ} {raw : Packet} {left : List (ℕ × Packet)}
    {result : Outcome UdsError UdsResponse}
    (h : Reach (Net.SequentialStep Conforming) init acts s) (hready : s.tasks 0 = .ready result)
    (hsending : s.tasks 1 = (successive_reads 1).rest true [0x11, 0x20, 0x01] (sending 0))
    (hrequests : s.requests = []) (hanswers : s.answers ++ [(1, [0x63, 0xBB])] = (o, raw) :: left) :
    Reach (Net.SequentialStep Conforming) init
      (acts ++ [.send 1] ++ [.answer 1 [[0x63, 0xBB]]] ++ [.receive 1])
      ⟨Function.update s.tasks 1 ((successive_reads 1).rest true [0x11, 0x20, 0x01]
        (judge true 0x23 0 raw)), [], left, s.receipts ++ [⟨1, o, raw⟩]⟩ := by
  have hbefore : ∀ j < 1, ∃ result, s.tasks j = .ready result := by
    intro j hj
    obtain rfl := Nat.lt_one_iff.mp hj
    exact ⟨result, hready⟩
  exact reach_round h hbefore hsending hrequests (conforming_read 0x20 0xBB) hanswers

theorem reach_ecuAnswers {init : ClientNet ℕ}
    (h : Reach (Net.SequentialStep Conforming) init acts s) :
    Reach (Net.SequentialStep EcuAnswers) init acts s :=
  h.mono fun _ _ _ hstep => hstep.mono fun _ _ hanswer => hanswer.ecuAnswers

/-- Calls made one after the other, with an ECU that may answer busy or announce
delays, on a socket that does not fail. As long as no timer of an earlier call
expires and no earlier request gets two pending answers, a successful call has
parsed an answer to its own request. Nothing is asked of the call itself or of those
after it. -/
theorem given_own_response_of_leavesNone
    (h : Reach (Net.SequentialStep EcuAnswers) (ClientNet.start overflow_checks calls) acts s)
    (hleaves : ∀ a ∈ acts, a.task < i → LeavesNone a) {v : UdsResponse}
    (hi : s.tasks i = .ready (.ok v)) : GivenOwnResponse calls s i v := by
  obtain ⟨r, hlast, hparse⟩ := last_receipt_of_ok (h.mono fun _ _ _ hstep => hstep.1) hi
  obtain ⟨hmem, hreceiver⟩ := receiver_of_last hlast
  exact ⟨r, hlast, (paired_of_reach h hleaves).receipts r hmem hreceiver, hparse⟩

/-- The first read gets its byte after the pending answer, and the second its own.
-/
theorem given_own_response_of_leavesNone_reads :
    ∃ s, Reach (Net.SequentialStep EcuAnswers) (ClientNet.start true successive_reads)
        [.send 0, .answer 0 [[0x7F, 0x23, 0x78], [0x63, 0xAA]], .receive 0, .receive 0,
          .send 1, .answer 1 [[0x63, 0xBB]], .receive 1] s ∧
      GivenOwnResponse successive_reads s 1 (.ReadMemoryByAddress (.Parsed ⟨[0xBB]⟩)) := by
  have hwaiting : first_read_waiting.tasks 0 =
      (successive_reads 0).rest true [0x11, 0x10, 0x01] waiting := rfl
  have hdelayed := Reach.snoc reach_first_read_waiting
    (.first (step_waiting hwaiting rfl) (by rintro i ⟨⟩; rfl))
  have hrun := reach_ecuAnswers (reach_second_read hdelayed rfl rfl rfl rfl)
  refine ⟨_, hrun, given_own_response_of_leavesNone hrun ?_ rfl⟩
  simp [LeavesNone]

/-- The timer of the first read expires, and the second returns the late byte. -/
theorem not_given_own_response_reads :
    ∃ s, Reach (Net.SequentialStep EcuAnswers) (ClientNet.start true successive_reads)
        [.send 0, .answer 0 [[0x7F, 0x23, 0x78], [0x63, 0xAA]], .receive 0, .expire 0,
          .send 1, .answer 1 [[0x63, 0xBB]], .receive 1] s ∧
      s.tasks 1 = .ready (.ok (.ReadMemoryByAddress (.Parsed ⟨[0xAA]⟩))) ∧
      ¬ GivenOwnResponse successive_reads s 1 (.ReadMemoryByAddress (.Parsed ⟨[0xAA]⟩)) := by
  have hrun := reach_ecuAnswers (reach_second_read reach_first_read_expired rfl rfl rfl rfl)
  refine ⟨_, hrun, rfl, ?_⟩
  rintro ⟨r, hlast, horigin, -⟩
  cases hlast
  cases horigin

end ClientNet

end uds_rs.uds
