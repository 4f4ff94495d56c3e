import UdsRs.AsyncSock.Net
import UdsRs.Uds.ServiceCall.Accept

namespace uds_rs.uds

open async_sock lts rust NegativeResponseCode UdsClient Stage

namespace ServiceCall

variable {overflow_checks : Bool} {call : ServiceCall} {data : Packet}

/-- The rest of the call from a place in its exchange. Every method borrows the
client, so several calls may be suspended in their exchanges at once. -/
def rest (overflow_checks : Bool) (call : ServiceCall) (data : Packet) (s : Stage) :
    UdsFuture UdsResponse := do
  let raw_response ← Stage.future overflow_checks call.sid data s
  call.parse raw_response

theorem run_of_arguments_ok (h : call.arguments overflow_checks = .ok data) :
    call.run overflow_checks = call.rest overflow_checks data (sending 0) := by
  rw [run_eq, h]
  rfl

theorem run_of_arguments_error {stop : Stop UdsError}
    (h : call.arguments overflow_checks = .error stop) :
    call.run overflow_checks = .ready (.error stop) := by
  rw [run_eq, h]
  rfl

theorem rest_returned (result : Outcome UdsError Packet) :
    call.rest overflow_checks data (returned result) = .ready (result >>= call.parse) := by
  cases result <;> rfl

/-- A call about to send is about to send its request, and then waits. -/
theorem sending_of_rest {s : Stage} {payload : Packet}
    {resume : Except UdsCommunicationError Unit → UdsFuture UdsResponse}
    (h : call.rest overflow_checks data s = .send payload resume) :
    ∃ retry_counter, s = sending retry_counter ∧ payload = call.sid :: data ∧
      resume (.ok ()) = call.rest overflow_checks data (receiving retry_counter) := by
  cases s with
  | sending retry_counter =>
    obtain ⟨rfl, rfl⟩ := Future.send.inj h
    exact ⟨retry_counter, rfl, rfl, rfl⟩
  | receiving => cases h
  | waiting => cases h
  | returned result =>
    rw [rest_returned] at h
    cases h

theorem receiving_of_rest {s : Stage}
    {resume : Except UdsCommunicationError Packet → UdsFuture UdsResponse}
    (h : call.rest overflow_checks data s = .receive resume) :
    ∃ retry_counter, s = receiving retry_counter ∧ ∀ raw, resume (.ok raw) =
      call.rest overflow_checks data (judge overflow_checks call.sid retry_counter raw) := by
  cases s with
  | sending => cases h
  | receiving retry_counter =>
    obtain rfl := Future.receive.inj h
    refine ⟨retry_counter, rfl, fun raw => ?_⟩
    unfold rest
    rw [← loop_eq_judge]
    rfl
  | waiting => cases h
  | returned result =>
    rw [rest_returned] at h
    cases h

/-- A call about to receive under the timer parses what it is given, unseen by the
exchange. -/
theorem waiting_of_rest {s : Stage} {millis : Nat}
    {resume : Option (Except UdsCommunicationError Packet) → UdsFuture UdsResponse}
    (h : call.rest overflow_checks data s = .receive_within millis resume) :
    s = waiting ∧ (∀ raw, resume (some (.ok raw)) = .ready (call.parse raw)) ∧
      ∃ e, resume none = .ready (err e) := by
  cases s with
  | sending => cases h
  | receiving => cases h
  | waiting =>
    obtain ⟨-, rfl⟩ := Future.receive_within.inj h
    exact ⟨rfl, fun _ => rfl, _, rfl⟩
  | returned result =>
    rw [rest_returned] at h
    cases h

/-- Every run of a call has got to a place in its exchange, unless the call has
rejected its arguments. -/
theorem suspended_of_steps {es : List (Event Packet UdsCommunicationError)}
    {g : UdsFuture UdsResponse} (h : Steps (call.run overflow_checks) es g) :
    (∃ stop, call.arguments overflow_checks = .error stop ∧ g = .ready (.error stop)) ∨
      ∃ data s, call.arguments overflow_checks = .ok data ∧ g = call.rest overflow_checks data s := by
  cases harguments : call.arguments overflow_checks with
  | error stop =>
    rw [run_of_arguments_error harguments] at h
    obtain ⟨-, rfl⟩ := Steps.ready_iff.mp h
    exact .inl ⟨stop, rfl, rfl⟩
  | ok data =>
    rw [run_of_arguments_ok harguments] at h
    obtain ⟨f, hf, rfl⟩ := Steps.of_bind_ready h
    obtain ⟨s, -, rfl⟩ := Stage.steps_iff.mp hf
    exact .inr ⟨data, s, rfl, rfl⟩

end ServiceCall

/-- The calls on one client, and the socket between it and the ECU. As in every
`Net` no send and no receive fails. -/
abbrev ClientNet (ι : Type) : Type := Net ι Packet UdsCommunicationError (Stop UdsError) UdsResponse

namespace ClientNet

variable {ι : Type} {overflow_checks : Bool} {calls : ι → ServiceCall}
  {Answers : Packet → List Packet → Prop} {acts : List (Action ι Packet)} {s : ClientNet ι}

def start (overflow_checks : Bool) (calls : ι → ServiceCall) : ClientNet ι :=
  Net.start fun i => (calls i).run overflow_checks

def Requests (overflow_checks : Bool) (calls : ι → ServiceCall) (i : ι) (request : Packet) : Prop :=
  ∃ data, (calls i).arguments overflow_checks = .ok data ∧ request = (calls i).sid :: data

theorem requests_of_steps {i : ι} {es : List (Event Packet UdsCommunicationError)}
    {payload : Packet} {resume : Except UdsCommunicationError Unit → UdsFuture UdsResponse}
    (h : Steps ((calls i).run overflow_checks) es (.send payload resume)) :
    Requests overflow_checks calls i payload := by
  rcases ServiceCall.suspended_of_steps h with ⟨stop, -, hready⟩ | ⟨data, s, harguments, hrest⟩
  · cases hready
  · obtain ⟨_, -, hpayload, -⟩ := ServiceCall.sending_of_rest hrest.symm
    exact ⟨data, harguments, hpayload⟩

variable [DecidableEq ι]

section Steps

variable {i : ι} {data : Packet} {retry_counter : Int32}

theorem step_sending (htask : s.tasks i = (calls i).rest overflow_checks data (sending retry_counter)) :
    Net.Step Answers s (.send i)
      { s with
        tasks := Function.update s.tasks i
          ((calls i).rest overflow_checks data (receiving retry_counter))
        requests := s.requests ++ [(i, (calls i).sid :: data)] } :=
  .send htask

theorem step_receiving {o : ι} {raw : Packet} {answers : List (ι × Packet)}
    (htask : s.tasks i = (calls i).rest overflow_checks data (receiving retry_counter))
    (hanswer : s.answers = (o, raw) :: answers) :
    Net.Step Answers s (.receive i)
      { s with
        tasks := Function.update s.tasks i ((calls i).rest overflow_checks data
          (judge overflow_checks (calls i).sid retry_counter raw))
        answers := answers
        receipts := s.receipts ++ [⟨i, o, raw⟩] } := by
  unfold ServiceCall.rest at htask ⊢
  rw [← loop_eq_judge]
  exact .receive htask hanswer

theorem step_waiting {o : ι} {raw : Packet} {answers : List (ι × Packet)}
    (htask : s.tasks i = (calls i).rest overflow_checks data waiting)
    (hanswer : s.answers = (o, raw) :: answers) :
    Net.Step Answers s (.receive i)
      { s with
        tasks := Function.update s.tasks i (.ready ((calls i).parse raw))
        answers := answers
        receipts := s.receipts ++ [⟨i, o, raw⟩] } :=
  .receive_within htask hanswer

theorem step_expired (htask : s.tasks i = (calls i).rest overflow_checks data waiting) :
    Net.Step Answers s (.expire i)
      { s with
        tasks := Function.update s.tasks i (.ready
          (err (.NRC ⟨(calls i).sid, RequestCorrectlyReceivedResponsePending⟩))) } :=
  .expire htask

end Steps

/-- The last packet the call took answers a request of its own, and is what its
response was parsed from. -/
def GivenOwnResponse (calls : ι → ServiceCall) (s : ClientNet ι) (i : ι) (v : UdsResponse) : Prop :=
  ∃ r, (s.receipts.filter (·.receiver = i)).getLast? = some r ∧ r.origin = i ∧
    (calls i).parse r.msg = .ok v

theorem tagged_of_reach
    (h : Reach (Net.Step Answers) (ClientNet.start overflow_checks calls) acts s) :
    Net.Tagged Answers (Requests overflow_checks calls) s :=
  Net.tagged_of_reach (fun _ _ _ _ hsteps => requests_of_steps hsteps) h

/-- A call that has succeeded has parsed the last packet it took, whichever call
that packet answers. -/
theorem last_receipt_of_ok
    (h : Reach (Net.Step Answers) (ClientNet.start overflow_checks calls) acts s) {i : ι}
    {v : UdsResponse} (hi : s.tasks i = .ready (.ok v)) :
    ∃ r, (s.receipts.filter (·.receiver = i)).getLast? = some r ∧ (calls i).parse r.msg = .ok v := by
  obtain ⟨es, hes, htaken⟩ := Net.run_of_reach h i
  rw [hi] at hes
  obtain ⟨data, raw, -, -, hlast, hparse⟩ := ServiceCall.exchange_of_returns_ok hes
  rw [htaken, Net.taken, List.getLast?_map] at hlast
  obtain ⟨r, hr, rfl⟩ := Option.map_eq_some_iff.mp hlast
  exact ⟨r, hr, hparse⟩

theorem receiver_of_last {i : ι} {r : Receipt ι Packet}
    (h : (s.receipts.filter (·.receiver = i)).getLast? = some r) :
    r ∈ s.receipts ∧ r.receiver = i := by
  have hmem : r ∈ s.receipts.filter (·.receiver = i) := List.mem_of_getLast? h
  simpa using hmem

end ClientNet

end uds_rs.uds
