import UdsRs.AsyncSock.Machine
import Mathlib.Data.List.Basic
import Mathlib.Logic.Function.Basic

namespace async_sock

open lts

/-- One message taken from the socket: who took it, and whose request it answers. No
task can read the second, which is kept for the statements only. -/
structure Receipt (ι Msg : Type) where
  receiver : ι
  origin : ι
  msg : Msg
  deriving DecidableEq

/-- Tasks that share one socket: their futures, the requests and answers under way
(oldest first) and the messages already taken (oldest first). Both directions are
FIFO queues that lose nothing, and what is queued carries the task that transmitted
the request it belongs to. -/
structure Net (ι Msg Err Fail α : Type) where
  tasks : ι → Future Msg Err Fail α
  requests : List (ι × Msg)
  answers : List (ι × Msg)
  receipts : List (Receipt ι Msg)

inductive Action (ι Msg : Type) where
  | send (task : ι)
  | answer (task : ι) (msgs : List Msg)
  | receive (task : ι)
  | expire (task : ι)

def Action.task {ι Msg : Type} : Action ι Msg → ι
  | .send task | .answer task _ | .receive task | .expire task => task

/-- The task that acts, which alone can change by the action; the peer's answers
have none. -/
def Action.actor {ι Msg : Type} : Action ι Msg → Option ι
  | .answer _ _ => none
  | .send task | .receive task | .expire task => some task

namespace Net

variable {ι Msg Err Fail α : Type} [DecidableEq ι]

def start (tasks : ι → Future Msg Err Fail α) : Net ι Msg Err Fail α := ⟨tasks, [], [], []⟩

/-- One action of a task or of the peer, which answers a request by any list of
messages that `Answers` allows. No send and no receive fails: the system has no step
for a failed operation, so its results are about runs without one. A timer may
expire at any time, as an answer still under way has not arrived. -/
inductive Step (Answers : Msg → List Msg → Prop) :
    Net ι Msg Err Fail α → Action ι Msg → Net ι Msg Err Fail α → Prop where
  | send {s : Net ι Msg Err Fail α} {i : ι} {payload : Msg}
      {resume : Except Err Unit → Future Msg Err Fail α}
      (htask : s.tasks i = .send payload resume) :
      Step Answers s (.send i)
        { s with
          tasks := Function.update s.tasks i (resume (.ok ()))
          requests := s.requests ++ [(i, payload)] }
  | answer {s : Net ι Msg Err Fail α} {i : ι} {request : Msg} {rest : List (ι × Msg)}
      {msgs : List Msg} (hrequest : s.requests = (i, request) :: rest)
      (hanswer : Answers request msgs) :
      Step Answers s (.answer i msgs)
        { s with requests := rest, answers := s.answers ++ msgs.map (i, ·) }
  | receive {s : Net ι Msg Err Fail α} {i origin : ι} {msg : Msg} {rest : List (ι × Msg)}
      {resume : Except Err Msg → Future Msg Err Fail α}
      (htask : s.tasks i = .receive resume) (hanswer : s.answers = (origin, msg) :: rest) :
      Step Answers s (.receive i)
        { s with
          tasks := Function.update s.tasks i (resume (.ok msg))
          answers := rest
          receipts := s.receipts ++ [⟨i, origin, msg⟩] }
  | receive_within {s : Net ι Msg Err Fail α} {i origin : ι} {msg : Msg} {rest : List (ι × Msg)}
      {millis : Nat} {resume : Option (Except Err Msg) → Future Msg Err Fail α}
      (htask : s.tasks i = .receive_within millis resume)
      (hanswer : s.answers = (origin, msg) :: rest) :
      Step Answers s (.receive i)
        { s with
          tasks := Function.update s.tasks i (resume (some (.ok msg)))
          answers := rest
          receipts := s.receipts ++ [⟨i, origin, msg⟩] }
  | expire {s : Net ι Msg Err Fail α} {i : ι} {millis : Nat}
      {resume : Option (Except Err Msg) → Future Msg Err Fail α}
      (htask : s.tasks i = .receive_within millis resume) :
      Step Answers s (.expire i) { s with tasks := Function.update s.tasks i (resume none) }

/-- What task `i` took from the socket, oldest first, whoever it was meant for. -/
def taken (s : Net ι Msg Err Fail α) (i : ι) : List Msg :=
  (s.receipts.filter (·.receiver = i)).map Receipt.msg

def senders (acts : List (Action ι Msg)) : List ι :=
  acts.filterMap fun | .send i => some i | _ => none

variable {Answers : Msg → List Msg → Prop} {tasks : ι → Future Msg Err Fail α}

theorem Step.mono {Answers' : Msg → List Msg → Prop}
    (hle : ∀ request msgs, Answers request msgs → Answers' request msgs)
    {s t : Net ι Msg Err Fail α} {a : Action ι Msg} (h : Step Answers s a t) :
    Step Answers' s a t := by
  cases h with
  | send htask => exact .send htask
  | answer hrequest hanswer => exact .answer hrequest (hle _ _ hanswer)
  | receive htask hanswer => exact .receive htask hanswer
  | receive_within htask hanswer => exact .receive_within htask hanswer
  | expire htask => exact .expire htask

theorem Step.tasks_of_actor_ne {s t : Net ι Msg Err Fail α} {a : Action ι Msg}
    (h : Step Answers s a t) {i : ι} (hi : a.actor ≠ some i) : t.tasks i = s.tasks i := by
  cases h with
  | answer => rfl
  | send | receive | receive_within | expire =>
    exact Function.update_of_ne (fun heq => hi (congrArg some heq.symm)) _ _

theorem Step.taken_of_actor_ne {s t : Net ι Msg Err Fail α} {a : Action ι Msg}
    (h : Step Answers s a t) {i : ι} (hi : a.actor ≠ some i) : t.taken i = s.taken i := by
  cases h with
  | send | answer | expire => simp [taken]
  | @receive j | @receive_within j =>
    have hj : j ≠ i := fun heq => hi (congrArg some heq)
    simp [taken, hj]

/-- A step of a task is one operation that does not fail. It transmits in a send and
delivers to the task what the task took. -/
theorem Step.operation {s t : Net ι Msg Err Fail α} {a : Action ι Msg} (h : Step Answers s a t)
    {i : ι} (hi : a.actor = some i) :
    ∃ e, Steps (s.tasks i) [e] (t.tasks i) ∧ t.taken i = s.taken i ++ e.delivered.toList ∧
      e.failure = none ∧ e.transmitted.toList.length = (senders [a]).length := by
  cases h with
  | @send j payload resume htask =>
    obtain rfl := Option.some.inj hi
    refine ⟨.sent payload (.ok ()), ?_, by simp [taken], rfl, rfl⟩
    simpa [htask] using .send (.refl (resume (.ok ())))
  | answer => cases hi
  | @receive j origin msg rest resume htask =>
    obtain rfl := Option.some.inj hi
    refine ⟨.received (.ok msg), ?_, by simp [taken], rfl, rfl⟩
    simpa [htask] using .receive (.refl (resume (.ok msg)))
  | @receive_within j origin msg rest millis resume htask =>
    obtain rfl := Option.some.inj hi
    refine ⟨.waited (some (.ok msg)), ?_, by simp [taken], rfl, rfl⟩
    simpa [htask] using .receive_within (.refl (resume (some (.ok msg))))
  | @expire j millis resume htask =>
    obtain rfl := Option.some.inj hi
    refine ⟨.waited none, ?_, by simp [taken], rfl, rfl⟩
    simpa [htask] using .receive_within (.refl (resume none))

/-- Seen from one task, a step of the system is at most one operation of that
task, delivering to it exactly what it took. -/
theorem Step.steps {s t : Net ι Msg Err Fail α} {a : Action ι Msg} (h : Step Answers s a t) (i : ι) :
    ∃ es, Steps (s.tasks i) es (t.tasks i) ∧ t.taken i = s.taken i ++ deliveries es := by
  by_cases hi : a.actor = some i
  · obtain ⟨e, hstep, htaken, -⟩ := h.operation hi
    exact ⟨[e], hstep, by simpa using htaken⟩
  · refine ⟨[], ?_, by simp [h.taken_of_actor_ne hi]⟩
    rw [h.tasks_of_actor_ne hi]
    exact .refl _

/-- Seen from one task, a run of the whole system is a run of that task alone. -/
theorem run_of_reach {acts : List (Action ι Msg)} {s : Net ι Msg Err Fail α}
    (h : Reach (Step Answers) (start tasks) acts s) (i : ι) :
    ∃ es, Steps (tasks i) es (s.tasks i) ∧ deliveries es = s.taken i := by
  induction h with
  | nil => exact ⟨[], .refl _, rfl⟩
  | snoc _ hstep ih =>
    obtain ⟨es, hes, hdeliveries⟩ := ih
    obtain ⟨fs, hfs, htaken⟩ := hstep.steps i
    exact ⟨es ++ fs, hes.append hfs, by rw [deliveries_append, hdeliveries, htaken]⟩

/-- A message the peer may send for a request that the task may transmit. -/
def Traced (Answers : Msg → List Msg → Prop) (Sends : ι → Msg → Prop) (i : ι) (msg : Msg) : Prop :=
  ∃ request msgs, Sends i request ∧ Answers request msgs ∧ msg ∈ msgs

/-- What is under way or taken carries the task whose request it belongs to:
requests are ones that the task sends, and messages are answers to such requests. -/
structure Tagged (Answers : Msg → List Msg → Prop) (Sends : ι → Msg → Prop)
    (s : Net ι Msg Err Fail α) : Prop where
  requests : ∀ p ∈ s.requests, Sends p.1 p.2
  answers : ∀ p ∈ s.answers, Traced Answers Sends p.1 p.2
  receipts : ∀ r ∈ s.receipts, Traced Answers Sends r.origin r.msg

theorem Tagged.step {Sends : ι → Msg → Prop} {s t : Net ι Msg Err Fail α} {a : Action ι Msg}
    (h : Tagged Answers Sends s) (hstep : Step Answers s a t)
    (hsends : ∀ i payload resume, s.tasks i = .send payload resume → Sends i payload) :
    Tagged Answers Sends t := by
  cases hstep with
  | @send i payload resume htask =>
    refine ⟨?_, h.answers, h.receipts⟩
    intro p hp
    rcases List.mem_append.mp hp with hold | hnew
    · exact h.requests p hold
    · rw [List.mem_singleton.mp hnew]
      exact hsends i payload resume htask
  | @answer i request rest msgs hrequest hanswer =>
    have hsent : Sends i request := h.requests (i, request) (by simp [hrequest])
    refine ⟨?_, ?_, h.receipts⟩
    · intro p hp
      exact h.requests p (hrequest ▸ List.mem_cons_of_mem _ hp)
    · intro p hp
      rcases List.mem_append.mp hp with hold | hnew
      · exact h.answers p hold
      · obtain ⟨msg, hmsg, rfl⟩ := List.mem_map.mp hnew
        exact ⟨request, msgs, hsent, hanswer, hmsg⟩
  | receive htask hanswer | receive_within htask hanswer =>
    refine ⟨h.requests, ?_, ?_⟩
    · intro p hp
      exact h.answers p (hanswer ▸ List.mem_cons_of_mem _ hp)
    · intro r hr
      rcases List.mem_append.mp hr with hold | hnew
      · exact h.receipts r hold
      · rw [List.mem_singleton.mp hnew]
        exact h.answers (_, _) (hanswer ▸ List.mem_cons_self)
  | expire htask => exact ⟨h.requests, h.answers, h.receipts⟩

/-- Every message a task takes was sent by the peer for a request of its origin. -/
theorem tagged_of_reach {Sends : ι → Msg → Prop}
    (hsends : ∀ i es payload resume, Steps (tasks i) es (.send payload resume) → Sends i payload)
    {acts : List (Action ι Msg)} {s : Net ι Msg Err Fail α}
    (h : Reach (Step Answers) (start tasks) acts s) : Tagged Answers Sends s := by
  induction h with
  | nil => exact ⟨by simp [start], by simp [start], by simp [start]⟩
  | @snoc acts s t a hrun hstep ih =>
    apply ih.step hstep
    intro i payload resume htask
    obtain ⟨es, hes, -⟩ := run_of_reach hrun i
    exact hsends i es payload resume (htask ▸ hes)

end Net

end async_sock
