import UdsRs.Uds.SendAndReceive.Runs
import Mathlib.Data.List.Chain

namespace uds_rs.uds

open async_sock lts rust UdsClient Stage

variable {overflow_checks : Bool} {sid : UInt8} {data : Packet}
  {es : List (Event Packet UdsCommunicationError)}

/-- The only operations that may follow each other: a receive after a successful
send, a repeated request after a busy answer, and a second receive after a pending
answer. Nothing follows a failed operation or an expired timer. -/
inductive Follows (request : Packet) :
    Event Packet UdsCommunicationError → Event Packet UdsCommunicationError → Prop where
  | receive (r : Except UdsCommunicationError Packet) :
      Follows request (.sent request (.ok ())) (.received r)
  | resend {sid : UInt8} {raw : Packet} (hsid : request.head? = some sid) (hbusy : Busy sid raw)
      (r : Except UdsCommunicationError Unit) :
      Follows request (.received (.ok raw)) (.sent request r)
  | wait {sid : UInt8} {raw : Packet} (hsid : request.head? = some sid) (hpending : Pending sid raw)
      (r : Option (Except UdsCommunicationError Packet)) :
      Follows request (.received (.ok raw)) (.waited r)

/-- What an exchange of `request` may have done to the socket when the operations
`es` have been completed and `g` is what remains to be done. A request that changes
the state of the ECU is so repeated for one reason only, a busy answer. -/
structure Disciplined (request : Packet) (es : List (Event Packet UdsCommunicationError))
    (g : UdsFuture Packet) : Prop where
  empty : request = [] → es = []
  /-- Before its first operation the exchange of a request is about to send it. -/
  start : request ≠ [] → es = [] → ∃ resume, g = .send request resume
  first : ∀ e ∈ es.head?, ∃ r, e = .sent request r
  payload : ∀ payload r, .sent payload r ∈ es → payload = request
  order : es.IsChain (Follows request)
  /-- A successful send that is the last operation so far is about to be followed
  by a receive. -/
  answered : ∀ payload, es.getLast? = some (.sent payload (.ok ())) → ∃ resume, g = .receive resume
  result : ∀ p, g = .ready (.ok p) → ∃ e ∈ es.getLast?, e.delivered = some p

theorem follows_of_step {s t : Stage} {last e : Event Packet UdsCommunicationError}
    (hrun : Visits overflow_checks sid data es s) (hstep : Step overflow_checks sid data s e t)
    (hlast : es.getLast? = some last) : Follows (sid :: data) last e := by
  cases s with
  | sending retry_counter =>
    rcases visits_sending hrun with ⟨rfl, -⟩ | ⟨es', previous, raw, rfl, hverdict, -⟩
    · cases hlast
    · have hbusy : Busy sid raw := verdict_eq_busy_iff.mp hverdict
      obtain rfl : Event.received (.ok raw) = last := by simpa using hlast
      cases hstep with
      | sent => exact .resend rfl hbusy (.ok ())
      | send_failed _ e => exact .resend rfl hbusy (.error e)
  | receiving retry_counter =>
    obtain ⟨es', rfl, -⟩ := visits_receiving hrun
    obtain rfl : Event.sent (sid :: data) (.ok ()) = last := by simpa using hlast
    cases hstep with
    | received _ raw => exact .receive (.ok raw)
    | receive_failed _ e => exact .receive (.error e)
  | waiting =>
    obtain ⟨es', previous, raw, rfl, hverdict, -⟩ := visits_waiting hrun
    have hpending : Pending sid raw := verdict_eq_pending_iff.mp hverdict
    obtain rfl : Event.received (.ok raw) = last := by simpa using hlast
    cases hstep with
    | delayed raw => exact .wait rfl hpending (some (.ok raw))
    | wait_failed e => exact .wait rfl hpending (some (.error e))
    | expired => exact .wait rfl hpending none
  | returned result => cases hstep

theorem order_of_visits {s : Stage} (h : Visits overflow_checks sid data es s) :
    es.IsChain (Follows (sid :: data)) := by
  induction h with
  | nil => exact .nil
  | @snoc es s t e hrun hstep ih =>
    apply ih.append (.singleton e)
    intro last hlast next hnext
    obtain rfl : e = next := by simpa using hnext
    exact follows_of_step hrun hstep hlast

theorem sent_of_step {s t : Stage} {e : Event Packet UdsCommunicationError}
    (hstep : Step overflow_checks sid data s e t) :
    (∀ payload r, e = .sent payload r → payload = sid :: data) ∧
      (∀ retry_counter, s = sending retry_counter → ∃ r, e = .sent (sid :: data) r) := by
  cases hstep with
  | sent => exact ⟨fun _ _ h => by cases h; rfl, fun _ _ => ⟨_, rfl⟩⟩
  | send_failed => exact ⟨fun _ _ h => by cases h; rfl, fun _ _ => ⟨_, rfl⟩⟩
  | _ => exact ⟨nofun, nofun⟩

theorem first_of_visits {s : Stage} (h : Visits overflow_checks sid data es s) :
    ∀ e ∈ es.head?, ∃ r, e = .sent (sid :: data) r := by
  induction h with
  | nil => simp
  | @snoc es s t e hrun hstep ih =>
    cases es with
    | nil =>
      obtain rfl := Reach.nil_iff.mp hrun
      obtain ⟨r, rfl⟩ := (sent_of_step hstep).2 0 rfl
      simp
    | cons first rest => exact ih

theorem first_of_returns {result : Outcome UdsError Packet}
    (h : Returns (send_and_receive overflow_checks (sid :: data)) es result) :
    ∃ r, es.head? = some (.sent (sid :: data) r) := by
  have hvisits := returns_iff.mp h
  cases es with
  | nil => cases Reach.nil_iff.mp hvisits
  | cons first rest =>
    obtain ⟨r, rfl⟩ := first_of_visits hvisits first rfl
    exact ⟨r, rfl⟩

theorem payload_of_visits {s : Stage} (h : Visits overflow_checks sid data es s) :
    ∀ payload r, .sent payload r ∈ es → payload = sid :: data := by
  induction h with
  | nil => simp
  | @snoc es s t e hrun hstep ih =>
    intro payload r hmem
    rcases List.mem_append.mp hmem with hold | hnew
    · exact ih payload r hold
    · have hlast : e = .sent payload r := (List.mem_singleton.mp hnew).symm
      exact (sent_of_step hstep).1 payload r hlast

theorem receiving_of_sent {s : Stage} {payload : Packet} (h : Visits overflow_checks sid data es s)
    (hlast : es.getLast? = some (.sent payload (.ok ()))) :
    ∃ retry_counter, s = receiving retry_counter := by
  cases h with
  | nil => cases hlast
  | @snoc es s t e hrun hstep =>
    obtain rfl : e = .sent payload (.ok ()) := by simpa using hlast
    cases hstep with
    | sent retry_counter => exact ⟨retry_counter, rfl⟩

/-- Every run of an exchange is disciplined, whether it is completed or not,
whatever packets arrive, at whichever operation the socket fails and whether or not
the timer expires. -/
theorem disciplined_of_steps {request : Packet} {g : UdsFuture Packet}
    (h : Steps (send_and_receive overflow_checks request) es g) : Disciplined request es g := by
  cases request with
  | nil =>
    obtain ⟨rfl, rfl⟩ := Steps.ready_iff.mp h
    refine ⟨fun _ => rfl, fun hne => absurd rfl hne, by simp, by simp, .nil, nofun, ?_⟩
    intro p hp
    cases hp
  | cons sid data =>
    obtain ⟨s, hvisits, rfl⟩ := Stage.steps_iff.mp h
    refine ⟨nofun, ?_, first_of_visits hvisits, payload_of_visits hvisits, order_of_visits hvisits,
      ?_, ?_⟩
    · rintro - rfl
      obtain rfl := Reach.nil_iff.mp hvisits
      exact ⟨_, rfl⟩
    · intro payload hlast
      obtain ⟨retry_counter, rfl⟩ := receiving_of_sent hvisits hlast
      exact ⟨_, rfl⟩
    · intro p hready
      rw [hready] at h
      obtain ⟨es', e, rfl, hdelivered⟩ := last_of_returns_ok h
      exact ⟨e, by simp, hdelivered⟩

theorem disciplined_of_steps_write :
    Disciplined [0x2E, 0xF1, 0x90, 0xAA]
      [.sent [0x2E, 0xF1, 0x90, 0xAA] (.ok ()), .received (.ok [0x7F, 0x2E, 0x21]),
        .sent [0x2E, 0xF1, 0x90, 0xAA] (.ok ()), .received (.ok [0x6E, 0xF1, 0x90])]
      (.ready (.ok [0x6E, 0xF1, 0x90])) := by
  have hbusy : judge true 0x2E 0 [0x7F, 0x2E, 0x21] = sending (-1) := by decide
  have hlast : judge true 0x2E (-1) [0x6E, 0xF1, 0x90] = returned (.ok [0x6E, 0xF1, 0x90]) := by
    decide
  have hrun : Returns (send_and_receive true [0x2E, 0xF1, 0x90, 0xAA])
      [.sent [0x2E, 0xF1, 0x90, 0xAA] (.ok ()), .received (.ok [0x7F, 0x2E, 0x21]),
        .sent [0x2E, 0xF1, 0x90, 0xAA] (.ok ()), .received (.ok [0x6E, 0xF1, 0x90])]
      (.ok [0x6E, 0xF1, 0x90]) :=
    returns_iff.mpr (.snoc (.snoc (.snoc (.snoc .nil (.sent 0)) (hbusy ▸ .received 0 _))
      (.sent (-1))) (hlast ▸ .received (-1) _))
  exact disciplined_of_steps hrun

end uds_rs.uds
