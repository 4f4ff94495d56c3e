import Mathlib.Tactic.Common

namespace async_sock

/-- An `async fn` that talks to one message socket, as the tree of its suspension
points. `Msg` is what the socket carries, `Err` its own error and `Fail` the
computation's. The tree is inductive, so a computation of this type cannot suspend
forever: a loop that is not known to end has to be bounded first. -/
inductive Future (Msg Err Fail α : Type) where
  | ready (result : Except Fail α)
  | send (payload : Msg) (resume : Except Err Unit → Future Msg Err Fail α)
  | receive (resume : Except Err Msg → Future Msg Err Fail α)
  /-- A receive under a timer; `none` is the expired timer. -/
  | receive_within (millis : Nat) (resume : Option (Except Err Msg) → Future Msg Err Fail α)

/-- One completed socket operation with its outcome. The operations may fail and the
timer may expire; what a computation makes of that is in its tree. -/
inductive Event (Msg Err : Type) where
  | sent (payload : Msg) (result : Except Err Unit)
  | received (result : Except Err Msg)
  | waited (result : Option (Except Err Msg))
  deriving DecidableEq

namespace Event

variable {Msg Err : Type}

/-- The message an operation put on the wire. A send that failed is taken to have
put nothing there. -/
def transmitted : Event Msg Err → Option Msg
  | sent payload (.ok ()) => some payload
  | _ => none

def delivered : Event Msg Err → Option Msg
  | received (.ok msg) => some msg
  | waited (some (.ok msg)) => some msg
  | _ => none

/-- The socket error an operation failed with. An expired timer is no error of the
socket. -/
def failure : Event Msg Err → Option Err
  | sent _ (.error e) => some e
  | received (.error e) => some e
  | waited (some (.error e)) => some e
  | _ => none

@[simp] theorem transmitted_sent_ok (payload : Msg) :
    (sent payload (.ok ()) : Event Msg Err).transmitted = some payload := rfl

@[simp] theorem transmitted_sent_error (payload : Msg) (e : Err) :
    (sent payload (.error e)).transmitted = none := rfl

@[simp] theorem transmitted_received (result : Except Err Msg) :
    (received result).transmitted = none := rfl

@[simp] theorem transmitted_waited (result : Option (Except Err Msg)) :
    (waited result).transmitted = none := rfl

@[simp] theorem delivered_sent (payload : Msg) (result : Except Err Unit) :
    (sent payload result).delivered = none := rfl

@[simp] theorem delivered_received_ok (msg : Msg) :
    (received (.ok msg) : Event Msg Err).delivered = some msg := rfl

@[simp] theorem delivered_received_error (e : Err) :
    (received (.error e) : Event Msg Err).delivered = none := rfl

@[simp] theorem delivered_waited_ok (msg : Msg) :
    (waited (some (.ok msg)) : Event Msg Err).delivered = some msg := rfl

@[simp] theorem delivered_waited_error (e : Err) :
    (waited (some (.error e)) : Event Msg Err).delivered = none := rfl

@[simp] theorem delivered_waited_none : (waited none : Event Msg Err).delivered = none := rfl

end Event

namespace Future

variable {Msg Err Fail α β γ : Type}

/-- Sequencing with the `?` convention: a failure ends the whole computation, and
what comes after it is never started. -/
def bind : Future Msg Err Fail α → (α → Future Msg Err Fail β) → Future Msg Err Fail β
  | ready (.ok a), next => next a
  | ready (.error e), _ => ready (.error e)
  | send payload resume, next => send payload fun r => (resume r).bind next
  | receive resume, next => receive fun r => (resume r).bind next
  | receive_within millis resume, next => receive_within millis fun r => (resume r).bind next

instance : Monad (Future Msg Err Fail) where
  pure a := ready (.ok a)
  bind := bind

/-- A computation without suspension points, awaited at once: what it returns or fails
with is there before the socket is touched. -/
instance : MonadLift (Except Fail) (Future Msg Err Fail) where
  monadLift := ready

@[simp] theorem pure_eq (a : α) : (pure a : Future Msg Err Fail α) = ready (.ok a) := rfl

@[simp] theorem liftM_eq (result : Except Fail α) :
    (liftM result : Future Msg Err Fail α) = ready result := rfl

@[simp] theorem monadLift_eq (result : Except Fail α) :
    (MonadLiftT.monadLift result : Future Msg Err Fail α) = ready result := rfl

@[simp] theorem ready_ok_bind (a : α) (next : α → Future Msg Err Fail β) :
    (ready (.ok a) >>= next) = next a := rfl

@[simp] theorem ready_error_bind (e : Fail) (next : α → Future Msg Err Fail β) :
    (ready (.error e) >>= next) = ready (.error e) := rfl

@[simp] theorem send_bind (payload : Msg) (resume : Except Err Unit → Future Msg Err Fail α)
    (next : α → Future Msg Err Fail β) :
    (send payload resume >>= next) = send payload fun r => resume r >>= next := rfl

@[simp] theorem receive_bind (resume : Except Err Msg → Future Msg Err Fail α)
    (next : α → Future Msg Err Fail β) :
    (receive resume >>= next) = receive fun r => resume r >>= next := rfl

@[simp] theorem receive_within_bind (millis : Nat)
    (resume : Option (Except Err Msg) → Future Msg Err Fail α)
    (next : α → Future Msg Err Fail β) :
    (receive_within millis resume >>= next) =
      receive_within millis fun r => resume r >>= next := rfl

theorem bind_ready_ok (f : Future Msg Err Fail α) : (f >>= fun a => ready (.ok a)) = f := by
  induction f with
  | ready result => cases result <;> rfl
  | send payload resume ih => simp only [send_bind, ih]
  | receive resume ih => simp only [receive_bind, ih]
  | receive_within millis resume ih => simp only [receive_within_bind, ih]

theorem bind_bind (f : Future Msg Err Fail α) (g : α → Future Msg Err Fail β)
    (h : β → Future Msg Err Fail γ) : (f >>= g >>= h) = f >>= fun a => g a >>= h := by
  induction f with
  | ready result => cases result <;> rfl
  | send payload resume ih => simp only [send_bind, ih]
  | receive resume ih => simp only [receive_bind, ih]
  | receive_within millis resume ih => simp only [receive_within_bind, ih]

instance : LawfulMonad (Future Msg Err Fail) :=
  LawfulMonad.mk' _ bind_ready_ok (fun _ _ => rfl) bind_bind

end Future

end async_sock
