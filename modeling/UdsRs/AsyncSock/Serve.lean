import UdsRs.AsyncSock.Future
import Mathlib.Data.Stream.Init

namespace async_sock

variable {Msg Err Fail α : Type}

/-- What `f` returns on a socket that never fails: every send succeeds, every
receive takes the next message of an endless stream and no timer expires. As a
future is a finite tree, this is always a result. -/
def serve : Future Msg Err Fail α → Stream' Msg → Except Fail α
  | .ready result, _ => result
  | .send _ resume, stream => serve (resume (.ok ())) stream
  | .receive resume, stream => serve (resume (.ok stream.head)) stream.tail
  | .receive_within _ resume, stream => serve (resume (some (.ok stream.head))) stream.tail

/-- The operations `f` completes on that socket, in the order in which it completes
them. -/
def transcript : Future Msg Err Fail α → Stream' Msg → List (Event Msg Err)
  | .ready _, _ => []
  | .send payload resume, stream => .sent payload (.ok ()) :: transcript (resume (.ok ())) stream
  | .receive resume, stream =>
      .received (.ok stream.head) :: transcript (resume (.ok stream.head)) stream.tail
  | .receive_within _ resume, stream =>
      .waited (some (.ok stream.head)) :: transcript (resume (some (.ok stream.head))) stream.tail

@[simp] theorem serve_ready (result : Except Fail α) (stream : Stream' Msg) :
    serve (.ready result : Future Msg Err Fail α) stream = result := rfl

@[simp] theorem serve_send (payload : Msg) (resume : Except Err Unit → Future Msg Err Fail α)
    (stream : Stream' Msg) :
    serve (.send payload resume) stream = serve (resume (.ok ())) stream := rfl

@[simp] theorem serve_receive (resume : Except Err Msg → Future Msg Err Fail α) (msg : Msg)
    (stream : Stream' Msg) :
    serve (.receive resume) (Stream'.cons msg stream) = serve (resume (.ok msg)) stream := rfl

@[simp] theorem serve_receive_within (millis : Nat)
    (resume : Option (Except Err Msg) → Future Msg Err Fail α) (msg : Msg) (stream : Stream' Msg) :
    serve (.receive_within millis resume) (Stream'.cons msg stream) =
      serve (resume (some (.ok msg))) stream := rfl

@[simp] theorem transcript_ready (result : Except Fail α) (stream : Stream' Msg) :
    transcript (.ready result : Future Msg Err Fail α) stream = [] := rfl

@[simp] theorem transcript_send (payload : Msg) (resume : Except Err Unit → Future Msg Err Fail α)
    (stream : Stream' Msg) :
    transcript (.send payload resume) stream =
      .sent payload (.ok ()) :: transcript (resume (.ok ())) stream := rfl

@[simp] theorem transcript_receive (resume : Except Err Msg → Future Msg Err Fail α) (msg : Msg)
    (stream : Stream' Msg) :
    transcript (.receive resume) (Stream'.cons msg stream) =
      .received (.ok msg) :: transcript (resume (.ok msg)) stream := rfl

@[simp] theorem transcript_receive_within (millis : Nat)
    (resume : Option (Except Err Msg) → Future Msg Err Fail α) (msg : Msg) (stream : Stream' Msg) :
    transcript (.receive_within millis resume) (Stream'.cons msg stream) =
      .waited (some (.ok msg)) :: transcript (resume (some (.ok msg))) stream := rfl

end async_sock
