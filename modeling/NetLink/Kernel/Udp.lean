import NetLink.Model.Posix

/-!
# A kernel with a queue of datagrams

The receiving side of a UDP socket: a FIFO queue of datagrams, each with its sender. `recvfrom`
takes the head, yields what fits in the buffer together with the sender, and throws the rest of
the payload away. On an empty queue a non-blocking socket is told so and a blocking one waits.
No other call is answered; `receive_from` makes no other.
-/

namespace NetLink

open Interaction

/-- A datagram with its sender. -/
structure Datagram where
  payload : StdString
  sender : SockAddr
  deriving DecidableEq

structure UdpQueue where
  queue : List Datagram
  nonblocking : Bool
  deriving DecidableEq

namespace UdpQueue

def serve (k : UdpQueue) : (q : Call) → Option (q.Ret × UdpQueue)
  | .recvfrom _ cap =>
    match k.queue with
    | d :: rest => some (.ok (d.payload.take cap, d.sender), { k with queue := rest })
    | [] => if k.nonblocking then some (.error .eagain, k) else none
  | _ => none

def kernel : Kernel Call Call.Ret UdpQueue := .ofServe serve

theorem serve_cons (d : Datagram) (rest : List Datagram) (nonblocking : Bool) (fd : Int)
    (cap : Nat) : serve ⟨d :: rest, nonblocking⟩ (.recvfrom fd cap) =
      some (.ok (d.payload.take cap, d.sender), ⟨rest, nonblocking⟩) := rfl

theorem serve_empty (fd : Int) (cap : Nat) :
    serve ⟨[], true⟩ (.recvfrom fd cap) = some (.error .eagain, ⟨[], true⟩) := rfl

theorem serve_wait (fd : Int) (cap : Nat) : serve ⟨[], false⟩ (.recvfrom fd cap) = none := rfl

theorem answers_length_le {k k' : UdpQueue} {q : Call} {r : q.Ret}
    (h : kernel.answers k q r k') : k'.queue.length ≤ k.queue.length := by
  obtain ⟨queue, nonblocking⟩ := k
  cases q with
  | recvfrom fd cap =>
    cases queue with
    | nil =>
      cases nonblocking with
      | false => cases h
      | true => cases h; exact Nat.le_refl _
    | cons d rest => cases h; exact Nat.le_succ _
  | _ => cases h

end UdpQueue

end NetLink
