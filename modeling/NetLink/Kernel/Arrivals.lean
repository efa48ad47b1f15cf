import NetLink.Lib.Inflow
import NetLink.Kernel.Udp

/-!
# A kernel with a peer that goes on sending

The receiving side of a socket that must not block, while the peer keeps sending: some bytes, or
some datagrams, are pending when a call begins, and any finite number may arrive before each
`recv` or `recvfrom` in it. A read takes what fits from the bytes, or one datagram, and is told
that it would block when there is nothing. `FIONREAD` reports the pending bytes.
-/

namespace NetLink

open Interaction Inflow

/-- What is pending at first, and what arrives before each read. -/
structure Arrivals where
  pending : StdString
  bytes : Nat → StdString
  queue : List Datagram
  datagrams : Nat → List Datagram

/-- What the reads so far have left, and how many they were. -/
structure Inbox where
  bytes : StdString
  queue : List Datagram
  reads : Nat

namespace Arrivals

def serve (a : Arrivals) (k : Inbox) : (q : Call) → Option (q.Ret × Inbox)
  | .recv _ cap =>
    let bytes := k.bytes ++ a.bytes k.reads
    some (if bytes ≠ [] then .ok (bytes.take cap) else .error .eagain,
      { k with bytes := bytes.drop cap, reads := k.reads + 1 })
  | .recvfrom _ cap =>
    let queue := k.queue ++ a.datagrams k.reads
    some (match queue.head? with
      | some d => .ok (d.payload.take cap, d.sender)
      | none => .error .eagain, { k with queue := queue.drop 1, reads := k.reads + 1 })
  | .ioctl _ => some (.ok (BitVec.ofNat 32 k.bytes.length), k)
  | _ => none

def kernel (a : Arrivals) : Kernel Call Call.Ret Inbox := .ofServe a.serve

def start (a : Arrivals) : Inbox := ⟨a.pending, a.queue, 0⟩

/-- After `n` reads of a stream, `cap` bytes each. -/
def streamAt (a : Arrivals) (cap n : Nat) : Inbox := ⟨leftover cap a.pending a.bytes n, a.queue, n⟩

/-- What the `n`-th `recv` gets. -/
def recvAt (a : Arrivals) (cap n : Nat) : Except Errno StdString :=
  let bytes := queued cap a.pending a.bytes n
  if bytes ≠ [] then .ok (bytes.take cap) else .error .eagain

theorem serve_recv (a : Arrivals) (fd : Int) (cap n : Nat) :
    a.serve (a.streamAt cap n) (.recv fd cap) = some (a.recvAt cap n, a.streamAt cap (n + 1)) :=
  rfl

/-- After `n` reads of datagrams. -/
def queueAt (a : Arrivals) (n : Nat) : Inbox := ⟨a.pending, leftover 1 a.queue a.datagrams n, n⟩

/-- What the `n`-th `recvfrom` gets. -/
def recvfromAt (a : Arrivals) (cap n : Nat) : Except Errno (StdString × SockAddr) :=
  match (queued 1 a.queue a.datagrams n).head? with
  | some d => .ok (d.payload.take cap, d.sender)
  | none => .error .eagain

theorem serve_recvfrom (a : Arrivals) (fd : Int) (cap n : Nat) :
    a.serve (a.queueAt n) (.recvfrom fd cap) = some (a.recvfromAt cap n, a.queueAt (n + 1)) :=
  rfl

end Arrivals

end NetLink
