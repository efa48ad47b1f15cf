import NetLink.Model.Posix

/-!
# A kernel with a connection that nothing more arrives on

The receiving side of a TCP connection whose peer has stopped: the bytes that are pending, an
error that is pending behind them, and whether the peer has closed. `recv` yields pending bytes
while there are any, then the error, once, then the end of the stream; with none of these a
non-blocking socket is told it would block and a blocking one waits. `FIONREAD` reports the
number of pending bytes and nothing else. No other call is answered; `receive` makes no other.
-/

namespace NetLink

open Interaction

/-- The kernel side of a connection with nothing more to come. -/
structure TcpPending where
  bytes : StdString
  error : Option Errno
  closed : Bool
  nonblocking : Bool
  deriving DecidableEq

namespace TcpPending

def serve (k : TcpPending) : (q : Call) → Option (q.Ret × TcpPending)
  | .recv _ cap =>
    if k.bytes ≠ [] then some (.ok (k.bytes.take cap), { k with bytes := k.bytes.drop cap })
    else
      match k.error with
      | some e => some (.error e, { k with error := none })
      | none =>
        if k.closed then some (.ok [], k)
        else if k.nonblocking then some (.error .eagain, k)
        else none
  | .ioctl _ => some (.ok (BitVec.ofNat 32 k.bytes.length), k)
  | _ => none

def kernel : Kernel Call Call.Ret TcpPending := .ofServe serve

/-- A peer that is connected and silent, read by a socket that blocks. -/
def silent (bytes : StdString) : TcpPending := ⟨bytes, none, false, false⟩

theorem serve_recv {k : TcpPending} (h : k.bytes ≠ []) (fd : Int) (cap : Nat) :
    k.serve (.recv fd cap) = some (.ok (k.bytes.take cap), { k with bytes := k.bytes.drop cap }) :=
  if_pos h

theorem serve_ioctl (k : TcpPending) (fd : Int) :
    k.serve (.ioctl fd) = some (.ok (BitVec.ofNat 32 k.bytes.length), k) := rfl

theorem serve_silent_nil (fd : Int) (cap : Nat) : (silent []).serve (.recv fd cap) = none := rfl

end TcpPending

end NetLink
