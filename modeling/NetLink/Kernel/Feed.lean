import Mathlib.Algebra.Group.Nat.Defs
import NetLink.Lib.Overlay
import NetLink.Model.Posix

/-!
# A socket that is read from

All that is kept of the socket is what it has delivered and how often a read of it would have
blocked, and beside it what somebody holds who puts every delivery behind what he has, and loses
the last byte whenever a read would have blocked. `recv` delivers any bytes that fit, fewer than
an `int` can count, or fails; a count that `FIONREAD` stores is not negative. No other call is
answered; `SmartBuffer::read` makes no other.
-/

namespace NetLink

open Interaction

structure Feed where
  held : StdString
  received : StdString
  stalls : Nat

namespace Feed

/-- Before the first call, for somebody who holds these bytes. -/
def start (held : StdString) : Feed := ⟨held, [], 0⟩

def deliver (k : Feed) (bytes : StdString) : Feed :=
  ⟨k.held ++ bytes, k.received ++ bytes, k.stalls⟩

def stall (k : Feed) : Feed := ⟨k.held.dropLast, k.received, k.stalls + 1⟩

def answers (k : Feed) : (q : Call) → q.Ret → Feed → Prop
  | .recv _ cap, .ok bytes, k' =>
    bytes.length ≤ cap ∧ bytes.length < 2 ^ 31 ∧ k' = k.deliver bytes
  | .recv .., .error e, k' => k' = cond e.wouldBlock k.stall k
  | .ioctl _, .ok n, k' => n.toNat < 2 ^ 31 ∧ k' = k
  | .ioctl _, .error _, k' => k' = k
  | _, _, _ => False

def kernel : Kernel Call Call.Ret Feed where
  allowed _ _ := True
  answers := answers

/-- A read would block only when something is held, and never is more held than so much. -/
def steady (most : Nat) : Kernel Call Call.Ret Feed :=
  kernel.above id fun k _ _ k' => (k'.stalls ≠ k.stalls → k.held ≠ []) ∧ k'.held.length ≤ most

end Feed

end NetLink
