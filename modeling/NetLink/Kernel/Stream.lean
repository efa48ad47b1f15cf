import NetLink.Model.Posix

/-!
# A kernel with one direction of a connection

A FIFO stream of bytes from one end of a connection to the other. `send` appends a non-empty
prefix of what it is given, of any length that the kernel moves in one call, or fails; `recv`
removes a non-empty prefix of what has arrived, of any length that fits, or is told that it would
block, or finds the end once everything was read and the other end has closed. Which of these
happens, and how much is moved, is left open. `ioctl` may answer anything. No other call is
answered; `send` and `receive` make no other.
-/

namespace NetLink

open Interaction

/-- The bytes on their way, and whether the sending end has closed. -/
structure Stream where
  bytes : StdString
  closed : Bool

namespace Stream

variable (limit : MaxTransfer)

def answers (k : Stream) : (q : Call) → q.Ret → Stream → Prop
  | .send _ data, .ok n, k' =>
    1 ≤ n ∧ n ≤ data.length ∧ n ≤ limit.bytes ∧ k' = { k with bytes := k.bytes ++ data.take n }
  | .send .., .error _, k' => k' = k
  | .recv _ cap, .ok bytes, k' =>
    (bytes ≠ [] ∧ bytes.length ≤ cap ∧ k.bytes = bytes ++ k'.bytes ∧ k'.closed = k.closed) ∨
      (bytes = [] ∧ k.bytes = [] ∧ k.closed = true ∧ k' = k)
  | .recv .., .error e, k' => e.wouldBlock = true ∧ k' = k
  | .ioctl _, _, k' => k' = k
  | _, _, _ => False

def kernel : Kernel Call Call.Ret Stream where
  allowed _ _ := True
  answers := answers limit

variable {limit : MaxTransfer}

theorem answers_recv_ok {k k' : Stream} {fd : Int} {cap : Nat} {bytes : StdString}
    (h : (kernel limit).answers k (.recv fd cap) (.ok bytes) k') : k.bytes = bytes ++ k'.bytes := by
  rcases h with ⟨-, -, h, -⟩ | ⟨rfl, -, -, rfl⟩
  · exact h
  · rfl

end Stream

end NetLink
