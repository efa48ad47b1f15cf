import NetLink.Model.Posix

/-!
# A kernel that follows a script

The kernel of a single reading call, when all that matters is the sequence of results its reads
get: the `i`-th `recv` answers `reads i`, the `i`-th `recvfrom` answers `datagrams i`, and
`ioctl` answers `size`. The state is the number of results given so far. A successful read has
removed what it answers from the kernel's queue; a failed one has removed nothing.

Nothing is assumed of a script. It may also hold results longer than the buffer, which no
kernel gives.
-/

namespace NetLink

open Interaction

/-- The results a reading call will get. -/
structure Script where
  size : Except Errno (BitVec 32)
  reads : Nat → Except Errno StdString
  datagrams : Nat → Except Errno (StdString × SockAddr)

namespace Script

def serve (script : Script) (n : Nat) : (q : Call) → Option (q.Ret × Nat)
  | .recv _ _ => some (script.reads n, n + 1)
  | .recvfrom _ _ => some (script.datagrams n, n + 1)
  | .ioctl _ => some (script.size, n)
  | _ => none

def kernel (script : Script) : Kernel Call Call.Ret Nat := .ofServe script.serve

/-- What the first `n` results have removed from the queue. -/
def taken {X : Type} (results : Nat → Except Errno X) : Nat → List X
  | 0 => []
  | n + 1 =>
    match results n with
    | .ok x => taken results n ++ [x]
    | .error _ => taken results n

theorem taken_succ_ok {X : Type} {results : Nat → Except Errno X} {n : Nat} {x : X}
    (h : results n = .ok x) : taken results (n + 1) = taken results n ++ [x] := by
  simp only [taken, h]

theorem taken_succ_error {X : Type} {results : Nat → Except Errno X} {n : Nat} {e : Errno}
    (h : results n = .error e) : taken results (n + 1) = taken results n := by
  simp only [taken, h]

end Script

end NetLink
