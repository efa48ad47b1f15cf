import NetLink.Model.Posix

/-!
# A kernel that takes what a script says

The sending side of a connection during one call, when what matters is the sequence of outcomes
of its `send`s: `.ok m` at the `i`-th place takes `m + 1` bytes, or all of them when there are
fewer, and never more than the kernel moves in one call; an error takes nothing. The state is what
has been taken and how many `send`s there were. Every sequence of numbers is a possible one, and
so is every error at every place; a non-blocking socket whose buffer is full gets `EAGAIN`. No
other call is answered; `send` makes no other.
-/

namespace NetLink

open Interaction

/-- The outcomes a sending call will get. -/
abbrev SendScript := Nat → Except Errno Nat

/-- The bytes taken so far, and the number of `send`s. -/
structure Taken where
  bytes : StdString
  sends : Nat

namespace SendScript

/-- What the outcome `.ok m` takes, where there is enough to take. -/
def takes (limit : MaxTransfer) (m : Nat) : Nat := min (m + 1) limit.bytes

theorem takes_pos (limit : MaxTransfer) (m : Nat) : 0 < takes limit m :=
  Nat.lt_min.mpr ⟨Nat.succ_pos m, limit.pos⟩

theorem takes_le (limit : MaxTransfer) (m : Nat) : takes limit m ≤ limit.bytes := Nat.min_le_right ..

def serve (limit : MaxTransfer) (script : SendScript) (k : Taken) : (q : Call) → Option (q.Ret × Taken)
  | .send _ data =>
    match script k.sends with
    | .ok m =>
      some (.ok (min (takes limit m) data.length), ⟨k.bytes ++ data.take (takes limit m), k.sends + 1⟩)
    | .error e => some (.error e, ⟨k.bytes, k.sends + 1⟩)
  | _ => none

def kernel (limit : MaxTransfer) (script : SendScript) : Kernel Call Call.Ret Taken :=
  .ofServe (serve limit script)

variable {limit : MaxTransfer} {script : SendScript} {k : Taken}

variable (limit) in
theorem serve_ok {m : Nat} (h : script k.sends = .ok m) (fd : Int) (data : StdString) :
    serve limit script k (.send fd data) = some (.ok (min (takes limit m) data.length),
      ⟨k.bytes ++ data.take (takes limit m), k.sends + 1⟩) := by
  simp only [serve, h]

variable (limit) in
theorem serve_error {e : Errno} (h : script k.sends = .error e) (fd : Int) (data : StdString) :
    serve limit script k (.send fd data) = some (.error e, ⟨k.bytes, k.sends + 1⟩) := by
  simp only [serve, h]

/-- What the first `n` outcomes take, where there is enough to take. -/
def moved (limit : MaxTransfer) (script : SendScript) : Nat → Nat
  | 0 => 0
  | n + 1 =>
    match script n with
    | .ok m => moved limit script n + takes limit m
    | .error _ => moved limit script n

theorem moved_succ_ok {n m : Nat} (h : script n = .ok m) :
    moved limit script (n + 1) = moved limit script n + takes limit m := by
  simp only [moved, h]

variable (limit) in
theorem moved_pos {n : Nat} (hpos : 0 < n) (hok : ∀ i < n, ∃ m, script i = .ok m) :
    0 < moved limit script n := by
  cases n with
  | zero => exact absurd hpos (Nat.lt_irrefl 0)
  | succ n =>
    obtain ⟨m, hm⟩ := hok n (Nat.lt_succ_self n)
    rw [moved_succ_ok hm]
    exact Nat.add_pos_right _ (takes_pos limit m)

/-- Of `length` bytes some but not all have been taken when a `send` fails. -/
def BlocksMidway (limit : MaxTransfer) (script : SendScript) (length : Nat) : Prop :=
  ∃ n, 0 < n ∧ (∀ i < n, ∃ m, script i = .ok m) ∧ moved limit script n < length ∧
    ∃ e, script n = .error e

end SendScript

end NetLink
