import Mathlib.Logic.Basic

/-!
# A queue that is filled while it is drained

A queue starts with some elements. Before the `n`-th removal more arrive at its end, and a
removal takes `width` elements from the front, or all there are. Who fills the queue is not
bound by anything, so it may keep up with the removals for ever; `always_full_iff` says when it
does, in terms of what has arrived alone.
-/

namespace Inflow

universe u

variable {α : Type u} {width : Nat} {first : List α} {arrivals : Nat → List α}

/-- All that has arrived by the `n`-th removal. -/
def arrived (first : List α) (arrivals : Nat → List α) : Nat → List α
  | 0 => first ++ arrivals 0
  | n + 1 => arrived first arrivals n ++ arrivals (n + 1)

/-- What `n` removals have left in the queue. -/
def leftover (width : Nat) (first : List α) (arrivals : Nat → List α) : Nat → List α
  | 0 => first
  | n + 1 => (leftover width first arrivals n ++ arrivals n).drop width

/-- What the `n`-th removal finds in the queue. -/
def queued (width : Nat) (first : List α) (arrivals : Nat → List α) (n : Nat) : List α :=
  leftover width first arrivals n ++ arrivals n

/-- As long as every removal before it was a full one, a removal finds all that has arrived
    except the first so many. -/
theorem queued_eq_drop {n : Nat}
    (h : ∀ i < n, width * (i + 1) ≤ (arrived first arrivals i).length) :
    queued width first arrivals n = (arrived first arrivals n).drop (width * n) := by
  induction n with
  | zero => rfl
  | succ n ih =>
    have hprev : leftover width first arrivals (n + 1) =
        (arrived first arrivals n).drop (width * (n + 1)) := by
      rw [leftover, ← queued, ih fun i hi => h i (Nat.lt_succ_of_lt hi), List.drop_drop,
        Nat.mul_succ]
    rw [queued, hprev, arrived, List.drop_append_of_le_length (h n (Nat.lt_succ_self n))]

/-- **Every removal is a full one** exactly when at each of them enough has arrived for it and
    all before it. -/
theorem always_full_iff : (∀ n, width ≤ (queued width first arrivals n).length) ↔
    ∀ n, width * (n + 1) ≤ (arrived first arrivals n).length := by
  constructor
  · intro h n
    induction n using Nat.strongRecOn with
    | ind n ih =>
      have hfull := h n
      rw [queued_eq_drop ih, List.length_drop] at hfull
      rcases Nat.eq_zero_or_pos width with hw | hw
      · simp [hw]
      · rw [Nat.mul_succ]
        omega
  · intro h n
    have hn := h n
    rw [queued_eq_drop fun i _ => h i, List.length_drop]
    rw [Nat.mul_succ] at hn
    omega

end Inflow
