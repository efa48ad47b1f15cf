import NetLink.Model.SocketGroup

/-!
# What `listen` runs in

A clock, the `select` call, and the callbacks. The clock is given: `clock n` is its `n`-th reading.
`select` fails or finds any of the descriptors it is given ready, each once, and from then on until
the next `select` the size `FIONREAD` reports of a descriptor stays what it was found to be, or
fails to be found. What a callback does is a relation `reacts`: from what the memory holds to what
it leaves and whether it throws.

The readings, the rounds of `select` and the callbacks made are on record. Which callbacks may be
made is a parameter, and whether a descriptor may be used that has no bit in the set: nothing is
answered to that.
-/

namespace NetLink

open Interaction

/-- What one `select` found: the descriptors that are ready, and what `FIONREAD` says of each. -/
structure Readiness where
  ready : List Int
  size : Int → Except Errno (BitVec 32)

/-- A callback that was made, with what the memory held. -/
structure Exec where
  cmd : Nat
  socket : Nat
  mem : Memory

/-- The callback, and the socket it was made for. -/
def Exec.made (e : Exec) : Nat × Nat := (e.cmd, e.socket)

/-- What has happened so far. -/
structure Listening where
  readings : Nat
  rounds : List Readiness
  execs : List Exec

/-- What callbacks do: the one at `cmd`, called for `socket`. -/
abbrev Reaction := (cmd socket : Nat) → Memory → Except Exception Unit × Memory → Prop

namespace Listening

def start : Listening := ⟨0, [], []⟩

variable (may : Listening → Exec → Prop) (outside : Prop) (clock : Nat → Timeval)
  (reacts : Reaction)

def answers (k : Listening) : (q : Call ⊕ GroupCall) → GroupRet q → Listening → Prop
  | .inr .gettimeofday, now, k' => now = clock k.readings ∧ k' = { k with readings := k.readings + 1 }
  | .inr (.select _ fds _), .ok ready, k' =>
    ready.Nodup ∧ (∀ fd ∈ ready, fd ∈ fds) ∧
      ∃ size, k' = { k with rounds := k.rounds ++ [⟨ready, size⟩] }
  | .inr (.select ..), .error _, k' => k' = k
  | .inr (.exec cmd socket _ mem), r, k' =>
    reacts cmd socket mem r ∧ k' = { k with execs := k.execs ++ [⟨cmd, socket, mem⟩] }
  | .inr .outOfBounds, r, _ => nomatch r
  | .inl (.ioctl fd), r, k' => (∃ round, k.rounds.getLast? = some round ∧ r = round.size fd) ∧ k' = k
  | .inl _, _, _ => False

def kernel : Kernel (Call ⊕ GroupCall) GroupRet Listening where
  allowed k
    | .inr (.exec cmd socket _ mem) => may k ⟨cmd, socket, mem⟩
    | .inr .outOfBounds => outside
    | _ => True
  answers := answers clock reacts

/-- The environment for code that may do all of this. -/
abbrev free : Kernel (Call ⊕ GroupCall) GroupRet Listening :=
  kernel (fun _ _ => True) True clock reacts

variable {may : Listening → Exec → Prop} {outside : Prop} {clock : Nat → Timeval}
  {reacts : Reaction} {α : Type} {Φ : α → Listening → Prop} {k : Listening}

theorem wp_gettimeofday {next : Timeval → GroupSys α} :
    (Prog.ask (.inr .gettimeofday) next).wp (kernel may outside clock reacts) Φ k ↔
      (next (clock k.readings)).wp (kernel may outside clock reacts) Φ
        { k with readings := k.readings + 1 } := by
  constructor
  · intro h
    exact h.2 _ _ ⟨rfl, rfl⟩
  · intro h
    refine ⟨trivial, ?_⟩
    rintro now k' ⟨rfl, rfl⟩
    exact h

theorem wp_ioctl {fd : Int} {next : Except Errno (BitVec 32) → GroupSys α} {round : Readiness}
    (hround : k.rounds.getLast? = some round)
    (h : (next (round.size fd)).wp (kernel may outside clock reacts) Φ k) :
    (Prog.ask (.inl (.ioctl fd)) next).wp (kernel may outside clock reacts) Φ k := by
  refine ⟨trivial, ?_⟩
  rintro r k' ⟨⟨round', hround', rfl⟩, rfl⟩
  cases hround.symm.trans hround'
  exact h

theorem wp_exec {cmd socket : Nat} {reference : Ptr} {mem : Memory}
    {next : Except Exception Unit × Memory → GroupSys α} (hmay : may k ⟨cmd, socket, mem⟩)
    (h : ∀ r, reacts cmd socket mem r → (next r).wp (kernel may outside clock reacts) Φ
      { k with execs := k.execs ++ [⟨cmd, socket, mem⟩] }) :
    (Prog.ask (.inr (.exec cmd socket reference mem)) next).wp (kernel may outside clock reacts)
      Φ k := by
  refine ⟨hmay, ?_⟩
  rintro r k' ⟨hr, rfl⟩
  exact h r hr

theorem wp_select {nfds : Int} {fds : List Int} {timeout : Timeval}
    {next : Except Errno (List Int) → GroupSys α}
    (herror : ∀ e, (next (.error e)).wp (kernel may outside clock reacts) Φ k)
    (hready : ∀ round : Readiness, round.ready.Nodup → (∀ fd ∈ round.ready, fd ∈ fds) →
      (next (.ok round.ready)).wp (kernel may outside clock reacts) Φ
        { k with rounds := k.rounds ++ [round] }) :
    (Prog.ask (.inr (.select nfds fds timeout)) next).wp (kernel may outside clock reacts) Φ k := by
  refine ⟨trivial, ?_⟩
  intro r k' ha
  cases r with
  | error e =>
    have hk : k' = k := ha
    rw [hk]
    exact herror e
  | ok ready =>
    obtain ⟨hnodup, hsub, size, rfl⟩ := ha
    exact hready ⟨ready, size⟩ hnodup hsub

end Listening

end NetLink
