import NetLink.Lib.Interference
import NetLink.Model.Posix

/-!
# A network of datagrams

What UDP sockets have put on the network between them. Nothing is ever taken off it: `recvfrom`
finds any datagram that was sent to the socket's own address, cut down to the buffer, or fails in
any way. So a datagram may be lost, come late, come twice, and overtake others. `sendto`
transmits all it is given as one datagram, when it is not too long for one, or fails.

The environment is that of one socket, known to the others by the address `own`. What names
resolve to is given, and so is what the socket may transmit. No call is answered that neither
`sendTo` nor `receive_from` makes.
-/

namespace NetLink

open Interaction

/-- A datagram on the network. -/
structure Packet where
  source : SockAddr
  target : SockAddr
  payload : StdString

/-- All that was put on the network, oldest first. -/
abbrev Network := List Packet

/-- What a name and a service resolve to. -/
abbrev Resolution := Option StdString → List Char → List AddrInfo → Prop

namespace Network

variable (limit : MaxTransfer) (resolves : Resolution) (own : SockAddr)
  (may : StdString → SockAddr → Prop)

def answers (k : Network) : (q : Call) → q.Ret → Network → Prop
  | .getaddrinfo host service _, .ok list, k' => resolves host service list ∧ k' = k
  | .getaddrinfo .., .error _, k' => k' = k
  | .freeaddrinfo _, _, k' => k' = k
  | .sendto _ data target, .ok n, k' =>
    n = data.length ∧ n ≤ limit.bytes ∧ k' = k ++ [⟨own, target, data⟩]
  | .sendto .., .error _, k' => k' = k
  | .recvfrom _ cap, .ok (bytes, source), k' =>
    k' = k ∧ ∃ p ∈ k, p.target = own ∧ p.source = source ∧ bytes = p.payload.take cap
  | .recvfrom .., .error _, k' => k' = k
  | _, _, _ => False

def kernel : Kernel Call Call.Ret Network where
  allowed _
    | .sendto _ data target => may data target
    | _ => True
  answers := answers limit resolves own

/-- The environment for code that may transmit anything. -/
abbrev free : Kernel Call Call.Ret Network := kernel limit resolves own fun _ _ => True

/-- What the others do to the network: they add to it. -/
def Grows (k k' : Network) : Prop := k <+: k'

theorem Grows.mem {k k' : Network} (h : Grows k k') {p : Packet} (hp : p ∈ k) : p ∈ k' :=
  List.IsPrefix.mem hp h

variable {limit : MaxTransfer} {resolves : Resolution} {own : SockAddr}
  {may : StdString → SockAddr → Prop}

theorem Grows.all {k k' : Network} (h : Relation.ReflTransGen Grows k k') : Grows k k' := by
  induction h with
  | refl => exact List.prefix_refl k
  | tail _ hstep ih => exact List.IsPrefix.trans ih hstep

/-- What an answer does to the network: nothing, or a datagram of this socket is added. -/
theorem answers_adds {k k' : Network} {q : Call} {r : q.Ret}
    (h : (free limit resolves own).answers k q r k') :
    k' = k ∨ ∃ fd data target, q = .sendto fd data target ∧ k' = k ++ [⟨own, target, data⟩] := by
  cases q with
  | getaddrinfo host service hints =>
    cases r with
    | error e => exact .inl h
    | ok list => exact .inl h.2
  | freeaddrinfo addr => exact .inl h
  | sendto fd data target =>
    cases r with
    | error e => exact .inl h
    | ok n => exact .inr ⟨fd, data, target, rfl, h.2.2⟩
  | recvfrom fd cap =>
    cases r with
    | error e => exact .inl h
    | ok x => exact .inl h.1
  | _ => exact h.elim

/-- A step of a loop that transmits only what it may. -/
theorem step_adds {σ ρ : Type} {L : SysLoop σ ρ} {I : σ → Network → Prop} {Φ : ρ → Network → Prop}
    {k k' : Network} {config config' : SysConfig σ ρ}
    (h : L.Guaranteed (kernel limit resolves own may) Grows I Φ (k, config))
    (hstep : L.Step (free limit resolves own) (k, config) (k', config')) :
    k.Grows k' ∧ ∀ p ∈ k', p ∈ k ∨ p.source = own ∧ may p.payload p.target := by
  cases hstep with
  | answer r ha =>
    rcases answers_adds ha with rfl | ⟨fd, data, target, rfl, rfl⟩
    · exact ⟨List.prefix_refl _, fun p hp => .inl hp⟩
    · refine ⟨List.prefix_append _ _, ?_⟩
      intro p hp
      rcases List.mem_append.mp hp with hp | hp
      · exact .inl hp
      · cases List.mem_singleton.mp hp
        exact .inr ⟨rfl, h.allowed⟩
  | again => exact ⟨List.prefix_refl _, fun p hp => .inl hp⟩

theorem step_of_free {σ ρ : Type} {L : SysLoop σ ρ} {st st' : Network × SysConfig σ ρ}
    (h : L.Step (free limit resolves own) st st') : L.Step (kernel limit resolves own may) st st' :=
  h.congr (show (free limit resolves own).answers = (kernel limit resolves own may).answers from rfl)

end Network

end NetLink
