import NetLink.Lib.Overlay
import NetLink.Kernel.Os

/-!
# A kernel that knows who is bound where

The kernel of `Kernel/Os.lean` with one thing more: for every descriptor its address family, the
local address it is bound to and the address of its peer. The rules, on top of those there:

* the resolver yields addresses of the family it is asked for, with the port that the service
  spells;
* `bind` gives a descriptor a local address with the port it is asked for, or with any port when
  it is asked for port 0; `connect` gives it any local address, and a peer;
* a connection that is accepted has the family and the local port of the socket that listens;
* `getsockname` tells the local address.
-/

namespace NetLink

open Interaction

/-- What the kernel knows of a descriptor. -/
structure Binding where
  family : Family
  localAddr : Option SockAddr
  peer : Option SockAddr

structure Ports where
  os : Os
  binding : Int → Binding

namespace Ports

/-- What an answer says of the bindings, and does to them. -/
def rule (k : Ports) : (q : Call) → q.Ret → Ports → Prop
  | .getaddrinfo _ service hints, .ok list, k' => k'.binding = k.binding ∧
      ∀ info ∈ list, info.addr.port.toNat = Nat.ofDigitChars 10 service 0 ∧
        (hints.family ≠ .unspec → info.family = hints.family)
  | .socket family .., .ok fd, k' => k'.binding = Function.update k.binding fd ⟨family, none, none⟩
  | .bind fd addr, .ok (), k' => ∃ here : SockAddr, (addr.port ≠ 0 → here.port = addr.port) ∧
      k'.binding = Function.update k.binding fd { k.binding fd with localAddr := some here }
  | .connect fd addr, .ok (), k' => ∃ here : SockAddr,
      k'.binding = Function.update k.binding fd
        { k.binding fd with localAddr := some here, peer := some addr }
  | .accept fd, .ok (newFd, peer), k' => ∃ here : SockAddr,
      (∀ a ∈ (k.binding fd).localAddr, here.port = a.port) ∧
        k'.binding = Function.update k.binding newFd ⟨(k.binding fd).family, some here, some peer⟩
  | .getsockname fd, .ok sin, k' => k'.binding = k.binding ∧ (k.binding fd).localAddr = some sin
  | _, _, k' => k'.binding = k.binding

def kernel (may : Os → Call → Int → Prop) : Kernel Call Call.Ret Ports := (Os.kernel may).above os rule

theorem kernel_refines (may : Os → Call → Int → Prop) : (kernel may).Refines os (Os.kernel may) :=
  Kernel.above_refines ..

/-- The kernel, for a program that may do anything. -/
abbrev plain : Kernel Call Call.Ret Ports := kernel fun _ _ _ => True

theorem plain_refines : plain.Refines os Os.plain := kernel_refines _

theorem runs_of_plain {may : Os → Call → Int → Prop} {α : Type} {t : Sys α} {k k' : Ports} {a : α}
    (h : t.Runs plain k a k') : t.Runs (kernel may) k a k' :=
  h.congr (show plain.answers = (kernel may).answers from rfl)

/-- The calls that bind a descriptor they are given. -/
def Binds : Call → Prop
  | .bind .. | .connect .. => True
  | _ => False

variable {k k' : Ports} {q : Call} {r : q.Ret} {fd : Int}

/-- A descriptor that is not handed out keeps its binding when it is not given one. -/
theorem rule_keeps (h : k.rule q r k') (hhanded : q.handed? r ≠ some fd)
    (hbinds : Binds q → q.fd? ≠ some fd) : k'.binding fd = k.binding fd := by
  have hupdate {fd' : Int} {b : Binding} (hb : k'.binding = Function.update k.binding fd' b)
      (hne : fd' ≠ fd) : k'.binding fd = k.binding fd := by
    rw [hb, Function.update_of_ne hne.symm]
  have hfd {fd' : Int} (h : some fd' ≠ some fd) : fd' ≠ fd := fun heq => h (congrArg some heq)
  cases q with
  | socket family socktype protocol =>
    cases r with
    | error e => exact congrFun h fd
    | ok fd' => exact hupdate h (hfd hhanded)
  | bind fd' addr =>
    cases r with
    | error e => exact congrFun h fd
    | ok =>
      obtain ⟨here, -, h⟩ := h
      exact hupdate h (hfd (hbinds trivial))
  | connect fd' addr =>
    cases r with
    | error e => exact congrFun h fd
    | ok =>
      obtain ⟨here, h⟩ := h
      exact hupdate h (hfd (hbinds trivial))
  | accept fd' =>
    cases r with
    | error e => exact congrFun h fd
    | ok r =>
      obtain ⟨here, -, h⟩ := h
      exact hupdate h (hfd hhanded)
  | getsockname fd' =>
    cases r with
    | error e => exact congrFun h fd
    | ok sin => exact congrFun h.1 fd
  | getaddrinfo host service hints =>
    cases r with
    | error e => exact congrFun h fd
    | ok list => exact congrFun h.1 fd
  | nullDeref | badAlloc => exact r.elim
  | _ => exact congrFun h fd

end Ports

end NetLink
