import Mathlib.Logic.Function.Basic
import NetLink.Model.Posix

/-!
# A kernel with several addresses to try

The resolver answers a list of candidates, and for each of them it is settled beforehand what
every call made for it comes to: `socket`, and on the descriptor it hands out `setsockopt`,
`bind`, `connect` and `listen`. Which descriptor is handed out is left open. `getsockname` and
`close` succeed, and a call on a descriptor that is not open gets `EBADF`.

A program is expected to ask for a descriptor for the next candidate when it has closed the one
before, to use a candidate's own address on its descriptor, and to make no call on a descriptor
that is not open.
-/

namespace NetLink

open Interaction

/-- A candidate address, and what each call made for it comes to. -/
structure Candidate where
  info : AddrInfo
  socket : Except Errno Unit
  setsockopt : Except Errno Unit
  bind : Except Errno Unit
  connect : Except Errno Unit
  listen : Except Errno Unit

/-- How many candidates a descriptor was asked for, and the descriptors that are open, each with
    the number of the candidate it was handed out for. -/
structure Attempts where
  tried : Nat
  owner : Int → Option Nat

namespace Attempts

/-- Nothing is open, and these many candidates were tried. -/
def after (tried : Nat) : Attempts := ⟨tried, fun _ => none⟩

/-- The candidate of this number was handed the descriptor `fd`. -/
def holding (i : Nat) (fd : Int) : Attempts := ⟨i + 1, Function.update (fun _ => none) fd (some i)⟩

def candidate? (cands : List Candidate) (k : Attempts) (fd : Int) : Option Candidate :=
  (k.owner fd).bind (cands[·]?)

/-- What a call on a descriptor is told, given what candidates are told. -/
def told (cands : List Candidate) (k : Attempts) (fd : Int)
    (call : Candidate → Except Errno Unit) : Except Errno Unit :=
  (k.candidate? cands fd).elim (.error .ebadf) call

def kernel (cands : List Candidate) : Kernel Call Call.Ret Attempts where
  allowed k
    | .getaddrinfo .. | .freeaddrinfo _ => True
    | .socket family socktype protocol =>
      (∀ fd, k.owner fd = none) ∧ ∃ c, cands[k.tried]? = some c ∧
        family = c.info.family ∧ socktype = c.info.socktype ∧ protocol = c.info.protocol
    | .bind fd addr | .connect fd addr =>
      ∃ c, k.candidate? cands fd = some c ∧ addr = c.info.addr
    | .setsockopt fd | .listen fd _ | .getsockname fd | .close fd => k.owner fd ≠ none
    | _ => False
  answers k q r k' :=
    match q, r with
    | .getaddrinfo .., r => r = .ok (cands.map (·.info)) ∧ k' = k
    | .freeaddrinfo _, _ => k' = k
    | .socket .., .error e =>
      (∃ c, cands[k.tried]? = some c ∧ c.socket = .error e) ∧ k' = { k with tried := k.tried + 1 }
    | .socket .., .ok fd =>
      (∃ c, cands[k.tried]? = some c ∧ c.socket = .ok ()) ∧ 0 ≤ fd ∧ k.owner fd = none ∧
        k' = ⟨k.tried + 1, Function.update k.owner fd (some k.tried)⟩
    | .setsockopt fd, r => r = k.told cands fd (·.setsockopt) ∧ k' = k
    | .bind fd _, r => r = k.told cands fd (·.bind) ∧ k' = k
    | .connect fd _, r => r = k.told cands fd (·.connect) ∧ k' = k
    | .listen fd _, r => r = k.told cands fd (·.listen) ∧ k' = k
    | .getsockname _, r => (∃ addr, r = .ok addr) ∧ k' = k
    | .close fd, r => r = .ok () ∧ k' = { k with owner := Function.update k.owner fd none }
    | _, _ => False

end Attempts

end NetLink
