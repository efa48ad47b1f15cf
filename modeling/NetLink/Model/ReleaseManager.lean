import NetLink.Model.Posix

/-!
# `NL::ReleaseManager`

`src/netlink/release_manager.inline.h`. A scope guard with two queues: addresses, kept by value
when `add(T *)` is called, and variables, of which `add(T **)` keeps only the place. What a
variable holds is read when the guard is destroyed, so `destroy` takes the memory at that
moment. Both users pass a release function; the `delete` the source falls back to without one
is not modelled.
-/

namespace NetLink

open Interaction

/-- A release manager whose variables are named by `V`. -/
structure ReleaseManager (V : Type) where
  releaseQueue : List V
  releaseAddressQueue : List Ptr

namespace ReleaseManager

variable {V : Type}

def new : ReleaseManager V := ⟨[], []⟩

/-- `add(T **var)`. -/
def addVar (rm : ReleaseManager V) (var : V) : ReleaseManager V :=
  { rm with releaseQueue := rm.releaseQueue ++ [var] }

/-- `add(T *address)`. -/
def addAddress (rm : ReleaseManager V) (address : Ptr) : ReleaseManager V :=
  { rm with releaseAddressQueue := rm.releaseAddressQueue ++ [address] }

/-- One of the two loops of the destructor: null pointers are skipped. -/
def releaseEach (releaseFunction : Nat → Sys Unit) : List Ptr → Sys Unit
  | [] => return ()
  | none :: ps => releaseEach releaseFunction ps
  | some p :: ps => do
    releaseFunction p
    releaseEach releaseFunction ps

/-- `~ReleaseManager()`, where `mem` is what the variables hold by now. -/
def destroy (rm : ReleaseManager V) (releaseFunction : Nat → Sys Unit) (mem : V → Ptr) :
    Sys Unit := do
  releaseEach releaseFunction (rm.releaseQueue.map mem)
  releaseEach releaseFunction rm.releaseAddressQueue

/-- A guard over one variable frees what the variable holds at the end. -/
@[simp] theorem destroy_addVar (releaseFunction : Nat → Sys Unit) (mem : V → Ptr) (var : V) :
    (new.addVar var).destroy releaseFunction mem = releaseEach releaseFunction [mem var] := by
  cases h : mem var with
  | none => simp [destroy, new, addVar, releaseEach, h]
  | some p =>
    simp only [destroy, new, addVar, releaseEach, h, List.nil_append, List.map_cons, List.map_nil]
    exact Prog.bind_ret _

end ReleaseManager

end NetLink
