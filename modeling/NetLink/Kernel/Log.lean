import NetLink.Model.Posix

/-!
# A kernel that may answer anything

No call is refused and no answer is ruled out; all that is kept is the record of what was asked
and answered. What is proved against this kernel holds whatever the real one does.

The record is read for what became of resolver lists: the heads of the lists `getaddrinfo`
returned, and the pointers `freeaddrinfo` was given.
-/

namespace NetLink

open Interaction

namespace Log

def kernel : Kernel Call Call.Ret (List SysEvent) where
  allowed _ _ := True
  answers log q r log' := log' = log ++ [⟨q, r⟩]

theorem wp_ask {α : Type} {q : Call} {next : q.Ret → Sys α} {Φ : α → List SysEvent → Prop}
    {log : List SysEvent} :
    (Prog.ask q next).wp kernel Φ log ↔ ∀ r, (next r).wp kernel Φ (log ++ [⟨q, r⟩]) :=
  ⟨fun h r => h.2 r _ rfl, fun h => ⟨trivial, by rintro r _ rfl; exact h r⟩⟩

def freed : List SysEvent → List Nat :=
  List.filterMap fun
    | ⟨.freeaddrinfo p, _⟩ => some p
    | _ => none

def heads : List SysEvent → List Nat :=
  List.filterMap fun
    | ⟨.getaddrinfo .., .ok list⟩ => headPtr list
    | _ => none

def resolverFailed (log : List SysEvent) : Bool :=
  log.any fun
    | ⟨.getaddrinfo .., .error _⟩ => true
    | _ => false

/-- The calls that are about neither. -/
def Unrelated : Call → Prop
  | .getaddrinfo .. | .freeaddrinfo _ => False
  | _ => True

@[simp] theorem freed_append (a b : List SysEvent) : freed (a ++ b) = freed a ++ freed b :=
  List.filterMap_append

@[simp] theorem heads_append (a b : List SysEvent) : heads (a ++ b) = heads a ++ heads b :=
  List.filterMap_append

@[simp] theorem resolverFailed_append (a b : List SysEvent) :
    resolverFailed (a ++ b) = (resolverFailed a || resolverFailed b) := List.any_append

/-- What a record says about resolver lists. -/
def lists (log : List SysEvent) : List Nat × List Nat × Bool :=
  (freed log, heads log, resolverFailed log)

/-- What was freed are the heads of what was returned, each once. -/
def Balanced (log : List SysEvent) : Prop := freed log = heads log

theorem lists_getaddrinfo (host : Option StdString) (service : List Char) (hints : Hints)
    (list : List AddrInfo) :
    lists [⟨.getaddrinfo host service hints, .ok list⟩] = ([], (headPtr list).toList, false) := by
  have hheads : heads [⟨.getaddrinfo host service hints, .ok list⟩] = (headPtr list).toList := by
    unfold heads
    cases h : headPtr list <;> simp [h]
  rw [lists, hheads]
  rfl

theorem lists_unrelated {log : List SysEvent} {q : Call} {r : q.Ret} (h : Unrelated q) :
    lists (log ++ [⟨q, r⟩]) = lists log := by
  have hfreed : freed [⟨q, r⟩] = [] := by cases q <;> first | exact h.elim | rfl
  have hheads : heads [⟨q, r⟩] = [] := by cases q <;> first | exact h.elim | rfl
  have hfailed : resolverFailed [⟨q, r⟩] = false := by cases q <;> first | exact h.elim | rfl
  simp [lists, hfreed, hheads, hfailed]

end Log

end NetLink
