import NetLink.Kernel.Os

/-!
# What went over a descriptor

Read off the record that the kernel of `Kernel/Os.lean` keeps: the bytes that were sent on a
descriptor, or received on it, since it was last handed out. A descriptor that is closed and
handed out again begins anew, as the connection behind it does.
-/

namespace NetLink

open Interaction

/-- The two ways of a connection. -/
inductive Direction
  | sent
  | received

namespace Direction

variable {d : Direction} {fd : Int} {log : List SysEvent} {q : Call} {r : q.Ret}

/-- The calls that move nothing this way. -/
def Idle (d : Direction) (q : Call) : Prop :=
  match q, d with
  | .send .., sent => False
  | .recv .., received => False
  | _, _ => True

/-- What an event moves over the descriptor `fd`. -/
def moved (fd : Int) : Direction → SysEvent → StdString
  | sent, ⟨.send fd' data, .ok n⟩ => if fd' = fd then data.take n else []
  | received, ⟨.recv fd' _, .ok bytes⟩ => if fd' = fd then bytes else []
  | _, _ => []

/-- What has been moved over the descriptor since it was last handed out. -/
def tape (d : Direction) (fd : Int) (log : List SysEvent) : StdString :=
  log.foldl (fun t e => if e.1.handed? e.2 = some fd then [] else t ++ d.moved fd e) []

theorem tape_snoc : d.tape fd (log ++ [⟨q, r⟩]) =
    if q.handed? r = some fd then [] else d.tape fd log ++ d.moved fd ⟨q, r⟩ := by
  rw [tape, List.foldl_append]
  rfl

theorem tape_handed (h : q.handed? r = some fd) : d.tape fd (log ++ [⟨q, r⟩]) = [] := by
  rw [tape_snoc, if_pos h]

theorem tape_append (h : q.handed? r ≠ some fd) :
    d.tape fd (log ++ [⟨q, r⟩]) = d.tape fd log ++ d.moved fd ⟨q, r⟩ := by
  rw [tape_snoc, if_neg h]

theorem moved_idle (h : d.Idle q) : d.moved fd ⟨q, r⟩ = [] := by
  cases d <;> cases q <;> first | rfl | exact h.elim

theorem moved_other (h : q.fd? ≠ some fd) : d.moved fd ⟨q, r⟩ = [] := by
  cases d with
  | sent =>
    cases q with
    | send fd' data => cases r <;> first | rfl | exact if_neg fun heq => h (congrArg some heq)
    | _ => rfl
  | received =>
    cases q with
    | recv fd' cap => cases r <;> first | rfl | exact if_neg fun heq => h (congrArg some heq)
    | _ => rfl

/-- A call that is about another descriptor, or moves nothing, and does not hand this one out. -/
theorem tape_keeps (hhanded : q.handed? r ≠ some fd) (h : d.moved fd ⟨q, r⟩ = []) :
    d.tape fd (log ++ [⟨q, r⟩]) = d.tape fd log := by
  rw [tape_append hhanded, h, List.append_nil]

theorem tape_send (data : StdString) (n : Nat) :
    sent.tape fd (log ++ [⟨.send fd data, .ok n⟩]) = sent.tape fd log ++ data.take n := by
  rw [tape_append (by nofun)]
  exact congrArg (_ ++ ·) (if_pos rfl)

theorem tape_recv (cap : Nat) (bytes : StdString) :
    received.tape fd (log ++ [⟨.recv fd cap, .ok bytes⟩]) = received.tape fd log ++ bytes := by
  rw [tape_append (by nofun)]
  exact congrArg (_ ++ ·) (if_pos rfl)

/-- The event is no `send` that took more than the kernel moves in one call. -/
def fits (limit : MaxTransfer) : SysEvent → Bool
  | ⟨.send .., .ok n⟩ => n ≤ limit.bytes
  | _ => true

/-- Nor is any in the record. -/
def Within (limit : MaxTransfer) (log : List SysEvent) : Prop := ∀ event ∈ log, fits limit event

theorem Within.of_prefix {limit : MaxTransfer} {log log' : List SysEvent} (h : Within limit log')
    (hlog : log <+: log') : Within limit log := fun event hevent => h event (hlog.mem hevent)

theorem Within.last {limit : MaxTransfer} {event : SysEvent} (h : Within limit (log ++ [event])) :
    fits limit event := h event (List.mem_append_right _ (List.mem_singleton_self event))

/-- A call that moves nothing and hands nothing out. -/
theorem tape_still (hhanded : q.handed? r = none) (h : d.moved fd ⟨q, r⟩ = []) :
    d.tape fd (log ++ [⟨q, r⟩]) = d.tape fd log :=
  tape_keeps (fun heq => by cases hhanded.symm.trans heq) h

end Direction

end NetLink
