import Mathlib.Logic.Basic

/-!
# Programs that talk to an environment

A program here is a finite tree of *questions*. Every inner node asks the environment one
question `q : Q` and continues with the answer, an element of `R q`; every leaf returns. What
the environment answers is not part of the program: `Lib/Kernel.lean` adds it, as a relation,
and the same program is then run against as many environments as there are things to say
about it.

The tree is finite in depth, so a loop is not a `Prog`; `Lib/Loop.lean` builds loops out of
programs. Nothing in `Lib/` names the code that is verified with it.
-/

namespace Interaction

universe u v w

/-- A program over the questions `Q`, whose answers have the types `R q`. -/
inductive Prog (Q : Type u) (R : Q → Type v) (α : Type w) : Type (max u v w)
  /-- The program is finished, with this value. -/
  | ret (a : α)
  /-- The program waits for the answer to `q`. -/
  | ask (q : Q) (next : R q → Prog Q R α)

namespace Prog

variable {Q : Type u} {R : Q → Type v} {α β γ : Type w}

def bind : Prog Q R α → (α → Prog Q R β) → Prog Q R β
  | .ret a, f => f a
  | .ask q next, f => .ask q fun r => (next r).bind f

def call (q : Q) : Prog Q R (R q) := .ask q .ret

instance : Monad (Prog Q R) where
  pure := .ret
  bind := bind

@[simp] theorem pure_eq (a : α) : (pure a : Prog Q R α) = .ret a := rfl

@[simp] theorem ret_bind (a : α) (f : α → Prog Q R β) : (ret a >>= f) = f a := rfl

@[simp] theorem ask_bind (q : Q) (next : R q → Prog Q R α) (f : α → Prog Q R β) :
    (ask q next >>= f) = ask q fun r => next r >>= f := rfl

@[simp] theorem call_bind (q : Q) {R : Q → Type w} (f : R q → Prog Q R β) :
    (call q >>= f) = ask q f := rfl

theorem bind_ret (t : Prog Q R α) : (t >>= fun a => ret a) = t := by
  induction t with
  | ret a => rfl
  | ask q next ih => rw [ask_bind]; exact congrArg (ask q) (funext ih)

theorem bind_assoc (t : Prog Q R α) (f : α → Prog Q R β) (g : β → Prog Q R γ) :
    (t >>= f >>= g) = t >>= fun a => f a >>= g := by
  induction t with
  | ret a => rfl
  | ask q next ih => simp only [ask_bind]; exact congrArg (ask q) (funext ih)

/-- The program begins by asking `q`, and goes on as `t'` when it is answered `r`. -/
def Begins (t : Prog Q R α) (q : Q) (r : R q) (t' : Prog Q R α) : Prop :=
  ∃ next, t = .ask q next ∧ next r = t'

theorem begins_ask {q : Q} {next : R q → Prog Q R α} {r : R q} {t' : Prog Q R α} :
    (ask q next).Begins q r t' ↔ next r = t' := by
  constructor
  · intro h
    obtain ⟨next', heq, h⟩ := h
    cases heq
    exact h
  · intro h
    exact ⟨next, rfl, h⟩

theorem Begins.unique {t t₁ t₂ : Prog Q R α} {q : Q} {r : R q} (h₁ : t.Begins q r t₁)
    (h₂ : t.Begins q r t₂) : t₁ = t₂ := by
  obtain ⟨next, rfl, rfl⟩ := h₁
  exact begins_ask.mp h₂

theorem Begins.bind {t t' : Prog Q R α} {q : Q} {r : R q} (h : t.Begins q r t')
    (f : α → Prog Q R β) : (t >>= f).Begins q r (t' >>= f) := by
  obtain ⟨next, rfl, rfl⟩ := h
  exact begins_ask.mpr rfl

/-- Every question the program can ask, whatever it was answered before, satisfies `P`. -/
def Asks (P : Q → Prop) : Prog Q R α → Prop
  | .ret _ => True
  | .ask q next => P q ∧ ∀ r, (next r).Asks P

@[simp] theorem asks_ret {P : Q → Prop} (a : α) : (ret a : Prog Q R α).Asks P ↔ True := Iff.rfl

@[simp] theorem asks_ask {P : Q → Prop} {q : Q} {next : R q → Prog Q R α} :
    (ask q next).Asks P ↔ P q ∧ ∀ r, (next r).Asks P := Iff.rfl

theorem Asks.imp {P P' : Q → Prop} {t : Prog Q R α} (ht : t.Asks P) (h : ∀ q, P q → P' q) :
    t.Asks P' := by
  induction t with
  | ret a => trivial
  | ask q next ih => exact ⟨h q ht.1, fun r => ih r (ht.2 r)⟩

theorem Asks.bind {P : Q → Prop} {t : Prog Q R α} {f : α → Prog Q R β} (ht : t.Asks P)
    (hf : ∀ a, (f a).Asks P) : (t >>= f).Asks P := by
  induction t with
  | ret a => exact hf a
  | ask q next ih => exact ⟨ht.1, fun r => ih r (ht.2 r)⟩

end Prog

end Interaction
