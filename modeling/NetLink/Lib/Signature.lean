import NetLink.Lib.Kernel

/-!
# Programs over two kinds of questions

Code that asks questions of its own may run, in places, a program written for fewer of them.
`Prog.inl` and `Prog.inr` carry such a program over to the sum of the two signatures. Two
environments that do not know of each other make one for the sum (`Kernel.both`), and what a
carried program guarantees against the two is what it guarantees against its own.
-/

namespace Interaction

universe u u' v w x y

/-- What the questions of two signatures are answered. -/
abbrev SumRet {Q : Type u} {Q' : Type u'} (R : Q → Type v) (S : Q' → Type v) : Q ⊕ Q' → Type v :=
  Sum.elim R S

variable {Q : Type u} {Q' : Type u'} {R : Q → Type v} {S : Q' → Type v} {α : Type w}
  {K : Type x} {K' : Type y}

/-- Two environments side by side. -/
def Kernel.both (ker : Kernel Q R K) (ker' : Kernel Q' S K') :
    Kernel (Q ⊕ Q') (SumRet R S) (K × K') where
  allowed k
    | .inl q => ker.allowed k.1 q
    | .inr q => ker'.allowed k.2 q
  answers k
    | .inl q, r, k' => ker.answers k.1 q r k'.1 ∧ k'.2 = k.2
    | .inr q, r, k' => ker'.answers k.2 q r k'.2 ∧ k'.1 = k.1

theorem Kernel.both_congr (ker : Kernel Q R K) {ker' ker'' : Kernel Q' S K'}
    (h : ker'.answers = ker''.answers) : (ker.both ker').answers = (ker.both ker'').answers := by
  funext k q
  cases q with
  | inl q => rfl
  | inr q =>
    show (fun (r : S q) (k' : K × K') => ker'.answers k.2 q r k'.2 ∧ k'.1 = k.1) = _
    rw [h]
    rfl

namespace Prog

/-- The same program over more questions. -/
def inl : Prog Q R α → Prog (Q ⊕ Q') (SumRet R S) α
  | .ret a => .ret a
  | .ask q next => .ask (.inl q) fun r => (next r).inl

def inr : Prog Q' S α → Prog (Q ⊕ Q') (SumRet R S) α
  | .ret a => .ret a
  | .ask q next => .ask (.inr q) fun r => (next r).inr

@[simp] theorem inl_ret (a : α) : (ret a : Prog Q R α).inl (S := S) = .ret a := rfl

@[simp] theorem inl_ask (q : Q) (next : R q → Prog Q R α) :
    (ask q next).inl (S := S) = .ask (.inl q) fun r => (next r).inl := rfl

variable {ker : Kernel Q R K} {ker' : Kernel Q' S K'}

theorem wp_inl {t : Prog Q R α} {Φ : α → K × K' → Prop} {k : K} {k' : K'}
    (h : t.wp ker (fun a k₁ => Φ a (k₁, k')) k) : t.inl.wp (ker.both ker') Φ (k, k') := by
  induction t generalizing k with
  | ret a => exact h
  | ask q next ih =>
    refine ⟨h.1, ?_⟩
    rintro r ⟨k₁, _⟩ ⟨ha, rfl⟩
    exact ih r (h.2 r k₁ ha)

theorem wp_inr {t : Prog Q' S α} {Φ : α → K × K' → Prop} {k : K} {k' : K'}
    (h : t.wp ker' (fun a k₁' => Φ a (k, k₁')) k') : t.inr.wp (ker.both ker') Φ (k, k') := by
  induction t generalizing k' with
  | ret a => exact h
  | ask q next ih =>
    refine ⟨h.1, ?_⟩
    rintro r ⟨_, k₁'⟩ ⟨ha, rfl⟩
    exact ih r (h.2 r k₁' ha)

end Prog

end Interaction
