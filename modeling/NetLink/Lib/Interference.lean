import NetLink.Lib.Loop

/-!
# Environments in which others act too

Between two steps of a program other programs may take steps of their own on the same state.
`Kernel.amid` puts them into the environment: before it answers, the others may have made any
number of moves. A guarantee given against that environment is one that no move of the others can
spoil (`Loop.Guaranteed.moved`), and it passes from step to step of the program itself
(`Loop.Guaranteed.step`). So a system of programs keeps the guarantees of each of them, in any
interleaving, as long as the steps of each are moves that the others reckon with.
-/

namespace Interaction

open Relation

universe u v w x

variable {Q : Type u} {R : Q → Type v} {σ ρ α : Type w} {K : Type x} {ker : Kernel Q R K}
  {move : K → K → Prop}

/-- The environment `ker`, amid others who make the moves `move`. -/
def Kernel.amid (ker : Kernel Q R K) (move : K → K → Prop) : Kernel Q R K where
  allowed k q := ∀ k₁, ReflTransGen move k k₁ → ker.allowed k₁ q
  answers k q r k' := ∃ k₁, ReflTransGen move k k₁ ∧ ker.answers k₁ q r k'

/-- Guarantees against such an environment survive the moves of the others. -/
theorem Prog.wp.moved {Φ : α → K → Prop} (hΦ : ∀ a k k', Φ a k → move k k' → Φ a k')
    {t : Prog Q R α} {k k' : K} (h : t.wp (ker.amid move) Φ k) (hmove : move k k') :
    t.wp (ker.amid move) Φ k' := by
  cases t with
  | ret a => exact hΦ a k k' h hmove
  | ask q next =>
    refine ⟨fun k₁ hk₁ => h.1 k₁ (.head hmove hk₁), ?_⟩
    intro r k'' ha
    obtain ⟨k₁, hk₁, ha⟩ := ha
    exact h.2 r k'' ⟨k₁, .head hmove hk₁, ha⟩

namespace Loop

/-- What a loop with the invariant `I` guarantees in the configuration `st`, amid others. -/
structure Guaranteed (ker : Kernel Q R K) (move : K → K → Prop) (L : Loop Q R σ ρ)
    (I : σ → K → Prop) (Φ : ρ → K → Prop) (st : K × Config Q R σ ρ) : Prop where
  code : st.2.code.wp (ker.amid move) (Sum.elim I Φ) st.1
  body : ∀ s k, I s k → (L.body s).wp (ker.amid move) (Sum.elim I Φ) k

namespace Guaranteed

variable {L : Loop Q R σ ρ} {I : σ → K → Prop} {Φ : ρ → K → Prop} {st st' : K × Config Q R σ ρ}

theorem moved (hI : ∀ s k k', I s k → move k k' → I s k')
    (hΦ : ∀ o k k', Φ o k → move k k' → Φ o k') (h : Guaranteed ker move L I Φ st) {k' : K}
    (hmove : move st.1 k') : Guaranteed ker move L I Φ (k', st.2) where
  code := by
    refine h.code.moved ?_ hmove
    intro x k k' hx hmove
    cases x with
    | inl s => exact hI s k k' hx hmove
    | inr o => exact hΦ o k k' hx hmove
  body := h.body

theorem step (h : Guaranteed ker move L I Φ st) (hstep : Step ker L st st') :
    Guaranteed ker move L I Φ st' where
  code := by
    cases hstep with
    | answer r ha => exact h.code.2 r _ ⟨_, .refl, ha⟩
    | again => exact h.body _ _ h.code
  body := h.body

/-- A question that is put is an allowed one. -/
theorem allowed {k : K} {v : Option σ} {q : Q} {next : R q → Prog Q R (σ ⊕ ρ)}
    (h : Guaranteed ker move L I Φ (k, ⟨v, .ask q next⟩)) : ker.allowed k q := h.code.1 k .refl

theorem result {k : K} {v : Option σ} {o : ρ}
    (h : Guaranteed ker move L I Φ (k, ⟨v, .ret (.inr o)⟩)) : Φ o k := h.code

end Guaranteed

end Loop

end Interaction
