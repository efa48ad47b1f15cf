import NetLink.Lib.Loop

/-!
# Loops that end

`Loop.Ends` says that no run goes on for ever: not that a loop comes to a result, for it may wait
at a question, but that it cannot go round without end. The rule is the usual one. A *variant*
is a value in a well-founded order, computed from the loop variables and the state of the
environment, that every round which goes on makes smaller.
-/

namespace Interaction

universe u v w x y

namespace Loop

variable {Q : Type u} {R : Q → Type v} {σ ρ : Type w} {K : Type x} {ker : Kernel Q R K}
  {L : Loop Q R σ ρ}

/-- Every run from here is finite. -/
def Ends (ker : Kernel Q R K) (L : Loop Q R σ ρ) (st : K × Config Q R σ ρ) : Prop :=
  Acc (fun st' st => Step ker L st st') st

/-- Ending depends on the answers alone, not on what is allowed. -/
theorem Ends.congr {ker' : Kernel Q R K} (hans : ker.answers = ker'.answers)
    {st : K × Config Q R σ ρ} (h : L.Ends ker st) : L.Ends ker' st := by
  induction h with
  | intro st _ ih =>
    constructor
    intro st' hstep
    exact ih st' (hstep.congr hans.symm)

/-- Code ends when whatever it goes round with does. -/
theorem ends_of_code {t : Prog Q R (σ ⊕ ρ)} {v : Option σ} {k : K}
    (h : t.wp ker (Sum.elim (fun s k' => L.Ends ker (k', ⟨some s, L.body s⟩)) fun _ _ => True) k) :
    L.Ends ker (k, ⟨v, t⟩) := by
  induction t generalizing k with
  | ret x =>
    constructor
    intro st' hstep
    cases hstep with
    | again => exact h
  | ask q next ih =>
    constructor
    intro st' hstep
    cases hstep with
    | answer r ha => exact ih r (h.2 r _ ha)

/-- **The variant rule.** -/
theorem ends_of_variant {ω : Type y} {lt : ω → ω → Prop} (hwf : WellFounded lt)
    (variant : σ → K → ω) {I : σ → K → Prop}
    (hbody : ∀ s k, I s k → (L.body s).wp ker
      (Sum.elim (fun s' k' => I s' k' ∧ lt (variant s' k') (variant s k)) fun _ _ => True) k)
    {k : K} (henter : L.enter.wp ker (Sum.elim I fun _ _ => True) k) :
    L.Ends ker (k, L.start) := by
  have hround (z : ω) : ∀ s k, I s k → variant s k = z → L.Ends ker (k, ⟨some s, L.body s⟩) := by
    induction z using hwf.induction with
    | _ z ih =>
      intro s k hs hz
      apply ends_of_code
      apply (hbody s k hs).mono
      intro x k' hx
      cases x with
      | inl s' => exact ih _ (hz ▸ hx.2) s' k' hx.1 rfl
      | inr o => trivial
  apply ends_of_code
  apply henter.mono
  intro x k' hx
  cases x with
  | inl s => exact hround _ s k' hx rfl
  | inr o => trivial

end Loop

end Interaction
