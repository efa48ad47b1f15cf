import NetLink.Lib.Loop

/-!
# Environments that know more

One environment may say more than another: it has more state, of which `f` forgets a part, and
answers less. `Kernel.Refines` is that relation. Whatever a program guarantees against the coarser
environment it guarantees against the finer one, and every run there is a run of the coarser. So
what was proved about a program once need not be proved again when more is to be said about its
environment.

`Kernel.above` makes a finer environment: more state, and a rule about it.
-/

namespace Interaction

universe u v w x y

variable {Q : Type u} {R : Q → Type v} {σ ρ α : Type w} {K : Type x} {K' : Type y}

namespace Kernel

/-- What `ker'` answers `ker` answers too, as far as `f` lets it be seen, and it allows what `ker`
    does. -/
structure Refines (ker' : Kernel Q R K') (f : K' → K) (ker : Kernel Q R K) : Prop where
  allowed : ∀ {k q}, ker.allowed (f k) q → ker'.allowed k q
  answers : ∀ {k q r k'}, ker'.answers k q r k' → ker.answers (f k) q r (f k')

/-- The environment `ker` with more state and the rule `rule` about it. -/
def above (ker : Kernel Q R K) (f : K' → K) (rule : K' → (q : Q) → R q → K' → Prop) :
    Kernel Q R K' where
  allowed k q := ker.allowed (f k) q
  answers k q r k' := ker.answers (f k) q r (f k') ∧ rule k q r k'

theorem above_refines (ker : Kernel Q R K) (f : K' → K)
    (rule : K' → (q : Q) → R q → K' → Prop) : (ker.above f rule).Refines f ker where
  allowed h := h
  answers h := h.1

end Kernel

variable {ker : Kernel Q R K} {ker' : Kernel Q R K'} {f : K' → K}

namespace Prog

theorem wp.refined {t : Prog Q R α} {Φ : α → K → Prop} {k : K'} (h : t.wp ker Φ (f k))
    (href : ker'.Refines f ker) : t.wp ker' (fun a k' => Φ a (f k')) k := by
  induction t generalizing k with
  | ret a => exact h
  | ask q next ih => exact ⟨href.allowed h.1, fun r k' ha => ih r (h.2 r (f k') (href.answers ha))⟩

theorem Runs.below {t : Prog Q R α} {k k' : K'} {a : α} (h : t.Runs ker' k a k')
    (href : ker'.Refines f ker) : t.Runs ker (f k) a (f k') := by
  induction t generalizing k with
  | ret a =>
    obtain ⟨rfl, rfl⟩ := h
    exact ⟨rfl, rfl⟩
  | ask q next ih =>
    obtain ⟨r, k₁, ha, h⟩ := h
    exact ⟨r, f k₁, href.answers ha, ih r h⟩

end Prog

namespace Loop

variable {L : Loop Q R σ ρ}

theorem Reaches.below {st st' : K' × Config Q R σ ρ} (h : L.Reaches ker' st st')
    (href : ker'.Refines f ker) : L.Reaches ker (f st.1, st.2) (f st'.1, st'.2) := by
  induction h with
  | refl => exact .refl
  | tail _ hstep ih =>
    cases hstep with
    | answer r ha => exact ih.tail (.answer r (href.answers ha))
    | again => exact ih.tail .again

theorem Returns.below {k k' : K'} {o : ρ} (h : L.Returns ker' k o k') (href : ker'.Refines f ker) :
    L.Returns ker (f k) o (f k') := by
  obtain ⟨v, h⟩ := h
  exact ⟨v, h.below href⟩

end Loop

end Interaction
