import NetLink.Lib.Loop

/-!
# Loops that ask one question in every round

Many loops ask one question in a round and decide from the answer alone whether to go round
again. Against an environment that would answer that question with `answer 0`, `answer 1`, …,
such a loop is a fold over the answers that may stop, and `Polls` is that fold.

`returnsFrom_iff_polls` reduces the one to the other, so that what such a loop does to a
sequence of answers is proved by induction over the sequence.
-/

namespace Interaction

universe u v w x

/-- Folding `round` over the answers from the `i`-th on stops with `o`, and the answers before
    the `j`-th have then been used. -/
inductive Polls {X : Type v} {σ ρ : Type w} (round : σ → X → σ ⊕ ρ) (answer : Nat → X) :
    Nat → σ → ρ → Nat → Prop
  | leave {i : Nat} {s : σ} {o : ρ} : round s (answer i) = .inr o →
      Polls round answer i s o (i + 1)
  | again {i j : Nat} {s s' : σ} {o : ρ} : round s (answer i) = .inl s' →
      Polls round answer (i + 1) s' o j → Polls round answer i s o j

/-- Where the answer alone decides whether a round is the last, the fold stops exactly when
    some answer decides so. -/
theorem exists_polls_iff {X : Type v} {σ ρ : Type w} {round : σ → X → σ ⊕ ρ} {answer : Nat → X}
    {stop : X → Prop} (hstop : ∀ s x, (∃ o, round s x = .inr o) ↔ stop x) {i : Nat} {s : σ} :
    (∃ o j, Polls round answer i s o j) ↔ ∃ j, i ≤ j ∧ stop (answer j) := by
  constructor
  · intro h
    obtain ⟨o, j, h⟩ := h
    induction h with
    | leave hx => exact ⟨_, Nat.le_refl _, (hstop _ _).mp ⟨_, hx⟩⟩
    | again _ _ ih =>
      obtain ⟨j, hj, hs⟩ := ih
      exact ⟨j, Nat.le_of_succ_le hj, hs⟩
  · intro h
    obtain ⟨j, hj, hs⟩ := h
    obtain ⟨m, rfl⟩ := Nat.exists_eq_add_of_le hj
    induction m generalizing i s with
    | zero =>
      obtain ⟨o, ho⟩ := (hstop s _).mpr hs
      exact ⟨o, i + 1, .leave ho⟩
    | succ m ih =>
      cases hx : round s (answer i) with
      | inr o => exact ⟨o, i + 1, .leave hx⟩
      | inl s' =>
        rw [← Nat.succ_add_eq_add_succ] at hs
        obtain ⟨o, j, h⟩ := ih (s := s') (Nat.le_add_right _ _) hs
        exact ⟨o, j, .again hx h⟩

namespace Loop

variable {Q : Type u} {R : Q → Type v} {σ ρ : Type w} {K : Type x} {L : Loop Q R σ ρ}
  {serve : K → (q : Q) → Option (R q × K)} {q : Q} {round : σ → R q → σ ⊕ ρ}
  {answer : Nat → R q}

/-- **A polling loop is a fold.** `state i` is the environment before the `i`-th answer. -/
theorem returnsFrom_iff_polls (state : Nat → K)
    (hbody : ∀ s, L.body s = .ask q fun r => .ret (round s r))
    (hserve : ∀ i, serve (state i) q = some (answer i, state (i + 1))) {i : Nat}
    {v : Option σ} {s : σ} {o : ρ} {k' : K} :
    L.ReturnsFrom (.ofServe serve) ⟨v, L.body s⟩ (state i) o k' ↔
      ∃ j, k' = state j ∧ Polls round answer i s o j := by
  constructor
  · intro h
    obtain ⟨v', hrun⟩ := h
    -- The rounds still to come turn into the answers still to come.
    let I : σ → K → Prop := fun s' k => ∃ i', k = state i' ∧
      ∀ o j, Polls round answer i' s' o j → Polls round answer i s o j
    let Φ : ρ → K → Prop := fun o k => ∃ j, k = state j ∧ Polls round answer i s o j
    have hround : ∀ s' k, I s' k → (L.body s').wp (.ofServe serve) (Sum.elim I Φ) k := by
      intro s' _ h
      obtain ⟨i', rfl, hcont⟩ := h
      rw [hbody]
      refine ⟨trivial, ?_⟩
      intro r k₁ ha
      obtain ⟨rfl, rfl⟩ := Kernel.ofServe_functional serve ha (hserve i')
      rw [Prog.wp_ret]
      cases hx : round s' (answer i') with
      | inl s'' => exact ⟨i' + 1, rfl, fun o j h => hcont o j (.again hx h)⟩
      | inr o' => exact ⟨i' + 1, rfl, hcont o' _ (.leave hx)⟩
    exact wp_reaches hround hrun (hround s _ ⟨i, rfl, fun _ _ h => h⟩)
  · intro h
    obtain ⟨j, rfl, h⟩ := h
    induction h generalizing v with
    | leave hx =>
      rw [hbody, returnsFrom_serve (hserve _), hx, returnsFrom_done]
      exact ⟨rfl, rfl⟩
    | again hx _ ih =>
      rw [hbody, returnsFrom_serve (hserve _), hx, returnsFrom_again]
      exact ih

/-- Such a loop can end exactly when the fold does. -/
theorem exists_returnsFrom_iff_polls (state : Nat → K)
    (hbody : ∀ s, L.body s = .ask q fun r => .ret (round s r))
    (hserve : ∀ i, serve (state i) q = some (answer i, state (i + 1))) {i : Nat}
    {v : Option σ} {s : σ} :
    (∃ o k', L.ReturnsFrom (.ofServe serve) ⟨v, L.body s⟩ (state i) o k') ↔
      ∃ o j, Polls round answer i s o j := by
  constructor
  · intro h
    obtain ⟨o, k', h⟩ := h
    obtain ⟨j, -, h⟩ := (returnsFrom_iff_polls state hbody hserve).mp h
    exact ⟨o, j, h⟩
  · intro h
    obtain ⟨o, j, h⟩ := h
    exact ⟨o, state j, (returnsFrom_iff_polls state hbody hserve).mpr ⟨j, rfl, h⟩⟩

end Loop

end Interaction
