import Mathlib.Logic.Relation
import NetLink.Lib.Kernel

/-!
# Loops of programs, one question at a time

A `Loop` is straight-line code that ends by going round again with new values of the loop
variables (`Sum.inl`) or by leaving with a result (`Sum.inr`). Nothing bounds the number of
rounds, so the semantics is a transition relation: `Loop.Step` answers one pending question or
takes the back edge, and everything else is about its closure.

A configuration keeps the loop variables of the round in progress beside the code that is left
of it, so that what a loop has accumulated can be spoken of while it waits for an answer.

* `Loop.wp` is partial correctness by a loop invariant, and `Loop.wp_reaches` is why it is
  sound: the guarantee holds in every configuration on the way, not only at the end.
* `Loop.Returns` and `Loop.Waits` are the two ways a run can stop. Against a kernel that leaves
  no choice they exclude each other.
-/

namespace Interaction

open Relation

universe u v w x

/-- Code that runs `enter` once and then `body` as often as it asks to go round again. -/
structure Loop (Q : Type u) (R : Q → Type v) (σ ρ : Type w) where
  enter : Prog Q R (σ ⊕ ρ)
  body : σ → Prog Q R (σ ⊕ ρ)

/-- A loop in progress: the variables of the current round (none before the first), and the
    code that is left of it. -/
structure Config (Q : Type u) (R : Q → Type v) (σ ρ : Type w) where
  vars : Option σ
  code : Prog Q R (σ ⊕ ρ)

namespace Loop

variable {Q : Type u} {R : Q → Type v} {σ τ ρ ρ' : Type w} {K : Type x}
  {ker : Kernel Q R K} {L : Loop Q R σ ρ}

/-! ## Building loops -/

def done (o : ρ) : Loop Q R σ ρ := ⟨.ret (.inr o), fun _ => .ret (.inr o)⟩

/-- A program is a loop of no rounds. -/
def ofProg (t : Prog Q R ρ) : Loop Q R σ ρ :=
  ⟨t >>= fun o => .ret (.inr o), fun _ => t >>= fun o => .ret (.inr o)⟩

/-- The same loop with its result passed on through `f`. -/
def map (f : ρ → ρ') (L : Loop Q R σ ρ) : Loop Q R σ ρ' :=
  ⟨L.enter >>= fun x => .ret (x.map id f), fun s => L.body s >>= fun x => .ret (x.map id f)⟩

/-- The same loop in a larger space of variables. -/
def inl (L : Loop Q R σ ρ) : Loop Q R (σ ⊕ τ) ρ :=
  ⟨L.enter >>= fun x => .ret (x.map Sum.inl id),
   Sum.elim (fun s => L.body s >>= fun x => .ret (x.map Sum.inl id))
     fun _ => L.enter >>= fun x => .ret (x.map Sum.inl id)⟩

def inr (L : Loop Q R τ ρ) : Loop Q R (σ ⊕ τ) ρ :=
  ⟨L.enter >>= fun x => .ret (x.map Sum.inr id),
   Sum.elim (fun _ => L.enter >>= fun x => .ret (x.map Sum.inr id))
     fun s => L.body s >>= fun x => .ret (x.map Sum.inr id)⟩

/-! ## Running them -/

def start (L : Loop Q R σ ρ) : Config Q R σ ρ := ⟨none, L.enter⟩

/-- One step: the environment answers, or the loop goes round. -/
inductive Step (ker : Kernel Q R K) (L : Loop Q R σ ρ) :
    K × Config Q R σ ρ → K × Config Q R σ ρ → Prop
  | answer {k k' : K} {v : Option σ} {q : Q} {next : R q → Prog Q R (σ ⊕ ρ)} (r : R q) :
      ker.answers k q r k' → Step ker L (k, ⟨v, .ask q next⟩) (k', ⟨v, next r⟩)
  | again {k : K} {v : Option σ} {s : σ} :
      Step ker L (k, ⟨v, .ret (.inl s)⟩) (k, ⟨some s, L.body s⟩)

abbrev Reaches (ker : Kernel Q R K) (L : Loop Q R σ ρ) :
    K × Config Q R σ ρ → K × Config Q R σ ρ → Prop := ReflTransGen (Step ker L)

/-- From the configuration `c`, some run leaves the loop with `o`. -/
def ReturnsFrom (ker : Kernel Q R K) (L : Loop Q R σ ρ) (c : Config Q R σ ρ) (k : K) (o : ρ)
    (k' : K) : Prop := ∃ v, L.Reaches ker (k, c) (k', ⟨v, .ret (.inr o)⟩)

/-- Some run of the loop from `k` ends with `o` in the state `k'`. -/
def Returns (ker : Kernel Q R K) (L : Loop Q R σ ρ) (k : K) (o : ρ) (k' : K) : Prop :=
  L.ReturnsFrom ker L.start k o k'

/-- Some run of the loop from `k` gets to a question that is never answered. -/
def Waits (ker : Kernel Q R K) (L : Loop Q R σ ρ) (k : K) : Prop :=
  ∃ k' v q next, L.Reaches ker (k, L.start) (k', ⟨v, .ask q next⟩) ∧ ker.Blocks k' q

/-! ## Runs, read off the code -/

theorem returnsFrom_done {k k' : K} {v : Option σ} {o o' : ρ} :
    L.ReturnsFrom ker ⟨v, .ret (.inr o)⟩ k o' k' ↔ o' = o ∧ k' = k := by
  constructor
  · intro h
    obtain ⟨v', h⟩ := h
    rcases h.cases_head with heq | ⟨_, hs, _⟩
    · cases heq; exact ⟨rfl, rfl⟩
    · cases hs
  · rintro ⟨rfl, rfl⟩; exact ⟨v, .refl⟩

theorem returnsFrom_again {k k' : K} {v : Option σ} {s : σ} {o : ρ} :
    L.ReturnsFrom ker ⟨v, .ret (.inl s)⟩ k o k' ↔ L.ReturnsFrom ker ⟨some s, L.body s⟩ k o k' := by
  constructor
  · intro h
    obtain ⟨v', h⟩ := h
    rcases h.cases_head with heq | ⟨_, hs, hrest⟩
    · cases heq
    · cases hs; exact ⟨v', hrest⟩
  · rintro ⟨v', h⟩; exact ⟨v', .head .again h⟩

theorem returnsFrom_ask {k k' : K} {v : Option σ} {q : Q} {next : R q → Prog Q R (σ ⊕ ρ)} {o : ρ} :
    L.ReturnsFrom ker ⟨v, .ask q next⟩ k o k' ↔
      ∃ r k₁, ker.answers k q r k₁ ∧ L.ReturnsFrom ker ⟨v, next r⟩ k₁ o k' := by
  constructor
  · intro h
    obtain ⟨v', h⟩ := h
    rcases h.cases_head with heq | ⟨_, hs, hrest⟩
    · cases heq
    · cases hs with
      | answer r ha => exact ⟨r, _, ha, v', hrest⟩
  · rintro ⟨r, k₁, ha, v', h⟩; exact ⟨v', .head (.answer r ha) h⟩

theorem returnsFrom_serve {serve : K → (q : Q) → Option (R q × K)} {k k₁ k' : K} {v : Option σ}
    {q : Q} {next : R q → Prog Q R (σ ⊕ ρ)} {r : R q} {o : ρ} (h : serve k q = some (r, k₁)) :
    L.ReturnsFrom (.ofServe serve) ⟨v, .ask q next⟩ k o k' ↔
      L.ReturnsFrom (.ofServe serve) ⟨v, next r⟩ k₁ o k' := by
  rw [returnsFrom_ask]
  constructor
  · intro h
    obtain ⟨r', k₂, ha, hret⟩ := h
    obtain ⟨rfl, rfl⟩ := Kernel.ofServe_functional serve ha h
    exact hret
  · intro hret
    exact ⟨r, k₁, h, hret⟩

theorem not_returnsFrom_of_blocks {k k' : K} {v : Option σ} {q : Q}
    {next : R q → Prog Q R (σ ⊕ ρ)} {o : ρ} (h : ker.Blocks k q) :
    ¬ L.ReturnsFrom ker ⟨v, .ask q next⟩ k o k' := by
  rw [returnsFrom_ask]
  intro h
  obtain ⟨r, k₁, ha, _⟩ := h
  exact h r k₁ ha

/-- A preorder that every answer respects is respected by every run. -/
theorem Reaches.rel (rel : K → K → Prop) (hrefl : ∀ k, rel k k)
    (htrans : ∀ {a b c}, rel a b → rel b c → rel a c)
    (hans : ∀ {k q r k'}, ker.answers k q r k' → rel k k') {st st' : K × Config Q R σ ρ}
    (h : L.Reaches ker st st') : rel st.1 st'.1 := by
  induction h with
  | refl => exact hrefl _
  | tail _ hs ih =>
    cases hs with
    | answer r ha => exact htrans ih (hans ha)
    | again => exact ih

theorem Step.congr {ker' : Kernel Q R K} (hans : ker.answers = ker'.answers)
    {st st' : K × Config Q R σ ρ} (h : Step ker L st st') : Step ker' L st st' := by
  cases h with
  | answer r ha => exact .answer r (hans ▸ ha)
  | again => exact .again

theorem Reaches.congr {ker' : Kernel Q R K} (hans : ker.answers = ker'.answers)
    {st st' : K × Config Q R σ ρ} (h : L.Reaches ker st st') : L.Reaches ker' st st' := by
  induction h with
  | refl => exact .refl
  | tail _ hs ih =>
    cases hs with
    | answer r ha => exact ih.tail (.answer r (hans ▸ ha))
    | again => exact ih.tail .again

/-- What is left of a run depends on the loop only through its body. -/
theorem Reaches.body_eq {L' : Loop Q R σ ρ} (hbody : L.body = L'.body)
    {st st' : K × Config Q R σ ρ} (h : L.Reaches ker st st') : L'.Reaches ker st st' := by
  induction h with
  | refl => exact .refl
  | tail _ hs ih =>
    cases hs with
    | answer r ha => exact ih.tail (.answer r ha)
    | again => exact ih.tail (hbody ▸ .again)

theorem returnsFrom_body_eq {L' : Loop Q R σ ρ} (hbody : L.body = L'.body) {c : Config Q R σ ρ}
    {k k' : K} {o : ρ} : L.ReturnsFrom ker c k o k' ↔ L'.ReturnsFrom ker c k o k' := by
  constructor
  · intro h
    obtain ⟨v, h⟩ := h
    exact ⟨v, h.body_eq hbody⟩
  · intro h
    obtain ⟨v, h⟩ := h
    exact ⟨v, h.body_eq hbody.symm⟩

theorem returns_ofProg {t : Prog Q R ρ} {k k' : K} {o : ρ} :
    (ofProg t : Loop Q R σ ρ).Returns ker k o k' ↔ t.Runs ker k o k' := by
  unfold Returns start
  have key : ∀ (t' : Prog Q R ρ) k v, (ofProg t : Loop Q R σ ρ).ReturnsFrom ker
      ⟨v, t' >>= fun o => .ret (.inr o)⟩ k o k' ↔ t'.Runs ker k o k' := by
    intro t'
    induction t' with
    | ret a => intro k v; exact returnsFrom_done
    | ask q next ih =>
      intro k v
      rw [Prog.ask_bind, returnsFrom_ask, Prog.runs_ask]
      exact exists_congr fun r => exists_congr fun k₁ => and_congr_right fun _ => ih r k₁ v
  exact key t k none

/-- A run of a loop whose result is passed on is a run of the loop. -/
theorem Reaches.of_map {f : ρ → ρ'} {st st' : K × Config Q R σ ρ'}
    (h : (L.map f).Reaches ker st st') {t : Prog Q R (σ ⊕ ρ)}
    (ht : st.2.code = t >>= fun x => .ret (x.map id f)) :
    ∃ t', st'.2.code = (t' >>= fun x => .ret (x.map id f)) ∧
      L.Reaches ker (st.1, ⟨st.2.vars, t⟩) (st'.1, ⟨st'.2.vars, t'⟩) := by
  induction h with
  | refl => exact ⟨t, ht, .refl⟩
  | tail _ hs ih =>
    obtain ⟨t₁, ht₁, hr⟩ := ih
    cases hs with
    | answer r ha =>
      cases t₁ with
      | ret x => cases ht₁
      | ask q next =>
        cases ht₁
        exact ⟨next r, rfl, hr.tail (.answer r ha)⟩
    | again =>
      cases t₁ with
      | ask q next => cases ht₁
      | ret x =>
        cases x with
        | inr o => cases ht₁
        | inl s =>
          cases ht₁
          exact ⟨L.body s, rfl, hr.tail .again⟩

/-- And a run of the loop is one of the loop whose result is passed on. -/
theorem Reaches.map (f : ρ → ρ') {st st' : K × Config Q R σ ρ} (h : L.Reaches ker st st') :
    (L.map f).Reaches ker (st.1, ⟨st.2.vars, st.2.code >>= fun x => .ret (x.map id f)⟩)
      (st'.1, ⟨st'.2.vars, st'.2.code >>= fun x => .ret (x.map id f)⟩) := by
  induction h with
  | refl => exact .refl
  | tail _ hs ih =>
    cases hs with
    | answer r ha => exact ih.tail (.answer r ha)
    | again => exact ih.tail .again

theorem returns_map {f : ρ → ρ'} {k k' : K} {o' : ρ'} :
    (L.map f).Returns ker k o' k' ↔ ∃ o, L.Returns ker k o k' ∧ o' = f o := by
  constructor
  · rintro ⟨v, h⟩
    obtain ⟨t, ht, hr⟩ := h.of_map (t := L.enter) rfl
    cases t with
    | ask q next => cases ht
    | ret x =>
      cases x with
      | inl s => cases ht
      | inr o =>
        cases ht
        exact ⟨o, ⟨v, hr⟩, rfl⟩
  · rintro ⟨o, ⟨v, hr⟩, rfl⟩
    exact ⟨v, hr.map f⟩

/-! ## Partial correctness -/

/-- The guarantee a loop gives by an invariant `I`: entering establishes it, every round keeps
    it, and whichever way the loop is left the postcondition `Φ` holds. -/
def wp (ker : Kernel Q R K) (L : Loop Q R σ ρ) (Φ : ρ → K → Prop) (k : K) : Prop :=
  ∃ I : σ → K → Prop, L.enter.wp ker (Sum.elim I Φ) k ∧
    ∀ s k', I s k' → (L.body s).wp ker (Sum.elim I Φ) k'

/-- **The loop rule.** What the invariant guarantees of the code in hand it guarantees of the
    code in hand in every configuration the loop gets to. -/
theorem wp_reaches {I : σ → K → Prop} {Φ : ρ → K → Prop}
    (hbody : ∀ s k, I s k → (L.body s).wp ker (Sum.elim I Φ) k) {st st' : K × Config Q R σ ρ}
    (hr : L.Reaches ker st st') (h : st.2.code.wp ker (Sum.elim I Φ) st.1) :
    st'.2.code.wp ker (Sum.elim I Φ) st'.1 := by
  induction hr with
  | refl => exact h
  | tail _ hs ih =>
    cases hs with
    | answer r ha => exact ih.2 r _ ha
    | again => exact hbody _ _ ih

theorem wp.returns {Φ : ρ → K → Prop} {k k' : K} {o : ρ} (h : L.wp ker Φ k)
    (hr : L.Returns ker k o k') : Φ o k' := by
  obtain ⟨I, henter, hbody⟩ := h
  obtain ⟨v, hr⟩ := hr
  exact wp_reaches hbody hr henter

/-- Every question a loop with a guarantee comes to is an allowed one. -/
theorem wp.allowed {Φ : ρ → K → Prop} {k k' : K} {v : Option σ} {q : Q}
    {next : R q → Prog Q R (σ ⊕ ρ)} (h : L.wp ker Φ k)
    (hr : L.Reaches ker (k, L.start) (k', ⟨v, .ask q next⟩)) : ker.allowed k' q := by
  obtain ⟨I, henter, hbody⟩ := h
  exact (wp_reaches hbody hr henter).1

theorem wp.keeps {I : K → Prop} {Φ : ρ → K → Prop} {k : K} {st : K × Config Q R σ ρ}
    (h : L.wp ker Φ k)
    (hkeep : ∀ {k q r k'}, ker.allowed k q → ker.answers k q r k' → I k → I k')
    (hr : L.Reaches ker (k, L.start) st) (hk : I k) : I st.1 := by
  induction hr with
  | refl => exact hk
  | tail hr hs ih =>
    cases hs with
    | answer r ha => exact hkeep (h.allowed hr) ha ih
    | again => exact ih

theorem wp.mono {Φ Ψ : ρ → K → Prop} {k : K} (h : L.wp ker Φ k) (himp : ∀ o k', Φ o k' → Ψ o k') :
    L.wp ker Ψ k := by
  obtain ⟨I, henter, hbody⟩ := h
  have hleave : ∀ (x : σ ⊕ ρ) k', Sum.elim I Φ x k' → Sum.elim I Ψ x k' := by
    rintro (s | o) k' hx
    · exact hx
    · exact himp o k' hx
  exact ⟨I, henter.mono hleave, fun s k' hs => (hbody s k' hs).mono hleave⟩

theorem wp_leaves {Φ : ρ → K → Prop} {k : K} {o : ρ} (henter : L.enter = .ret (.inr o))
    (h : Φ o k) : L.wp ker Φ k :=
  ⟨fun _ _ => False, henter ▸ h, fun _ _ h' => h'.elim⟩

theorem wp_done {Φ : ρ → K → Prop} {k : K} {o : ρ} (h : Φ o k) :
    (done o : Loop Q R σ ρ).wp ker Φ k := wp_leaves rfl h

theorem wp_ofProg {Φ : ρ → K → Prop} {k : K} {t : Prog Q R ρ} (h : t.wp ker Φ k) :
    (ofProg t : Loop Q R σ ρ).wp ker Φ k :=
  ⟨fun _ _ => False, Prog.wp_bind.mpr h, fun _ _ h' => h'.elim⟩

theorem wp_map {Φ : ρ' → K → Prop} {k : K} {f : ρ → ρ'} (h : L.wp ker (fun o => Φ (f o)) k) :
    (L.map f).wp ker Φ k := by
  obtain ⟨I, henter, hbody⟩ := h
  have hmap : ∀ (x : σ ⊕ ρ) k', Sum.elim I (fun o => Φ (f o)) x k' →
      Sum.elim I Φ (x.map id f) k' := by
    rintro (s | o) k' hx
    · exact hx
    · exact hx
  exact ⟨I, Prog.wp_bind.mpr (henter.mono hmap),
    fun s k' hs => Prog.wp_bind.mpr ((hbody s k' hs).mono hmap)⟩

/-! ## The frame rule -/

/-- Every question the loop can ask satisfies `P`. -/
structure Asks (P : Q → Prop) (L : Loop Q R σ ρ) : Prop where
  enter : L.enter.Asks P
  body : ∀ s, (L.body s).Asks P

theorem asks_done {P : Q → Prop} (o : ρ) : (done o : Loop Q R σ ρ).Asks P :=
  ⟨trivial, fun _ => trivial⟩

theorem Asks.imp {P P' : Q → Prop} (h : L.Asks P) (himp : ∀ q, P q → P' q) : L.Asks P' :=
  ⟨h.enter.imp himp, fun s => (h.body s).imp himp⟩

theorem Asks.map {P : Q → Prop} {f : ρ → ρ'} (h : L.Asks P) : (L.map f).Asks P :=
  ⟨h.enter.bind fun _ => trivial, fun s => (h.body s).bind fun _ => trivial⟩

theorem Asks.inl {P : Q → Prop} (h : L.Asks P) : (L.inl : Loop Q R (σ ⊕ τ) ρ).Asks P :=
  ⟨h.enter.bind fun _ => trivial, fun
    | .inl s => (h.body s).bind fun _ => trivial
    | .inr _ => h.enter.bind fun _ => trivial⟩

theorem Asks.inr {P : Q → Prop} (h : L.Asks P) : (L.inr : Loop Q R (τ ⊕ σ) ρ).Asks P :=
  ⟨h.enter.bind fun _ => trivial, fun
    | .inl _ => h.enter.bind fun _ => trivial
    | .inr s => (h.body s).bind fun _ => trivial⟩

theorem Asks.wp {P : Q → Prop} {I : K → Prop} {k : K} (h : L.Asks P)
    (hallowed : ∀ k q, I k → P q → ker.allowed k q)
    (hkeep : ∀ k q r k', I k → P q → ker.answers k q r k' → I k') (hk : I k) :
    L.wp ker (fun _ => I) k := by
  have hcode (t : Prog Q R (σ ⊕ ρ)) (k : K) (ht : t.Asks P) (hk : I k) :
      t.wp ker (Sum.elim (fun _ => I) fun _ => I) k := by
    apply (ht.wp hallowed hkeep hk).mono
    rintro (s | o) k' h
    · exact h
    · exact h
  exact ⟨fun _ => I, hcode _ k h.enter hk, fun s k' hk' => hcode _ k' (h.body s) hk'⟩

/-! ## Environments that leave no choice -/

theorem Step.unique (hk : ker.Functional) {st st₁ st₂ : K × Config Q R σ ρ}
    (h₁ : Step ker L st st₁) (h₂ : Step ker L st st₂) : st₁ = st₂ := by
  cases h₁ with
  | answer r₁ ha₁ =>
    cases h₂ with
    | answer r₂ ha₂ => obtain ⟨rfl, rfl⟩ := hk ha₁ ha₂; rfl
  | again => cases h₂; rfl

/-- Two runs against such an environment are one run, cut at two places. -/
theorem Reaches.total (hk : ker.Functional) {st st₁ st₂ : K × Config Q R σ ρ}
    (h₁ : L.Reaches ker st st₁) (h₂ : L.Reaches ker st st₂) :
    L.Reaches ker st₁ st₂ ∨ L.Reaches ker st₂ st₁ :=
  ReflTransGen.total_of_right_unique (fun _ _ _ ha hb => Step.unique hk ha hb) h₁ h₂

theorem ReturnsFrom.unique (hk : ker.Functional) {c : Config Q R σ ρ} {k k₁ k₂ : K} {o₁ o₂ : ρ}
    (h₁ : L.ReturnsFrom ker c k o₁ k₁) (h₂ : L.ReturnsFrom ker c k o₂ k₂) : o₁ = o₂ ∧ k₁ = k₂ := by
  obtain ⟨v₁, h₁⟩ := h₁
  obtain ⟨v₂, h₂⟩ := h₂
  rcases Reaches.total hk h₁ h₂ with hr | hr
  · exact (returnsFrom_done.mp ⟨v₂, hr⟩).imp Eq.symm Eq.symm
  · exact returnsFrom_done.mp ⟨v₁, hr⟩

theorem Returns.not_waits (hk : ker.Functional) {k k' : K} {o : ρ}
    (h : L.Returns ker k o k') : ¬ L.Waits ker k := by
  intro h
  obtain ⟨k₁, v₁, q, next, hw, hblocks⟩ := h
  obtain ⟨v, h⟩ := h
  rcases Reaches.total hk h hw with hr | hr
  · rcases hr.cases_head with heq | ⟨_, hs, _⟩
    · cases heq
    · cases hs
  · rcases hr.cases_head with heq | ⟨_, hs, _⟩
    · cases heq
    · cases hs with
      | answer r ha => exact hblocks r _ ha

end Loop

end Interaction
