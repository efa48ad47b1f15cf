import NetLink.Lib.Prog

/-!
# Environments, and what a program guarantees against one

A `Kernel` says two things about an environment with state `K`: which questions a program may
put to it (`allowed`), and which answers it may give and with what effect (`answers`). It is a
relation, so one kernel covers every behaviour of the environment at once, failures included;
a question with no answer in some state is one the program waits at.

* `Prog.wp` is the demonic reading: whatever the kernel answers, every question asked is an
  allowed one and a finished run satisfies the postcondition.
* `Prog.Runs` is the angelic one: this run is possible.

`Prog.wp.runs` connects them. A kernel that leaves no choice is given by a function
(`Kernel.ofServe`).
-/

namespace Interaction

universe u v w x

/-- An environment for programs over `Q` and `R`. -/
structure Kernel (Q : Type u) (R : Q → Type v) (K : Type x) where
  /-- The questions a program may ask in this state. -/
  allowed : K → Q → Prop
  /-- The answers the environment may give, and the state it is left in. -/
  answers : K → (q : Q) → R q → K → Prop

abbrev Event (Q : Type u) (R : Q → Type v) := (q : Q) × R q

namespace Kernel

variable {Q : Type u} {R : Q → Type v} {K : Type x}

/-- The environment that answers by a function, and lets the program wait where the function
    has no answer. It forbids nothing. -/
def ofServe (serve : K → (q : Q) → Option (R q × K)) : Kernel Q R K where
  allowed _ _ := True
  answers k q r k' := serve k q = some (r, k')

/-- At most one answer, and one effect, in every state. -/
def Functional (ker : Kernel Q R K) : Prop :=
  ∀ {k q r₁ r₂ k₁ k₂}, ker.answers k q r₁ k₁ → ker.answers k q r₂ k₂ → r₁ = r₂ ∧ k₁ = k₂

/-- The program waits: nothing answers `q` in this state. -/
def Blocks (ker : Kernel Q R K) (k : K) (q : Q) : Prop := ∀ r k', ¬ ker.answers k q r k'

theorem ofServe_functional (serve : K → (q : Q) → Option (R q × K)) :
    (ofServe serve).Functional := by
  intro k q r₁ r₂ k₁ k₂ h₁ h₂
  have h : (r₁, k₁) = (r₂, k₂) := Option.some.inj (h₁.symm.trans h₂)
  exact ⟨congrArg Prod.fst h, congrArg Prod.snd h⟩

theorem ofServe_blocks {serve : K → (q : Q) → Option (R q × K)} {k : K} {q : Q}
    (h : serve k q = none) : (ofServe serve).Blocks k q := by
  intro r k' ha
  cases h.symm.trans ha

end Kernel

namespace Prog

variable {Q : Type u} {R : Q → Type v} {K : Type x} {α β : Type w} {ker : Kernel Q R K}

/-! ## Guarantees -/

/-- **Weakest precondition.** Whatever `ker` answers, `t` asks only what is allowed and, when
    it finishes, does so with a value and in a state that satisfy `Φ`. -/
def wp (ker : Kernel Q R K) : Prog Q R α → (α → K → Prop) → K → Prop
  | .ret a, Φ, k => Φ a k
  | .ask q next, Φ, k => ker.allowed k q ∧ ∀ r k', ker.answers k q r k' → (next r).wp ker Φ k'

@[simp] theorem wp_ret {a : α} {Φ : α → K → Prop} {k : K} :
    (ret a : Prog Q R α).wp ker Φ k ↔ Φ a k := Iff.rfl

theorem wp_ask {q : Q} {next : R q → Prog Q R α} {Φ : α → K → Prop} {k : K} :
    (ask q next).wp ker Φ k ↔
      ker.allowed k q ∧ ∀ r k', ker.answers k q r k' → (next r).wp ker Φ k' := Iff.rfl

theorem wp.mono {t : Prog Q R α} {Φ Ψ : α → K → Prop} {k : K} (h : t.wp ker Φ k)
    (himp : ∀ a k', Φ a k' → Ψ a k') : t.wp ker Ψ k := by
  induction t generalizing k with
  | ret a => exact himp a k h
  | ask q next ih => exact ⟨h.1, fun r k' ha => ih r (h.2 r k' ha)⟩

theorem wp_bind {t : Prog Q R α} {f : α → Prog Q R β} {Φ : β → K → Prop} {k : K} :
    (t >>= f).wp ker Φ k ↔ t.wp ker (fun a k' => (f a).wp ker Φ k') k := by
  induction t generalizing k with
  | ret a => exact Iff.rfl
  | ask q next ih =>
    simp only [ask_bind, wp_ask]
    exact and_congr_right fun _ => forall_congr' fun r => forall_congr' fun k' =>
      imp_congr_right fun _ => ih r

/-- **Frame rule.** Where every question of a class is allowed and answered within `I`, a
    program that asks nothing else stays within `I`. -/
theorem Asks.wp {P : Q → Prop} {I : K → Prop} {t : Prog Q R α} {k : K} (ht : t.Asks P)
    (hallowed : ∀ k q, I k → P q → ker.allowed k q)
    (hkeep : ∀ k q r k', I k → P q → ker.answers k q r k' → I k') (hk : I k) :
    t.wp ker (fun _ => I) k := by
  induction t generalizing k with
  | ret a => exact hk
  | ask q next ih =>
    exact ⟨hallowed k q hk ht.1, fun r k' ha => ih r (ht.2 r) (hkeep k q r k' hk ht.1 ha)⟩

/-! ## Possible runs -/

/-- Some answers of `ker` take `t` from `k` to the value `a` and the state `k'`. -/
def Runs (ker : Kernel Q R K) : Prog Q R α → K → α → K → Prop
  | .ret a, k, a', k' => a' = a ∧ k' = k
  | .ask q next, k, a', k' => ∃ r k₁, ker.answers k q r k₁ ∧ (next r).Runs ker k₁ a' k'

@[simp] theorem runs_ret {a a' : α} {k k' : K} :
    (ret a : Prog Q R α).Runs ker k a' k' ↔ a' = a ∧ k' = k := Iff.rfl

theorem runs_ask {q : Q} {next : R q → Prog Q R α} {k k' : K} {a : α} :
    (ask q next).Runs ker k a k' ↔
      ∃ r k₁, ker.answers k q r k₁ ∧ (next r).Runs ker k₁ a k' := Iff.rfl

/-- Against an environment that leaves no choice there is at most one run. -/
theorem Runs.unique (hk : ker.Functional) {t : Prog Q R α} {k k₁ k₂ : K} {a₁ a₂ : α}
    (h₁ : t.Runs ker k a₁ k₁) (h₂ : t.Runs ker k a₂ k₂) : a₁ = a₂ ∧ k₁ = k₂ := by
  induction t generalizing k with
  | ret a =>
    obtain ⟨rfl, rfl⟩ := h₁
    obtain ⟨rfl, rfl⟩ := h₂
    exact ⟨rfl, rfl⟩
  | ask q next ih =>
    obtain ⟨r₁, k₁', ha₁, h₁⟩ := h₁
    obtain ⟨r₂, k₂', ha₂, h₂⟩ := h₂
    obtain ⟨rfl, rfl⟩ := hk ha₁ ha₂
    exact ih r₁ h₁ h₂

theorem runs_bind {t : Prog Q R α} {f : α → Prog Q R β} {k k' : K} {b : β} :
    (t >>= f).Runs ker k b k' ↔ ∃ a k₁, t.Runs ker k a k₁ ∧ (f a).Runs ker k₁ b k' := by
  induction t generalizing k with
  | ret a =>
    constructor
    · intro h; exact ⟨a, k, ⟨rfl, rfl⟩, h⟩
    · intro h
      obtain ⟨_, _, ⟨rfl, rfl⟩, h⟩ := h
      exact h
  | ask q next ih =>
    constructor
    · intro h
      obtain ⟨r, k₁, ha, h⟩ := h
      obtain ⟨a, k₂, ht, hf⟩ := (ih r).mp h
      exact ⟨a, k₂, ⟨r, k₁, ha, ht⟩, hf⟩
    · intro h
      obtain ⟨a, k₂, ⟨r, k₁, ha, ht⟩, hf⟩ := h
      exact ⟨r, k₁, ha, (ih r).mpr ⟨a, k₂, ht, hf⟩⟩

/-- What is possible depends on the answers alone, not on what is allowed. -/
theorem Runs.congr {ker' : Kernel Q R K} (hans : ker.answers = ker'.answers) {t : Prog Q R α}
    {k k' : K} {a : α} (h : t.Runs ker k a k') : t.Runs ker' k a k' := by
  induction t generalizing k with
  | ret _ => exact h
  | ask q next ih =>
    obtain ⟨r, k₁, ha, h⟩ := h
    exact ⟨r, k₁, hans ▸ ha, ih r h⟩

/-- A guarantee holds of every possible run. -/
theorem wp.runs {t : Prog Q R α} {Φ : α → K → Prop} {k k' : K} {a : α}
    (h : t.wp ker Φ k) (hr : t.Runs ker k a k') : Φ a k' := by
  induction t generalizing k with
  | ret a' => obtain ⟨rfl, rfl⟩ := hr; exact h
  | ask q next ih =>
    obtain ⟨r, k₁, ha, hr⟩ := hr
    exact ih r (h.2 r k₁ ha) hr

theorem wp.exists_runs {Φ : α → K → Prop} {t : Prog Q R α} {k : K} (h : t.wp ker Φ k)
    (hans : ∀ {k q}, ker.allowed k q → ∃ r k', ker.answers k q r k') :
    ∃ a k', t.Runs ker k a k' := by
  induction t generalizing k with
  | ret a => exact ⟨a, k, rfl, rfl⟩
  | ask q next ih =>
    obtain ⟨r, k₁, ha⟩ := hans h.1
    obtain ⟨a, k', hr⟩ := ih r (h.2 r k₁ ha)
    exact ⟨a, k', r, k₁, ha, hr⟩

theorem wp.keeps {t : Prog Q R α} {I : K → Prop} {Φ : α → K → Prop} {k k' : K} {a : α} (h : t.wp ker Φ k)
    (hkeep : ∀ {k q r k'}, ker.allowed k q → ker.answers k q r k' → I k → I k')
    (hr : t.Runs ker k a k') (hk : I k) : I k' := by
  induction t generalizing k with
  | ret _ => obtain ⟨-, rfl⟩ := hr; exact hk
  | ask q next ih =>
    obtain ⟨r, k₁, ha, hr⟩ := hr
    exact ih r (h.2 r k₁ ha) hr (hkeep h.1 ha hk)

/-- What every answer keeps to, a run keeps to. -/
theorem Runs.rel (rel : K → K → Prop) (hrefl : ∀ k, rel k k)
    (htrans : ∀ {a b c}, rel a b → rel b c → rel a c)
    (hans : ∀ {k q r k'}, ker.answers k q r k' → rel k k') {t : Prog Q R α} {k k' : K} {a : α}
    (h : t.Runs ker k a k') : rel k k' := by
  induction t generalizing k with
  | ret _ =>
    obtain ⟨-, rfl⟩ := h
    exact hrefl _
  | ask q next ih =>
    obtain ⟨r, k₁, ha, h⟩ := h
    exact htrans (hans ha) (ih r h)

end Prog

end Interaction
