import NetLink.Model.Exports
import NetLink.Proof.Lifecycle

/-!
# What objects show over time

The getters read copies, and two of the copies can change. `shown_changes` says why: whatever is
done in a run, to this object or to others, a getter that shows something else at its end is
`isBlocking`, and the object was assigned the value it now shows; or it is `isDestroyed`, and the
object was disconnected. A destroyed object still shows everything else.
-/

namespace NetLink

open Interaction NetLinkWrapper

/-- The class `init` exports for these objects. -/
def SocketClass.template : SocketClass → ClassTemplate
  | clientTCP => .tcpClient
  | serverTCP => .tcpServer
  | udp => .udp

/-- The name a method is called by, when it is called by name. -/
def Method.name? : Method → Option MethodName
  | accept => some .accept
  | receive => some .receive
  | send .. => some .send
  | receiveFrom => some .receiveFrom
  | sendTo .. => some .sendTo
  | disconnect => some .disconnect
  | setIsBlocking _ | finalise => none

/-- Objects of this class have this method. -/
def SocketClass.Offers (cls : SocketClass) (m : Method) : Prop :=
  ∀ name ∈ m.name?, name ∈ cls.template.methods

/-- A call changes what a getter of its own object shows only by assigning the mode or by
    disconnecting. -/
theorem Effect.shown {w w' : NetLinkWrapper} {k k' : Os} {m : Method} {out : Outcome}
    (h : Effect w k m out k') (hw' : out.wrapper = some w') {a : Accessor}
    (hne : a.get w' ≠ a.get w) :
    (a = .isBlocking ∧ m = .setIsBlocking (.boolean w'.isBlocking)) ∨
      (a = .isDestroyed ∧ m = .disconnect ∧ w'.isDestroyed = true) := by
  cases h with
  | unchanged =>
    cases hw'
    exact absurd rfl hne
  | accepted =>
    cases hw'
    exact absurd rfl hne
  | stranded =>
    cases hw'
    exact absurd rfl hne
  | modeSet hs =>
    cases hw'
    cases a with
    | isBlocking => exact .inl ⟨rfl, rfl⟩
    | isDestroyed => exact absurd (by simp [Accessor.get, isDestroyed, hs]) hne
    | _ => exact absurd rfl hne
  | modeFailed hs =>
    cases hw'
    cases a with
    | isDestroyed => exact absurd (by simp [Accessor.get, isDestroyed, hs]) hne
    | _ => exact absurd rfl hne
  | disconnected =>
    cases hw'
    cases a with
    | isDestroyed => exact .inr ⟨rfl, rfl, rfl⟩
    | _ => exact absurd rfl hne
  | finalised => cases hw'
  | collected => cases hw'

namespace Process

variable {abi : Abi} {p p' : Process} {i : Nat} {w w' : NetLinkWrapper}

/-- A run, with what was done in it. -/
inductive Trace (abi : Abi) (p : Process) : List Action → Process → Prop
  | nil : Trace abi p [] p
  | snoc {done : List Action} {p₁ p₂ : Process} {a : Action} :
      Trace abi p done p₁ → Step abi p₁ a p₂ → Trace abi p (done ++ [a]) p₂

theorem Trace.steps {done : List Action} (h : Trace abi p done p') : Steps abi p p' := by
  induction h with
  | nil => exact .refl
  | snoc _ hstep ih => exact ih.tail ⟨_, hstep⟩

theorem Step.length_le {a : Action} (h : Step abi p a p') :
    p.wrappers.length ≤ p'.wrappers.length := by
  cases h with
  | construct => exact List.length_append ▸ Nat.le_add_right ..
  | call => simp

theorem Trace.length_le {done : List Action} (h : Trace abi p done p') :
    p.wrappers.length ≤ p'.wrappers.length := by
  induction h with
  | nil => exact Nat.le_refl _
  | snoc _ hstep ih => exact ih.trans hstep.length_le

/-- What is there after a step was there before it, or is what the call left of it. -/
theorem Step.back {a : Action} (h : Step abi p a p') (hlen : i < p.wrappers.length)
    (hi : p'.At i w') :
    p.At i w' ∨ ∃ w m out, a = .call i m ∧ p.At i w ∧ out.wrapper = some w' ∧
      (m.run abi w).Returns Os.plain p.os out p'.os := by
  cases h with
  | construct =>
    rw [At, List.getElem?_append_left hlen] at hi
    exact .inl hi
  | @call j w m out os hj hret =>
    rw [At, List.getElem?_append_left (by simpa using hlen)] at hi
    have hset : At ⟨os, p.wrappers.set j out.wrapper⟩ i w' := hi
    rcases at_set hset with ⟨rfl, hw'⟩ | ⟨-, hold⟩
    · exact .inr ⟨w, m, out, rfl, hj, hw', hret⟩
    · exact .inl hold

/-- **What a getter shows** changes in a run only by what was done to its object. -/
theorem shown_changes {done : List Action} {a : Accessor} (h : Reachable abi p)
    (htrace : Trace abi p done p') (hi : p.At i w) (hi' : p'.At i w')
    (hne : a.get w' ≠ a.get w) :
    (a = .isBlocking ∧ .call i (.setIsBlocking (.boolean w'.isBlocking)) ∈ done) ∨
      (a = .isDestroyed ∧ w'.isDestroyed = true ∧ .call i .disconnect ∈ done) := by
  have hlen : i < p.wrappers.length := (List.getElem?_eq_some_iff.mp hi).1
  induction htrace generalizing w' with
  | nil => exact absurd (by rw [Option.some.inj (Option.some.inj (hi.symm.trans hi'))]) hne
  | @snoc done p₁ p₂ act htrace hstep ih =>
    have hearlier {w₁ : NetLinkWrapper} (h₁ : p₁.At i w₁) (hne₁ : a.get w₁ ≠ a.get w)
        (hsame : a.get w' = a.get w₁) :
        (a = .isBlocking ∧ .call i (.setIsBlocking (.boolean w'.isBlocking)) ∈ done ++ [act]) ∨
          (a = .isDestroyed ∧ w'.isDestroyed = true ∧ .call i .disconnect ∈ done ++ [act]) := by
      rcases ih h₁ hne₁ with ⟨rfl, hmem⟩ | ⟨rfl, hdestroyed, hmem⟩
      · rw [show w'.isBlocking = w₁.isBlocking from Shown.boolean.inj hsame]
        exact .inl ⟨rfl, List.mem_append_left _ hmem⟩
      · rw [show w'.isDestroyed = w₁.isDestroyed from Shown.boolean.inj hsame]
        exact .inr ⟨rfl, hdestroyed, List.mem_append_left _ hmem⟩
    rcases hstep.back (Nat.lt_of_lt_of_le hlen htrace.length_le) hi' with h₁ | ⟨w₁, m, out, rfl, h₁, hw', hret⟩
    · exact hearlier h₁ hne rfl
    · obtain ⟨os, hlog, hsteps⟩ := h
      have hinv : Inv p₁ := (Reachable.inv ⟨os, hlog, hsteps.trans htrace.steps⟩).1
      by_cases hsame : a.get w' = a.get w₁
      · exact hearlier h₁ (hsame ▸ hne) hsame
      · -- this is the call that changed it
        rcases (hinv.effect h₁ hret).shown hw' hsame with ⟨rfl, rfl⟩ | ⟨rfl, rfl, hdestroyed⟩
        · exact .inl ⟨rfl, List.mem_append_right _ List.mem_cons_self⟩
        · exact .inr ⟨rfl, hdestroyed, List.mem_append_right _ List.mem_cons_self⟩

/-- `oneSocket` after a `disconnect`. -/
def oneDestroyed : Process :=
  ⟨oneSocketOs.next false (.close 3) (.ok ()),
    [some { (SocketUDP.on 3 9000).wrapper with socket := none }]⟩

theorem oneDestroyed_trace : Trace .lp64 oneSocket [.call 0 .disconnect] oneDestroyed := by
  let w := (SocketUDP.on 3 9000).wrapper
  have hrun : (w.disconnect .lp64).Runs Os.plain oneSocketOs (.ok (), { w with socket := none })
      oneDestroyed.os := by
    refine ⟨.ok (), _, ⟨Os.possible_of_open rfl (by decide) nofun nofun, false, rfl⟩, ?_⟩
    exact ⟨rfl, rfl⟩
  have hret : (Method.disconnect.run .lp64 w).Returns Os.plain oneSocketOs
      ⟨.ok (), some { w with socket := none }, none⟩ oneDestroyed.os :=
    Loop.returns_ofProg.mpr (Prog.runs_bind.mpr ⟨_, _, hrun, rfl, rfl⟩)
  have hstep : Step .lp64 oneSocket (.call 0 .disconnect) oneDestroyed :=
    @Step.call .lp64 oneSocket 0 w .disconnect _ _ rfl hret
  exact .snoc .nil hstep

theorem shown_changes_one_socket :
    (Accessor.isDestroyed = .isBlocking ∧
        .call 0 (.setIsBlocking (.boolean true)) ∈ [Action.call 0 .disconnect]) ∨
      (Accessor.isDestroyed = .isDestroyed ∧ true = true ∧
        .call 0 .disconnect ∈ [Action.call 0 .disconnect]) :=
  @shown_changes .lp64 oneSocket oneDestroyed 0 (SocketUDP.on 3 9000).wrapper
    { (SocketUDP.on 3 9000).wrapper with socket := none } [.call 0 .disconnect] .isDestroyed
    (oneSocket_reachable _) oneDestroyed_trace rfl rfl (by decide)

end Process

end NetLink
