import NetLink.Proof.Constructors

/-!
# What a method can do

The methods of a wrapper, its setter and its finaliser are one family of code here, and `Effect`
is their inversion lemma: it lists, method by method, what a call can do to the wrapper and to
the descriptor table, and `run_wp` says that nothing else happens and that no call is made on a
descriptor the method has no business with. What is proved about whole runs is derived from
these two.
-/

namespace NetLink

open Interaction NetLinkWrapper
open Socket (SendToVars)

/-! ## Methods as one family -/

/-- The methods of a wrapper, the setter, and the finaliser. -/
inductive Method
  | accept
  | receive
  | send (stack : Ptr) (args : List JsValue)
  | receiveFrom
  | sendTo (stack : Ptr) (args : List JsValue)
  | setIsBlocking (value : JsValue)
  | disconnect
  | finalise

/-- How a method ended: what it returned or threw, the wrapper as it is left (none after the
    finaliser), and the wrapper of an accepted connection. -/
structure Outcome where
  result : Except JsError Unit
  wrapper : Option NetLinkWrapper
  accepted : Option NetLinkWrapper

namespace Method

def Vars : Method → Type
  | receive => StdString
  | send .. => SendToVars ⊕ Nat
  | receiveFrom => ReceiveFromVars
  | sendTo .. => SendToVars
  | _ => Empty

def run (abi : Abi) : (m : Method) → NetLinkWrapper → SysLoop m.Vars Outcome
  | accept, w => .ofProg (w.accept >>= fun r => .ret ⟨r.map fun _ => (), some w, r.toOption.join⟩)
  | receive, w => (w.receive abi).map fun r => ⟨r.map fun _ => (), some w, none⟩
  | send stack args, w => (w.send stack args).map fun r => ⟨r, some w, none⟩
  | receiveFrom, w => w.receiveFrom.map fun r => ⟨r.map fun _ => (), some w, none⟩
  | sendTo stack args, w => (w.sendTo stack args).map fun r => ⟨r, some w, none⟩
  | setIsBlocking value, w =>
    .ofProg (w.setterIsBlocking value >>= fun x => .ret ⟨x.1, some x.2, none⟩)
  | disconnect, w => .ofProg (w.disconnect abi >>= fun x => .ret ⟨x.1, some x.2, none⟩)
  | finalise, w => .ofProg (w.destructor >>= fun _ => .ret ⟨.ok (), none, none⟩)

/-- What a method may make calls on: the wrapper's own descriptor and, for `accept`, one it has
    been handed itself, as long as it is open. -/
def May (m : Method) (own : Option Int) (before : Finset Int) (k : Os) (_ : Call) (fd : Int) : Prop :=
  fd ∈ k.opened ∧ (own = some fd ∨ m = .accept ∧ fd ∉ before)

end Method

/-- **What a method can do**, to the wrapper and to the table. -/
inductive Effect (w : NetLinkWrapper) (k : Os) : Method → Outcome → Os → Prop
  | unchanged {m : Method} {result : Except JsError Unit} {k' : Os} :
      m ≠ .finalise → k'.opened = k.opened → (∀ fd ∈ k.opened, k'.nonblock fd = k.nonblock fd) →
      Effect w k m ⟨result, some w, none⟩ k'
  | accepted {s a : Socket} {k' : Os} : w.socket = some s → AcceptedFrom s a →
      k.Opened a.socketHandler (!s.blocking) 0 k' →
      Effect w k .accept ⟨.ok (), some w, some (.ofSocket a)⟩ k'
  | stranded {e : JsError} {fd : Int} {mode : Bool} {k' : Os} : k.Opened fd mode 1 k' →
      Effect w k .accept ⟨.error e, some w, none⟩ k'
  | modeSet {s : Socket} {blocking : Bool} {k' : Os} {r flags} : w.socket = some s →
      k'.opened = k.opened → k'.nonblock = Function.update k.nonblock s.socketHandler (!blocking) →
      k'.log = k.log ++ [⟨.getfl s.socketHandler, r⟩, ⟨.setfl s.socketHandler flags, .ok ()⟩] →
      Effect w k (.setIsBlocking (.boolean blocking))
        ⟨.ok (), some { w with socket := some { s with blocking }, blocking }, none⟩ k'
  | modeFailed {s : Socket} {blocking : Bool} {err : JsError} {k' : Os} {r flags e} :
      w.socket = some s → k'.opened = k.opened → k'.nonblock = k.nonblock →
      k'.log = k.log ++ [⟨.getfl s.socketHandler, r⟩, ⟨.setfl s.socketHandler flags, .error e⟩] →
      Effect w k (.setIsBlocking (.boolean blocking))
        ⟨.error err, some { w with socket := some { s with blocking } }, none⟩ k'
  | disconnected {s : Socket} {k' : Os} : w.socket = some s → k.Closed s.socketHandler k' →
      Effect w k .disconnect ⟨.ok (), some { w with socket := none }, none⟩ k'
  | finalised {s : Socket} {k' : Os} : w.socket = some s → k.Closed s.socketHandler k' →
      Effect w k .finalise ⟨.ok (), none, none⟩ k'
  | collected : w.socket = none → Effect w k .finalise ⟨.ok (), none, none⟩ k

section Run

variable {abi : Abi} {w : NetLinkWrapper} {s : Socket} {k : Os}

theorem Effect.of_same {m : Method} {result : Except JsError Unit} {k' : Os}
    (hm : m ≠ .finalise) (h : k.Restored k') : Effect w k m ⟨result, some w, none⟩ k' :=
  .unchanged hm h.opened h.keeps

/-- A method of a destroyed wrapper throws at once; its finaliser has nothing to do. -/
theorem run_destroyed (abi : Abi) (m : Method) (hw : w.socket = none) :
    (m = .finalise ∧ (m.run abi w).enter = .ret (.inr ⟨.ok (), none, none⟩)) ∨
      (m ≠ .finalise ∧ ∃ e, (m.run abi w).enter = .ret (.inr ⟨.error e, some w, none⟩)) := by
  cases m with
  | accept =>
    refine .inr ⟨nofun, destroyedError, ?_⟩
    simp only [Method.run, Loop.ofProg, NetLinkWrapper.accept, hw]
    rfl
  | receive =>
    refine .inr ⟨nofun, destroyedError, ?_⟩
    simp only [Method.run, Loop.map, NetLinkWrapper.receive, hw, Loop.done]
    rfl
  | send stack args =>
    refine .inr ⟨nofun, ?_⟩
    simp only [Method.run, Loop.map, NetLinkWrapper.send, hw]
    split <;> exact ⟨_, rfl⟩
  | receiveFrom =>
    refine .inr ⟨nofun, destroyedError, ?_⟩
    simp only [Method.run, Loop.map, NetLinkWrapper.receiveFrom, hw, Loop.done]
    rfl
  | sendTo stack args =>
    refine .inr ⟨nofun, ?_⟩
    simp only [Method.run, Loop.map, NetLinkWrapper.sendTo, hw]
    split <;> exact ⟨_, rfl⟩
  | setIsBlocking value =>
    refine .inr ⟨nofun, ?_⟩
    cases value with
    | boolean b =>
      simp only [Method.run, Loop.ofProg, NetLinkWrapper.setterIsBlocking, hw]
      exact ⟨_, rfl⟩
    | _ => exact ⟨_, rfl⟩
  | disconnect =>
    refine .inr ⟨nofun, destroyedError, ?_⟩
    simp only [Method.run, Loop.ofProg, NetLinkWrapper.disconnect, hw]
    rfl
  | finalise =>
    refine .inl ⟨rfl, ?_⟩
    simp only [Method.run, Loop.ofProg, NetLinkWrapper.destructor, hw]
    rfl

theorem data_wp {σ ρ : Type} {m : Method} (hm : m ≠ .finalise) (hs : w.socket = some s)
    (hopen : s.socketHandler ∈ k.opened) {L : SysLoop σ ρ} (hL : L.Asks (Os.QuietOn s.socketHandler))
    (f : ρ → Except JsError Unit) :
    (L.map fun r => (⟨f r, some w, none⟩ : Outcome)).wp (Os.kernel (m.May w.fd? k.opened))
      (Effect w k m) k := by
  have hfd : w.fd? = some s.socketHandler := fd?_eq hs
  have hquiet : L.wp (Os.kernel (m.May w.fd? k.opened)) (fun _ => k.Same) k :=
    Os.quiet_loop_wp hL (fun k' _ hk => ⟨hk.opened ▸ hopen, .inl hfd⟩) (Os.Same.refl k)
  exact Loop.wp_map (hquiet.mono fun r k' h => .of_same hm h.restored)

/-- **Every method has its effect**, and on the way makes calls only on what it may. -/
theorem run_wp (abi : Abi) (m : Method) (w : NetLinkWrapper)
    (hown : ∀ fd ∈ w.fd?, fd ∈ k.opened) :
    (m.run abi w).wp (Os.kernel (m.May w.fd? k.opened)) (Effect w k m) k := by
  cases hs : w.socket with
  | none =>
    rcases run_destroyed abi m hs with ⟨rfl, henter⟩ | ⟨hm, e, henter⟩
    · exact Loop.wp_leaves henter (.collected hs)
    · exact Loop.wp_leaves henter (.of_same hm (Os.Same.refl k).restored)
  | some s =>
    have hfd : w.fd? = some s.socketHandler := fd?_eq hs
    have hopen : s.socketHandler ∈ k.opened := hown _ hfd
    have hmay (m : Method) : ∀ (k' : Os) q, k'.opened = k.opened →
        m.May w.fd? k.opened k' q s.socketHandler := fun k' _ hk => ⟨hk ▸ hopen, .inl hfd⟩
    cases m with
    | accept =>
      refine Loop.wp_ofProg (Prog.wp_bind.mpr ((accept_wp hs (fun q => hmay _ k q rfl) ?_).mono ?_))
      · intro fd k' _ hfresh hk'
        exact ⟨hk' ▸ Finset.mem_insert_self fd _, .inr ⟨rfl, hfresh.2⟩⟩
      · intro r k' h
        cases h with
        | made ha h => exact .accepted hs ha h
        | nothing h => exact .of_same (by simp) h
        | refused h => exact .of_same (by simp) h
        | stranded h => exact .stranded h
    | receive =>
      refine data_wp (m := .receive) (by simp) hs hopen ?_ _
      rw [Live.receive_eq ⟨w, s, hs⟩]
      exact receiveLoop_quiet abi
    | send stack args =>
      refine data_wp (m := .send stack args) (by simp) hs hopen ?_ id
      unfold NetLinkWrapper.send
      rw [hs]
      simp only
      split
      · exact Loop.asks_done _
      · exact (send_quiet stack _).map
    | receiveFrom =>
      refine data_wp (m := .receiveFrom) (by simp) hs hopen ?_ _
      rw [Live.receiveFrom_eq ⟨w, s, hs⟩]
      exact receiveFromLoop_quiet
    | sendTo stack args =>
      refine data_wp (m := .sendTo stack args) (by simp) hs hopen ?_ id
      rw [Live.sendTo_eq ⟨w, s, hs⟩]
      split
      · exact Loop.asks_done _
      · exact (sendTo_quiet stack _ _ _).map
    | setIsBlocking value =>
      refine Loop.wp_ofProg (Prog.wp_bind.mpr ?_)
      cases value with
      | boolean b =>
        refine (setterIsBlocking_wp hs (hmay _)).mono ?_
        intro x k' h
        obtain ⟨o, ⟨-, hopened, h⟩, hx⟩ := h
        cases o with
        | ok =>
          subst hx
          obtain ⟨hnonblock, -, r, flags, hlog⟩ := h
          exact .modeSet hs hopened hnonblock hlog
        | error err =>
          subst hx
          obtain ⟨hnonblock, -, r, flags, e, hlog⟩ := h
          exact .modeFailed hs hopened hnonblock hlog
      | _ => exact .of_same (by simp) (Os.Same.refl k).restored
    | disconnect =>
      refine Loop.wp_ofProg (Prog.wp_bind.mpr ((disconnect_wp abi hs (hmay _)).mono ?_))
      intro x k' h
      rcases h with ⟨rfl, h⟩ | ⟨⟨err, rfl⟩, h⟩
      · exact .disconnected hs h
      · exact .of_same (by simp) h.restored
    | finalise =>
      refine Loop.wp_ofProg (Prog.wp_bind.mpr ((destructor_wp hs (hmay _ k _ rfl)).mono ?_))
      intro _ k' h
      exact .finalised hs h

/-! ## Which calls it makes -/

/-- The calls that a method makes, on the descriptor `own` of its wrapper and, for `accept`, on the
    one it is handed. -/
def Method.Asked (own : Int) : Method → Call → Prop
  | accept, .accept fd => fd = own
  | accept, .getsockname _ | accept, .getfl _ | accept, .setfl .. => True
  | accept, _ => False
  | setIsBlocking _, .getfl fd | setIsBlocking _, .setfl fd _ => fd = own
  | setIsBlocking _, _ => False
  | disconnect, q => Os.QuietOn own q ∨ q = .close own
  | finalise, q => q = .close own
  | _, q => Os.QuietOn own q

theorem Method.Asked.own {own : Int} {m : Method} {q : Call} (h : m.Asked own q) (hm : m ≠ accept) :
    Os.QuietOn own q ∨ q = .close own ∨ (∃ flags, q = .setfl own flags) ∧ ∃ value, m = setIsBlocking value := by
  cases m with
  | accept => exact absurd rfl hm
  | setIsBlocking value =>
    cases q with
    | getfl fd =>
      have hfd : fd = own := h
      exact .inl ⟨trivial, by rintro _ ⟨⟩; exact hfd⟩
    | setfl fd flags =>
      have hfd : fd = own := h
      exact .inr (.inr ⟨⟨flags, by rw [hfd]⟩, value, rfl⟩)
    | _ => exact h.elim
  | disconnect => exact h.imp_right .inl
  | finalise => exact .inr (.inl h)
  | _ => exact .inl h

theorem run_asks (abi : Abi) (m : Method) (hs : w.socket = some s) :
    (m.run abi w).Asks (m.Asked s.socketHandler) := by
  have hprog {σ α ρ : Type} {P : Call → Prop} {t : Sys α} (ht : t.Asks P) (f : α → ρ) :
      (Loop.ofProg (t >>= fun x => .ret (f x)) : SysLoop σ ρ).Asks P := by
    have hret : (t >>= fun x => .ret (f x)).Asks P := Prog.Asks.bind ht fun _ => trivial
    exact ⟨Prog.Asks.bind hret fun _ => trivial, fun _ => Prog.Asks.bind hret fun _ => trivial⟩
  cases m with
  | accept =>
    have haccept : w.accept.Asks (Method.accept.Asked s.socketHandler) := by
      refine accept_asks hs ?_ fun _ => ⟨trivial, trivial, fun _ => trivial⟩
      exact rfl
    exact hprog haccept _
  | receive =>
    refine Loop.Asks.map ?_
    rw [Live.receive_eq ⟨w, s, hs⟩]
    exact receiveLoop_quiet abi
  | send stack args =>
    refine Loop.Asks.map ?_
    unfold NetLinkWrapper.send
    rw [hs]
    simp only
    split
    · exact Loop.asks_done _
    · exact (send_quiet stack _).map
  | receiveFrom =>
    refine Loop.Asks.map ?_
    rw [Live.receiveFrom_eq ⟨w, s, hs⟩]
    exact receiveFromLoop_quiet
  | sendTo stack args =>
    refine Loop.Asks.map ?_
    rw [Live.sendTo_eq ⟨w, s, hs⟩]
    split
    · exact Loop.asks_done _
    · exact (sendTo_quiet stack _ _ _).map
  | setIsBlocking value =>
    refine hprog ?_ _
    cases value with
    | boolean b =>
      unfold setterIsBlocking
      rw [hs]
      have hset : (s.setBlocking b).Asks
          ((Method.setIsBlocking (.boolean b)).Asked s.socketHandler) := by
        refine setBlocking_asks ?_ (fun flags => ?_) b
        · exact rfl
        · exact rfl
      refine Prog.Asks.bind hset ?_
      rintro ⟨o, s'⟩
      cases o <;> exact trivial
    | _ => exact trivial
  | disconnect =>
    refine hprog ?_ _
    unfold NetLinkWrapper.disconnect
    rw [hs]
    refine Prog.Asks.bind ((drain_quiet abi).imp fun _ => .inl) fun o => ?_
    cases o with
    | error e => exact trivial
    | ok =>
      simp only
      rw [disconnect_destructor]
      exact ⟨.inr rfl, fun _ => trivial⟩
  | finalise =>
    refine hprog ?_ _
    unfold NetLinkWrapper.destructor
    rw [hs]
    exact ⟨rfl, fun _ => trivial⟩

end Run

end NetLink
