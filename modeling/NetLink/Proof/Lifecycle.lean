import NetLink.Proof.Effect
import NetLink.Proof.PendingCount

/-!
# Who owns which descriptor

A process is a descriptor table and the wrappers JavaScript has made, constructed or accepted. It
runs by constructing sockets and calling methods, in any order and with any outcome of every
system call; the finaliser is the last method called on a wrapper. JavaScript is
single-threaded, so a method is one step of the process.

The invariant is ownership: every descriptor a live wrapper holds is open, and no two hold the
same one (`Process.Inv`). A method closes no descriptor but its own wrapper's, and every new
descriptor was not open, so no step can take a descriptor from another wrapper.
-/

namespace NetLink

open Interaction NetLinkWrapper

/-- A process: the descriptor table, and every wrapper made so far. A finalised one is none. -/
structure Process where
  os : Os
  wrappers : List (Option NetLinkWrapper)

/-- What JavaScript can do next. -/
inductive Action
  | construct (cls : SocketClass) (isConstructCall : Bool) (args : List JsValue)
  | call (i : Nat) (m : Method)

namespace Process

/-- One step: a constructor or a method runs to its end. -/
inductive Step (abi : Abi) : Process → Action → Process → Prop
  | construct {p : Process} {cls : SocketClass} {isConstructCall : Bool} {args : List JsValue}
      {r : Except JsError NetLinkWrapper} {os : Os} :
      (cls.new isConstructCall args).Runs Os.plain p.os r os →
      Step abi p (.construct cls isConstructCall args) ⟨os, p.wrappers ++ (r.toOption.map some).toList⟩
  | call {p : Process} {i : Nat} {w : NetLinkWrapper} {m : Method} {out : Outcome} {os : Os} :
      p.wrappers[i]? = some (some w) → (m.run abi w).Returns Os.plain p.os out os →
      Step abi p (.call i m)
        ⟨os, p.wrappers.set i out.wrapper ++ (out.accepted.map some).toList⟩

abbrev Steps (abi : Abi) : Process → Process → Prop :=
  Relation.ReflTransGen fun p p' => ∃ a, Step abi p a p'

/-- What can be got to from a process that has made no wrapper and no call. -/
def Reachable (abi : Abi) (p : Process) : Prop := ∃ os : Os, os.log = [] ∧ Steps abi ⟨os, []⟩ p

/-- The wrapper `i` is there and is `w`. -/
def At (p : Process) (i : Nat) (w : NetLinkWrapper) : Prop := p.wrappers[i]? = some (some w)

/-! ## Looking up wrappers -/

theorem at_append {p : Process} {os : Os} {extra : Option NetLinkWrapper} {j : Nat}
    {w : NetLinkWrapper}
    (h : At ⟨os, p.wrappers ++ (extra.map some).toList⟩ j w) :
    p.At j w ∨ (j = p.wrappers.length ∧ extra = some w) := by
  rw [At, List.getElem?_append] at h
  split at h
  · exact .inl h
  · rename_i hlen
    cases extra with
    | none => cases h
    | some a =>
      simp only [Option.map_some, Option.toList_some, List.getElem?_singleton] at h
      split at h
      · exact .inr ⟨by omega, by simpa using h⟩
      · cases h

theorem at_set {p : Process} {os : Os} {i j : Nat} {o : Option NetLinkWrapper}
    {w : NetLinkWrapper} (h : At ⟨os, p.wrappers.set i o⟩ j w) :
    (j = i ∧ o = some w) ∨ (j ≠ i ∧ p.At j w) := by
  rw [At, List.getElem?_set] at h
  split at h
  · rename_i hij
    split at h
    · exact .inl ⟨hij.symm, by simpa using h⟩
    · cases h
  · rename_i hij
    exact .inr ⟨fun h => hij h.symm, h⟩

theorem at_call {p : Process} {os : Os} {out : Outcome} {i j : Nat} {w : NetLinkWrapper}
    (h : At ⟨os, p.wrappers.set i out.wrapper ++ (out.accepted.map some).toList⟩ j w) :
    (j = i ∧ out.wrapper = some w) ∨ (j ≠ i ∧ p.At j w) ∨ out.accepted = some w := by
  rcases at_append (p := ⟨os, p.wrappers.set i out.wrapper⟩) h with hset | ⟨-, ha⟩
  · exact (at_set hset).imp_right .inl
  · exact .inr (.inr ha)

/-! ## Ownership -/

/-- **Ownership.** Live wrappers hold open descriptors, and each its own. -/
structure Inv (p : Process) : Prop where
  opened : ∀ {i w fd}, p.At i w → w.fd? = some fd → fd ∈ p.os.opened
  distinct : ∀ {i j w w' fd}, p.At i w → p.At j w' → w.fd? = some fd → w'.fd? = some fd → i = j

theorem Inv.init (os : Os) : Inv ⟨os, []⟩ where
  opened h := by cases h
  distinct h := by cases h

theorem Inv.append {p : Process} (h : Inv p) {os : Os} {extra : Option NetLinkWrapper}
    (hkeep : ∀ {i w fd}, p.At i w → w.fd? = some fd → fd ∈ os.opened)
    (hnew : ∀ {a fd}, extra = some a → a.fd? = some fd →
      fd ∈ os.opened ∧ ∀ {i w}, p.At i w → w.fd? ≠ some fd) :
    Inv ⟨os, p.wrappers ++ (extra.map some).toList⟩ where
  opened hi hfd := by
    rcases at_append hi with hi | ⟨-, hextra⟩
    · exact hkeep hi hfd
    · exact (hnew hextra hfd).1
  distinct hi hj hfd hfd' := by
    rcases at_append hi with hold | ⟨rfl, hextra⟩ <;>
      rcases at_append hj with hold' | ⟨rfl, hextra'⟩
    · exact h.distinct hold hold' hfd hfd'
    · exact absurd hfd ((hnew hextra' hfd').2 hold)
    · exact absurd hfd' ((hnew hextra hfd).2 hold')
    · rfl

theorem Inv.set {p : Process} (h : Inv p) {os : Os} {i : Nat} {w : NetLinkWrapper} (hi : p.At i w)
    {o : Option NetLinkWrapper}
    (hothers : ∀ fd ∈ p.os.opened, w.fd? ≠ some fd → fd ∈ os.opened)
    (hown : ∀ {w' fd}, o = some w' → w'.fd? = some fd → w.fd? = some fd ∧ fd ∈ os.opened) :
    Inv ⟨os, p.wrappers.set i o⟩ where
  opened hj hfd := by
    rcases at_set hj with ⟨rfl, ho⟩ | ⟨hne, hold⟩
    · exact (hown ho hfd).2
    · exact hothers _ (h.opened hold hfd) fun hw => hne (h.distinct hold hi hfd hw)
  distinct hj hj' hfd hfd' := by
    rcases at_set hj with ⟨rfl, ho⟩ | ⟨-, hold⟩ <;>
      rcases at_set hj' with ⟨rfl, ho'⟩ | ⟨-, hold'⟩
    · rfl
    · exact h.distinct hi hold' (hown ho hfd).1 hfd'
    · exact h.distinct hold hi hfd (hown ho' hfd').1
    · exact h.distinct hold hold' hfd hfd'

/-! ## Steps -/

theorem others_opened {w : NetLinkWrapper} {k k' : Os} {m : Method} {out : Outcome}
    (h : Effect w k m out k') : ∀ fd ∈ k.opened, w.fd? ≠ some fd → fd ∈ k'.opened := by
  intro fd hfd hne
  have hclosed {s : Socket} (hs : w.socket = some s) (h : k.Closed s.socketHandler k') :
      fd ∈ k'.opened := by
    rw [h.opened]
    refine Finset.mem_erase_of_ne_of_mem ?_ hfd
    rintro rfl
    exact hne (fd?_eq hs)
  cases h with
  | unchanged _ hopened => exact hopened ▸ hfd
  | accepted _ _ h => exact h.opened ▸ Finset.mem_insert_of_mem hfd
  | stranded h => exact h.opened ▸ Finset.mem_insert_of_mem hfd
  | modeSet _ hopened => exact hopened ▸ hfd
  | modeFailed _ hopened => exact hopened ▸ hfd
  | disconnected hs h => exact hclosed hs h
  | finalised hs h => exact hclosed hs h
  | collected => exact hfd

theorem own_opened {w w' : NetLinkWrapper} {k k' : Os} {m : Method} {out : Outcome} {fd : Int}
    (h : Effect w k m out k') (hown : ∀ fd, w.fd? = some fd → fd ∈ k.opened)
    (hw' : out.wrapper = some w') (hfd : w'.fd? = some fd) : w.fd? = some fd ∧ fd ∈ k'.opened := by
  have hsame {s : Socket} (hs : w.socket = some s)
      (hfd : some s.socketHandler = some fd) : w.fd? = some fd :=
    (fd?_eq hs).trans hfd
  cases h with
  | unchanged _ hopened =>
    cases hw'
    exact ⟨hfd, hopened ▸ hown fd hfd⟩
  | accepted _ _ h =>
    cases hw'
    exact ⟨hfd, h.opened ▸ Finset.mem_insert_of_mem (hown fd hfd)⟩
  | stranded h =>
    cases hw'
    exact ⟨hfd, h.opened ▸ Finset.mem_insert_of_mem (hown fd hfd)⟩
  | modeSet hs hopened =>
    cases hw'
    have hfd := hsame hs hfd
    exact ⟨hfd, hopened ▸ hown fd hfd⟩
  | modeFailed hs hopened =>
    cases hw'
    have hfd := hsame hs hfd
    exact ⟨hfd, hopened ▸ hown fd hfd⟩
  | disconnected =>
    cases hw'
    cases hfd
  | finalised => cases hw'
  | collected => cases hw'

theorem Inv.run_wp {p : Process} (h : Inv p) {abi : Abi} {i : Nat} {w : NetLinkWrapper}
    (hi : p.At i w) (m : Method) :
    (m.run abi w).wp (Os.kernel (m.May w.fd? p.os.opened)) (Effect w p.os m) p.os :=
  NetLink.run_wp abi m w fun _ hfd => h.opened hi hfd

theorem new_opened {cls : SocketClass} {k k' : Os} {r : Except JsError NetLinkWrapper}
    (h : Makes cls.Opens false k (r.map some) k') :
    (∀ fd ∈ k.opened, fd ∈ k'.opened) ∧
      ∀ {a fd}, r.toOption = some a → a.fd? = some fd → fd ∈ k'.opened ∧ fd ∉ k.opened := by
  generalize hr : r.map some = r' at h
  cases h with
  | @made _ s _ h =>
    refine ⟨fun fd hfd => h.opened ▸ Finset.mem_insert_of_mem hfd, ?_⟩
    cases r with
    | error e => cases hr
    | ok a =>
      cases hr
      rintro a' fd ⟨⟩ ⟨⟩
      exact ⟨h.opened ▸ Finset.mem_insert_self _ _, h.fresh.2⟩
  | nothing h => cases r <;> cases hr
  | refused h =>
    cases r <;> cases hr
    exact ⟨fun fd hfd => h.opened ▸ hfd, nofun⟩
  | stranded h =>
    cases r <;> cases hr
    exact ⟨fun fd hfd => h.opened ▸ Finset.mem_insert_of_mem hfd, nofun⟩

theorem accepted_opened {w a : NetLinkWrapper} {k k' : Os} {m : Method} {out : Outcome} {fd : Int}
    (h : Effect w k m out k') (ha : out.accepted = some a) (hfd : a.fd? = some fd) :
    fd ∈ k'.opened ∧ fd ∉ k.opened := by
  cases h with
  | accepted _ _ h =>
    cases ha
    cases hfd
    exact ⟨h.opened ▸ Finset.mem_insert_self _ _, h.fresh.2⟩
  | _ => cases ha

/-- A run of a method has its effect. -/
theorem Inv.effect {p : Process} (h : Inv p) {abi : Abi} {i : Nat} {w : NetLinkWrapper}
    (hi : p.At i w) {m : Method} {out : Outcome} {os : Os}
    (hret : (m.run abi w).Returns Os.plain p.os out os) : Effect w p.os m out os :=
  (h.run_wp hi m).returns (hret.imp fun _ => Os.reaches_of_plain)

/-- **Ownership is kept** by every step. -/
theorem Inv.step {abi : Abi} {p p' : Process} {a : Action} (h : Inv p) (hstep : Step abi p a p') :
    Inv p' := by
  cases hstep with
  | construct hrun =>
    obtain ⟨hkeep, hnew⟩ := new_opened (new_makes hrun)
    refine h.append (fun hi hfd => hkeep _ (h.opened hi hfd)) fun ha hfd => ?_
    exact ⟨(hnew ha hfd).1, fun hi hfd' => (hnew ha hfd).2 (h.opened hi hfd')⟩
  | @call i w m out os hi hret =>
    have heffect := h.effect hi hret
    have hset : Inv ⟨os, p.wrappers.set i out.wrapper⟩ :=
      h.set hi (others_opened heffect) fun hw' hfd =>
        own_opened heffect (fun fd hfd => h.opened hi hfd) hw' hfd
    refine hset.append (fun hj hfd => hset.opened hj hfd) fun ha hfd => ?_
    obtain ⟨hopen, hnew⟩ := accepted_opened heffect ha hfd
    refine ⟨hopen, fun hj hfd' => ?_⟩
    -- whoever holds it now held it before the call
    rcases at_set hj with ⟨-, hw'⟩ | ⟨-, hold⟩
    · exact hnew (h.opened hi (own_opened heffect (fun fd hfd => h.opened hi hfd) hw' hfd').1)
    · exact hnew (h.opened hold hfd')

theorem Inv.step_closes {abi : Abi} {p p' : Process} {a : Action} (h : Inv p)
    (hstep : Step abi p a p') (hlog : Os.ClosesOpen p.os.log) : Os.ClosesOpen p'.os.log := by
  cases hstep with
  | construct hrun =>
    refine (new_wp _ _ _ p.os).keeps (I := fun k => Os.ClosesOpen k.log) ?_ (Os.runs_of_plain hrun) hlog
    rintro k q r _ hallowed ⟨hr, mode, rfl⟩ hk
    apply hk.next hr
    -- a constructor closes only what it has opened
    rintro fd rfl
    exact (hallowed fd rfl).2 rfl
  | @call i w m out os hi hret =>
    obtain ⟨v, hreaches⟩ := hret
    refine (h.run_wp hi m).keeps (I := fun k => Os.ClosesOpen k.log) ?_
      (Os.reaches_of_plain hreaches) hlog
    rintro k q r _ hallowed ⟨hr, mode, rfl⟩ hk
    apply hk.next hr
    -- a method makes calls on open descriptors only, `close` among them
    rintro fd rfl
    exact (hallowed fd rfl).1

theorem Reachable.inv {abi : Abi} {p : Process} (h : Reachable abi p) :
    Inv p ∧ Os.ClosesOpen p.os.log := by
  obtain ⟨os, hlog, hsteps⟩ := h
  induction hsteps with
  | refl => exact ⟨Inv.init os, fun fd hmem => by cases hlog ▸ hmem⟩
  | tail _ hstep ih =>
    obtain ⟨a, hstep⟩ := hstep
    exact ⟨ih.1.step hstep, ih.1.step_closes hstep ih.2⟩

/-! ## Classes -/

/-- A method leaves a live wrapper of the class it was. -/
theorem own_isLive {w w' : NetLinkWrapper} {k k' : Os} {m : Method} {out : Outcome}
    (h : Effect w k m out k') (hw : w.socket ≠ none → ∃ cls : SocketClass, cls.IsLive w)
    (hw' : out.wrapper = some w') (hlive : w'.socket ≠ none) :
    ∃ cls : SocketClass, cls.IsLive w' := by
  -- writing the mode changes nothing a class depends on
  have hmode {s : Socket} {blocking blocking' : Bool} (hs : w.socket = some s) :
      ∃ cls : SocketClass, cls.IsLive
        { w with socket := some { s with blocking }, blocking := blocking' } := by
    obtain ⟨cls, hcls⟩ := hw (by simp [hs])
    obtain ⟨s', hs', hclass⟩ := SocketClass.isLive_iff.mp hcls
    cases hs.symm.trans hs'
    exact ⟨cls, SocketClass.isLive_iff.mpr ⟨_, rfl, hclass⟩⟩
  cases h with
  | unchanged =>
    cases hw'
    exact hw hlive
  | accepted =>
    cases hw'
    exact hw hlive
  | stranded =>
    cases hw'
    exact hw hlive
  | modeSet hs =>
    cases hw'
    exact hmode hs
  | modeFailed hs =>
    cases hw'
    exact hmode hs
  | disconnected =>
    cases hw'
    exact absurd rfl hlive
  | finalised => cases hw'
  | collected => cases hw'

theorem accepted_isLive {w a : NetLinkWrapper} {k k' : Os} {m : Method} {out : Outcome}
    (h : Effect w k m out k') (ha : out.accepted = some a) : SocketClass.clientTCP.IsLive a := by
  cases h with
  | accepted _ hfrom =>
    cases ha
    exact SocketClass.isLive_iff.mpr ⟨_, rfl, hfrom.protocol, hfrom.type, nofun⟩
  | _ => cases ha

/-- **Every live wrapper is of one of the classes**, whatever has been done to it. -/
theorem Reachable.isLive {abi : Abi} {p : Process} (h : Reachable abi p) {i : Nat}
    {w : NetLinkWrapper} (hi : p.At i w) (hw : w.socket ≠ none) :
    ∃ cls : SocketClass, cls.IsLive w := by
  obtain ⟨os, hlog, hsteps⟩ := h
  induction hsteps generalizing i w with
  | refl => cases hi
  | tail hsteps hstep ih =>
    obtain ⟨a, hstep⟩ := hstep
    cases hstep with
    | @construct _ _ _ r _ hrun =>
      rcases at_append hi with hold | ⟨-, hr⟩
      · exact ih hold hw
      · cases r with
        | error e => cases hr
        | ok w' =>
          cases hr
          exact ⟨_, new_isLive hrun⟩
    | @call j w₀ m out os' hj hret =>
      have hinv := (Reachable.inv ⟨os, hlog, hsteps⟩).1
      have heffect := hinv.effect hj hret
      rcases at_call hi with ⟨-, hw'⟩ | ⟨-, hold⟩ | ha
      · exact own_isLive heffect (ih hj) hw' hw
      · exact ih hold hw
      · exact ⟨_, accepted_isLive heffect ha⟩

/-! ## Destroyed wrappers -/

/-- What a method of a destroyed wrapper comes to: it throws at once, and the finaliser does
    nothing. -/
theorem returns_destroyed {w : NetLinkWrapper} (abi : Abi) (m : Method) (hw : w.socket = none)
    (k : Os) :
    (m = .finalise ∧ ∀ out k', (m.run abi w).Returns Os.plain k out k' ↔
        out = ⟨.ok (), none, none⟩ ∧ k' = k) ∨
      (m ≠ .finalise ∧ ∃ e, ∀ out k', (m.run abi w).Returns Os.plain k out k' ↔
        out = ⟨.error e, some w, none⟩ ∧ k' = k) := by
  have hreturns {o : Outcome} (henter : (m.run abi w).enter = .ret (.inr o)) (out : Outcome)
      (k' : Os) : (m.run abi w).Returns Os.plain k out k' ↔ out = o ∧ k' = k := by
    unfold Loop.Returns Loop.start
    rw [henter]
    exact Loop.returnsFrom_done
  rcases run_destroyed abi m hw with ⟨hm, henter⟩ | ⟨hm, e, henter⟩
  · exact .inl ⟨hm, hreturns henter⟩
  · exact .inr ⟨hm, e, hreturns henter⟩

/-- A wrapper that is destroyed stays what it is until it is finalised, and then it is gone. -/
theorem destroyed_step {abi : Abi} {p p' : Process} {a : Action} {i : Nat} {w : NetLinkWrapper}
    (hw : w.socket = none) (h : p.wrappers[i]? = some none ∨ p.At i w)
    (hstep : Step abi p a p') : p'.wrappers[i]? = some none ∨ p'.At i w := by
  have hlen : i < p.wrappers.length := by
    rcases h with h | h <;> exact (List.getElem?_eq_some_iff.mp h).1
  cases hstep with
  | construct =>
    simp only [At, List.getElem?_append_left hlen]
    exact h
  | @call j w' m out os hj hret =>
    have hlen' : i < (p.wrappers.set j out.wrapper).length := by simpa using hlen
    simp only [At, List.getElem?_append_left hlen']
    by_cases hij : j = i
    · subst hij
      obtain rfl : w' = w := by
        rcases h with h | h
        · cases hj.symm.trans h
        · exact Option.some.inj (Option.some.inj (hj.symm.trans h))
      rw [List.getElem?_set_self hlen]
      rcases returns_destroyed abi m hw p.os with ⟨-, hret'⟩ | ⟨-, e, hret'⟩
      · obtain ⟨rfl, -⟩ := (hret' out os).mp hret
        exact .inl rfl
      · obtain ⟨rfl, -⟩ := (hret' out os).mp hret
        exact .inr rfl
    · rw [List.getElem?_set_ne hij]
      exact h

theorem destroyed_steps {abi : Abi} {p p' : Process} {i : Nat} {w : NetLinkWrapper}
    (hw : w.socket = none) (hi : p.At i w) (hsteps : Steps abi p p') :
    p'.wrappers[i]? = some none ∨ p'.At i w := by
  induction hsteps with
  | refl => exact .inr hi
  | tail _ hstep ih => exact destroyed_step hw ih hstep.choose_spec

/-! ## Disconnecting -/

/-- `disconnect` closes the descriptor once and returns, or throws with nothing changed. -/
theorem disconnect_returns {abi : Abi} {w : NetLinkWrapper} {s : Socket} (hs : w.socket = some s)
    {k k' : Os} {out : Outcome} (h : (Method.disconnect.run abi w).Returns Os.plain k out k') :
    (out = ⟨.ok (), some { w with socket := none }, none⟩ ∧ k.Closed s.socketHandler k') ∨
      ∃ e, out = ⟨.error e, some w, none⟩ ∧ k.Same k' := by
  obtain ⟨x, k₁, hrun, rfl, rfl⟩ := Prog.runs_bind.mp (Loop.returns_ofProg.mp h)
  rcases (disconnect_wp abi hs fun _ _ _ => trivial).runs hrun with
    ⟨rfl, hclosed⟩ | ⟨⟨e, rfl⟩, hsame⟩
  · exact .inl ⟨rfl, hclosed⟩
  · exact .inr ⟨e, rfl, hsame⟩

theorem drain_possible (abi : Abi) {s : Socket} {k : Os} (hopen : s.socketHandler ∈ k.opened) :
    ∃ k', (drain abi s).Runs Os.plain k (.ok ()) k' ∧ k'.opened = k.opened := by
  unfold drain
  split
  · let k₁ := k.next false (.ioctl s.socketHandler) (.ok 0)
    have hsize : (s.nextReadSize abi).Runs Os.plain k (.ok (abi.reported 0)) k₁ :=
      ⟨.ok 0, _, ⟨Os.possible_of_open rfl hopen nofun nofun, false, rfl⟩, rfl, rfl⟩
    have hread (cap : Nat) : (s.read cap).Runs Os.plain k₁ (.ok ⟨0, []⟩)
        (k₁.next false (.recv s.socketHandler cap) (.ok [])) :=
      ⟨.ok [], _, ⟨Os.possible_of_open rfl hopen nofun nofun, false, rfl⟩, rfl, rfl⟩
    by_cases hn : 0 < abi.reported 0
    · refine ⟨k₁.next false (.recv s.socketHandler (abi.reported 0).toNat) (.ok []),
        Prog.runs_bind.mpr ⟨_, _, hsize, ?_⟩, rfl⟩
      simp only [if_pos hn, if_neg abi.reported_zero_ne]
      exact Prog.runs_bind.mpr ⟨_, _, hread _, rfl, rfl⟩
    · refine ⟨k₁, Prog.runs_bind.mpr ⟨_, _, hsize, ?_⟩, rfl⟩
      simp only [if_neg hn]
      exact ⟨rfl, rfl⟩
  · exact ⟨k, ⟨rfl, rfl⟩, rfl⟩

/-- As long as the descriptor is open, `disconnect` can succeed. -/
theorem disconnect_possible (abi : Abi) {w : NetLinkWrapper} {s : Socket} (hs : w.socket = some s)
    {k : Os} (hopen : s.socketHandler ∈ k.opened) :
    ∃ k', (Method.disconnect.run abi w).Returns Os.plain k
      ⟨.ok (), some { w with socket := none }, none⟩ k' := by
  obtain ⟨k₁, hdrain, hk⟩ := drain_possible abi hopen
  let k₂ := k₁.next false (.close s.socketHandler) (.ok ())
  have hrun : (w.disconnect abi).Runs Os.plain k (.ok (), { w with socket := none }) k₂ := by
    unfold NetLinkWrapper.disconnect
    rw [hs]
    refine Prog.runs_bind.mpr ⟨_, _, hdrain, ?_⟩
    simp only
    rw [disconnect_destructor]
    exact ⟨.ok (), _, ⟨Os.possible_of_open rfl (hk ▸ hopen) nofun nofun, false, rfl⟩, rfl, rfl⟩
  exact ⟨k₂, Loop.returns_ofProg.mpr (Prog.runs_bind.mpr ⟨_, _, hrun, rfl, rfl⟩)⟩

/-! ## Everything a run keeps to -/

/-- A method, called on `w` in the state `k`, comes to make the call `q` in the state `k'`. -/
def Calls (abi : Abi) (w : NetLinkWrapper) (m : Method) (k : Os) (q : Call) (k' : Os) : Prop :=
  ∃ v next, (m.run abi w).Reaches Os.plain (k, (m.run abi w).start) (k', ⟨v, .ask q next⟩)

/-- **What a process keeps to**, for the wrappers in it and for what their methods do next. -/
structure Sound (abi : Abi) (p : Process) : Prop where
  /-- Live wrappers hold open descriptors, each its own. -/
  owners : Inv p
  /-- No descriptor has been closed twice. -/
  closes : Os.ClosesOpen p.os.log
  /-- A method makes calls on its wrapper's own descriptor, and `accept` on the one it was handed
      in the call; and that is open whenever a call is made on it. -/
  targets : ∀ {i w m q k fd}, p.At i w → Calls abi w m p.os q k → q.fd? = some fd →
    fd ∈ k.opened ∧ (w.fd? = some fd ∨ m = .accept ∧ fd ∉ p.os.opened)
  /-- `disconnect` returns with the wrapper destroyed and the descriptor closed once, or throws
      with the wrapper as it was and the descriptor open, for a later `disconnect` to close. -/
  disconnects : ∀ {i w fd out k}, p.At i w → w.fd? = some fd →
    (Method.disconnect.run abi w).Returns Os.plain p.os out k →
    (out = ⟨.ok (), some { w with socket := none }, none⟩ ∧ fd ∉ k.opened ∧
      Os.closings fd k.log = Os.closings fd p.os.log + 1) ∨
    ∃ e, out = ⟨.error e, some w, none⟩ ∧ w.isDestroyed = false ∧ fd ∈ k.opened ∧
      Os.closings fd k.log = Os.closings fd p.os.log ∧
      ∃ k', (Method.disconnect.run abi w).Returns Os.plain k
        ⟨.ok (), some { w with socket := none }, none⟩ k'
  /-- Every method of a destroyed wrapper throws, without a system call. -/
  destroyed : ∀ {i w} {m : Method}, p.At i w → w.isDestroyed = true → m ≠ .finalise →
    ∃ e, ∀ out k, (m.run abi w).Returns Os.plain p.os out k ↔
      out = ⟨.error e, some w, none⟩ ∧ k = p.os
  /-- The finaliser of a destroyed wrapper does nothing. -/
  collected : ∀ {i w out k}, p.At i w → w.isDestroyed = true →
    (Method.finalise.run abi w).Returns Os.plain p.os out k → out = ⟨.ok (), none, none⟩ ∧ k = p.os
  /-- A destroyed wrapper stays destroyed. -/
  stays : ∀ {i w w' p'}, p.At i w → w.isDestroyed = true → Steps abi p p' → p'.At i w' →
    w'.isDestroyed = true

theorem socket_eq_none {w : NetLinkWrapper} (h : w.isDestroyed = true) : w.socket = none :=
  Option.isNone_iff_eq_none.mp h

section OneSocket

/-- The descriptor table after `new SocketUDP()` was handed descriptor 3. -/
def oneSocketOs : Os :=
  let start : Os := ⟨∅, fun _ => false, []⟩
  let addr := AddrInfo.loopback 7
  let k := start.next false (.getaddrinfo none (portStr 0) ⟨true, .inet, .dgram⟩) (.ok [addr])
  let k := k.next false (.socket .inet .dgram 17) (.ok 3)
  let k := k.next false (.setsockopt 3) (.ok ())
  let k := k.next false (.bind 3 addr.addr) (.ok ())
  let k := k.next false (.getsockname 3) (.ok addr.addr)
  k.next false (.freeaddrinfo 7) ()

def oneSocket : Process := ⟨oneSocketOs, [some (SocketUDP.on 3 9000).wrapper]⟩

theorem oneSocket_step (abi : Abi) : Step abi ⟨⟨∅, fun _ => false, []⟩, []⟩
    (.construct .udp true []) oneSocket := by
  have hrun : (SocketClass.udp.new true []).Runs Os.plain ⟨∅, fun _ => false, []⟩
      (.ok (SocketUDP.on 3 9000).wrapper) oneSocketOs := by
    refine ⟨.ok [AddrInfo.loopback 7], _, ⟨⟨nofun, nofun⟩, false, rfl⟩, ?_⟩
    refine ⟨.ok 3, _, ⟨⟨nofun, by rintro _ ⟨⟩; exact ⟨by decide, by decide⟩⟩, false, rfl⟩, ?_⟩
    refine ⟨.ok (), _, ⟨Os.possible_of_open rfl (by decide) nofun nofun, false, rfl⟩, ?_⟩
    refine ⟨.ok (), _, ⟨Os.possible_of_open rfl (by decide) nofun nofun, false, rfl⟩, ?_⟩
    refine ⟨.ok (AddrInfo.loopback 7).addr, _,
      ⟨Os.possible_of_open rfl (by decide) nofun nofun, false, rfl⟩, ?_⟩
    exact ⟨(), _, ⟨⟨nofun, nofun⟩, false, rfl⟩, rfl, rfl⟩
  exact @Step.construct abi ⟨_, []⟩ .udp true [] _ _ hrun

theorem oneSocket_reachable (abi : Abi) : Reachable abi oneSocket :=
  ⟨_, rfl, .single ⟨_, oneSocket_step abi⟩⟩

end OneSocket

end Process

end NetLink
