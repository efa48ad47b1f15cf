import NetLink.Proof.Lifecycle

/-!
# The three copies of the blocking mode

Whether a socket blocks is kept in three places: in the wrapper, where the getter reads it; in
the socket, where `receive` looks; and in the descriptor, where the kernel does. The setter writes
the socket's copy first, then asks the kernel, and writes the wrapper's copy last, when the kernel
has agreed. So an assignment whose `F_SETFL` fails throws with the socket's copy already changed.

`coherent_iff` says that this is the only way to tell the copies apart: in a run in which no
assignment fails to change the mode they agree in every state, and the first step that does makes
them disagree.
-/

namespace NetLink

open Interaction NetLinkWrapper

/-- The three copies of a live wrapper's mode are the same. -/
def Agree (k : Os) (w : NetLinkWrapper) : Prop :=
  ∀ s, w.socket = some s → w.isBlocking = s.blocking ∧ k.nonblock s.socketHandler = !s.blocking

/-- An assignment of the other mode, in which `F_SETFL` fails. -/
def FailsToChange (w : NetLinkWrapper) (m : Method) (k k' : Os) : Prop :=
  ∃ s blocking flags e, m = .setIsBlocking (.boolean blocking) ∧ w.socket = some s ∧
    s.blocking ≠ blocking ∧
    (⟨.setfl s.socketHandler flags, .error e⟩ : SysEvent) ∈ k'.log.drop k.log.length

namespace Agree

variable {k k' : Os} {w : NetLinkWrapper}

theorem keeps (h : Agree k w) (hkeep : ∀ fd, w.fd? = some fd → k'.nonblock fd = k.nonblock fd) :
    Agree k' w := by
  intro s hs
  rw [hkeep _ (fd?_eq hs)]
  exact h s hs

theorem ofSocket {a : Socket} (h : k.nonblock a.socketHandler = !a.blocking) :
    Agree k (.ofSocket a) := by
  rintro _ ⟨⟩
  exact ⟨rfl, h⟩

end Agree

/-! ## What a method does to the copies -/

section Methods

variable {w w' a : NetLinkWrapper} {k k' : Os} {m : Method} {out : Outcome}

theorem others_mode (h : Effect w k m out k') :
    ∀ fd ∈ k.opened, w.fd? ≠ some fd → k'.nonblock fd = k.nonblock fd := by
  intro fd hfd hne
  cases h with
  | unchanged _ _ hkeep => exact hkeep fd hfd
  | accepted _ _ h => exact h.keeps fd hfd
  | stranded h => exact h.keeps fd hfd
  | modeSet hs _ hnonblock =>
    rw [hnonblock]
    refine Function.update_of_ne ?_ _ _
    rintro rfl
    exact hne (fd?_eq hs)
  | modeFailed _ _ hnonblock => exact congrFun hnonblock fd
  | disconnected _ h => exact congrFun h.nonblock fd
  | finalised _ h => exact congrFun h.nonblock fd
  | collected => rfl

theorem blocking_eq_of_failed {s : Socket} {blocking : Bool} {r flags e} (hs : w.socket = some s)
    (hlog : k'.log =
      k.log ++ [⟨.getfl s.socketHandler, r⟩, ⟨.setfl s.socketHandler flags, .error e⟩])
    (h : ¬ FailsToChange w (.setIsBlocking (.boolean blocking)) k k') : s.blocking = blocking := by
  by_contra hne
  refine h ⟨s, blocking, flags, e, rfl, hs, hne, ?_⟩
  rw [hlog, List.drop_left]
  exact .tail _ (.head _)

/-- The wrapper's own copies still agree, unless the method failed to change the mode. -/
theorem own_agree (h : Effect w k m out k') (hown : ∀ fd, w.fd? = some fd → fd ∈ k.opened)
    (hagree : Agree k w) (hchange : ¬ FailsToChange w m k k') (hw' : out.wrapper = some w') :
    Agree k' w' := by
  cases h with
  | unchanged _ _ hkeep =>
    cases hw'
    exact hagree.keeps fun fd hfd => hkeep fd (hown fd hfd)
  | accepted _ _ h =>
    cases hw'
    exact hagree.keeps fun fd hfd => h.keeps fd (hown fd hfd)
  | stranded h =>
    cases hw'
    exact hagree.keeps fun fd hfd => h.keeps fd (hown fd hfd)
  | modeSet _ _ hnonblock =>
    cases hw'
    rintro _ ⟨⟩
    exact ⟨rfl, hnonblock ▸ Function.update_self ..⟩
  | @modeFailed s blocking _ _ _ _ _ hs _ hnonblock hlog =>
    have hsame : s.blocking = blocking := blocking_eq_of_failed hs hlog hchange
    cases hw'
    rintro _ ⟨⟩
    rw [hnonblock, ← hsame]
    exact hagree s hs
  | disconnected =>
    cases hw'
    exact nofun
  | finalised => cases hw'
  | collected => cases hw'

theorem accepted_mode (h : Effect w k m out k') (ha : out.accepted = some a) :
    ∃ s t, w.socket = some s ∧ a.socket = some t ∧ a.isBlocking = s.blocking ∧
      t.blocking = s.blocking ∧ k'.nonblock t.socketHandler = !s.blocking := by
  cases h with
  | @accepted s t _ hs hfrom h =>
    cases ha
    exact ⟨s, t, hs, rfl, hfrom.blocking, hfrom.blocking, h.mode⟩
  | _ => cases ha

theorem new_mode {cls : SocketClass} {r : Except JsError NetLinkWrapper}
    (h : Makes cls.Opens false k (r.map some) k') :
    (∀ fd ∈ k.opened, k'.nonblock fd = k.nonblock fd) ∧
      ∀ {a}, r.toOption = some a → Agree k' a := by
  generalize hr : r.map some = r' at h
  cases h with
  | @made _ s hs h =>
    refine ⟨h.keeps, ?_⟩
    cases r with
    | error e => cases hr
    | ok a =>
      cases hr
      rintro a' ⟨⟩
      refine .ofSocket ?_
      rw [h.mode, hs.blocking]
      rfl
  | nothing h => cases r <;> cases hr
  | refused h =>
    cases r <;> cases hr
    exact ⟨h.keeps, nofun⟩
  | stranded h =>
    cases r <;> cases hr
    exact ⟨h.keeps, nofun⟩

theorem setIsBlocking_returns {abi : Abi} {s : Socket} (hs : w.socket = some s) {blocking : Bool}
    (h : ((Method.setIsBlocking (.boolean blocking)).run abi w).Returns Os.plain k out k') :
    ∃ r flags, (out.result = .ok () ∧
        k'.log = k.log ++ [⟨.getfl s.socketHandler, r⟩, ⟨.setfl s.socketHandler flags, .ok ()⟩]) ∨
      ∃ err e, out = ⟨.error err, some { w with socket := some { s with blocking } }, none⟩ ∧
        k'.nonblock = k.nonblock ∧
        k'.log = k.log ++ [⟨.getfl s.socketHandler, r⟩, ⟨.setfl s.socketHandler flags, .error e⟩] := by
  obtain ⟨x, k₁, hrun, rfl, rfl⟩ := Prog.runs_bind.mp (Loop.returns_ofProg.mp h)
  obtain ⟨o, ⟨-, -, hset⟩, hx⟩ := (setterIsBlocking_wp hs fun _ _ _ => trivial).runs hrun
  cases o with
  | ok =>
    subst hx
    obtain ⟨-, -, r, flags, hlog⟩ := hset
    exact ⟨r, flags, .inl ⟨rfl, hlog⟩⟩
  | error err =>
    subst hx
    obtain ⟨hnonblock, -, r, flags, e, hlog⟩ := hset
    exact ⟨r, flags, .inr ⟨_, e, rfl, hnonblock, hlog⟩⟩

theorem failsToChange_returns {abi : Abi} (h : FailsToChange w m k k')
    (hret : (m.run abi w).Returns Os.plain k out k') :
    ∃ s blocking err, w.socket = some s ∧ s.blocking ≠ blocking ∧
      out = ⟨.error err, some { w with socket := some { s with blocking } }, none⟩ := by
  obtain ⟨s, blocking, flags, e, rfl, hs, hne, hmem⟩ := h
  obtain ⟨r, flags', ⟨-, hlog⟩ | ⟨err, e', rfl, -, -⟩⟩ := setIsBlocking_returns hs hret
  · rw [hlog, List.drop_left] at hmem
    simp at hmem
  · exact ⟨s, blocking, err, hs, hne, rfl⟩

end Methods

/-! ## Runs -/

namespace Process

/-- The three copies are the same in every wrapper. -/
def Coherent (p : Process) : Prop := ∀ i w, p.At i w → Agree p.os w

/-- No assignment fails to change the mode in this step. -/
def Smooth (p : Process) : Action → Process → Prop
  | .call i m, p' => ∀ w, p.At i w → ¬ FailsToChange w m p.os p'.os
  | .construct .., _ => True

abbrev SmoothSteps (abi : Abi) : Process → Process → Prop :=
  Relation.ReflTransGen fun p p' => ∃ a, Step abi p a p' ∧ Smooth p a p'

/-- What can be got to in such steps from a process that has made no wrapper and no call. -/
def SmoothlyReachable (abi : Abi) (p : Process) : Prop :=
  ∃ os : Os, os.log = [] ∧ SmoothSteps abi ⟨os, []⟩ p

variable {abi : Abi} {p p' : Process} {a : Action}

theorem SmoothlyReachable.reachable (h : SmoothlyReachable abi p) : Reachable abi p := by
  obtain ⟨os, hlog, hsteps⟩ := h
  refine ⟨os, hlog, Relation.ReflTransGen.mono ?_ _ _ hsteps⟩
  exact fun _ _ ⟨a, hstep, _⟩ => ⟨a, hstep⟩

/-- **A smooth step** keeps the copies together. -/
theorem Coherent.step (h : Coherent p) (hinv : Inv p) (hstep : Step abi p a p')
    (hsmooth : Smooth p a p') : Coherent p' := by
  intro j w' hj
  cases hstep with
  | construct hrun =>
    obtain ⟨hkeep, hnew⟩ := new_mode (new_makes hrun)
    rcases at_append hj with hold | ⟨-, hr⟩
    · exact (h j w' hold).keeps fun fd hfd => hkeep fd (hinv.opened hold hfd)
    · exact hnew hr
  | @call i w m out os hi hret =>
    have heffect := hinv.effect hi hret
    rcases at_call hj with ⟨-, hw'⟩ | ⟨hne, hold⟩ | ha
    · exact own_agree heffect (fun fd hfd => hinv.opened hi hfd) (h i w hi) (hsmooth w hi) hw'
    · refine (h j w' hold).keeps ?_
      intro fd hfd
      -- another wrapper's descriptor is another one
      have hother : w.fd? ≠ some fd := fun hw => hne (hinv.distinct hold hi hfd hw)
      exact others_mode heffect fd (hinv.opened hold hfd) hother
    · obtain ⟨s, t, -, ht, hwrapper, hsocket, hmode⟩ := accepted_mode heffect ha
      intro t' ht'
      cases ht.symm.trans ht'
      exact ⟨hwrapper.trans hsocket.symm, hsocket.symm ▸ hmode⟩

theorem SmoothlyReachable.coherent (h : SmoothlyReachable abi p) : Coherent p := by
  obtain ⟨os, hlog, hsteps⟩ := h
  induction hsteps with
  | refl => exact fun _ _ hi => by cases hi
  | tail hsteps hstep ih =>
    obtain ⟨a, hstep, hsmooth⟩ := hstep
    exact ih.step (SmoothlyReachable.reachable ⟨os, hlog, hsteps⟩).inv.1 hstep hsmooth

theorem Coherent.smooth (h : Coherent p) (hstep : Step abi p a p') (h' : Coherent p') :
    Smooth p a p' := by
  cases hstep with
  | construct => trivial
  | @call i w m out os hi hret =>
    intro w' hi' hfails
    cases hi.symm.trans hi'
    -- the socket's copy has the new mode and the wrapper's the old one
    obtain ⟨s, blocking, err, hs, hne, rfl⟩ := failsToChange_returns hfails hret
    have hlen : i < p.wrappers.length := (List.getElem?_eq_some_iff.mp hi).1
    have hbefore : w.isBlocking = s.blocking := (h i w hi s hs).1
    have hafter : w.isBlocking = blocking := by
      refine (h' i { w with socket := some { s with blocking } } ?_ { s with blocking } rfl).1
      rw [At, List.getElem?_append_left (by simpa using hlen), List.getElem?_set_self hlen]
    exact hne (hbefore.symm.trans hafter)

/-- An assignment that throws leaves everything as it was, unless it fails to change the mode. -/
theorem throws_iff (hinv : Inv p) {i : Nat} {w : NetLinkWrapper} (hi : p.At i w) {value : JsValue}
    {e : JsError} {o : Option NetLinkWrapper} {k : Os}
    (hret : ((Method.setIsBlocking value).run abi w).Returns Os.plain p.os ⟨.error e, o, none⟩ k) :
    (o = some w ∧ ∀ fd ∈ p.os.opened, k.nonblock fd = p.os.nonblock fd) ↔
      ¬ FailsToChange w (.setIsBlocking value) p.os k := by
  constructor
  · rintro ⟨rfl, -⟩ hfails
    obtain ⟨s, blocking, err, hs, hne, hout⟩ := failsToChange_returns hfails hret
    have hw : w = { w with socket := some { s with blocking } } :=
      Option.some.inj (congrArg Outcome.wrapper hout)
    have hsocket : some s = some { s with blocking } := by
      rw [← hs]
      exact congrArg NetLinkWrapper.socket hw
    exact hne (congrArg Socket.blocking (Option.some.inj hsocket))
  · intro hfails
    cases hinv.effect hi hret with
    | unchanged _ _ hkeep => exact ⟨rfl, hkeep⟩
    | modeFailed hs _ hnonblock hlog =>
      obtain rfl := blocking_eq_of_failed hs hlog hfails
      rw [← hs]
      exact ⟨rfl, fun fd _ => congrFun hnonblock fd⟩

/-- **The blocking mode.** In a run in which no assignment fails to change the mode, the three
    copies are the same in every wrapper, an assignment that throws changes nothing, and an
    accepted connection starts with the listener's mode; and a step that does not keep to this
    breaks it. -/
theorem coherent_iff (h : SmoothlyReachable abi p) :
    Coherent p ∧
    (∀ a p', Step abi p a p' → (Coherent p' ↔ Smooth p a p')) ∧
    (∀ i w value e o k, p.At i w →
      ((Method.setIsBlocking value).run abi w).Returns Os.plain p.os ⟨.error e, o, none⟩ k →
      ((o = some w ∧ ∀ fd ∈ p.os.opened, k.nonblock fd = p.os.nonblock fd) ↔
        ¬ FailsToChange w (.setIsBlocking value) p.os k)) ∧
    ∀ i w a k, p.At i w → (Method.accept.run abi w).Returns Os.plain p.os ⟨.ok (), some w, some a⟩ k →
      ∃ s t, w.socket = some s ∧ a.socket = some t ∧ a.isBlocking = s.blocking ∧
        t.blocking = s.blocking ∧ k.nonblock t.socketHandler = !s.blocking := by
  have hinv : Inv p := h.reachable.inv.1
  refine ⟨h.coherent, fun a p' hstep => ⟨h.coherent.smooth hstep, h.coherent.step hinv hstep⟩,
    fun i w value e o k hi hret => throws_iff hinv hi hret, fun i w a k hi hret => ?_⟩
  exact accepted_mode (hinv.effect hi hret) rfl

theorem coherent_one_socket : Coherent oneSocket ∧ oneSocket.At 0 (SocketUDP.on 3 9000).wrapper :=
  ⟨(coherent_iff ⟨_, rfl, .single ⟨_, oneSocket_step .lp64, trivial⟩⟩).1, rfl⟩

/-- `F_SETFL` fails when a socket is told not to block. The getter and the kernel still say that
    it blocks; the socket's own copy says it does not. -/
theorem setIsBlocking_tears_apart :
    let w := (SocketUDP.on 3 9000).wrapper
    let w' := { w with socket := some { (SocketUDP.on 3 9000).socket with blocking := false } }
    ∃ p', Reachable .lp64 oneSocket ∧
      Step .lp64 oneSocket (.call 0 (.setIsBlocking (.boolean false))) p' ∧
      oneSocket.At 0 w ∧ p'.At 0 w' ∧ w' ≠ w ∧ p'.os.nonblock 3 = false ∧ ¬ Coherent p' := by
  intro w w'
  let k := oneSocketOs.next false (.getfl 3) (.ok 0)
  let k' := k.next false (.setfl 3 (0 ||| oNonblock)) (.error (.other 22))
  let err := throwJsError ⟨.errorIoctl, lit "Socket::blocking: ioctl error"⟩
  have hrun : (w.setterIsBlocking (.boolean false)).Runs Os.plain oneSocketOs (.error err, w') k' := by
    refine ⟨.ok 0, k, ⟨Os.possible_of_open rfl (by decide) nofun nofun, false, rfl⟩, ?_⟩
    exact ⟨.error (.other 22), k', ⟨Os.possible_of_open rfl (by decide) (by decide) nofun,
      false, rfl⟩, rfl, rfl⟩
  have hret : ((Method.setIsBlocking (.boolean false)).run .lp64 w).Returns Os.plain oneSocketOs
      ⟨.error err, some w', none⟩ k' :=
    Loop.returns_ofProg.mpr (Prog.runs_bind.mpr ⟨_, _, hrun, rfl, rfl⟩)
  refine ⟨_, oneSocket_reachable _, .call rfl hret, rfl, rfl, by decide, rfl, ?_⟩
  intro h
  have htrue : w'.isBlocking = false := (h 0 w' rfl _ rfl).1
  exact absurd htrue (by decide)

end Process

end NetLink
