import NetLink.Proof.Modes

/-!
# Which calls can wait

A call that the kernel may keep waiting is one that moves data or makes a connection, on a
descriptor without `O_NONBLOCK`. What `isBlocking` shows is what the descriptor's mode is, in every
state a process can get to and whatever failed on the way (`Reachable.mode`): the wrapper's copy
is written last, after the kernel has agreed. So an object that says it does not block never makes
a call that waits (`never_waits`). And `disconnect` does not even when the object blocks: it reads
only what it has just been told is there.
-/

namespace NetLink

open Interaction NetLinkWrapper
open Socket (SendToVars)

/-- The calls that the kernel may keep waiting. The resolver, which may take its time as well, is
    not about a descriptor. -/
def Waits : Call → Prop
  | .connect .. | .accept _ | .send .. | .recv .. | .sendto .. | .recvfrom .. => True
  | _ => False

/-- A kernel with a record in which the last thing was that so many bytes can be read. -/
def Os.Announced (abi : Abi) (k : Os) (fd : Int) (cap : Nat) : Prop :=
  ∃ n, k.log.getLast? = some ⟨.ioctl fd, .ok n⟩ ∧ 0 < abi.reported n ∧ cap = (abi.reported n).toNat

section Calls

variable {w : NetLinkWrapper} {s : Socket} {k k₀ : Os}

/-- A call that can wait is on a descriptor that does not block. -/
def Patient (k : Os) (q : Call) (fd : Int) : Prop := Waits q → k.nonblock fd = true

theorem unwaiting_wp {α : Type} {t : Sys α} (ht : t.Asks fun q => ¬ Waits q) :
    t.wp (Os.kernel Patient) (fun _ _ => True) k :=
  ht.wp (fun _ _ _ hq _ _ hw => absurd hw hq) (fun _ _ _ _ _ _ _ => trivial) trivial

theorem accept_patient (hs : w.socket = some s) (hmode : k.nonblock s.socketHandler = true) :
    w.accept.wp (Os.kernel Patient) (fun _ _ => True) k := by
  unfold NetLinkWrapper.accept Socket.accept
  rw [hs]
  simp only
  split
  · exact trivial
  split
  · exact trivial
  · refine Os.wp_ask.mpr ⟨by rintro _ ⟨⟩; exact fun _ => hmode, ?_⟩
    intro r mode _
    -- the calls on the new descriptor do not wait
    apply unwaiting_wp
    cases r with
    | error e => exact trivial
    | ok x =>
      refine ⟨id, fun r => ?_⟩
      cases r with
      | error e => exact trivial
      | ok sin =>
        let a : Socket := ⟨x.2.host, [], getInPort x.2, getInPort sin, s.protocol, s.ipVer,
          .client, true, 0, x.1⟩
        have hset {f} (hf : ∀ y, (f y).Asks fun q => ¬ Waits q) :
            (a.setBlocking s.blocking >>= f : Sys (Except Exception (Option Socket))).Asks
              fun q => ¬ Waits q := (setBlocking_asks id (fun _ => id) _).bind hf
        refine Prog.Asks.bind (hset ?_) fun _ => trivial
        rintro ⟨o, a⟩
        cases o <;> exact trivial

/-- **A call that waits** is made on a descriptor that does not block, when the object's own does
    not. -/
theorem run_patient (abi : Abi) (m : Method) (w : NetLinkWrapper)
    (hmode : ∀ fd, w.fd? = some fd → k.nonblock fd = true) :
    (m.run abi w).wp (Os.kernel Patient) (fun _ _ => True) k := by
  cases hs : w.socket with
  | none =>
    rcases run_destroyed abi m hs with ⟨-, henter⟩ | ⟨-, e, henter⟩
    · exact Loop.wp_leaves henter trivial
    · exact Loop.wp_leaves henter trivial
  | some s =>
    have hown : k.nonblock s.socketHandler = true := hmode _ (fd?_eq hs)
    by_cases haccept : m = .accept
    · subst haccept
      exact Loop.wp_ofProg (Prog.wp_bind.mpr (accept_patient hs hown))
    by_cases hset : ∃ value, m = .setIsBlocking value
    · obtain ⟨value, rfl⟩ := hset
      refine (run_asks abi (.setIsBlocking value) hs).wp (fun _ q _ hq fd _ hwaits => ?_)
        (fun _ _ _ _ _ _ _ => trivial) trivial
      cases q <;> first | exact hq.elim | exact hwaits.elim
    · -- what the other methods ask changes no mode
      have hwp : (m.run abi w).wp (Os.kernel Patient)
          (fun _ k => k.nonblock s.socketHandler = true) k := by
        refine (run_asks abi m hs).wp (fun k q hk hq fd hfd hwaits => ?_) ?_ hown
        · rcases hq.own haccept with hquiet | rfl | ⟨-, hvalue⟩
          · rw [hquiet.2 fd hfd, hk]
          · exact hwaits.elim
          · exact absurd hvalue hset
        · rintro k q r _ hk hq ⟨-, mode, rfl⟩
          rcases hq.own haccept with hquiet | rfl | ⟨-, hvalue⟩
          · rw [((Os.Same.refl k).next hquiet.1 mode r).nonblock]
            exact hk
          · exact hk
          · exact absurd hvalue hset
      exact hwp.mono fun _ _ _ => trivial

/-! ## Disconnecting -/

/-- A call that can wait reads what the last call has announced. -/
def Forewarned (abi : Abi) (k : Os) (q : Call) (fd : Int) : Prop :=
  Waits q → ∃ cap, q = .recv fd cap ∧ k.Announced abi fd cap

theorem read_forewarned {abi : Abi} {cap : Nat} (h : k.Announced abi s.socketHandler cap) :
    (s.read cap).wp (Os.kernel (Forewarned abi)) (fun _ _ => True) k := by
  unfold Socket.read
  simp only [Prog.call_bind]
  refine Os.wp_ask.mpr ⟨by rintro _ ⟨⟩ -; exact ⟨cap, rfl, h⟩, fun r mode _ => ?_⟩
  cases r with
  | error e =>
    simp only
    cases checkReadError (lit "read") e <;> exact trivial
  | ok bytes => exact trivial

theorem disconnect_forewarned (abi : Abi) (w : NetLinkWrapper) :
    (w.disconnect abi).wp (Os.kernel (Forewarned abi)) (fun _ _ => True) k := by
  have hunwaiting {α : Type} {t : Sys α} {k : Os} (ht : t.Asks fun q => ¬ Waits q) :
      t.wp (Os.kernel (Forewarned abi)) (fun _ _ => True) k :=
    ht.wp (fun _ _ _ hq _ _ hw => absurd hw hq) (fun _ _ _ _ _ _ _ => trivial) trivial
  cases hs : w.socket with
  | none =>
    unfold NetLinkWrapper.disconnect
    rw [hs]
    exact trivial
  | some s =>
    have hdrain : (drain abi s).wp (Os.kernel (Forewarned abi)) (fun _ _ => True) k := by
      unfold drain
      split
      · refine Os.wp_ask.mpr ⟨fun _ _ => nofun, ?_⟩
        intro r mode _
        cases r with
        | error e => exact trivial
        | ok n =>
          show Prog.wp _ (if 0 < abi.reported n then _ else _) _ _
          split
          · rename_i hpos
            have hannounced : (k.next mode (.ioctl s.socketHandler) (.ok n)).Announced abi
                s.socketHandler (abi.reported n).toNat := ⟨n, List.getLast?_concat .., hpos, rfl⟩
            split
            · exact Os.wp_ask.mpr ⟨fun _ _ => nofun, fun r => Empty.elim r⟩
            · refine Prog.wp_bind.mpr ((read_forewarned hannounced).mono ?_)
              intro o k₁ _
              cases o <;> exact trivial
          · exact trivial
      · exact trivial
    unfold NetLinkWrapper.disconnect
    rw [hs]
    refine Prog.wp_bind.mpr (hdrain.mono ?_)
    intro o k₁ _
    cases o with
    | error e => exact trivial
    | ok =>
      simp only
      rw [disconnect_destructor]
      exact hunwaiting ⟨id, fun _ => trivial⟩

end Calls

/-! ## What the getter shows -/

/-- The descriptor of a wrapper is in the mode that the wrapper shows. -/
def ShowsMode (k : Os) (w : NetLinkWrapper) : Prop :=
  ∀ fd, w.fd? = some fd → k.nonblock fd = !w.isBlocking

theorem Agree.showsMode {k : Os} {w : NetLinkWrapper} (h : Agree k w) : ShowsMode k w := by
  intro fd hfd
  obtain ⟨s, hs, rfl⟩ := Option.map_eq_some_iff.mp hfd
  obtain ⟨hwrapper, hmode⟩ := h s hs
  rw [hmode, hwrapper]

/-- A method leaves its own wrapper with the mode it shows, also when the assignment fails. -/
theorem own_showsMode {w w' : NetLinkWrapper} {k k' : Os} {m : Method} {out : Outcome}
    (h : Effect w k m out k') (hown : ∀ fd, w.fd? = some fd → fd ∈ k.opened)
    (hmode : ShowsMode k w) (hw' : out.wrapper = some w') : ShowsMode k' w' := by
  cases h with
  | unchanged _ _ hkeep =>
    cases hw'
    intro fd hfd
    rw [hkeep fd (hown fd hfd), hmode fd hfd]
  | accepted _ _ h =>
    cases hw'
    intro fd hfd
    rw [h.keeps fd (hown fd hfd), hmode fd hfd]
  | stranded h =>
    cases hw'
    intro fd hfd
    rw [h.keeps fd (hown fd hfd), hmode fd hfd]
  | modeSet hs _ hnonblock =>
    cases hw'
    rintro fd ⟨⟩
    rw [hnonblock]
    exact Function.update_self ..
  | modeFailed hs _ hnonblock =>
    cases hw'
    rintro fd ⟨⟩
    have hshown := hmode _ (fd?_eq hs)
    rw [hnonblock]
    exact hshown
  | disconnected =>
    cases hw'
    exact nofun
  | finalised => cases hw'
  | collected => cases hw'

/-! ## Whole runs -/

namespace Process

variable {abi : Abi} {p p' : Process}

/-- Every wrapper shows the mode of its descriptor. -/
def AllShowMode (p : Process) : Prop := ∀ i w, p.At i w → ShowsMode p.os w

theorem AllShowMode.step {a : Action} (h : AllShowMode p) (hinv : Inv p) (hstep : Step abi p a p') :
    AllShowMode p' := by
  intro j w' hj
  cases hstep with
  | construct hrun =>
    obtain ⟨hkeep, hnew⟩ := new_mode (new_makes hrun)
    rcases at_append hj with hold | ⟨-, hr⟩
    · intro fd hfd
      exact (hkeep fd (hinv.opened hold hfd)).trans (h j w' hold fd hfd)
    · exact (hnew hr).showsMode
  | @call i w m out os hi hret =>
    have heffect := hinv.effect hi hret
    rcases at_call hj with ⟨-, hw'⟩ | ⟨hne, hold⟩ | ha
    · exact own_showsMode heffect (fun fd hfd => hinv.opened hi hfd) (h i w hi) hw'
    · intro fd hfd
      -- another wrapper's descriptor is another one
      have hother : w.fd? ≠ some fd := fun hw => hne (hinv.distinct hold hi hfd hw)
      exact (others_mode heffect fd (hinv.opened hold hfd) hother).trans (h j w' hold fd hfd)
    · obtain ⟨s, t, -, ht, hwrapper, -, hmode⟩ := accepted_mode heffect ha
      intro fd hfd
      obtain rfl : t.socketHandler = fd := Option.some.inj ((fd?_eq ht).symm.trans hfd)
      rw [hwrapper]
      exact hmode

theorem Reachable.allShowMode (h : Reachable abi p) : AllShowMode p := by
  obtain ⟨os, hlog, hsteps⟩ := h
  induction hsteps with
  | refl => exact fun _ _ hi => by cases hi
  | tail hsteps hstep ih =>
    obtain ⟨a, hstep⟩ := hstep
    exact ih.step (Reachable.inv ⟨os, hlog, hsteps⟩).1 hstep

/-- What `isBlocking` says about waiting. -/
structure SaysWhenItWaits (abi : Abi) (p : Process) : Prop where
  /-- A live wrapper shows the mode of its descriptor, whatever assignments have failed. -/
  mode : ∀ {i w fd}, p.At i w → w.fd? = some fd → p.os.nonblock fd = !w.isBlocking
  /-- When it says that it does not block, no method makes a call that can wait. -/
  calls : ∀ {i w m q k fd}, p.At i w → w.isBlocking = false → Calls abi w m p.os q k →
    q.fd? = some fd → Waits q → k.nonblock fd = true
  /-- `disconnect` makes none whatever it says: it reads as much as the kernel has just announced,
      and only when that is something. -/
  disconnects : ∀ {i w q k fd}, p.At i w → Calls abi w .disconnect p.os q k → q.fd? = some fd →
    Waits q → ∃ cap, q = .recv fd cap ∧ k.Announced abi fd cap

/-- **An object that says it does not block does not wait**, in every state a process can get to. -/
theorem never_waits (h : Reachable abi p) : SaysWhenItWaits abi p where
  mode hi hfd := h.allShowMode _ _ hi _ hfd
  calls := by
    rintro i w m q k fd hi hblocking ⟨v, next, hreaches⟩ hfd hwaits
    have hmode : ∀ fd, w.fd? = some fd → p.os.nonblock fd = true := by
      intro fd hfd
      rw [h.allShowMode i w hi fd hfd, hblocking]
      rfl
    exact (run_patient abi m w hmode).allowed (Os.reaches_of_plain hreaches) fd hfd hwaits
  disconnects := by
    rintro i w q k fd hi ⟨v, next, hreaches⟩ hfd hwaits
    have hwp : (Method.disconnect.run abi w).wp (Os.kernel (Forewarned abi)) (fun _ _ => True) p.os :=
      Loop.wp_ofProg (Prog.wp_bind.mpr (disconnect_forewarned abi w))
    exact hwp.allowed (Os.reaches_of_plain hreaches) fd hfd hwaits

theorem never_waits_one_socket :
    SaysWhenItWaits .lp64 oneSocket ∧ oneSocket.At 0 (SocketUDP.on 3 9000).wrapper :=
  ⟨never_waits (oneSocket_reachable _), rfl⟩

end Process

end NetLink
