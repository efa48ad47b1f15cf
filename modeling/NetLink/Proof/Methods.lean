import NetLink.Proof.Rounds
import NetLink.Proof.Kinds
import NetLink.Kernel.Os

/-!
# What a method can do to the descriptor table

Every method of a wrapper, the `isBlocking` setter and the finaliser, run against the kernel of
`Kernel/Os.lean`. Only three of them change the table: `accept` adds a descriptor, `disconnect`
and the finaliser close the wrapper's own, and the setter changes its mode. The data methods ask
nothing but quiet calls on the wrapper's own descriptor.

Each method has one lemma that says everything it can do, failures included; what is proved
about whole runs later uses these and never the code.
-/

namespace NetLink

open Interaction NetLinkWrapper
open Socket (SendToVars)

/-! ## The data methods -/

section Quiet

variable {s : Socket}

theorem call_quiet {q : Call} {fd : Int} (hq : Os.Quiet q) (hfd : q.fd? = some fd) :
    (Prog.call q : Sys q.Ret).Asks (Os.QuietOn fd) :=
  ⟨⟨hq, fun _ h => Option.some.inj (h.symm.trans hfd)⟩, fun _ => trivial⟩

theorem releaseEach_quiet (fd : Int) (ps : List Ptr) :
    (ReleaseManager.releaseEach Sys.freeaddrinfo ps).Asks (Os.QuietOn fd) := by
  induction ps with
  | nil => exact trivial
  | cons p ps ih =>
    cases p with
    | none => exact ih
    | some p => exact ⟨⟨trivial, nofun⟩, fun _ => ih⟩

theorem nextReadSize_quiet (abi : Abi) : (s.nextReadSize abi).Asks (Os.QuietOn s.socketHandler) := by
  refine ⟨⟨trivial, by rintro _ ⟨⟩; rfl⟩, ?_⟩
  intro r
  cases r <;> exact trivial

theorem read_quiet (bufferSize : Nat) : (s.read bufferSize).Asks (Os.QuietOn s.socketHandler) := by
  unfold Socket.read
  refine (call_quiet (q := .recv s.socketHandler bufferSize) trivial rfl).bind ?_
  intro r
  cases r with
  | error e =>
    simp only
    split <;> exact trivial
  | ok bytes => exact trivial

theorem readFrom_quiet (bufferSize : Nat) :
    (s.readFrom bufferSize).Asks (Os.QuietOn s.socketHandler) := by
  unfold Socket.readFrom
  split
  · exact trivial
  · refine (call_quiet (q := .recvfrom s.socketHandler bufferSize) trivial rfl).bind ?_
    intro r
    cases r with
    | error e =>
      simp only
      split <;> exact trivial
    | ok x => exact trivial

theorem receiveLoop_quiet (abi : Abi) : (receiveLoop abi s).Asks (Os.QuietOn s.socketHandler) where
  enter := by
    refine (nextReadSize_quiet abi).bind ?_
    intro r
    cases r with
    | error e => exact trivial
    | ok n =>
      simp only
      split <;> exact trivial
  body ss := by
    refine (read_quiet readSize).bind ?_
    intro r
    cases r with
    | error e => exact trivial
    | ok x =>
      simp only
      split <;> exact trivial

theorem receiveFromLoop_quiet : (receiveFromLoop s).Asks (Os.QuietOn s.socketHandler) where
  enter := trivial
  body v := by
    refine (readFrom_quiet readSize).bind ?_
    intro r
    cases r with
    | error e => exact trivial
    | ok x =>
      simp only
      split
      · split <;> split <;> exact trivial
      · exact trivial

theorem sendTo_quiet (stack : Ptr) (buffer hostTo : StdString) (portTo : Nat) :
    (s.sendTo stack buffer hostTo portTo).Asks (Os.QuietOn s.socketHandler) where
  enter := by
    unfold Socket.sendTo
    simp only
    split
    · exact trivial
    split
    · exact trivial
    · refine ⟨⟨trivial, by simp [Call.fd?]⟩, ?_⟩
      intro r
      cases r with
      | error e =>
        simp only [Socket.sendTo.addrInfoReleaser, ReleaseManager.destroy_addVar]
        exact (releaseEach_quiet _ _).bind fun _ => trivial
      | ok res => exact trivial
  body v := by
    unfold Socket.sendTo
    simp only [Socket.sendTo.addrInfoReleaser, ReleaseManager.destroy_addVar]
    split
    · split
      · exact ⟨⟨trivial, by simp [Call.fd?]⟩, fun r => Empty.elim r⟩
      · refine ⟨⟨trivial, by rintro _ ⟨⟩; rfl⟩, ?_⟩
        intro r
        show Prog.Asks _ (if intStatus r = -1 then _ else _)
        split
        · exact (releaseEach_quiet _ _).bind fun _ => trivial
        · exact trivial
    · exact (releaseEach_quiet _ _).bind fun _ => trivial

theorem sendLoop_quiet (buffer : StdString) :
    (s.sendLoop buffer).Asks (Os.QuietOn s.socketHandler) where
  enter := trivial
  body sentData := by
    unfold Socket.sendLoop
    simp only
    split
    · refine ⟨⟨trivial, by rintro _ ⟨⟩; rfl⟩, ?_⟩
      intro r
      show Prog.Asks _ (if intStatus r = -1 then _ else _)
      split <;> exact trivial
    · exact trivial

theorem send_quiet (stack : Ptr) (buffer : StdString) :
    (s.send stack buffer).Asks (Os.QuietOn s.socketHandler) := by
  unfold Socket.send
  split
  · exact Loop.asks_done _
  split
  · exact (sendTo_quiet stack buffer s.hostTo s.portTo).inl
  · exact (sendLoop_quiet buffer).inr

theorem drain_quiet (abi : Abi) : (drain abi s).Asks (Os.QuietOn s.socketHandler) := by
  unfold drain
  split
  · refine (nextReadSize_quiet abi).bind ?_
    intro r
    cases r with
    | error e => exact trivial
    | ok n =>
      simp only
      split
      · split
        · exact ⟨⟨trivial, by simp [Call.fd?]⟩, fun r => Empty.elim r⟩
        · refine (read_quiet _).bind ?_
          intro r
          cases r <;> exact trivial
      · exact trivial
  · exact trivial

end Quiet

/-! ## Changing the mode -/

/-- What `setBlocking` does: the field is written whatever happens, and the descriptor gets the
    mode unless `F_SETFL` fails, which leaves it as it was. -/
def SetBlocking (s : Socket) (blocking : Bool) (k : Os) (x : Except Exception Unit × Socket)
    (k' : Os) : Prop :=
  x.2 = { s with blocking } ∧ k'.opened = k.opened ∧
    match x.1 with
    | .ok () =>
      k'.nonblock = Function.update k.nonblock s.socketHandler (!blocking) ∧
        Os.strandings k'.log = Os.strandings k.log ∧
        ∃ r flags, k'.log =
          k.log ++ [⟨.getfl s.socketHandler, r⟩, ⟨.setfl s.socketHandler flags, .ok ()⟩]
    | .error _ =>
      k'.nonblock = k.nonblock ∧ Os.strandings k'.log = Os.strandings k.log + 1 ∧
        ∃ r flags e, k'.log =
          k.log ++ [⟨.getfl s.socketHandler, r⟩, ⟨.setfl s.socketHandler flags, .error e⟩]

theorem setBlocking_wp {may : Os → Call → Int → Prop} {s : Socket} {blocking : Bool} {k : Os}
    (hmay : ∀ (k' : Os) q, k'.opened = k.opened → may k' q s.socketHandler) :
    (s.setBlocking blocking).wp (Os.kernel may) (SetBlocking s blocking k) k := by
  have hasked (k' : Os) (q : Call) (hk : k'.opened = k.opened)
      (hfd : q.fd? = some s.socketHandler) : ∀ fd ∈ q.fd?, may k' q fd := by
    intro fd h
    obtain rfl : s.socketHandler = fd := Option.some.inj (hfd.symm.trans h)
    exact hmay k' q hk
  unfold Socket.setBlocking
  refine Os.wp_ask.mpr ⟨hasked k _ rfl rfl, ?_⟩
  intro r mode _
  cases blocking with
  | true =>
    refine Os.wp_ask.mpr ⟨hasked _ _ rfl rfl, ?_⟩
    intro r' mode' _
    cases r' with
    | error e =>
      refine ⟨rfl, rfl, rfl, ?_, r, _, e, List.append_assoc ..⟩
      simp [Os.strandings]
    | ok =>
      refine ⟨rfl, rfl, ?_, ?_, r, _, List.append_assoc ..⟩
      · exact congrArg (Function.update _ _) (Os.hasNonblock_and_not _)
      · simp [Os.strandings]
  | false =>
    refine Os.wp_ask.mpr ⟨hasked _ _ rfl rfl, ?_⟩
    intro r' mode' _
    cases r' with
    | error e =>
      refine ⟨rfl, rfl, rfl, ?_, r, _, e, List.append_assoc ..⟩
      simp [Os.strandings]
    | ok =>
      refine ⟨rfl, rfl, ?_, ?_, r, _, List.append_assoc ..⟩
      · exact congrArg (Function.update _ _) (Os.hasNonblock_or _)
      · simp [Os.strandings]

/-- What the `isBlocking` setter does to a live wrapper. When it throws, the copy in the wrapper
    is not written, but the field of the socket is. -/
theorem setterIsBlocking_wp {may : Os → Call → Int → Prop} {obj : NetLinkWrapper} {s : Socket}
    (hs : obj.socket = some s) {blocking : Bool} {k : Os}
    (hmay : ∀ (k' : Os) q, k'.opened = k.opened → may k' q s.socketHandler) :
    (obj.setterIsBlocking (.boolean blocking)).wp (Os.kernel may) (fun x k' =>
      ∃ o, SetBlocking s blocking k (o, { s with blocking }) k' ∧
        match o with
        | .ok () => x = (.ok (), { obj with socket := some { s with blocking }, blocking })
        | .error err =>
          x = (.error (throwJsError err), { obj with socket := some { s with blocking } })) k := by
  unfold setterIsBlocking
  rw [hs]
  refine Prog.wp_bind.mpr ((setBlocking_wp hmay).mono ?_)
  rintro ⟨o, s'⟩ k' ⟨(rfl : s' = _), h⟩
  cases o with
  | ok => exact ⟨.ok (), ⟨rfl, h⟩, rfl⟩
  | error err => exact ⟨.error err, ⟨rfl, h⟩, rfl⟩

theorem setBlocking_asks {P : Call → Prop} {s : Socket} (hget : P (.getfl s.socketHandler))
    (hset : ∀ flags, P (.setfl s.socketHandler flags)) (blocking : Bool) :
    (s.setBlocking blocking).Asks P := by
  unfold Socket.setBlocking
  refine ⟨hget, fun r => ?_⟩
  cases blocking with
  | true =>
    refine ⟨hset _, fun r => ?_⟩
    cases r <;> exact trivial
  | false =>
    refine ⟨hset _, fun r => ?_⟩
    cases r <;> exact trivial

/-! ## Closing -/

/-- `disconnect()` and then `~Socket()`: one `close`, because the first forgets the descriptor. -/
theorem disconnect_destructor {α : Type} (s : Socket) (f : Unit → Sys α) :
    (s.disconnect >>= fun s => s.destructor >>= f) =
      .ask (.close s.socketHandler) fun _ => f () := by
  unfold Socket.disconnect Socket.destructor
  simp

theorem destructor_wp {may : Os → Call → Int → Prop} {obj : NetLinkWrapper} {s : Socket}
    (hs : obj.socket = some s) {k : Os} (hmay : may k (.close s.socketHandler) s.socketHandler) :
    obj.destructor.wp (Os.kernel may) (fun _ => Os.Closed s.socketHandler k) k := by
  have hcode : obj.destructor = .ask (.close s.socketHandler) fun _ => .ret () := by
    rw [← disconnect_destructor s fun _ => .ret ()]
    unfold NetLinkWrapper.destructor
    rw [hs]
    simp [Socket.disconnect, Socket.destructor]
  rw [hcode]
  refine Os.wp_ask.mpr ⟨?_, fun r mode _ => (Os.Same.refl k).close _ mode r⟩
  rintro _ ⟨⟩
  exact hmay

/-- **`disconnect`** on a live wrapper: it returns with the descriptor closed once and the socket
    gone, or throws with nothing changed. -/
theorem disconnect_wp {may : Os → Call → Int → Prop} (abi : Abi) {obj : NetLinkWrapper} {s : Socket}
    (hs : obj.socket = some s) {k : Os}
    (hmay : ∀ (k' : Os) q, k'.opened = k.opened → may k' q s.socketHandler) :
    (obj.disconnect abi).wp (Os.kernel may) (fun x k' =>
      (x = (.ok (), { obj with socket := none }) ∧ Os.Closed s.socketHandler k k') ∨
        ((∃ err, x = (.error err, obj)) ∧ Os.Same k k')) k := by
  unfold NetLinkWrapper.disconnect
  rw [hs]
  refine Prog.wp_bind.mpr ((Os.quiet_wp (drain_quiet abi)
    (fun k' q hk => hmay k' q hk.opened) (Os.Same.refl k)).mono fun o k' hk => ?_)
  cases o with
  | error err => exact .inr ⟨⟨_, rfl⟩, hk⟩
  | ok =>
    simp only
    rw [disconnect_destructor]
    refine Os.wp_ask.mpr ⟨?_, fun r mode _ => .inl ⟨rfl, hk.close _ mode r⟩⟩
    rintro _ ⟨⟩
    exact hmay k' _ hk.opened

/-! ## Making sockets -/

/-- What a call that makes a socket can do: give a wrapper of a socket that satisfies `P`, with
    a new descriptor in the mode `mode`; give nothing; or throw, before or after a descriptor was
    handed out. -/
inductive Makes (P : Socket → Prop) (mode : Bool) (k : Os) :
    Except JsError (Option NetLinkWrapper) → Os → Prop
  | made {k' : Os} {a : Socket} : P a → Os.Opened a.socketHandler mode 0 k k' →
      Makes P mode k (.ok (some (.ofSocket a))) k'
  | nothing {k' : Os} : Os.Restored k k' → Makes P mode k (.ok none) k'
  | refused {k' : Os} {e : JsError} : Os.Restored k k' → Makes P mode k (.error e) k'
  | stranded {k' : Os} {e : JsError} {fd : Int} {mode' : Bool} : Os.Opened fd mode' 1 k k' →
      Makes P mode k (.error e) k'

/-- What `accept` makes of a listening socket. -/
structure AcceptedFrom (s a : Socket) : Prop where
  protocol : a.protocol = .tcp
  type : a.type = .client
  blocking : a.blocking = s.blocking

/-- **`accept`** on a live wrapper. -/
theorem accept_wp {may : Os → Call → Int → Prop} {obj : NetLinkWrapper} {s : Socket}
    (hs : obj.socket = some s) {k : Os} (hown : ∀ q, may k q s.socketHandler)
    (hnew : ∀ (fd : Int) (k' : Os) q, k.Fresh fd → k'.opened = insert fd k.opened → may k' q fd) :
    obj.accept.wp (Os.kernel may) (Makes (AcceptedFrom s) (!s.blocking) k) k := by
  unfold NetLinkWrapper.accept Socket.accept
  rw [hs]
  simp only
  split
  · exact .refused (Os.Same.refl k).restored
  rename_i htcp
  split
  · exact .refused (Os.Same.refl k).restored
  · refine Os.wp_ask.mpr ⟨by rintro _ ⟨⟩; exact hown _, ?_⟩
    intro r mode hr
    cases r with
    | error e => exact .nothing ⟨rfl, fun _ _ => rfl, by simp [Os.strandings]⟩
    | ok x =>
      obtain ⟨fd, addr⟩ := x
      have hfresh : k.Fresh fd := hr.fresh fd rfl
      refine Os.wp_ask.mpr ⟨by rintro _ ⟨⟩; exact hnew fd _ _ hfresh rfl, ?_⟩
      intro r mode₁ _
      cases r with
      | error e =>
        -- The connection is accepted, but no object comes to hold its descriptor.
        exact .stranded ⟨hfresh, rfl, rfl, Os.update_keeps hfresh _, by simp [Os.strandings]⟩
      | ok sin =>
        let a : Socket := ⟨addr.host, [], getInPort addr, getInPort sin, s.protocol, s.ipVer,
          .client, true, 0, fd⟩
        apply Prog.wp_bind.mpr
        show (a.setBlocking s.blocking >>= _).wp _ _ _
        refine Prog.wp_bind.mpr ((setBlocking_wp fun k' q hk => hnew fd k' q hfresh hk).mono ?_)
        rintro ⟨o, a⟩ k' ⟨(rfl : a = _), hopened, h⟩
        cases o with
        | ok =>
          obtain ⟨hnonblock, hstrandings, -⟩ := h
          have hmodes : k'.nonblock = Function.update k.nonblock fd (!s.blocking) :=
            hnonblock.trans (Function.update_idem ..)
          refine .made ⟨not_not.mp htcp, rfl, rfl⟩ ⟨hfresh, hopened, ?_, ?_, ?_⟩
          · rw [hmodes]
            exact Function.update_self ..
          · rw [hmodes]
            exact Os.update_keeps hfresh _
          · rw [hstrandings]
            simp [Os.strandings]
        | error err =>
          obtain ⟨hnonblock, hstrandings, -⟩ := h
          refine .stranded ⟨hfresh, hopened, rfl, ?_, ?_⟩
          · rw [hnonblock]
            exact Os.update_keeps hfresh _
          · rw [hstrandings]
            simp [Os.strandings]

theorem accept_asks {P : Call → Prop} {obj : NetLinkWrapper} {s : Socket}
    (hs : obj.socket = some s) (haccept : P (.accept s.socketHandler))
    (hnew : ∀ fd, P (.getsockname fd) ∧ P (.getfl fd) ∧ ∀ flags, P (.setfl fd flags)) :
    obj.accept.Asks P := by
  unfold NetLinkWrapper.accept Socket.accept
  rw [hs]
  simp only
  split
  · exact trivial
  split
  · exact trivial
  · refine ⟨haccept, fun r => ?_⟩
    cases r with
    | error e => exact trivial
    | ok x =>
      obtain ⟨hgetsockname, hgetfl, hsetfl⟩ := hnew x.1
      refine ⟨hgetsockname, fun r => ?_⟩
      cases r with
      | error e => exact trivial
      | ok sin =>
        let a : Socket := ⟨x.2.host, [], getInPort x.2, getInPort sin, s.protocol, s.ipVer,
          .client, true, 0, x.1⟩
        have hset {f} (hf : ∀ y, (f y).Asks P) :
            (a.setBlocking s.blocking >>= f : Sys (Except Exception (Option Socket))).Asks P :=
          (setBlocking_asks hgetfl hsetfl _).bind hf
        refine Prog.Asks.bind (hset ?_) fun _ => trivial
        rintro ⟨o, a⟩
        cases o <;> exact trivial

end NetLink
