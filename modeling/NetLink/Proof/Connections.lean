import NetLink.Proof.Integrity
import NetLink.Proof.Ports
import NetLink.Kernel.Tape

/-!
# Connections are kept apart

A process may hold any number of connections and use them in turns. What goes over the descriptor
of each is the work of the calls made on its own object, one after the other, and of nothing else:
`connections_apart` reads both sides off one run, the descriptor's from the kernel's record and the
object's from the list of the calls made.

Three things are needed of a call. On another object's descriptor it moves nothing, because it makes
no call there (`run_apart`). On its own it moves what it accounts for (`gives_moves`). And an object
that it makes begins with nothing moved, however often the number of its descriptor has been in use
before (`Unused`).
-/

namespace NetLink

open Interaction NetLinkWrapper
open Socket (SendToVars)

/-! ## Calls on other descriptors -/

section Others

variable {abi : Abi} {d : Direction} {cls : SocketClass} {w : NetLinkWrapper} {fd : Int} {k k' : Os}

/-- The descriptor is open, and nothing has been moved over it but `t`. -/
def Os.Holds (fd : Int) (d : Direction) (t : StdString) (k : Os) : Prop :=
  fd ∈ k.opened ∧ d.tape fd k.log = t

theorem Os.Holds.next {t : StdString} (h : k.Holds fd d t) {q : Call} {r : q.Ret}
    (hr : k.Possible q r) (hclose : q ≠ .close fd) (hmoved : d.moved fd ⟨q, r⟩ = []) (mode : Bool) :
    (k.next mode q r).Holds fd d t := by
  have hhanded : q.handed? r ≠ some fd := fun hfd => (hr.fresh fd hfd).2 h.1
  exact ⟨opened_next h.1 hclose, (Direction.tape_keeps hhanded hmoved).trans h.2⟩

theorem Os.Holds.other {t : StdString} (h : k.Holds fd d t) {q : Call} {r : q.Ret}
    (hr : k.Possible q r) (hfd : q.fd? ≠ some fd) (mode : Bool) : (k.next mode q r).Holds fd d t := by
  apply h.next hr ?_ (Direction.moved_other hfd)
  rintro rfl
  exact hfd rfl

/-- A constructor moves nothing over a descriptor that was open. -/
theorem new_apart {isConstructCall : Bool} {args : List JsValue} {r : Except JsError NetLinkWrapper}
    (h : (cls.new isConstructCall args).Runs Os.plain k r k') (hopen : fd ∈ k.opened) :
    d.tape fd k'.log = d.tape fd k.log := by
  refine ((new_wp cls isConstructCall args k).keeps (I := Os.Holds fd d (d.tape fd k.log)) ?_
    (Os.runs_of_plain h) ⟨hopen, rfl⟩).2
  rintro k₁ q r _ hallowed ⟨hr, mode, rfl⟩ hk
  exact hk.other hr (fun hfd => (hallowed fd hfd).1 hopen) mode

/-- Nor does a method of another object. -/
theorem run_apart {m : Method} {out : Outcome} (hown : ∀ fd ∈ w.fd?, fd ∈ k.opened)
    (h : (m.run abi w).Returns Os.plain k out k') (hopen : fd ∈ k.opened) (hother : w.fd? ≠ some fd) :
    d.tape fd k'.log = d.tape fd k.log := by
  obtain ⟨v, h⟩ := h
  refine ((run_wp abi m w hown).keeps (I := Os.Holds fd d (d.tape fd k.log)) ?_
    (Os.reaches_of_plain h) ⟨hopen, rfl⟩).2
  rintro k₁ q r _ hallowed ⟨hr, mode, rfl⟩ hk
  apply hk.other hr _ mode
  intro hfd
  rcases (hallowed fd hfd).2 with hw | ⟨-, hnew⟩
  · exact hother hw
  · exact hnew hopen

end Others

/-! ## New descriptors -/

section Fresh

variable {abi : Abi} {d : Direction} {cls : SocketClass} {w : NetLinkWrapper} {s : Socket} {fd : Int}
  {k k' : Os}

/-- Nothing has been moved over what was opened since `k`. -/
def Os.Unused (k : Os) (d : Direction) (k' : Os) : Prop :=
  ∀ fd ∈ k'.opened, fd ∈ k.opened ∨ d.tape fd k'.log = []

theorem opened_of_next {q : Call} {r : q.Ret} {mode : Bool} (h : fd ∈ (k.next mode q r).opened) :
    fd ∈ k.opened ∨ q.handed? r = some fd := by
  rw [Os.next_opened] at h
  cases q with
  | socket family socktype protocol =>
    cases r with
    | error e => exact .inl h
    | ok fd' => exact (Finset.mem_insert.mp h).symm.imp_right fun heq => congrArg some heq.symm
  | accept fd' =>
    cases r with
    | error e => exact .inl h
    | ok x => exact (Finset.mem_insert.mp h).symm.imp_right fun heq => congrArg some heq.symm
  | close fd' => exact .inl (Finset.mem_of_mem_erase h)
  | setfl fd' flags => cases r <;> exact .inl h
  | nullDeref | badAlloc => exact r.elim
  | _ => exact .inl h

theorem Os.Unused.next (h : k.Unused d k') {q : Call} {r : q.Ret} (hq : d.Idle q)
    (mode : Bool) : k.Unused d (k'.next mode q r) := by
  intro fd hfd
  by_cases hhanded : q.handed? r = some fd
  · exact .inr (Direction.tape_handed hhanded)
  · have hbefore : fd ∈ k'.opened := by
      rcases opened_of_next hfd with hbefore | hnew
      · exact hbefore
      · exact absurd hnew hhanded
    rw [Os.next_log, Direction.tape_keeps hhanded (Direction.moved_idle hq)]
    exact h fd hbefore

theorem unused_wp {α : Type} {P : Call → Prop} {t : Sys α} (ht : t.Asks P)
    (hP : ∀ q, P q → d.Idle q) : t.wp Os.plain (fun _ => k.Unused d) k := by
  refine ht.wp (fun _ _ _ _ _ _ => trivial) ?_ fun fd hfd => .inl hfd
  rintro k₁ q r _ hk hq ⟨-, mode, rfl⟩
  exact hk.next (hP q hq) mode

theorem connectedOrClose_idle (r : Except Errno Unit) :
    (Socket.connectedOrClose fd r).Asks d.Idle := by
  cases r with
  | ok => exact trivial
  | error e => exact ⟨trivial, fun _ => trivial⟩

theorem tryAddress_idle (res : AddrInfo) : (s.tryAddress fd res).Asks d.Idle := by
  unfold Socket.tryAddress
  cases s.type with
  | client =>
    simp only
    split
    · exact ⟨trivial, fun r => (connectedOrClose_idle r).bind fun _ => trivial⟩
    · exact ⟨trivial, fun r => (connectedOrClose_idle r).bind fun _ => trivial⟩
  | server =>
    refine ⟨trivial, fun r => ?_⟩
    cases r with
    | error e => exact trivial
    | ok =>
      refine ⟨trivial, fun r => (connectedOrClose_idle r).bind fun connected => ?_⟩
      split
      · refine ⟨trivial, fun r => ?_⟩
        cases r <;> exact trivial
      · exact trivial

theorem candidateLoop_idle (list : List AddrInfo) (s : Socket) :
    (Socket.candidateLoop list s).Asks d.Idle := by
  induction list generalizing s with
  | nil => exact trivial
  | cons res next ih =>
    refine ⟨trivial, fun r => ?_⟩
    cases r with
    | error e => exact ih _
    | ok fd =>
      refine (tryAddress_idle res).bind fun outcome => ?_
      rcases outcome with e | _ | _
      · exact trivial
      · exact ih _
      · exact trivial

theorem connectFirst_idle (list : List AddrInfo) : (s.connectFirst list).Asks d.Idle := by
  refine (candidateLoop_idle list s).bind fun outcome => ?_
  rcases outcome with e | ⟨_ | _, s⟩
  · exact trivial
  · exact trivial
  · simp only
    split
    · refine ⟨trivial, fun r => ?_⟩
      cases r <;> exact trivial
    · exact trivial

theorem initSocket_idle : s.initSocket.Asks d.Idle := by
  rw [initSocket_eq]
  refine ⟨trivial, fun r => ?_⟩
  cases r with
  | error text => exact trivial
  | ok list =>
    refine (connectFirst_idle list).bind fun outcome => ?_
    cases headPtr list with
    | none => exact trivial
    | some p => exact ⟨trivial, fun _ => trivial⟩

theorem new_idle {isConstructCall : Bool} {args : List JsValue} :
    (cls.new isConstructCall args).Asks d.Idle := by
  rw [cls.new_eq]
  unfold construct
  split
  · exact trivial
  split
  · exact trivial
  · exact initSocket_idle.bind fun _ => trivial

/-- The calls that move nothing and close nothing. -/
def Mute (d : Direction) (q : Call) : Prop := d.Idle q ∧ ∀ fd, q ≠ .close fd

theorem accept_mute (hs : w.socket = some s) : w.accept.Asks (Mute d) :=
  accept_asks hs ⟨trivial, nofun⟩ fun _ =>
    ⟨⟨trivial, nofun⟩, ⟨trivial, nofun⟩, fun _ => ⟨trivial, nofun⟩⟩

end Fresh

/-! ## A call on one's own descriptor -/

namespace Method

/-- A method together with the bytes it hands to its caller, which are those `receive` returns. -/
def gives (abi : Abi) : (m : Method) → NetLinkWrapper → SysLoop m.Vars (Outcome × StdString)
  | receive, w =>
    (w.receive abi).map fun r => (⟨r.map fun _ => (), some w, none⟩, r.toOption.join.getD [])
  | m, w => (m.run abi w).map fun out => (out, [])

theorem gives_eq {m : Method} (hm : m ≠ receive) (abi : Abi) (w : NetLinkWrapper) :
    m.gives abi w = (m.run abi w).map fun out => (out, []) := by
  cases m <;> first | rfl | exact absurd rfl hm

/-- It runs as before. -/
theorem returns_gives {K : Type} {ker : Kernel Call Call.Ret K} {k k' : K} {abi : Abi} {m : Method}
    {w : NetLinkWrapper} {out : Outcome} :
    (m.run abi w).Returns ker k out k' ↔
      ∃ bytes, (m.gives abi w).Returns ker k (out, bytes) k' := by
  by_cases hm : m = receive
  · subst hm
    constructor
    · intro h
      obtain ⟨r, hr, rfl⟩ := Loop.returns_map.mp h
      exact ⟨_, Loop.returns_map.mpr ⟨r, hr, rfl⟩⟩
    · rintro ⟨bytes, h⟩
      obtain ⟨r, hr, hout⟩ := Loop.returns_map.mp h
      exact Loop.returns_map.mpr ⟨r, hr, congrArg Prod.fst hout⟩
  · rw [gives_eq hm]
    constructor
    · intro h
      exact ⟨[], Loop.returns_map.mpr ⟨out, h, rfl⟩⟩
    · rintro ⟨bytes, h⟩
      obtain ⟨out', h', heq⟩ := Loop.returns_map.mp h
      cases heq
      exact h'

/-- What a call accounts for: `send` for as much of its data as it got rid of, all of it when it
    returned; `receive` for what it returned or, when it threw, for the full reads it threw away;
    any other call for nothing. -/
def Moved (d : Direction) (m : Method) (result : Except JsError Unit) (returned part : StdString) :
    Prop :=
  match m, d with
  | send _ args, .sent => World.Contributed ((sendArgs args).2, some result) part
  | receive, .received =>
    match result with
    | .ok () => part = returned
    | .error _ => readSize ∣ part.length
  | _, _ => part = []

end Method

section Own

variable {abi : Abi} {d : Direction} {c : SocketClientTCP} {s : Socket} {fd : Int} {k : Os}

theorem mute_wp {α : Type} {t : Sys α} {u : StdString} (ht : t.Asks (Mute d)) (hk : k.Holds fd d u) :
    t.wp Os.plain (fun _ => Os.Holds fd d u) k := by
  refine ht.wp (fun _ _ _ _ _ _ => trivial) ?_ hk
  rintro k₁ q r _ hk hq ⟨hr, mode, rfl⟩
  exact hk.next hr (hq.2 fd) (Direction.moved_idle hq.1) mode

theorem mute_loop_wp {σ ρ : Type} {L : SysLoop σ ρ} {u : StdString} (hL : L.Asks (Mute d))
    (hk : k.Holds fd d u) : L.wp Os.plain (fun _ => Os.Holds fd d u) k := by
  refine hL.wp (fun _ _ _ _ _ _ => trivial) ?_ hk
  rintro k₁ q r _ hk hq ⟨hr, mode, rfl⟩
  exact hk.next hr (hq.2 fd) (Direction.moved_idle hq.1) mode

/-- **`send`** moves a prefix of its data, and all of it when it returns, if no `::send` took more
    than an `int` can tell. -/
theorem send_moves (limit : MaxTransfer) (c : SocketClientTCP) (stack : Ptr) (args : List JsValue) :
    (c.wrapper.send stack args).wp Os.plain (fun r k' => Direction.Within limit k'.log → ∃ part,
      World.Contributed ((sendArgs args).2, some r) part ∧
        Direction.sent.tape c.socket.socketHandler k'.log =
          Direction.sent.tape c.socket.socketHandler k.log ++ part) k := by
  rw [c.send_eq]
  generalize (sendArgs args).2 = data
  cases (sendArgs args).1.rejected with
  | some e => exact Loop.wp_done fun _ => ⟨[], List.nil_prefix, (List.append_nil _).symm⟩
  | none =>
    -- after `n` bytes the first `n` have gone
    let I : SendToVars ⊕ Nat → Os → Prop
      | .inl _, _ => False
      | .inr n, k' => Direction.Within limit k'.log →
          Direction.sent.tape c.socket.socketHandler k'.log =
            Direction.sent.tape c.socket.socketHandler k.log ++ data.take n
    refine ⟨I, fun _ => (List.append_nil _).symm, ?_⟩
    rintro (v | n) k₁ h
    · exact h.elim
    rw [sendTcp_body]
    split
    · refine Os.wp_ask.mpr ⟨fun _ _ => trivial, fun r mode _ => ?_⟩
      cases r with
      | error e =>
        intro hwithin
        exact ⟨data.take n, List.take_prefix n data,
          (Direction.tape_still rfl rfl).trans (h (hwithin.of_prefix (List.prefix_append ..)))⟩
      | ok m =>
        show Prog.wp _ (.ret (sendRound n (.ok m))) _ _
        by_cases hm : m ≤ limit.bytes
        · rw [sendRound_ok hm]
          intro hwithin
          show Direction.sent.tape _ (k₁.log ++ _) = _ ++ data.take (n + m)
          rw [Direction.tape_send, h (hwithin.of_prefix (List.prefix_append ..)), List.append_assoc,
            List.take_add]
        · unfold sendRound
          split
          · exact fun hwithin => absurd (of_decide_eq_true hwithin.last) hm
          · exact fun hwithin => absurd (of_decide_eq_true hwithin.last) hm
    · rename_i hn
      intro hwithin
      refine ⟨data, rfl, ?_⟩
      rw [← List.take_of_length_le (Nat.le_of_not_lt hn)]
      exact h hwithin

/-- **`receive`** returns what was moved, or throws and has thrown full reads away. -/
theorem receive_moves (c : SocketClientTCP) (abi : Abi) :
    (c.wrapper.receive abi).wp Os.plain (fun r k' => ∃ part,
      Method.receive.Moved .received (r.map fun _ => ()) (r.toOption.join.getD []) part ∧
        Direction.received.tape c.socket.socketHandler k'.log =
          Direction.received.tape c.socket.socketHandler k.log ++ part) k := by
  rw [c.receive_eq]
  -- what has been moved is what `ss` holds, and that are full reads as long as the loop goes on
  refine ⟨fun ss k' => readSize ∣ ss.length ∧
    Direction.received.tape c.socket.socketHandler k'.log =
      Direction.received.tape c.socket.socketHandler k.log ++ ss, ?_, ?_⟩
  · rw [receiveLoop_enter]
    refine Os.wp_ask.mpr ⟨fun _ _ => trivial, fun r mode _ => ?_⟩
    have hkept : Direction.received.tape c.socket.socketHandler
        (k.next mode (.ioctl c.socket.socketHandler) r).log =
          Direction.received.tape c.socket.socketHandler k.log ++ [] :=
      (Direction.tape_still rfl rfl).trans (List.append_nil _).symm
    cases r with
    | error e => exact ⟨[], Nat.dvd_zero _, hkept⟩
    | ok n =>
      simp only [receiveEntry]
      split
      · exact ⟨[], rfl, hkept⟩
      · exact ⟨Nat.dvd_zero _, hkept⟩
  · intro ss k₁ h
    obtain ⟨hfull, htape⟩ := h
    rw [receiveLoop_body]
    refine Os.wp_ask.mpr ⟨fun _ _ => trivial, fun r mode _ => ?_⟩
    cases r with
    | error e =>
      have hkept : Direction.received.tape c.socket.socketHandler
          (k₁.next mode (.recv c.socket.socketHandler readSize) (.error e)).log =
            Direction.received.tape c.socket.socketHandler k.log ++ ss :=
        (Direction.tape_still rfl rfl).trans htape
      simp only [receiveRound]
      split
      · exact ⟨ss, (nonEmpty_getD ss).symm, hkept⟩
      · exact ⟨ss, hfull, hkept⟩
    | ok bytes =>
      have hmore : Direction.received.tape c.socket.socketHandler
          (k₁.next mode (.recv c.socket.socketHandler readSize) (.ok bytes)).log =
            Direction.received.tape c.socket.socketHandler k.log ++ (ss ++ bytes) := by
        rw [Os.next_log, Direction.tape_recv, htape, List.append_assoc]
      simp only [receiveRound]
      split
      · rename_i hlen
        refine ⟨?_, hmore⟩
        rw [List.length_append, hlen]
        exact Nat.dvd_add hfull (Nat.dvd_refl _)
      · exact ⟨ss ++ bytes, (nonEmpty_getD _).symm, hmore⟩

theorem readFrom_mute (bufferSize : Nat) : (s.readFrom bufferSize).Asks (Mute d) := by
  unfold Socket.readFrom
  split
  · exact trivial
  · simp only [Prog.call_bind]
    refine ⟨⟨trivial, nofun⟩, fun r => ?_⟩
    cases r with
    | error e =>
      simp only
      split <;> exact trivial
    | ok x => exact trivial

theorem receiveFromLoop_mute : (receiveFromLoop s).Asks (Mute d) where
  enter := trivial
  body v := by
    refine (readFrom_mute readSize).bind fun r => ?_
    cases r with
    | error e => exact trivial
    | ok x =>
      simp only
      split
      · split <;> split <;> exact trivial
      · exact trivial

theorem setIsBlocking_mute {w : NetLinkWrapper} (hs : w.socket = some s) (abi : Abi) (value : JsValue) :
    ((Method.setIsBlocking value).run abi w).Asks (Mute d) :=
  (run_asks abi (.setIsBlocking value) hs).imp fun q hq => by
    cases q <;> first | exact hq.elim | exact ⟨trivial, nofun⟩

theorem receive_mute (c : SocketClientTCP) (abi : Abi) :
    (c.wrapper.receive abi).Asks (Mute .sent) := by
  rw [c.receive_eq]
  refine ⟨?_, fun ss => ?_⟩
  · rw [receiveLoop_enter]
    exact ⟨⟨trivial, nofun⟩, fun _ => trivial⟩
  · rw [receiveLoop_body]
    exact ⟨⟨trivial, nofun⟩, fun _ => trivial⟩

theorem send_mute (c : SocketClientTCP) (stack : Ptr) (args : List JsValue) :
    (c.wrapper.send stack args).Asks (Mute .received) := by
  rw [c.send_eq]
  split
  · exact Loop.asks_done _
  · refine ⟨trivial, fun v => ?_⟩
    cases v with
    | inl v => exact trivial
    | inr n =>
      rw [sendTcp_body]
      split
      · exact ⟨⟨trivial, nofun⟩, fun _ => trivial⟩
      · exact trivial

/-- A client refuses to `sendTo`. -/
theorem sendTo_refused (c : SocketClientTCP) (stack : Ptr) (args : List JsValue) :
    ∃ e, (c.wrapper.sendTo stack args).enter = .ret (.inr (.error e)) := by
  rw [c.sendTo_eq]
  cases (sendToArgs args).1.rejected with
  | some e => exact ⟨e, rfl⟩
  | none =>
    apply sendToLoop_refuses (.inl _)
    rw [c.protocol]
    nofun

/-- A read that throws has read nothing. -/
theorem read_moves (d : Direction) (s : Socket) (cap : Nat) (fd : Int) :
    (s.read cap).wp Os.plain (fun o k' => ∀ e, o = .error e → d.tape fd k'.log = d.tape fd k.log)
      k := by
  unfold Socket.read
  simp only [Prog.call_bind]
  refine Os.wp_ask.mpr ⟨fun _ _ => trivial, fun r mode _ => ?_⟩
  cases r with
  | error err =>
    have hkept : d.tape fd (k.next mode (.recv s.socketHandler cap) (.error err)).log =
        d.tape fd k.log := Direction.tape_still rfl (by cases d <;> rfl)
    simp only
    cases checkReadError (lit "read") err with
    | error e => exact fun _ _ => hkept
    | ok => exact fun _ _ => hkept
  | ok bytes =>
    intro e he
    cases he

/-- Nor has a `disconnect` that throws. -/
theorem drain_moves (d : Direction) (abi : Abi) (s : Socket) (fd : Int) :
    (drain abi s).wp Os.plain (fun o k' => ∀ e, o = .error e → d.tape fd k'.log = d.tape fd k.log)
      k := by
  unfold drain
  split
  · refine Os.wp_ask.mpr ⟨fun _ _ => trivial, fun r mode _ => ?_⟩
    have hkept : d.tape fd (k.next mode (.ioctl s.socketHandler) r).log = d.tape fd k.log :=
      Direction.tape_still rfl (Direction.moved_idle trivial)
    cases r with
    | error e => exact fun _ _ => hkept
    | ok n =>
      show Prog.wp _ (if 0 < abi.reported n then _ else _) _ _
      split
      · split
        · exact Os.wp_ask.mpr ⟨fun _ _ => trivial, fun r => Empty.elim r⟩
        · refine Prog.wp_bind.mpr ((read_moves d s _ fd).mono fun o k' h => ?_)
          cases o with
          | error e => exact fun _ _ => (h e rfl).trans hkept
          | ok x =>
            intro e he
            cases he
      · exact fun _ _ => hkept
  · exact fun _ _ => rfl

theorem moved_nothing {m : Method} {result : Except JsError Unit} {returned : StdString}
    (hsend : ∀ stack args, m ≠ .send stack args) (hreceive : m ≠ .receive) :
    m.Moved d result returned [] := by
  cases m with
  | send stack args => exact absurd rfl (hsend stack args)
  | receive => exact absurd rfl hreceive
  | _ => cases d <;> rfl

/-- What a call leaves an object's descriptor with, when it leaves the object alive. -/
def Adds (limit : MaxTransfer) (d : Direction) (m : Method) (fd : Int) (k : Os)
    (x : Outcome × StdString) (k' : Os) : Prop :=
  Direction.Within limit k'.log → ∀ w', x.1.wrapper = some w' → w'.socket ≠ none → ∃ part,
    m.Moved d x.1.result x.2 part ∧ d.tape fd k'.log = d.tape fd k.log ++ part

/-- **A call on a connection** moves over its descriptor what it accounts for. -/
theorem gives_moves (limit : MaxTransfer) (abi : Abi) (m : Method) (c : SocketClientTCP)
    (hopen : c.socket.socketHandler ∈ k.opened) :
    (m.gives abi c.wrapper).wp Os.plain (Adds limit d m c.socket.socketHandler k) k := by
  have hfrom : Os.Holds c.socket.socketHandler d (d.tape c.socket.socketHandler k.log) k :=
    ⟨hopen, rfl⟩
  have hmute {x : Outcome × StdString} {k' : Os} (hsend : ∀ stack args, m ≠ .send stack args)
      (hreceive : m ≠ .receive)
      (h : Os.Holds c.socket.socketHandler d (d.tape c.socket.socketHandler k.log) k') :
      Adds limit d m c.socket.socketHandler k x k' :=
    fun _ _ _ _ => ⟨[], moved_nothing hsend hreceive, h.2.trans (List.append_nil _).symm⟩
  cases m with
  | send stack args =>
    refine Loop.wp_map (Loop.wp_map ?_)
    cases d with
    | sent =>
      exact (send_moves limit c stack args).mono fun r k' h hwithin _ _ _ => h hwithin
    | received =>
      refine (mute_loop_wp (send_mute c stack args) hfrom).mono fun r k' h _ _ _ _ => ?_
      exact ⟨[], rfl, h.2.trans (List.append_nil _).symm⟩
  | receive =>
    refine Loop.wp_map ?_
    cases d with
    | sent =>
      refine (mute_loop_wp (receive_mute c abi) hfrom).mono fun r k' h _ _ _ _ => ?_
      exact ⟨[], rfl, h.2.trans (List.append_nil _).symm⟩
    | received => exact (receive_moves c abi).mono fun r k' h _ _ _ _ => h
  | accept =>
    refine Loop.wp_map (Loop.wp_ofProg (Prog.wp_bind.mpr ?_))
    exact (mute_wp (accept_mute c.live) hfrom).mono fun r k' h => hmute nofun nofun h
  | receiveFrom =>
    refine Loop.wp_map (Loop.wp_map ?_)
    rw [c.receiveFrom_eq]
    exact (mute_loop_wp receiveFromLoop_mute hfrom).mono fun r k' h => hmute nofun nofun h
  | sendTo stack args =>
    obtain ⟨e, henter⟩ := sendTo_refused c stack args
    exact Loop.wp_map (Loop.wp_map (Loop.wp_leaves henter (hmute nofun nofun hfrom)))
  | setIsBlocking value =>
    refine Loop.wp_map ((mute_loop_wp (setIsBlocking_mute c.live abi value) hfrom).mono ?_)
    exact fun r k' h => hmute nofun nofun h
  | disconnect =>
    refine Loop.wp_map (Loop.wp_ofProg (Prog.wp_bind.mpr ?_))
    unfold NetLinkWrapper.disconnect
    rw [c.live]
    refine Prog.wp_bind.mpr ((drain_moves d abi c.socket c.socket.socketHandler).mono fun o k' h => ?_)
    cases o with
    | error e =>
      intro _ w' _ _
      exact ⟨[], moved_nothing nofun nofun, (h e rfl).trans (List.append_nil _).symm⟩
    | ok =>
      simp only
      rw [disconnect_destructor]
      refine Os.wp_ask.mpr ⟨fun _ _ => trivial, fun r mode _ _ w' hw' hlive => ?_⟩
      cases hw'
      exact absurd rfl hlive
  | finalise =>
    refine Loop.wp_map (Loop.wp_ofProg (Prog.wp_bind.mpr ?_))
    have hclosed : c.wrapper.destructor.wp Os.plain _ k := destructor_wp c.live trivial
    refine hclosed.mono fun _ k' _ _ w' hw' => ?_
    cases hw'

end Own

/-! ## Whole runs -/

/-- What a method leaves a live connection is one it was called on. -/
theorem own_client {w w' : NetLinkWrapper} {k k' : Os} {m : Method} {out : Outcome}
    (h : Effect w k m out k') (hw' : out.wrapper = some w')
    (hlive : SocketClass.clientTCP.IsLive w') : SocketClass.clientTCP.IsLive w := by
  have hmode {s : Socket} {blocking blocking' : Bool} (hs : w.socket = some s)
      (hlive : SocketClass.clientTCP.IsLive
        { w with socket := some { s with blocking }, blocking := blocking' }) :
      SocketClass.clientTCP.IsLive w := by
    obtain ⟨s', hs', hclass⟩ := SocketClass.isLive_iff.mp hlive
    cases hs'
    exact SocketClass.isLive_iff.mpr ⟨s, hs, hclass⟩
  cases h with
  | unchanged =>
    cases hw'
    exact hlive
  | accepted =>
    cases hw'
    exact hlive
  | stranded =>
    cases hw'
    exact hlive
  | modeSet hs =>
    cases hw'
    exact hmode hs hlive
  | modeFailed hs =>
    cases hw'
    exact hmode hs hlive
  | disconnected =>
    cases hw'
    obtain ⟨s, hs, -⟩ := SocketClass.isLive_iff.mp hlive
    cases hs
  | finalised => cases hw'
  | collected => cases hw'

namespace Process

variable {abi : Abi} {p : Process} {d : Direction}

/-- A call that is over: the object it was made on, how it ended, and the bytes it returned. -/
structure Called where
  object : Nat
  method : Method
  result : Except JsError Unit
  returned : StdString

/-- What the call accounts for. -/
def Called.Moved (d : Direction) (c : Called) (part : StdString) : Prop :=
  c.method.Moved d c.result c.returned part

/-- A process with the list of the calls that led to it. -/
inductive Chronicle (abi : Abi) : List Called → Process → Prop
  | start {os : Os} : os.log = [] → Chronicle abi [] ⟨os, []⟩
  | construct {calls : List Called} {p : Process} {cls : SocketClass} {isConstructCall : Bool}
      {args : List JsValue} {r : Except JsError NetLinkWrapper} {os : Os} :
      Chronicle abi calls p → (cls.new isConstructCall args).Runs Os.plain p.os r os →
      Chronicle abi calls ⟨os, p.wrappers ++ (r.toOption.map some).toList⟩
  | call {calls : List Called} {p : Process} {i : Nat} {w : NetLinkWrapper} {m : Method}
      {out : Outcome} {returned : StdString} {os : Os} :
      Chronicle abi calls p → p.At i w →
      (m.gives abi w).Returns Os.plain p.os (out, returned) os →
      Chronicle abi (calls ++ [⟨i, m, out.result, returned⟩])
        ⟨os, p.wrappers.set i out.wrapper ++ (out.accepted.map some).toList⟩

/-- The processes that have a chronicle are those that can be got to. -/
theorem Chronicle.reachable {calls : List Called} (h : Chronicle abi calls p) : Reachable abi p := by
  induction h with
  | start hlog => exact ⟨_, hlog, .refl⟩
  | construct _ hrun ih =>
    obtain ⟨os, hlog, hsteps⟩ := ih
    exact ⟨os, hlog, hsteps.tail ⟨_, .construct hrun⟩⟩
  | call _ hi hret ih =>
    obtain ⟨os, hlog, hsteps⟩ := ih
    exact ⟨os, hlog, hsteps.tail ⟨_, .call hi (Method.returns_gives.mpr ⟨_, hret⟩)⟩⟩

theorem Reachable.chronicle (h : Reachable abi p) : ∃ calls, Chronicle abi calls p := by
  obtain ⟨os, hlog, hsteps⟩ := h
  induction hsteps with
  | refl => exact ⟨[], .start hlog⟩
  | tail _ hstep ih =>
    obtain ⟨calls, hcalls⟩ := ih
    obtain ⟨a, hstep⟩ := hstep
    cases hstep with
    | construct hrun => exact ⟨calls, hcalls.construct hrun⟩
    | call hi hret =>
      obtain ⟨returned, hret⟩ := Method.returns_gives.mp hret
      exact ⟨_, hcalls.call hi hret⟩

theorem Chronicle.object_lt {calls : List Called} (h : Chronicle abi calls p) :
    ∀ c ∈ calls, c.object < p.wrappers.length := by
  induction h with
  | start => nofun
  | construct _ _ ih =>
    intro c hc
    exact Nat.lt_of_lt_of_le (ih c hc) (by simp)
  | @call calls p i w m out returned os _ hi _ ih =>
    intro c hc
    have hle : p.wrappers.length ≤
        (p.wrappers.set i out.wrapper ++ (out.accepted.map some).toList).length := by simp
    refine Nat.lt_of_lt_of_le ?_ hle
    rcases List.mem_append.mp hc with hold | hnew
    · exact ih c hold
    · cases List.mem_singleton.mp hnew
      exact (List.getElem?_eq_some_iff.mp hi).1

/-- The calls that were made on the object `i`. -/
def on (i : Nat) (calls : List Called) : List Called := calls.filter (·.object = i)

theorem Chronicle.on_next {calls : List Called} (h : Chronicle abi calls p) :
    on p.wrappers.length calls = [] := by
  refine List.filter_eq_nil_iff.mpr fun c hc => ?_
  have hlt := h.object_lt c hc
  simp [Nat.ne_of_lt hlt]

/-- What went over the descriptor of every live connection is what its calls account for. -/
def Accounts (d : Direction) (calls : List Called) (p : Process) : Prop :=
  ∀ ⦃i w fd⦄, p.At i w → SocketClass.clientTCP.IsLive w → w.fd? = some fd → ∃ parts,
    List.Forall₂ (Called.Moved d) (on i calls) parts ∧ d.tape fd p.os.log = parts.flatten

/-- **Constructing** an object changes no account and begins an empty one. -/
theorem Accounts.construct {calls : List Called} {cls : SocketClass} {isConstructCall : Bool}
    {args : List JsValue} {r : Except JsError NetLinkWrapper} {os : Os} (h : Accounts d calls p)
    (hinv : Inv p) (hnext : on p.wrappers.length calls = [])
    (hrun : (cls.new isConstructCall args).Runs Os.plain p.os r os) :
    Accounts d calls ⟨os, p.wrappers ++ (r.toOption.map some).toList⟩ := by
  intro j w fd hj hlive hfd
  rcases at_append hj with hold | ⟨rfl, hr⟩
  · rw [show d.tape fd os.log = d.tape fd p.os.log from new_apart hrun (hinv.opened hold hfd)]
    exact h hold hlive hfd
  · obtain ⟨hopen, hnew⟩ := (new_opened (new_makes hrun)).2 hr hfd
    have hunused : p.os.Unused d os := (unused_wp new_idle fun _ => id).runs hrun
    rw [hnext]
    exact ⟨[], .nil, (hunused fd hopen).resolve_left hnew⟩

/-- **Calling a method** changes the account of its own object, by what the call accounts for. -/
theorem Accounts.call {calls : List Called} {i : Nat} {w : NetLinkWrapper} {m : Method}
    {out : Outcome} {returned : StdString} {os : Os} {limit : MaxTransfer}
    (hwithin : Direction.Within limit os.log) (h : Accounts d calls p) (hinv : Inv p)
    (hnext : on p.wrappers.length calls = []) (hi : p.At i w)
    (hret : (m.gives abi w).Returns Os.plain p.os (out, returned) os) :
    Accounts d (calls ++ [⟨i, m, out.result, returned⟩])
      ⟨os, p.wrappers.set i out.wrapper ++ (out.accepted.map some).toList⟩ := by
  have hrun := Method.returns_gives.mpr ⟨_, hret⟩
  have heffect := hinv.effect hi hrun
  have hon {j : Nat} (hij : i ≠ j) : on j (calls ++ [⟨i, m, out.result, returned⟩]) = on j calls := by
    simp [on, List.filter_append, hij]
  intro j w' fd hj hlive hfd
  rcases at_append (p := ⟨os, p.wrappers.set i out.wrapper⟩) hj with hset | ⟨rfl, ha⟩
  · rcases at_set hset with ⟨rfl, hw'⟩ | ⟨hne, hold⟩
    · have hown := (own_opened heffect (fun fd hfd => hinv.opened hi hfd) hw' hfd).1
      obtain ⟨c, rfl⟩ := own_client heffect hw' hlive
      obtain ⟨parts, hparts, htape⟩ := h hi ⟨c, rfl⟩ hown
      have hfd' : c.socket.socketHandler = fd := Option.some.inj ((fd?_eq c.live).symm.trans hown)
      subst hfd'
      have hwp := gives_moves (d := d) limit abi m c (hinv.opened hi hown)
      obtain ⟨part, hmoved, hadded⟩ := hwp.returns hret hwithin w' hw' fun hnone => by
        obtain ⟨s, hs, -⟩ := SocketClass.isLive_iff.mp hlive
        cases hnone.symm.trans hs
      refine ⟨parts ++ [part], ?_, ?_⟩
      · rw [on, List.filter_append]
        refine List.rel_append hparts ?_
        simp only [decide_true, List.filter_cons_of_pos, List.filter_nil]
        exact .cons hmoved .nil
      · show d.tape _ os.log = _
        rw [hadded, htape]
        simp
    · have hother : w.fd? ≠ some fd := fun hw => hne (hinv.distinct hold hi hfd hw)
      rw [hon fun heq => hne heq.symm, show d.tape fd os.log = d.tape fd p.os.log from
        run_apart (fun fd hfd => hinv.opened hi hfd) hrun (hinv.opened hold hfd) hother]
      exact h hold hlive hfd
  · obtain ⟨s, hs, rfl⟩ := accepted_from heffect ha
    obtain ⟨hopen, hnew⟩ := accepted_opened heffect ha hfd
    obtain ⟨r, k₁, haccept, -, rfl⟩ := Prog.runs_bind.mp (Loop.returns_ofProg.mp hrun)
    have hunused : p.os.Unused d os :=
      (unused_wp (accept_mute hs) fun _ hq => hq.1).runs haccept
    have hlen : (p.wrappers.set i out.wrapper).length = p.wrappers.length := List.length_set ..
    have hi' : i < p.wrappers.length := (List.getElem?_eq_some_iff.mp hi).1
    rw [hlen, hon (Nat.ne_of_lt hi'), hnext]
    exact ⟨[], .nil, (hunused fd hopen).resolve_left hnew⟩

theorem Chronicle.accounts {calls : List Called} (h : Chronicle abi calls p) {limit : MaxTransfer}
    (hwithin : Direction.Within limit p.os.log) : Accounts d calls p := by
  induction h with
  | start => exact fun _ _ _ hi => by cases hi
  | construct hcalls hrun ih =>
    have hbefore := ih (hwithin.of_prefix (Os.log_of_runs hrun))
    exact hbefore.construct hcalls.reachable.inv.1 hcalls.on_next hrun
  | call hcalls hi hret ih =>
    have hbefore := ih (hwithin.of_prefix (Os.log_of_returns hret))
    exact hbefore.call hwithin hcalls.reachable.inv.1 hcalls.on_next hi hret

/-- **Connections are kept apart.** Every process that can be got to was led to by some calls; and
    whichever they were, what went over the descriptor of a live connection, either way, is what the
    calls on its own object account for, in their order, as long as the kernel has never taken more
    in one `::send` than an `int` can tell. -/
theorem connections_apart {limit : MaxTransfer} (h : Reachable abi p)
    (hwithin : Direction.Within limit p.os.log) :
    (∃ calls, Chronicle abi calls p) ∧ ∀ {calls i w fd}, Chronicle abi calls p → p.At i w →
      SocketClass.clientTCP.IsLive w → w.fd? = some fd → ∀ d : Direction, ∃ parts,
        List.Forall₂ (Called.Moved d) (on i calls) parts ∧ d.tape fd p.os.log = parts.flatten :=
  ⟨h.chronicle, fun hcalls hi hclient hfd _ => hcalls.accounts hwithin hi hclient hfd⟩

section TwoClients

/-- What `new SocketClientTCP(8, "a")` is when it got the descriptor `fd` and the local port 9000. -/
def clientOn (fd : Int) : Socket where
  hostTo := [97]
  hostFrom := []
  portTo := 8
  portFrom := 9000
  protocol := .tcp
  ipVer := .ip4
  type := .client
  blocking := true
  listenQueue := 0
  socketHandler := fd

/-- The descriptor table after that. -/
def clientOs (k : Os) (fd : Int) : Os :=
  let addr := AddrInfo.loopback 7
  let k := k.next false (.getaddrinfo (some [97]) (portStr 8) ⟨false, .inet, .stream⟩) (.ok [addr])
  let k := k.next false (.socket .inet .dgram 17) (.ok fd)
  let k := k.next false (.connect fd addr.addr) (.ok ())
  let k := k.next false (.getsockname fd) (.ok addr.addr)
  k.next false (.freeaddrinfo 7) ()

theorem clientOn_constructed {k : Os} (fd : Int) (hfresh : k.Fresh fd) :
    (SocketClass.clientTCP.new true [.number (.finite 8), .string [97]]).Runs Os.plain k
      (.ok (.ofSocket (clientOn fd))) (clientOs k fd) := by
  have hopen : fd ∈ insert fd k.opened := Finset.mem_insert_self fd _
  refine ⟨.ok [AddrInfo.loopback 7], _, ⟨⟨nofun, nofun⟩, false, rfl⟩, ?_⟩
  refine ⟨.ok fd, _, ⟨⟨nofun, by rintro _ ⟨⟩; exact hfresh⟩, false, rfl⟩, ?_⟩
  refine ⟨.ok (), _, ⟨Os.possible_of_open rfl hopen nofun nofun, false, rfl⟩, ?_⟩
  refine ⟨.ok (AddrInfo.loopback 7).addr, _,
    ⟨Os.possible_of_open rfl hopen nofun nofun, false, rfl⟩, ?_⟩
  exact ⟨(), _, ⟨⟨nofun, nofun⟩, false, rfl⟩, rfl, rfl⟩

/-- It sends one byte, and the kernel takes it at once. -/
theorem clientOn_sends {k : Os} {fd : Int} (args : List JsValue) (byte : UInt8)
    (hopen : fd ∈ k.opened) (hargs : (sendArgs args).1.rejected = none) (hbyte : (sendArgs args).2 = [byte]) :
    ((Method.send none args).gives .lp64 (.ofSocket (clientOn fd))).Returns Os.plain k
      (⟨.ok (), some (.ofSocket (clientOn fd)), none⟩, [])
      (k.next false (.send fd [byte]) (.ok 1)) := by
  let c : SocketClientTCP := ⟨.ofSocket (clientOn fd), rfl, rfl⟩
  have hsend : (c.wrapper.send none args).Returns Os.plain k (.ok ())
      (k.next false (.send fd [byte]) (.ok 1)) := by
    rw [c.send_eq, hargs, hbyte]
    refine Loop.returnsFrom_again.mpr ?_
    show (sendTcp c.socket [byte]).ReturnsFrom _ ⟨_, (sendTcp c.socket [byte]).body (.inr 0)⟩ _ _ _
    rw [sendTcp_body]
    refine Loop.returnsFrom_ask.mpr
      ⟨.ok 1, _, ⟨Os.possible_of_open rfl hopen nofun nofun, false, rfl⟩, ?_⟩
    refine Loop.returnsFrom_again.mpr ?_
    rw [sendTcp_body]
    exact Loop.returnsFrom_done.mpr ⟨rfl, rfl⟩
  exact Loop.returns_map.mpr ⟨_, Loop.returns_map.mpr ⟨_, hsend, rfl⟩, rfl⟩

/-- Two clients on the descriptors 3 and 4, which have sent a byte each. -/
def twoClients : Process :=
  let k := clientOs (clientOs ⟨∅, fun _ => false, []⟩ 3) 4
  let k := k.next false (.send 4 [98]) (.ok 1)
  ⟨k.next false (.send 3 [97]) (.ok 1),
    [some (.ofSocket (clientOn 3)), some (.ofSocket (clientOn 4))]⟩

def twoCalls : List Called :=
  [⟨1, .send none [.string [98]], .ok (), []⟩, ⟨0, .send none [.string [97]], .ok (), []⟩]

theorem twoClients_chronicle : Chronicle .lp64 twoCalls twoClients := by
  have h₀ : Chronicle .lp64 [] ⟨⟨∅, fun _ => false, []⟩, []⟩ := .start rfl
  have h₁ := h₀.construct (clientOn_constructed 3 ⟨by decide, by decide⟩)
  have h₂ := h₁.construct (clientOn_constructed 4 ⟨by decide, by decide⟩)
  have h₃ := h₂.call (i := 1) (w := .ofSocket (clientOn 4)) rfl
    (clientOn_sends [.string [98]] 98 (by decide) rfl rfl)
  exact h₃.call (i := 0) (w := .ofSocket (clientOn 3)) rfl
    (clientOn_sends [.string [97]] 97 (by decide) rfl rfl)

theorem twoClients_within : Direction.Within .linux twoClients.os.log := by
  unfold Direction.Within
  decide

theorem connections_apart_two_clients :
    on 0 twoCalls = [⟨0, .send none [.string [97]], .ok (), []⟩] ∧ ∃ parts,
      List.Forall₂ (Called.Moved .sent) (on 0 twoCalls) parts ∧
        Direction.sent.tape 3 twoClients.os.log = parts.flatten :=
  ⟨rfl, (connections_apart twoClients_chronicle.reachable twoClients_within).2 twoClients_chronicle
    (i := 0) (w := .ofSocket (clientOn 3)) rfl ⟨⟨⟨_, clientOn 3, rfl⟩, rfl, rfl⟩, rfl⟩ rfl .sent⟩

end TwoClients

end Process

end NetLink
