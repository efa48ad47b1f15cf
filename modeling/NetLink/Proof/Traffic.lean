import Mathlib.Logic.Function.Basic
import NetLink.Lib.Interference
import NetLink.Proof.Rounds
import NetLink.Proof.Kinds
import NetLink.Kernel.Network

/-!
# What comes out of a network of UDP sockets

Any number of `SocketUDP`s call `sendTo` and `receiveFrom`, in any order, and the steps of all the
calls in progress interleave in any way, over a network that loses, delays, repeats and reorders
datagrams as it likes. A `Traffic` is a moment of that.

Neither loop knows of the other sockets. Each gives a guarantee amid a network that grows: a
`sendTo` transmits only what its arguments ask for (`sendTo_guarantee`), and a `receiveFrom` makes
its object from datagrams addressed to it (`receiveFrom_guarantee`). `Traffic.Inv` puts these
together: whatever comes out was put in by a `sendTo` (`Traffic.nothing_made_up`), and as long as the
extracted bytes are few they come out as they were put in, under the name of who sent them
(`Traffic.short_arrive_whole`).
-/

namespace NetLink

open Interaction NetLinkWrapper
open Socket (SendToVars)

/-! ## The sending end -/

/-- What `sendTo` with these arguments may transmit: all of the bytes that are extracted from the
    data argument, to the first address that the host extracted and the port resolve to. A string
    is extracted up to its first U+0000. -/
structure AsksFor (resolves : Resolution) (args : List JsValue) (data : StdString)
    (target : SockAddr) : Prop where
  accepted : (sendToArgs args).1.rejected = none
  data : data = (sendToArgs args).2.data
  target : ∃ info rest, resolves (some (ofCString (sendToArgs args).2.host))
    (portStr (sendToArgs args).2.port.toNat) (info :: rest) ∧ target = info.addr

/-- The loop of `sendTo` has sent nothing or all of it, to a list that was resolved. -/
def SendToInv (resolves : Resolution) (args : List JsValue) (v : SendToVars) (_ : Network) : Prop :=
  resolves (some (ofCString (sendToArgs args).2.host)) (portStr (sendToArgs args).2.port.toNat) v.res ∧
    (v.sentBytes = 0 ∨ (sendToArgs args).2.data.length ≤ v.sentBytes)

section SendTo

variable {limit : MaxTransfer} {resolves : Resolution} {own : SockAddr} {args : List JsValue}

/-- The environment of a `sendTo` that transmits no more than it may. -/
abbrev sendToKernel (limit : MaxTransfer) (resolves : Resolution) (own : SockAddr)
    (args : List JsValue) :
    Kernel Call Call.Ret Network :=
  (Network.kernel limit resolves own (AsksFor resolves args)).amid Network.Grows

theorem wp_releasing {α : Type} {x : α} {p : Ptr} {Φ : α → Network → Prop} {k : Network}
    (h : ∀ k, Φ x k) : (releasing x p).wp (sendToKernel limit resolves own args) Φ k := by
  cases p with
  | none => exact h k
  | some p => exact ⟨fun _ _ => trivial, fun r k' _ => h k'⟩

/-- **`sendTo` transmits only what it was asked to.** -/
theorem sendTo_guarantee (u : SocketUDP) (stack : Ptr) (k : Network) :
    (u.wrapper.sendTo stack args).Guaranteed (Network.kernel limit resolves own (AsksFor resolves args))
      Network.Grows (SendToInv resolves args) (fun _ _ => True)
      (k, (u.wrapper.sendTo stack args).start) := by
  rw [u.sendTo_eq]
  cases hvalid : (sendToArgs args).1.rejected with
  | some e => exact ⟨trivial, fun _ _ _ => trivial⟩
  | none =>
    constructor
    · show Prog.wp _ (sendToLoop u.socket stack _).enter _ _
      rw [sendToLoop_enter u.protocol u.ipVer]
      refine ⟨fun _ _ => trivial, ?_⟩
      intro r k' ha
      cases r with
      | error e => exact wp_releasing fun _ => trivial
      | ok list =>
        obtain ⟨_, -, hlist, -⟩ := ha
        exact ⟨hlist, .inl rfl⟩
    · rintro ⟨list, sentBytes⟩ k ⟨hlist, hsent⟩
      rw [sendToLoop_body]
      split
      · rename_i hmore
        obtain rfl : sentBytes = 0 := hsent.resolve_right (Nat.not_le.mpr hmore)
        cases list with
        | nil => exact ⟨fun _ _ => trivial, fun r => Empty.elim r⟩
        | cons info rest =>
          refine ⟨fun _ _ => ⟨hvalid, rfl, info, rest, hlist, rfl⟩, ?_⟩
          intro r k' ha
          cases r with
          | error e =>
            rw [sendToRound_error]
            exact wp_releasing fun _ => trivial
          | ok n =>
            obtain ⟨_, -, hn, hlimit, -⟩ := ha
            rw [sendToRound_ok hlimit]
            refine ⟨hlist, .inr (Nat.le_of_eq ?_)⟩
            rw [hn, Nat.zero_add, List.drop_zero]
      · exact wp_releasing fun _ => trivial

/-- A `sendTo` with something to send that a datagram holds can transmit it. -/
theorem sendTo_transmits (u : SocketUDP) (stack : Ptr)
    (haccepted : (sendToArgs args).1.rejected = none) (hne : (sendToArgs args).2.data ≠ [])
    (hlimit : (sendToArgs args).2.data.length ≤ limit.bytes) {info : AddrInfo} {rest : List AddrInfo}
    (hresolves : resolves (some (ofCString (sendToArgs args).2.host))
      (portStr (sendToArgs args).2.port.toNat) (info :: rest)) (k : Network) :
    (u.wrapper.sendTo stack args).Returns (Network.free limit resolves own) k (.ok ())
      (k ++ [⟨own, info.addr, (sendToArgs args).2.data⟩]) := by
  rw [u.sendTo_eq, haccepted]
  simp only
  rw [Loop.Returns, Loop.start, sendToLoop_enter u.protocol u.ipVer]
  refine Loop.returnsFrom_ask.mpr ⟨.ok (info :: rest), k, ⟨hresolves, rfl⟩, ?_⟩
  rw [Loop.returnsFrom_again, sendToLoop_body, if_pos (List.length_pos_iff.mpr hne)]
  refine Loop.returnsFrom_ask.mpr ⟨.ok (sendToArgs args).2.data.length, _, ⟨rfl, hlimit, rfl⟩, ?_⟩
  rw [sendToRound_ok hlimit]
  have hall : ¬ 0 + (sendToArgs args).2.data.length < (sendToArgs args).2.data.length := by omega
  rw [Loop.returnsFrom_again, sendToLoop_body, if_neg hall]
  exact Loop.returnsFrom_ask.mpr ⟨(), _, rfl, Loop.returnsFrom_done.mpr ⟨rfl, rfl⟩⟩

end SendTo

/-! ## The receiving end -/

/-- A datagram for this socket that fills a piece. -/
structure FillsPiece (own : SockAddr) (k : Network) (p : Packet) : Prop where
  sent : p ∈ k
  target : p.target = own
  full : readSize ≤ p.payload.length

/-- What is read of datagrams that fill a piece. -/
def piecesOf (ps : List Packet) : StdString := ps.flatMap fun p => p.payload.take readSize

/-- How the object that `receiveFrom` returns is made of datagrams for this socket: of some that
    fill a piece, as far as they were read, and one that is shorter and gives its sender; or of
    the former alone, and then it names no sender. -/
inductive Assembled (own : SockAddr) (k : Network) : Received → Prop
  | ended {ps : List Packet} {p : Packet} : (∀ p ∈ ps, FillsPiece own k p) → p ∈ k →
      p.target = own → p.payload.length < readSize →
      Assembled own k ⟨p.source.host, getInPort p.source, piecesOf ps ++ p.payload⟩
  | cut {ps : List Packet} : (∀ p ∈ ps, FillsPiece own k p) → ps ≠ [] →
      Assembled own k ⟨[], 0, piecesOf ps⟩

/-- The loop of `receive_from` has read pieces that are full. -/
def ReceiveFromInv (own : SockAddr) (v : ReceiveFromVars) (k : Network) : Prop :=
  ∃ ps : List Packet, (∀ p ∈ ps, FillsPiece own k p) ∧ v.read = piecesOf ps

/-- What `receiveFrom` returns is made so. -/
def ReceivesAssembled (own : SockAddr) (o : Except JsError (Option Received)) (k : Network) : Prop :=
  ∀ x, o = .ok (some x) → Assembled own k x

section ReceiveFrom

variable {limit : MaxTransfer} {resolves : Resolution} {own : SockAddr} {k k' : Network}

theorem FillsPiece.grows {p : Packet} (h : FillsPiece own k p) (hmove : k.Grows k') :
    FillsPiece own k' p := ⟨hmove.mem h.sent, h.target, h.full⟩

theorem Assembled.grows {x : Received} (h : Assembled own k x) (hmove : k.Grows k') :
    Assembled own k' x := by
  cases h with
  | ended hps hp htarget hshort =>
    exact .ended (fun p hp => (hps p hp).grows hmove) (hmove.mem hp) htarget hshort
  | cut hps hne => exact .cut (fun p hp => (hps p hp).grows hmove) hne

theorem ReceiveFromInv.grows {v : ReceiveFromVars} (h : ReceiveFromInv own v k)
    (hmove : k.Grows k') : ReceiveFromInv own v k' := by
  obtain ⟨ps, hps, hread⟩ := h
  exact ⟨ps, fun p hp => (hps p hp).grows hmove, hread⟩

theorem piecesOf_append (ps : List Packet) (p : Packet) :
    piecesOf (ps ++ [p]) = piecesOf ps ++ p.payload.take readSize := by
  simp [piecesOf]

theorem ne_nil_of_piecesOf {ps : List Packet} (h : piecesOf ps ≠ []) : ps ≠ [] := by
  rintro rfl
  exact h rfl

/-- A round reads one datagram for this socket, or ends without. -/
theorem receiveFromRound_assembled {v : ReceiveFromVars} (hv : ReceiveFromInv own v k)
    {r : Except Errno (StdString × SockAddr)} (hr : ∀ bytes source, r = .ok (bytes, source) →
      ∃ p ∈ k, p.target = own ∧ p.source = source ∧ bytes = p.payload.take readSize) :
    Sum.elim (ReceiveFromInv own) (ReceivesAssembled own) (receiveFromRound v r) k := by
  obtain ⟨ps, hps, hread⟩ := hv
  cases r with
  | error e =>
    simp only [receiveFromRound]
    split
    · show ReceivesAssembled own _ k
      intro x hx
      rw [hread] at hx
      by_cases hne : piecesOf ps = []
      · rw [hne] at hx
        cases hx
      · rw [nonEmpty_of_ne hne] at hx
        cases hx
        exact .cut hps (ne_nil_of_piecesOf hne)
    · show ReceivesAssembled own _ k
      intro x hx
      cases hx
  | ok r =>
    obtain ⟨bytes, source⟩ := r
    obtain ⟨p, hp, htarget, rfl, rfl⟩ := hr bytes source rfl
    simp only [receiveFromRound, hread, List.length_take]
    split
    · rename_i hfull
      refine ⟨ps ++ [p], ?_, (piecesOf_append ps p).symm⟩
      intro d hd
      rcases List.mem_append.mp hd with hd | hd
      · exact hps d hd
      · cases List.mem_singleton.mp hd
        exact ⟨hp, htarget, by omega⟩
    · rename_i hshort
      show ReceivesAssembled own _ k
      intro x hx
      cases hx
      have hlt : p.payload.length < readSize := by omega
      rw [List.take_of_length_le (Nat.le_of_lt hlt)]
      exact .ended hps hp htarget hlt

/-- **`receiveFrom` makes its object of datagrams for this socket**, and transmits nothing. -/
theorem receiveFrom_guarantee (u : SocketUDP) (k : Network) :
    u.wrapper.receiveFrom.Guaranteed (Network.kernel limit resolves own fun _ _ => False) Network.Grows
      (ReceiveFromInv own) (ReceivesAssembled own) (k, u.wrapper.receiveFrom.start) := by
  rw [u.receiveFrom_eq]
  constructor
  · exact ⟨[], nofun, rfl⟩
  · intro v k hv
    rw [receiveFromLoop_body u.protocol]
    refine ⟨fun _ _ => trivial, ?_⟩
    intro r k' ha
    obtain ⟨k₁, hmove, ha⟩ := ha
    have hv := hv.grows (Network.Grows.all hmove)
    cases r with
    | error e =>
      cases ha
      exact receiveFromRound_assembled hv nofun
    | ok r =>
      obtain ⟨rfl, p, hp, htarget, hsource, hbytes⟩ := ha
      apply receiveFromRound_assembled hv
      intro bytes source hr
      cases hr
      exact ⟨p, hp, htarget, hsource, hbytes⟩

/-- A `receiveFrom` can return any short datagram that was sent to its socket. -/
theorem receiveFrom_receives (u : SocketUDP) {p : Packet} (hp : p ∈ k)
    (htarget : p.target = own) (hshort : p.payload.length < readSize) :
    u.wrapper.receiveFrom.Returns (Network.free limit resolves own) k
      (.ok (some ⟨p.source.host, getInPort p.source, p.payload⟩)) k := by
  rw [u.receiveFrom_returns, receiveFromLoop_body u.protocol]
  refine Loop.returnsFrom_ask.mpr ⟨.ok (p.payload, p.source), k, ⟨rfl, p, hp, htarget, rfl, ?_⟩, ?_⟩
  · rw [List.take_of_length_le (Nat.le_of_lt hshort)]
  · simp only [receiveFromRound, if_neg (Nat.ne_of_lt hshort)]
    exact Loop.returnsFrom_done.mpr ⟨rfl, rfl⟩

end ReceiveFrom

/-! ## All the sockets together -/

/-- A call in progress. -/
inductive InCall
  | sendTo (u : SocketUDP) (stack : Ptr) (args : List JsValue)
      (config : SysConfig SendToVars (Except JsError Unit))
  | receiveFrom (u : SocketUDP)
      (config : SysConfig ReceiveFromVars (Except JsError (Option Received)))

/-- What holds of a call in progress. -/
def InCall.Good (limit : MaxTransfer) (resolves : Resolution) (own : SockAddr) (network : Network)
    (asked : List JsValue → Prop) : InCall → Prop
  | .sendTo u stack args config => asked args ∧
      (u.wrapper.sendTo stack args).Guaranteed (Network.kernel limit resolves own (AsksFor resolves args))
        Network.Grows (SendToInv resolves args) (fun _ _ => True) (network, config)
  | .receiveFrom u config =>
    u.wrapper.receiveFrom.Guaranteed (Network.kernel limit resolves own fun _ _ => False)
      Network.Grows (ReceiveFromInv own) (ReceivesAssembled own) (network, config)

theorem InCall.Good.moved {limit : MaxTransfer} {resolves : Resolution} {own : SockAddr}
    {k k' : Network}
    {asked asked' : List JsValue → Prop} {c : InCall} (h : c.Good limit resolves own k asked)
    (hmove : k.Grows k') (hasked : ∀ args, asked args → asked' args) :
    c.Good limit resolves own k' asked' := by
  cases c with
  | sendTo u stack args config =>
    exact ⟨hasked args h.1, h.2.moved (fun _ _ _ hv _ => hv) (fun _ _ _ _ _ => trivial) hmove⟩
  | receiveFrom u config =>
    have h : u.wrapper.receiveFrom.Guaranteed _ _ _ _ (k, config) := h
    exact h.moved (fun _ _ _ hv hmove => hv.grows hmove)
      (fun _ _ _ ho hmove x hx => (ho x hx).grows hmove) hmove

/-- The network, the call that each socket is in, and on record every `sendTo` that was called
    and every object that was returned, each with its socket. -/
structure Traffic (ι : Type) where
  network : Network
  calls : ι → Option InCall
  asked : List (ι × List JsValue)
  returned : List (ι × Received)

namespace Traffic

variable {ι : Type} {limit : MaxTransfer} {resolves : Resolution} {address : ι → SockAddr}

/-- A datagram was transmitted by a `sendTo` that asked for it. -/
def Origin (resolves : Resolution) (address : ι → SockAddr) (asked : List (ι × List JsValue))
    (p : Packet) : Prop :=
  ∃ j args, (j, args) ∈ asked ∧ p.source = address j ∧ AsksFor resolves args p.payload p.target

theorem Origin.more {asked asked' : List (ι × List JsValue)} (hasked : asked <+: asked') {p : Packet}
    (h : Origin resolves address asked p) : Origin resolves address asked' p := by
  obtain ⟨j, args, hmem, h⟩ := h
  exact ⟨j, args, hasked.mem hmem, h⟩

def init : Traffic ι := ⟨[], fun _ => none, [], []⟩

/-- **The invariant.** Every datagram was asked for, every call keeps its guarantee, and every
    object that was returned is made of datagrams for its socket. -/
structure Inv (limit : MaxTransfer) (resolves : Resolution) (address : ι → SockAddr)
    (w : Traffic ι) : Prop where
  network : ∀ p ∈ w.network, Origin resolves address w.asked p
  calls : ∀ i, ∀ c ∈ w.calls i,
    InCall.Good limit resolves (address i) w.network (fun args => (i, args) ∈ w.asked) c
  returned : ∀ x ∈ w.returned, Assembled (address x.1) w.network x.2

theorem Inv.init : Inv limit resolves address (init : Traffic ι) where
  network p hp := by cases hp
  calls i c hc := by cases hc
  returned x hx := by cases hx

variable [DecidableEq ι]

/-- The socket `i` has gone on in its call, and the network is now this. -/
def now (w : Traffic ι) (i : ι) (c : Option InCall) (network : Network) : Traffic ι :=
  { w with network, calls := Function.update w.calls i c }

/-- The sockets take steps in any order. The socket `i` is known by `address i`; the object it is
    called on may change between calls, as its blocking mode may. -/
inductive Step (limit : MaxTransfer) (resolves : Resolution) (address : ι → SockAddr) :
    Traffic ι → Traffic ι → Prop
  | callSendTo {w : Traffic ι} {i : ι} (u : SocketUDP) (stack : Ptr) (args : List JsValue) :
      w.calls i = none →
      Step limit resolves address w
        { w.now i (some (.sendTo u stack args (u.wrapper.sendTo stack args).start)) w.network with
          asked := w.asked ++ [(i, args)] }
  | sendTo {w : Traffic ι} {i : ι} {u : SocketUDP} {stack : Ptr} {args : List JsValue}
      {config config' : SysConfig SendToVars (Except JsError Unit)} {network : Network} :
      w.calls i = some (.sendTo u stack args config) →
      (u.wrapper.sendTo stack args).Step (Network.free limit resolves (address i)) (w.network, config)
        (network, config') →
      Step limit resolves address w (w.now i (some (.sendTo u stack args config')) network)
  | sent {w : Traffic ι} {i : ι} {u : SocketUDP} {stack : Ptr} {args : List JsValue}
      {v : Option SendToVars} {o : Except JsError Unit} :
      w.calls i = some (.sendTo u stack args ⟨v, .ret (.inr o)⟩) →
      Step limit resolves address w (w.now i none w.network)
  | callReceiveFrom {w : Traffic ι} {i : ι} (u : SocketUDP) :
      w.calls i = none →
      Step limit resolves address w (w.now i (some (.receiveFrom u u.wrapper.receiveFrom.start)) w.network)
  | receiveFrom {w : Traffic ι} {i : ι} {u : SocketUDP}
      {config config' : SysConfig ReceiveFromVars (Except JsError (Option Received))}
      {network : Network} :
      w.calls i = some (.receiveFrom u config) →
      u.wrapper.receiveFrom.Step (Network.free limit resolves (address i)) (w.network, config)
        (network, config') →
      Step limit resolves address w (w.now i (some (.receiveFrom u config')) network)
  | received {w : Traffic ι} {i : ι} {u : SocketUDP} {v : Option ReceiveFromVars}
      {o : Except JsError (Option Received)} :
      w.calls i = some (.receiveFrom u ⟨v, .ret (.inr o)⟩) →
      Step limit resolves address w { w.now i none w.network with
        returned := w.returned ++ o.toOption.join.toList.map fun x => (i, x) }

abbrev Reachable (limit : MaxTransfer) (resolves : Resolution) (address : ι → SockAddr)
    (w : Traffic ι) : Prop :=
  Relation.ReflTransGen (Step limit resolves address) init w

variable {w w' : Traffic ι}

/-- The socket `i` has gone on, and the others are where they were. -/
theorem Inv.next (h : Inv limit resolves address w) {i : ι} {c : Option InCall} {network : Network}
    {asked : List (ι × List JsValue)} {returned : List (ι × Received)}
    (hgrows : w.network.Grows network) (hasked : w.asked <+: asked)
    (hnetwork : ∀ p ∈ network, p ∈ w.network ∨ Origin resolves address asked p)
    (hcall : ∀ c' ∈ c, c'.Good limit resolves (address i) network (fun args => (i, args) ∈ asked))
    (hreturned : ∀ x ∈ returned, x ∈ w.returned ∨ Assembled (address x.1) network x.2) :
    Inv limit resolves address ⟨network, Function.update w.calls i c, asked, returned⟩ where
  network p hp := (hnetwork p hp).elim (fun hp => (h.network p hp).more hasked) id
  calls j c' hc' := by
    have hc' : c' ∈ Function.update w.calls i c j := hc'
    by_cases hj : j = i
    · subst hj
      rw [Function.update_self] at hc'
      exact hcall c' hc'
    · rw [Function.update_of_ne hj] at hc'
      exact (h.calls j c' hc').moved hgrows fun args hmem => hasked.mem hmem
  returned x hx := (hreturned x hx).elim (fun hx => (h.returned x hx).grows hgrows) id

/-- **One step of the traffic** keeps the invariant. -/
theorem Inv.step (h : Inv limit resolves address w) (hstep : Step limit resolves address w w') :
    Inv limit resolves address w' := by
  cases hstep with
  | @callSendTo i u stack args hidle =>
    refine h.next (List.prefix_refl _) (List.prefix_append _ _) (fun p hp => .inl hp) ?_
      fun x hx => .inl hx
    intro c hc
    cases hc
    exact ⟨List.mem_append_right _ (List.mem_singleton.mpr rfl), sendTo_guarantee u stack _⟩
  | @sendTo i u stack args config config' network hbusy hstep =>
    obtain ⟨hasked, hgood⟩ := h.calls i _ hbusy
    obtain ⟨hgrows, hadds⟩ := Network.step_adds hgood hstep
    refine h.next hgrows (List.prefix_refl _) ?_ ?_ fun x hx => .inl hx
    · intro p hp
      rcases hadds p hp with hp | ⟨hsource, hasks⟩
      · exact .inl hp
      · exact .inr ⟨i, args, hasked, hsource, hasks⟩
    · intro c hc
      cases hc
      exact ⟨hasked, hgood.step (Network.step_of_free hstep)⟩
  | sent hbusy =>
    refine h.next (List.prefix_refl _) (List.prefix_refl _) (fun p hp => .inl hp) ?_
      fun x hx => .inl hx
    intro c hc
    cases hc
  | callReceiveFrom u hidle =>
    refine h.next (List.prefix_refl _) (List.prefix_refl _) (fun p hp => .inl hp) ?_
      fun x hx => .inl hx
    intro c hc
    cases hc
    exact receiveFrom_guarantee u _
  | @receiveFrom i u config config' network hbusy hstep =>
    have hgood : u.wrapper.receiveFrom.Guaranteed _ _ _ _ (w.network, config) := h.calls i _ hbusy
    obtain ⟨hgrows, hadds⟩ := Network.step_adds hgood hstep
    refine h.next hgrows (List.prefix_refl _) (fun p hp => .inl ?_) ?_ fun x hx => .inl hx
    · exact (hadds p hp).resolve_right fun hnew => hnew.2
    · intro c hc
      cases hc
      exact hgood.step (Network.step_of_free hstep)
  | @received i u v o hbusy =>
    have hgood : u.wrapper.receiveFrom.Guaranteed _ _ _ _ (w.network, ⟨v, .ret (.inr o)⟩) :=
      h.calls i _ hbusy
    refine h.next (List.prefix_refl _) (List.prefix_refl _) (fun p hp => .inl hp)
      (fun c hc => by cases hc) ?_
    intro x hx
    rcases List.mem_append.mp hx with hx | hx
    · exact .inl hx
    · obtain ⟨y, hy, rfl⟩ := List.mem_map.mp hx
      right
      cases o with
      | error e => cases hy
      | ok o =>
        cases o with
        | none => cases hy
        | some z =>
          cases List.mem_singleton.mp hy
          exact hgood.result _ rfl

theorem Reachable.inv (h : Reachable limit resolves address w) : Inv limit resolves address w := by
  induction h with
  | refl => exact .init
  | tail _ hstep ih => exact ih.step hstep

/-- **Nothing is made up.** Every object that `receiveFrom` has returned is made of datagrams for
    its socket, and every datagram was transmitted by a `sendTo` that asked for it. -/
theorem nothing_made_up (h : Reachable limit resolves address w) {i : ι} {x : Received}
    (hx : (i, x) ∈ w.returned) : Assembled (address i) w.network x ∧
      ∀ p ∈ w.network, Origin resolves address w.asked p :=
  ⟨h.inv.returned (i, x) hx, h.inv.network⟩

/-- **What is short arrives whole.** As long as no `sendTo` extracted as much as a piece from its data,
    every object that `receiveFrom` has returned is what some `sendTo` extracted, and names its
    socket. -/
theorem short_arrive_whole (h : Reachable limit resolves address w)
    (hshort : ∀ x ∈ w.asked, (sendToArgs x.2).2.data.length < readSize) {i : ι} {x : Received}
    (hx : (i, x) ∈ w.returned) :
    ∃ j args, (j, args) ∈ w.asked ∧ AsksFor resolves args x.data (address i) ∧
      x.host = (address j).host ∧ x.port = getInPort (address j) := by
  have hlt : ∀ p ∈ w.network, p.payload.length < readSize := by
    intro p hp
    obtain ⟨j, args, hasked, -, hasks⟩ := h.inv.network p hp
    rw [hasks.data]
    exact hshort (j, args) hasked
  have hnone : ∀ ps : List Packet, (∀ p ∈ ps, FillsPiece (address i) w.network p) → ps = [] := by
    intro ps hps
    cases ps with
    | nil => rfl
    | cons p rest =>
      have hp := hps p List.mem_cons_self
      exact absurd (hlt p hp.sent) (Nat.not_lt.mpr hp.full)
  cases h.inv.returned (i, x) hx with
  | @ended ps p hps hp htarget _ =>
    obtain rfl := hnone ps hps
    obtain ⟨j, args, hasked, hsource, hasks⟩ := h.inv.network p hp
    refine ⟨j, args, hasked, ?_, ?_, ?_⟩
    · rw [← htarget]
      exact hasks
    · rw [← hsource]
    · rw [← hsource]
  | cut hps hne => exact absurd (hnone _ hps) hne

/-! ## What can get through -/

theorem now_now (w : Traffic ι) (i : ι) (c c' : Option InCall) (k k' : Network) :
    (w.now i c k).now i c' k' = w.now i c' k' := by
  unfold now
  rw [Function.update_idem]

theorem now_idle {i : ι} (h : w.calls i = none) (k : Network) :
    w.now i none k = { w with network := k } := by
  unfold now
  rw [← h, Function.update_eq_self]

theorem calls_now (w : Traffic ι) (i : ι) (c : Option InCall) (k : Network) :
    (w.now i c k).calls i = c := Function.update_self ..

/-- A `sendTo` may run to its end with nothing in between. -/
theorem runs_sendTo {i : ι} (hidle : w.calls i = none) {u : SocketUDP} {stack : Ptr}
    {args : List JsValue} {o : Except JsError Unit} {network : Network}
    (h : (u.wrapper.sendTo stack args).Returns (Network.free limit resolves (address i)) w.network o
      network) :
    Relation.ReflTransGen (Step limit resolves address) w
      { w with network, asked := w.asked ++ [(i, args)] } := by
  obtain ⟨v, h⟩ := h
  let w₁ : Traffic ι := { w with asked := w.asked ++ [(i, args)] }
  have hlift {st : Network × SysConfig SendToVars (Except JsError Unit)}
      (h : (u.wrapper.sendTo stack args).Reaches (Network.free limit resolves (address i))
        (w.network, (u.wrapper.sendTo stack args).start) st) :
      Relation.ReflTransGen (Step limit resolves address) w
        (w₁.now i (some (.sendTo u stack args st.2)) st.1) := by
    induction h with
    | refl => exact .single (.callSendTo u stack args hidle)
    | @tail st st' _ hstep ih =>
      obtain ⟨k, c⟩ := st
      obtain ⟨k', c'⟩ := st'
      have hnext : Step limit resolves address (w₁.now i (some (.sendTo u stack args c)) k) _ :=
        .sendTo (calls_now ..) hstep
      rw [now_now] at hnext
      exact ih.tail hnext
  have hlast : Step limit resolves address
      (w₁.now i (some (.sendTo u stack args ⟨v, .ret (.inr o)⟩)) network) _ := .sent (calls_now ..)
  have hidle : w₁.calls i = none := hidle
  rw [now_now, now_idle hidle] at hlast
  exact (hlift h).tail hlast

/-- So may a `receiveFrom`. -/
theorem runs_receiveFrom {i : ι} (hidle : w.calls i = none) {u : SocketUDP}
    {o : Except JsError (Option Received)} {network : Network}
    (h : u.wrapper.receiveFrom.Returns (Network.free limit resolves (address i)) w.network o network) :
    Relation.ReflTransGen (Step limit resolves address) w
      { w with network, returned := w.returned ++ o.toOption.join.toList.map fun x => (i, x) } := by
  obtain ⟨v, h⟩ := h
  have hlift {st : Network × SysConfig ReceiveFromVars (Except JsError (Option Received))}
      (h : u.wrapper.receiveFrom.Reaches (Network.free limit resolves (address i))
        (w.network, u.wrapper.receiveFrom.start) st) :
      Relation.ReflTransGen (Step limit resolves address) w
        (w.now i (some (.receiveFrom u st.2)) st.1) := by
    induction h with
    | refl => exact .single (.callReceiveFrom u hidle)
    | @tail st st' _ hstep ih =>
      obtain ⟨k, c⟩ := st
      obtain ⟨k', c'⟩ := st'
      have hnext : Step limit resolves address (w.now i (some (.receiveFrom u c)) k) _ :=
        .receiveFrom (calls_now ..) hstep
      rw [now_now] at hnext
      exact ih.tail hnext
  have hlast : Step limit resolves address
      (w.now i (some (.receiveFrom u ⟨v, .ret (.inr o)⟩)) network) _ := .received (calls_now ..)
  rw [now_now, now_idle hidle] at hlast
  exact (hlift h).tail hlast

/-- **Round trip.** From wherever the traffic has got to, short data that one socket sends to another
    can be what the other receives next, byte by byte what was extracted from the argument and under
    the name of the sender. -/
theorem round_trip {i j : ι} (hi : w.calls i = none) (hj : w.calls j = none) (u u' : SocketUDP)
    (stack : Ptr) {args : List JsValue} (haccepted : (sendToArgs args).1.rejected = none)
    (hne : (sendToArgs args).2.data ≠ []) (hshort : (sendToArgs args).2.data.length < readSize)
    (hdatagram : readSize ≤ limit.bytes) {info : AddrInfo} {rest : List AddrInfo}
    (hresolves : resolves (some (ofCString (sendToArgs args).2.host))
      (portStr (sendToArgs args).2.port.toNat) (info :: rest)) (hinfo : info.addr = address j) :
    ∃ w', Relation.ReflTransGen (Step limit resolves address) w w' ∧ w'.returned = w.returned ++
      [(j, ⟨(address i).host, getInPort (address i), (sendToArgs args).2.data⟩)] := by
  let p : Packet := ⟨address i, info.addr, (sendToArgs args).2.data⟩
  let w₁ : Traffic ι := { w with network := w.network ++ [p], asked := w.asked ++ [(i, args)] }
  have hsent : Relation.ReflTransGen (Step limit resolves address) w w₁ :=
    runs_sendTo hi (sendTo_transmits u stack haccepted hne
      (Nat.le_trans (Nat.le_of_lt hshort) hdatagram) hresolves w.network)
  have hp : p ∈ w₁.network := List.mem_append_right _ (List.mem_singleton.mpr rfl)
  have hj : w₁.calls j = none := hj
  exact ⟨_, hsent.trans (runs_receiveFrom hj (receiveFrom_receives u' hp hinfo hshort)), rfl⟩

/-! ## One byte -/

section OneByte

/-- Two sockets, at 127.0.0.1:8000 and 127.0.0.1:9000. -/
def twoAddresses (i : Bool) : SockAddr := { (AddrInfo.loopback 7).addr with port := cond i 8000 9000 }

/-- Every name is that of the first. -/
def oneName : Resolution := fun _ _ list => list = [⟨7, .inet, .dgram, 17, twoAddresses true⟩]

/-- The second sends one byte to the first. -/
def oneByteArgs : List JsValue := [.string [104], .number (.finite 8000), .string [97]]

def oneByteReceived : Received := ⟨lit "127.0.0.1", 9000, [97]⟩

/-- After the first has received it. -/
def oneByte : Traffic Bool :=
  ⟨[⟨twoAddresses false, twoAddresses true, [97]⟩], fun _ => none, [(false, oneByteArgs)],
    [(true, oneByteReceived)]⟩

theorem oneByte_reachable : Reachable .datagram oneName twoAddresses oneByte := by
  let u := SocketUDP.on 3 8000
  let p : Packet := ⟨twoAddresses false, twoAddresses true, [97]⟩
  let w₁ : Traffic Bool := ⟨[p], fun _ => none, [(false, oneByteArgs)], []⟩
  have hreturns := @sendTo_transmits .datagram oneName (twoAddresses false) oneByteArgs u none rfl
    (by decide) (by decide)
    ⟨7, .inet, .dgram, 17, twoAddresses true⟩ [] rfl []
  have hsent : Reachable .datagram oneName twoAddresses w₁ := runs_sendTo (w := init) rfl hreturns
  have hreceives := @receiveFrom_receives .datagram oneName (twoAddresses true) [p] u p
    (List.mem_singleton.mpr rfl) rfl (by decide)
  exact hsent.trans (runs_receiveFrom (w := w₁) rfl hreceives)

theorem nothing_made_up_one_byte : Assembled (twoAddresses true) oneByte.network oneByteReceived ∧
    ∀ p ∈ oneByte.network, Origin oneName twoAddresses oneByte.asked p :=
  nothing_made_up oneByte_reachable (List.mem_singleton.mpr rfl)

theorem short_arrive_whole_one_byte : ∃ j args, (j, args) ∈ oneByte.asked ∧
    AsksFor oneName args [97] (twoAddresses true) ∧
    lit "127.0.0.1" = (twoAddresses j).host ∧ 9000 = getInPort (twoAddresses j) :=
  short_arrive_whole oneByte_reachable (by decide) (List.mem_singleton.mpr rfl)

theorem round_trip_one_byte : ∃ w',
    Relation.ReflTransGen (Step .datagram oneName twoAddresses) init w' ∧
    w'.returned = [(true, oneByteReceived)] :=
  round_trip (i := false) (j := true) rfl rfl (.on 3 9000) (.on 4 8000) none
    (show (sendToArgs oneByteArgs).1.rejected = none from rfl) (by decide) (by decide) (by decide) rfl rfl

end OneByte

end Traffic

end NetLink
