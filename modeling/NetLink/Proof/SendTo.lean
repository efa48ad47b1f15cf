import NetLink.Proof.Rounds
import NetLink.Proof.Kinds
import NetLink.Kernel.Outbox

/-!
# One `sendTo` and the datagrams it makes

`sendTo` sends while bytes remain, as one writes to a stream. A datagram socket takes all it is
given at once, or nothing when that is too long for a datagram, so there is one round if there is
a byte to send, and none if there is not: the empty datagram, which `receiveFrom` knows how to
report, is never sent, and the call returns as if it had been.
-/

namespace NetLink

open Interaction NetLinkWrapper
open Socket (SendToVars)

/-- A call that returns has transmitted `datagram`, and a call that throws has transmitted
    nothing. -/
def Transmits (before : Outbox) (datagram : StdString × SockAddr) (o : Except JsError Unit)
    (after : Outbox) : Prop :=
  match o with
  | .ok () => after = before ++ [datagram]
  | .error _ => after = before

/-- `sendTo` with these arguments is one datagram with all of the data, to the first address:
    every run transmits so, and the datagram, if there is one of this length, can be produced. -/
def OneDatagram (limit : MaxTransfer) (u : SocketUDP) (stack : Ptr) (first : AddrInfo)
    (rest : List AddrInfo) (args : List JsValue) : Prop :=
  (∀ before o after,
    (u.wrapper.sendTo stack args).Returns (Outbox.kernel limit first rest) before o after →
      Transmits before ((sendToArgs args).2.data, first.addr) o after) ∧
  ((sendToArgs args).2.data.length ≤ limit.bytes →
    ∀ before, (u.wrapper.sendTo stack args).Returns (Outbox.kernel limit first rest) before (.ok ())
      (before ++ [((sendToArgs args).2.data, first.addr)]))

section Loop

variable {limit : MaxTransfer} {u : SocketUDP} {stack : Ptr} {first : AddrInfo} {rest : List AddrInfo}
  {a : SendToArgs} {before : Outbox}

theorem Outbox.wp_releasing {α : Type} {x : α} {p : Ptr} {Φ : α → Outbox → Prop} {k : Outbox}
    (h : Φ x k) : (releasing x p).wp (Outbox.kernel limit first rest) Φ k := by
  cases p with
  | none => exact h
  | some p =>
    refine ⟨trivial, ?_⟩
    rintro r k' (rfl : k' = k)
    exact h

/-- With a byte to send, one datagram goes out: the invariant is that either nothing has gone
    out and no byte is counted, or all of it has and every byte is. -/
theorem sendToLoop_transmits (hne : a.data ≠ []) :
    (sendToLoop u.socket stack a).wp (Outbox.kernel limit first rest)
      (Transmits before (a.data, first.addr)) before := by
  have hpos : 0 < a.data.length := List.length_pos_iff.mpr hne
  -- Nothing is sent yet, or all of it in one datagram: `sendto` on a datagram socket takes all or
  -- fails.
  refine ⟨fun v k => v.res = first :: rest ∧
    ((v.sentBytes = 0 ∧ k = before) ∨
      (v.sentBytes = a.data.length ∧ k = before ++ [(a.data, first.addr)])), ?_, ?_⟩
  · rw [sendToLoop_enter u.protocol u.ipVer]
    refine ⟨trivial, ?_⟩
    intro r k h
    obtain ⟨rfl, rfl⟩ := h
    exact ⟨rfl, .inl ⟨rfl, rfl⟩⟩
  · rintro ⟨res, sentBytes⟩ k ⟨(rfl : res = _), hsent⟩
    rw [sendToLoop_body]
    rcases hsent with ⟨rfl, rfl⟩ | ⟨rfl, rfl⟩
    · rw [if_pos hpos]
      refine ⟨trivial, ?_⟩
      intro r k' ha
      cases r with
      | error e =>
        obtain rfl : k' = k := ha
        rw [sendToRound_error]
        exact Outbox.wp_releasing rfl
      | ok n =>
        obtain ⟨rfl, hlimit, rfl⟩ := ha
        rw [sendToRound_ok hlimit]
        exact ⟨rfl, .inr ⟨by simp, rfl⟩⟩
    · rw [if_neg (Nat.lt_irrefl _)]
      exact Outbox.wp_releasing rfl

theorem sendToLoop_resolved {o : Except JsError Unit} {after : Outbox} :
    (sendToLoop u.socket stack a).Returns (Outbox.kernel limit first rest) before o after ↔
      (sendToLoop u.socket stack a).ReturnsFrom (Outbox.kernel limit first rest)
        ⟨some ⟨first :: rest, 0⟩, (sendToLoop u.socket stack a).body ⟨first :: rest, 0⟩⟩
        before o after := by
  rw [Loop.Returns, Loop.start, sendToLoop_enter u.protocol u.ipVer, Loop.returnsFrom_ask]
  constructor
  · intro h
    obtain ⟨r, k, ⟨rfl, rfl⟩, h⟩ := h
    exact Loop.returnsFrom_again.mp h
  · intro h
    exact ⟨_, before, ⟨rfl, rfl⟩, Loop.returnsFrom_again.mpr h⟩

theorem sendToLoop_leave {w : Option SendToVars} {v : SendToVars} {k : Outbox}
    (hres : v.res = first :: rest) (hall : a.data.length ≤ v.sentBytes) :
    (sendToLoop u.socket stack a).ReturnsFrom (Outbox.kernel limit first rest)
      ⟨w, (sendToLoop u.socket stack a).body v⟩ k (.ok ()) k := by
  rw [sendToLoop_body, if_neg (Nat.not_lt.mpr hall), hres]
  exact Loop.returnsFrom_ask.mpr ⟨(), k, rfl, Loop.returnsFrom_done.mpr ⟨rfl, rfl⟩⟩

theorem sendToLoop_produces (hne : a.data ≠ []) (hlimit : a.data.length ≤ limit.bytes) :
    (sendToLoop u.socket stack a).Returns (Outbox.kernel limit first rest) before (.ok ())
      (before ++ [(a.data, first.addr)]) := by
  rw [sendToLoop_resolved, sendToLoop_body, if_pos (List.length_pos_iff.mpr hne)]
  refine Loop.returnsFrom_ask.mpr ⟨.ok a.data.length, _, ⟨rfl, hlimit, rfl⟩, ?_⟩
  rw [sendToRound_ok hlimit]
  refine Loop.returnsFrom_again.mpr (sendToLoop_leave rfl ?_)
  exact Nat.le_of_eq (Nat.zero_add _).symm

theorem sendToLoop_empty (hnil : a.data = []) :
    (sendToLoop u.socket stack a).Returns (Outbox.kernel limit first rest) before (.ok ()) before :=
  sendToLoop_resolved.mpr (sendToLoop_leave rfl (by simp [hnil]))

end Loop

/-- **One `sendTo` is one datagram exactly when there is something to send.** -/
theorem sendTo_oneDatagram_iff (limit : MaxTransfer) (u : SocketUDP) (stack : Ptr)
    (first : AddrInfo) (rest : List AddrInfo) (args : List JsValue)
    (hvalid : (sendToArgs args).1.rejected = none) :
    OneDatagram limit u stack first rest args ↔ (sendToArgs args).2.data ≠ [] := by
  have hcall : u.wrapper.sendTo stack args =
      sendToLoop u.socket stack (sendToArgs args).2 := by rw [u.sendTo_eq, hvalid]
  unfold OneDatagram
  rw [hcall]
  constructor
  · rintro ⟨htransmits, -⟩ hnil
    have h : ([] : Outbox) = [] ++ [_] := htransmits [] _ _ (sendToLoop_empty hnil)
    exact absurd h (by simp)
  · intro hne
    exact ⟨fun before o after h => (sendToLoop_transmits hne).returns h,
      fun hlimit before => sendToLoop_produces hne hlimit⟩

theorem sendTo_oneDatagram_string :
    OneDatagram .datagram (.on 3 8000) none (.loopback 1) []
        [.string [104], .number (.finite 9000), .string [97]] ↔
      ([97] : StdString) ≠ [] :=
  sendTo_oneDatagram_iff _ _ _ _ _ _ rfl

/-- An empty string: the call returns and nothing was transmitted. -/
theorem sendTo_empty_string :
    let args : List JsValue := [.string [104], .number (.finite 9000), .string []]
    ((SocketUDP.on 3 8000).wrapper.sendTo none args).Returns
        (Outbox.kernel .datagram (.loopback 1) []) [] (.ok ()) [] ∧
      ¬ OneDatagram .datagram (.on 3 8000) none (.loopback 1) [] args := by
  intro args
  have hreturns : ((SocketUDP.on 3 8000).wrapper.sendTo none args).Returns
      (Outbox.kernel .datagram (.loopback 1) []) [] (.ok ()) [] := by
    rw [(SocketUDP.on 3 8000).sendTo_eq]
    exact sendToLoop_empty rfl
  refine ⟨hreturns, ?_⟩
  intro h
  have hsent : ([] : Outbox) = [] ++ [_] := h.1 [] _ _ hreturns
  exact absurd hsent (by simp)

end NetLink
