import NetLink.Proof.ReadFailure
import NetLink.Proof.NonBlockingReceive
import NetLink.Kernel.Arrivals

/-!
# Whether a read that must not block ends

`receive` and `receiveFrom` read until a piece is not full. What makes a piece full is not up to
them: while one is read the peer may be sending the next. `ends_iff` is the race between the two,
decided by what has arrived. A call goes on for ever exactly when at every read the peer has
already sent enough for all of them.
-/

namespace NetLink

open Interaction Inflow NetLinkWrapper

/-- The calls that read and must not block. -/
inductive NonBlockingRead
  | receive (t : Target) (c : SocketClientTCP) (nonblocking : c.socket.blocking = false)
  | receiveFrom (u : SocketUDP) (nonblocking : u.socket.blocking = false)

namespace NonBlockingRead

/-- The call returns or throws. -/
def Ends (a : Arrivals) : NonBlockingRead → Prop
  | receive t c _ => ∃ o k, (c.wrapper.receive t.toAbi).Returns a.kernel a.start o k
  | receiveFrom u _ => ∃ o k, u.wrapper.receiveFrom.Returns a.kernel a.start o k

/-- The peer keeps ahead of the call: at every read of a stream so many bytes have arrived that
    it and all before it are full, and every datagram read is there in time and is a full piece. -/
def Flooded (a : Arrivals) : NonBlockingRead → Prop
  | receive t _ _ => ¬ t.StoresHigh ∧ StoresPositive a.pending.length ∧
      ∀ n, readSize * (n + 1) ≤ (arrived a.pending a.bytes n).length
  | receiveFrom _ _ => ∀ n, ∃ d, (arrived a.queue a.datagrams n)[n]? = some d ∧
      readSize ≤ d.payload.length

end NonBlockingRead

/-! ## Collecting loops -/

theorem Collects.stops_iff {σ X Y : Type} {round : σ → Except Errno X → σ ⊕ Except JsError (Option Y)}
    {chunk : X → StdString} {collected : σ → StdString} {data : Option Y → StdString}
    (hc : Collects round chunk collected data) (s : σ) (r : Except Errno X) :
    (∃ o, round s r = .inr o) ↔ ∀ x, r = .ok x → (chunk x).length ≠ readSize := by
  cases r with
  | error e =>
    refine iff_of_true ?_ nofun
    cases he : e.wouldBlock with
    | true =>
      obtain ⟨y, hy, -⟩ := hc.block s e he
      exact ⟨_, hy⟩
    | false =>
      obtain ⟨err, herr⟩ := hc.fail s e he
      exact ⟨_, herr⟩
  | ok x =>
    simp only [Except.ok.injEq, forall_eq']
    by_cases hlen : (chunk x).length = readSize
    · obtain ⟨s', hs', -⟩ := hc.full s x hlen
      rw [hs']
      exact iff_of_false nofun fun h => h hlen
    · obtain ⟨y, hy, -⟩ := hc.short s x hlen
      exact iff_of_true ⟨_, hy⟩ hlen

/-- A collecting loop ends exactly when one of its reads is not a full piece. -/
theorem Collects.polls_iff {σ X Y : Type} {round : σ → Except Errno X → σ ⊕ Except JsError (Option Y)}
    {chunk : X → StdString} {collected : σ → StdString} {data : Option Y → StdString}
    (hc : Collects round chunk collected data) {results : Nat → Except Errno X} (s : σ) :
    (∃ o j, Polls round results 0 s o j) ↔
      ¬ ∀ n, ∃ x, results n = .ok x ∧ (chunk x).length = readSize := by
  rw [exists_polls_iff hc.stops_iff]
  constructor
  · intro h hfull
    obtain ⟨n, -, hn⟩ := h
    obtain ⟨x, hx, hlen⟩ := hfull n
    exact hn x hx hlen
  · intro h
    rw [not_forall] at h
    obtain ⟨n, hn⟩ := h
    exact ⟨n, Nat.zero_le n, fun x hx hlen => hn ⟨x, hx, hlen⟩⟩

/-! ## The reads of the two loops -/

namespace Arrivals

variable {a : Arrivals} {n : Nat}

theorem length_take_readSize {bytes : StdString} :
    (bytes.take readSize).length = readSize ↔ readSize ≤ bytes.length := by
  rw [List.length_take]
  omega

theorem recvAt_full_iff : (∃ bytes, a.recvAt readSize n = .ok bytes ∧ bytes.length = readSize) ↔
    readSize ≤ (queued readSize a.pending a.bytes n).length := by
  rw [← length_take_readSize]
  simp only [recvAt]
  generalize queued readSize a.pending a.bytes n = bytes
  by_cases h : bytes = []
  · subst h
    simp [readSize]
  · simp [h]

theorem recvfromAt_full_iff :
    (∃ x, a.recvfromAt readSize n = .ok x ∧ x.1.length = readSize) ↔
      ∃ d, (queued 1 a.queue a.datagrams n).head? = some d ∧ readSize ≤ d.payload.length := by
  unfold recvfromAt
  cases (queued 1 a.queue a.datagrams n).head? with
  | none => simp
  | some d =>
    constructor
    · intro h
      obtain ⟨x, hx, hlen⟩ := h
      obtain rfl := Except.ok.inj hx
      exact ⟨d, rfl, length_take_readSize.mp hlen⟩
    · intro h
      obtain ⟨d', hd', hlen⟩ := h
      obtain rfl := Option.some.inj hd'
      exact ⟨_, rfl, length_take_readSize.mpr hlen⟩

/-- Every datagram read is a full piece exactly when the `n`-th to arrive always is there in
    time, and is one. -/
theorem always_full_datagram_iff :
    (∀ n, ∃ d, (queued 1 a.queue a.datagrams n).head? = some d ∧ readSize ≤ d.payload.length) ↔
      ∀ n, ∃ d, (arrived a.queue a.datagrams n)[n]? = some d ∧ readSize ≤ d.payload.length := by
  have hhead (harrived : ∀ n, 1 * (n + 1) ≤ (arrived a.queue a.datagrams n).length) (n : Nat) :
      (queued 1 a.queue a.datagrams n).head? = (arrived a.queue a.datagrams n)[n]? := by
    rw [queued_eq_drop fun i _ => harrived i, List.head?_drop, Nat.one_mul]
  constructor
  · intro h
    have harrived := always_full_iff.mp fun n => by
      obtain ⟨d, hd, -⟩ := h n
      exact List.length_pos_of_mem (List.mem_of_mem_head? hd)
    intro n
    rw [← hhead harrived n]
    exact h n
  · intro h
    have harrived (n : Nat) : 1 * (n + 1) ≤ (arrived a.queue a.datagrams n).length := by
      obtain ⟨d, hd, -⟩ := h n
      have hlt := (List.getElem?_eq_some_iff.mp hd).1
      omega
    intro n
    rw [hhead harrived n]
    exact h n

end Arrivals

/-! ## The two calls -/

theorem receive_ends_iff (t : Target) (c : SocketClientTCP) (hb : c.socket.blocking = false)
    (a : Arrivals) :
    (∃ o k, (c.wrapper.receive t.toAbi).Returns a.kernel a.start o k) ↔
      ¬ (¬ t.StoresHigh ∧ StoresPositive a.pending.length ∧
        ∀ n, readSize * (n + 1) ≤ (arrived a.pending a.bytes n).length) := by
  have hreturns (o k) : (c.wrapper.receive t.toAbi).Returns a.kernel a.start o k ↔
      (receiveLoop t.toAbi c.socket).ReturnsFrom a.kernel
        ⟨none, .ret (receiveEntry t.toAbi c.socket.blocking
          (.ok (BitVec.ofNat 32 a.pending.length)))⟩ a.start o k := c.receive_returns t.toAbi rfl
  by_cases hpos : ¬ t.StoresHigh ∧ StoresPositive a.pending.length
  · have hreported := Target.one_le_reported_iff.mpr hpos
    have hentry : receiveEntry t.toAbi c.socket.blocking (.ok (BitVec.ofNat 32 a.pending.length)) =
        .inl [] := if_neg (by omega)
    have hpolls : (∃ o k, (c.wrapper.receive t.toAbi).Returns a.kernel a.start o k) ↔
        ∃ o j, Polls receiveRound (a.recvAt readSize) 0 [] o j := by
      simp only [hreturns, hentry, Loop.returnsFrom_again]
      exact Loop.exists_returnsFrom_iff_polls (i := 0) (a.streamAt readSize) (receiveLoop_body _ _)
        (a.serve_recv _ readSize)
    rw [← and_assoc, and_iff_right hpos, ← always_full_iff]
    simp only [← Arrivals.recvAt_full_iff]
    exact hpolls.trans (receiveRound_collects.polls_iff [])
  · have hreported : ¬ 1 ≤ t.reported (BitVec.ofNat 32 a.pending.length) :=
      fun h => hpos (Target.one_le_reported_iff.mp h)
    refine iff_of_true ⟨.ok none, a.start, (hreturns _ _).mpr ?_⟩ fun h => hpos ⟨h.1, h.2.1⟩
    rw [receiveEntry, if_pos ⟨by omega, hb⟩]
    exact Loop.returnsFrom_done.mpr ⟨rfl, rfl⟩

theorem receiveFrom_ends_iff (u : SocketUDP) (a : Arrivals) :
    (∃ o k, u.wrapper.receiveFrom.Returns a.kernel a.start o k) ↔
      ¬ ∀ n, ∃ d, (arrived a.queue a.datagrams n)[n]? = some d ∧ readSize ≤ d.payload.length := by
  have hpolls : (∃ o k, u.wrapper.receiveFrom.Returns a.kernel a.start o k) ↔
      ∃ o j, Polls receiveFromRound (a.recvfromAt readSize) 0 ⟨[], [], 0⟩ o j := by
    simp only [u.receiveFrom_returns]
    exact Loop.exists_returnsFrom_iff_polls (i := 0) a.queueAt (receiveFromLoop_body u.protocol)
      (a.serve_recvfrom _ readSize)
  rw [← Arrivals.always_full_datagram_iff]
  simp only [← Arrivals.recvfromAt_full_iff]
  exact hpolls.trans (receiveFromRound_collects.polls_iff ⟨[], [], 0⟩)

/-- **A read that must not block ends** exactly when the peer does not keep ahead of it. -/
theorem ends_iff (r : NonBlockingRead) (a : Arrivals) : r.Ends a ↔ ¬ r.Flooded a := by
  cases r with
  | receive t c nonblocking => exact receive_ends_iff t c nonblocking a
  | receiveFrom u _ => exact receiveFrom_ends_iff u a

/-- A peer that has sent one full piece, and sends another before every read: the call does not
    end. -/
theorem receive_never_ends :
    let piece := List.replicate readSize (97 : UInt8)
    let a : Arrivals := ⟨piece, fun _ => piece, [], fun _ => []⟩
    ¬ (NonBlockingRead.receive .littleEndian64 (SocketClientTCP.on 3 8000).unblocked rfl).Ends a := by
  intro piece a hends
  have hlen : piece.length = readSize := List.length_replicate
  have harrived (n : Nat) : readSize * (n + 1) ≤ (arrived a.pending a.bytes n).length := by
    induction n with
    | zero => simp [arrived, a, hlen]
    | succ n ih =>
      rw [arrived, List.length_append, show a.bytes (n + 1) = piece from rfl, hlen, Nat.mul_succ]
      omega
  have hpositive : StoresPositive a.pending.length := by
    show 0 < (BitVec.ofNat 32 piece.length).toInt
    rw [hlen]
    decide
  exact (receive_ends_iff .littleEndian64 _ rfl a).mp hends
    ⟨fun h => Bool.false_ne_true h.1, hpositive, harrived⟩

end NetLink
