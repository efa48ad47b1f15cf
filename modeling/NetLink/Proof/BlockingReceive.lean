import NetLink.Proof.Rounds
import NetLink.Proof.Kinds
import NetLink.Kernel.Tcp

/-!
# A blocking `receive` of what is pending

`receive` does not ask the kernel whether more is pending: it goes on reading until a read is
shorter than a piece. Over a stream whose last piece is not full that finds the end of what is
pending, and the call returns all of it. When what is pending divides into full pieces the read
that should have found the end is made on an empty queue, and a blocking socket waits there with
everything already read.

`receive_returnsPending_iff` is the exact line between the two.
-/

namespace NetLink

open Interaction NetLinkWrapper

/-- The call returns exactly what was pending, and nowhere on the way does it wait. -/
def ReturnsPending (abi : Abi) (c : SocketClientTCP) (pending : StdString) : Prop :=
  (c.wrapper.receive abi).Returns TcpPending.kernel (.silent pending) (.ok (some pending))
      (.silent []) ∧
    ¬ (c.wrapper.receive abi).Waits TcpPending.kernel (.silent pending)

section Rounds

variable (abi : Abi) (s : Socket) {k : TcpPending} {w : Option StdString} (ss : StdString)

theorem receive_round_full (hlen : readSize ≤ k.bytes.length) :
    (receiveLoop abi s).Reaches TcpPending.kernel (k, ⟨w, (receiveLoop abi s).body ss⟩)
      ({ k with bytes := k.bytes.drop readSize },
       ⟨some (ss ++ k.bytes.take readSize),
        (receiveLoop abi s).body (ss ++ k.bytes.take readSize)⟩) := by
  have hne : k.bytes ≠ [] := List.ne_nil_of_length_pos (Nat.lt_of_lt_of_le (by decide) hlen)
  have htake : (k.bytes.take readSize).length = readSize := by
    rw [List.length_take, Nat.min_eq_left hlen]
  have hround : receiveRound ss (.ok (k.bytes.take readSize)) =
      .inl (ss ++ k.bytes.take readSize) := if_pos htake
  rw [receiveLoop_body abi s ss]
  refine .head (.answer _ (TcpPending.serve_recv hne _ _)) ?_
  rw [hround]
  exact .single .again

theorem receive_rounds (m : Nat) (hk : readSize * m ≤ k.bytes.length) :
    ∃ w', (receiveLoop abi s).Reaches TcpPending.kernel (k, ⟨w, (receiveLoop abi s).body ss⟩)
      ({ k with bytes := k.bytes.drop (readSize * m) },
       ⟨w', (receiveLoop abi s).body (ss ++ k.bytes.take (readSize * m))⟩) := by
  induction m generalizing k w ss with
  | zero => exact ⟨w, by simpa using .refl⟩
  | succ m ih =>
    rw [Nat.mul_succ, Nat.add_comm] at hk ⊢
    have hrest : readSize * m ≤ (k.bytes.drop readSize).length := by
      rw [List.length_drop]
      omega
    -- One full round, and then `m` more on what is behind the first piece.
    obtain ⟨w', h⟩ := ih _ (k := { k with bytes := k.bytes.drop readSize }) hrest
    refine ⟨w', (receive_round_full abi s ss (by omega)).trans ?_⟩
    rw [List.take_add, ← List.append_assoc, ← List.drop_drop]
    exact h

theorem receive_round_short (hne : k.bytes ≠ []) (hlen : k.bytes.length < readSize) :
    (receiveLoop abi s).ReturnsFrom TcpPending.kernel ⟨w, (receiveLoop abi s).body ss⟩ k
      (.ok (some (ss ++ k.bytes))) { k with bytes := [] } := by
  have htake : k.bytes.take readSize = k.bytes := List.take_of_length_le (by omega)
  have hdrop : k.bytes.drop readSize = [] := List.drop_eq_nil_of_le (by omega)
  have hround : receiveRound ss (.ok k.bytes) = .inr (.ok (some (ss ++ k.bytes))) := by
    rw [receiveRound, if_neg (Nat.ne_of_lt hlen), nonEmpty_of_ne (by simp [hne])]
  rw [receiveLoop_body abi s ss]
  apply (Loop.returnsFrom_serve (TcpPending.serve_recv hne _ _)).mpr
  rw [htake, hdrop, hround]
  exact Loop.returnsFrom_done.mpr ⟨rfl, rfl⟩

theorem receive_enters (hb : s.blocking = true) :
    (receiveLoop abi s).Reaches TcpPending.kernel (k, (receiveLoop abi s).start)
      (k, ⟨some [], (receiveLoop abi s).body []⟩) := by
  have hentry (n : BitVec 32) : receiveEntry abi s.blocking (.ok n) = .inl [] :=
    if_neg fun h => absurd (hb.symm.trans h.2) (by decide)
  rw [Loop.start, receiveLoop_enter]
  refine .head (.answer _ (TcpPending.serve_ioctl k _)) ?_
  rw [hentry]
  exact .single .again

end Rounds

section Silent

variable (abi : Abi) {c : SocketClientTCP} {pending : StdString}

theorem receive_waits (hb : c.socket.blocking = true) (hdvd : readSize ∣ pending.length) :
    (c.wrapper.receive abi).Waits TcpPending.kernel (.silent pending) := by
  obtain ⟨m, hm⟩ := hdvd
  rw [c.receive_eq]
  obtain ⟨w, hrounds⟩ := receive_rounds abi c.socket [] (k := .silent pending) (w := some []) m
    (Nat.le_of_eq hm.symm)
  have hall : (TcpPending.silent pending).bytes.drop (readSize * m) = [] :=
    List.drop_eq_nil_of_le (Nat.le_of_eq hm)
  rw [hall, receiveLoop_body abi c.socket (_ ++ _)] at hrounds
  exact ⟨_, _, _, _, (receive_enters abi c.socket hb).trans hrounds,
    Kernel.ofServe_blocks (TcpPending.serve_silent_nil _ _)⟩

theorem receive_returns_pending (hb : c.socket.blocking = true)
    (hdvd : ¬ readSize ∣ pending.length) :
    (c.wrapper.receive abi).Returns TcpPending.kernel (.silent pending) (.ok (some pending))
      (.silent []) := by
  let m := pending.length / readSize
  have hdiv : readSize * m + pending.length % readSize = pending.length := Nat.div_add_mod _ _
  have hlast : 0 < pending.length % readSize :=
    Nat.pos_of_ne_zero fun h => hdvd (Nat.dvd_of_mod_eq_zero h)
  have hlen : (pending.drop (readSize * m)).length = pending.length % readSize := by
    rw [List.length_drop]
    omega
  rw [c.receive_eq]
  obtain ⟨w, hrounds⟩ := receive_rounds abi c.socket [] (k := .silent pending) (w := some []) m
    (by show _ ≤ pending.length; omega)
  obtain ⟨w', hlast⟩ := receive_round_short abi c.socket (pending.take (readSize * m))
    (k := .silent (pending.drop (readSize * m))) (w := w)
    (List.ne_nil_of_length_pos (by show 0 < (pending.drop _).length; omega))
    (by show (pending.drop _).length < _; rw [hlen]; exact Nat.mod_lt _ (by decide))
  have hjoin : pending.take (readSize * m) ++ pending.drop (readSize * m) = pending :=
    List.take_append_drop _ _
  rw [show (TcpPending.silent (pending.drop (readSize * m))).bytes = pending.drop (readSize * m)
    from rfl, hjoin] at hlast
  exact ⟨w', (receive_enters abi c.socket hb).trans (hrounds.trans hlast)⟩

end Silent

/-- **A blocking `receive` finds the end of what is pending exactly when the last piece is not
    full.** -/
theorem receive_returnsPending_iff (abi : Abi) (c : SocketClientTCP) (pending : StdString)
    (hb : c.socket.blocking = true) :
    ReturnsPending abi c pending ↔ ¬ readSize ∣ pending.length := by
  constructor
  · intro h hdvd
    exact h.2 (receive_waits abi hb hdvd)
  · intro hdvd
    have h := receive_returns_pending abi hb hdvd
    exact ⟨h, h.not_waits (Kernel.ofServe_functional _)⟩

theorem receive_returnsPending_one :
    (SocketClientTCP.on 3 8000).socket.blocking = true ∧
      (ReturnsPending .lp64 (.on 3 8000) [97] ↔ ¬ readSize ∣ 1) :=
  ⟨rfl, receive_returnsPending_iff .lp64 (.on 3 8000) [97] rfl⟩

/-- Exactly one piece is pending: it is read, and the call waits for more. -/
theorem receive_waits_after_one_piece :
    let pending := List.replicate readSize (97 : UInt8)
    ((SocketClientTCP.on 3 8000).wrapper.receive .lp64).Waits TcpPending.kernel
        (.silent pending) ∧
      ¬ ReturnsPending .lp64 (.on 3 8000) pending := by
  intro pending
  have hdvd : readSize ∣ pending.length := ⟨1, by simp [pending]⟩
  have hwaits := receive_waits .lp64 (c := .on 3 8000) rfl hdvd
  exact ⟨hwaits, fun h => h.2 hwaits⟩

end NetLink
