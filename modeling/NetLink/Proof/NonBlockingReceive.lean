import NetLink.Proof.BlockingReceive
import NetLink.Proof.PendingCount

/-!
# A `receive` that must not block

Two things stand between a non-blocking `receive` and what is pending: a test that asks how much
there is and returns at once when the answer is nothing, and the loop that reads. The loop on its
own takes everything (`receive_drains`). The test is a shortcut, and it is one only where it
predicts what the loop would have done. The count it goes by says nothing of an error that is
pending on the connection, which the loop would have met, and on a target where the count does
not come through it is never positive.
-/

namespace NetLink

open Interaction NetLinkWrapper

section Rounds

variable (abi : Abi) (s : Socket) {k k' : TcpPending} {w : Option StdString} (ss : StdString)
  {o : Except JsError (Option StdString)}

theorem receive_round_empty (hk : k.bytes = []) (he : k.error = none) (hnb : k.nonblocking = true) :
    (receiveLoop abi s).ReturnsFrom TcpPending.kernel ⟨w, (receiveLoop abi s).body ss⟩ k
      (.ok (nonEmpty ss)) k := by
  rw [receiveLoop_body]
  cases hc : k.closed with
  | true =>
    have hserve : k.serve (.recv s.socketHandler readSize) = some (.ok [], k) := by
      simp [TcpPending.serve, hk, he, hc]
    apply (Loop.returnsFrom_serve hserve).mpr
    rw [receiveRound, if_neg (by decide), List.append_nil]
    exact Loop.returnsFrom_done.mpr ⟨rfl, rfl⟩
  | false =>
    have hserve : k.serve (.recv s.socketHandler readSize) = some (.error .eagain, k) := by
      simp [TcpPending.serve, hk, he, hc, hnb]
    exact (Loop.returnsFrom_serve hserve).mpr (Loop.returnsFrom_done.mpr ⟨rfl, rfl⟩)

theorem receive_round_error {e : Errno} (hk : k.bytes = []) (he : k.error = some e)
    (hwb : e.wouldBlock = false) :
    (receiveLoop abi s).ReturnsFrom TcpPending.kernel ⟨w, (receiveLoop abi s).body ss⟩ k
      (.error (throwJsError (readError "read"))) { k with error := none } := by
  have hserve : k.serve (.recv s.socketHandler readSize) =
      some (.error e, { k with error := none }) := by simp [TcpPending.serve, hk, he]
  have hround : receiveRound ss (.error e) = .inr (.error (throwJsError (readError "read"))) :=
    if_neg (by simp [hwb])
  rw [receiveLoop_body]
  apply (Loop.returnsFrom_serve hserve).mpr
  rw [hround]
  exact Loop.returnsFrom_done.mpr ⟨rfl, rfl⟩

/-- **The read loop takes everything**, when no error is pending. -/
theorem receive_drains (he : k.error = none) (hnb : k.nonblocking = true) :
    (receiveLoop abi s).ReturnsFrom TcpPending.kernel ⟨w, (receiveLoop abi s).body ss⟩ k
      (.ok (nonEmpty (ss ++ k.bytes))) { k with bytes := [] } := by
  let m := k.bytes.length / readSize
  have hdiv : readSize * m + k.bytes.length % readSize = k.bytes.length := Nat.div_add_mod _ _
  have hlt : k.bytes.length % readSize < readSize := Nat.mod_lt _ (by decide)
  obtain ⟨w₁, hrounds⟩ := receive_rounds abi s ss (k := k) (w := w) m (by omega)
  have hlen : (k.bytes.drop (readSize * m)).length = k.bytes.length % readSize := by
    rw [List.length_drop]
    omega
  have hjoin : ss ++ k.bytes.take (readSize * m) ++ k.bytes.drop (readSize * m) = ss ++ k.bytes := by
    rw [List.append_assoc, List.take_append_drop]
  by_cases hrest : k.bytes.drop (readSize * m) = []
  · rw [hrest, List.append_nil] at hjoin
    rw [hrest, hjoin] at hrounds
    obtain ⟨w₂, hlast⟩ := receive_round_empty abi s (ss ++ k.bytes)
      (k := { k with bytes := [] }) (w := w₁) rfl he hnb
    exact ⟨w₂, hrounds.trans hlast⟩
  · obtain ⟨w₂, hlast⟩ := receive_round_short abi s (ss ++ k.bytes.take (readSize * m))
      (k := { k with bytes := k.bytes.drop (readSize * m) }) (w := w₁) hrest (hlen ▸ hlt)
    have hne : ss ++ k.bytes ≠ [] := by
      rw [← hjoin]
      exact List.append_ne_nil_of_right_ne_nil _ hrest
    rw [nonEmpty_of_ne hne, ← hjoin]
    exact ⟨w₂, hrounds.trans hlast⟩

/-- Time goes on: what was pending is taken, and a pending error is reported once. -/
def TcpPending.Later (k k' : TcpPending) : Prop :=
  k'.bytes.length ≤ k.bytes.length ∧ (k.error = none → k'.error = none)

theorem TcpPending.later_of_serve {q : Call} {r : q.Ret} (h : k.serve q = some (r, k')) :
    k.Later k' := by
  cases q with
  | recv fd cap =>
    simp only [TcpPending.serve] at h
    split at h
    · cases h
      exact ⟨by simp, id⟩
    · split at h
      · cases h
        exact ⟨Nat.le_refl _, fun _ => rfl⟩
      · split at h
        · cases h
          exact ⟨Nat.le_refl _, id⟩
        · split at h
          · cases h
            exact ⟨Nat.le_refl _, id⟩
          · cases h
  | ioctl fd =>
    cases h
    exact ⟨Nat.le_refl _, id⟩
  | _ => cases h

theorem later_of_returnsFrom {c : SysConfig StdString _}
    (h : (receiveLoop abi s).ReturnsFrom TcpPending.kernel c k o k') : k.Later k' := by
  obtain ⟨_, h⟩ := h
  exact Loop.Reaches.rel TcpPending.Later (fun _ => ⟨Nat.le_refl _, id⟩)
    (fun h₁ h₂ => ⟨Nat.le_trans h₂.1 h₁.1, fun h => h₂.2 (h₁.2 h)⟩) TcpPending.later_of_serve h

/-- The read loop leaves nothing as it found it where there is something to find. -/
theorem receive_changes (hk : k.bytes = [] → k.error ≠ none) :
    ¬ (receiveLoop abi s).ReturnsFrom TcpPending.kernel ⟨w, (receiveLoop abi s).body ss⟩ k o k := by
  intro h
  rw [receiveLoop_body] at h
  by_cases hbytes : k.bytes = []
  · obtain ⟨e, he⟩ := Option.ne_none_iff_exists'.mp (hk hbytes)
    have hserve : k.serve (.recv s.socketHandler readSize) =
        some (.error e, { k with error := none }) := by simp [TcpPending.serve, hbytes, he]
    have hlater := later_of_returnsFrom abi s ((Loop.returnsFrom_serve hserve).mp h)
    exact hk hbytes (hlater.2 rfl)
  · have hserve := TcpPending.serve_recv hbytes s.socketHandler readSize
    have hlater := later_of_returnsFrom abi s ((Loop.returnsFrom_serve hserve).mp h)
    have hpos : 0 < k.bytes.length := List.length_pos_iff.mpr hbytes
    have hle : k.bytes.length ≤ (k.bytes.drop readSize).length := hlater.1
    rw [List.length_drop, readSize] at hle
    omega

end Rounds

/-! ## The test before the loop -/

/-- The `int` that `FIONREAD` stores for `n` pending bytes is positive, as it is for every `n`
    an `int` can hold but zero. -/
def StoresPositive (n : Nat) : Prop := 0 < (BitVec.ofNat 32 n).toInt

theorem StoresPositive.ne_zero {n : Nat} (h : StoresPositive n) : n ≠ 0 := by
  intro hn
  subst hn
  have hzero : 0 < (BitVec.ofNat 32 0).toInt := h
  simp at hzero

theorem storesPositive_iff {n : Nat} (hn : n < 2 ^ 31) : StoresPositive n ↔ n ≠ 0 := by
  rw [StoresPositive, toInt_ofNat_of_lt hn]
  omega

/-- `receive` with the test on `nextReadSize()` removed. -/
def readLoop (abi : Abi) (socket : Socket) : SysLoop StdString (Except JsError (Option StdString)) :=
  { receiveLoop abi socket with enter := return .inl [] }

section Entry

variable {t : Target} {c : SocketClientTCP} {k k' : TcpPending}
  {o : Except JsError (Option StdString)}

theorem readLoop_returns : (readLoop t.toAbi c.socket).Returns TcpPending.kernel k o k' ↔
    (receiveLoop t.toAbi c.socket).ReturnsFrom TcpPending.kernel
      ⟨some [], (receiveLoop t.toAbi c.socket).body []⟩ k o k' := by
  have hbody : (readLoop t.toAbi c.socket).body = (receiveLoop t.toAbi c.socket).body := rfl
  exact Loop.returnsFrom_again.trans (Loop.returnsFrom_body_eq hbody)

theorem receive_returns : (c.wrapper.receive t.toAbi).Returns TcpPending.kernel k o k' ↔
    (receiveLoop t.toAbi c.socket).ReturnsFrom TcpPending.kernel
      ⟨none, .ret (receiveEntry t.toAbi c.socket.blocking (.ok (BitVec.ofNat 32 k.bytes.length)))⟩
      k o k' := c.receive_returns t.toAbi (TcpPending.serve_ioctl k _)

/-- A positive count takes `receive` to the loop. -/
theorem receive_of_positive (ht : ¬ t.StoresHigh) (hpos : StoresPositive k.bytes.length) :
    (c.wrapper.receive t.toAbi).Returns TcpPending.kernel k o k' ↔
      (readLoop t.toAbi c.socket).Returns TcpPending.kernel k o k' := by
  have hreported := Target.one_le_reported_iff.mpr ⟨ht, hpos⟩
  rw [receive_returns, readLoop_returns, receiveEntry, if_neg (by omega)]
  exact Loop.returnsFrom_again

/-- Any other count makes it return at once. -/
theorem receive_of_not_positive (hb : c.socket.blocking = false)
    (h : ¬ (¬ t.StoresHigh ∧ StoresPositive k.bytes.length)) :
    (c.wrapper.receive t.toAbi).Returns TcpPending.kernel k o k' ↔ o = .ok none ∧ k' = k := by
  have hreported : ¬ 1 ≤ t.reported (BitVec.ofNat 32 k.bytes.length) :=
    fun hpos => h (Target.one_le_reported_iff.mp hpos)
  rw [receive_returns, receiveEntry, if_pos ⟨by omega, hb⟩]
  exact Loop.returnsFrom_done

end Entry

/-! ## The shortcut and the loop -/

/-- The result of `receive`, and what it leaves in the kernel, are those of the loop alone. -/
def LoopAgrees (t : Target) (c : SocketClientTCP) (k : TcpPending) : Prop :=
  ∀ o k', (c.wrapper.receive t.toAbi).Returns TcpPending.kernel k o k' ↔
    (readLoop t.toAbi c.socket).Returns TcpPending.kernel k o k'

/-- **The test on the pending count is a shortcut** exactly when no error is pending where
    nothing else is, and when a count of something comes through. -/
theorem loopAgrees_iff (t : Target) (c : SocketClientTCP) (hb : c.socket.blocking = false)
    (k : TcpPending) (hnb : k.nonblocking = true) :
    LoopAgrees t c k ↔ (k.bytes = [] → k.error = none) ∧
      (k.bytes ≠ [] → ¬ t.StoresHigh ∧ StoresPositive k.bytes.length) := by
  by_cases hpos : ¬ t.StoresHigh ∧ StoresPositive k.bytes.length
  · have hne : k.bytes ≠ [] := fun h => hpos.2.ne_zero (congrArg List.length h)
    refine iff_of_true (fun o k' => receive_of_positive hpos.1 hpos.2) ⟨fun h => absurd h hne, ?_⟩
    exact fun _ => hpos
  · constructor
    · intro hagrees
      have hret : (readLoop t.toAbi c.socket).Returns TcpPending.kernel k (.ok none) k :=
        (hagrees _ _).mp ((receive_of_not_positive hb hpos).mpr ⟨rfl, rfl⟩)
      have hsame := readLoop_returns.mp hret
      refine ⟨fun hbytes => ?_, fun hbytes => ?_⟩
      · exact Decidable.byContradiction fun herror => receive_changes _ _ _ (fun _ => herror) hsame
      · exact absurd hsame (receive_changes _ _ _ fun h => absurd h hbytes)
    · intro h
      obtain ⟨herror, hbytes⟩ := h
      have hempty : k.bytes = [] := Decidable.byContradiction fun hne => hpos (hbytes hne)
      have hround := receive_round_empty t.toAbi c.socket [] (w := some []) hempty
        (herror hempty) hnb
      intro o k'
      rw [receive_of_not_positive hb hpos, readLoop_returns]
      constructor
      · intro h
        obtain ⟨rfl, rfl⟩ := h
        exact hround
      · intro h
        exact Loop.ReturnsFrom.unique (Kernel.ofServe_functional _) h hround

/-- **The early return.** Where the count comes through, `receive` does as the loop would, unless
    there is an error and nothing else. With nothing pending it returns `undefined` and changes
    nothing. -/
theorem receive_early_return (t : Target) (ht : ¬ t.StoresHigh) (c : SocketClientTCP)
    (hb : c.socket.blocking = false) (k : TcpPending) (hnb : k.nonblocking = true)
    (hlen : k.bytes.length < 2 ^ 31) :
    (LoopAgrees t c k ↔ k.bytes ≠ [] ∨ k.error = none) ∧
      (k.bytes = [] → ∀ o k', (c.wrapper.receive t.toAbi).Returns TcpPending.kernel k o k' ↔
        o = .ok none ∧ k' = k) := by
  have hcount : k.bytes ≠ [] → ¬ t.StoresHigh ∧ StoresPositive k.bytes.length := fun hne =>
    ⟨ht, (storesPositive_iff hlen).mpr fun h => hne (List.eq_nil_of_length_eq_zero h)⟩
  refine ⟨?_, fun hempty o k' => ?_⟩
  · rw [loopAgrees_iff t c hb k hnb, and_iff_left hcount]
    exact Decidable.imp_iff_not_or
  · exact receive_of_not_positive hb fun h => h.2.ne_zero (congrArg List.length hempty)

theorem receive_early_return_reset :
    let c := (SocketClientTCP.on 3 8000).unblocked
    let k : TcpPending := ⟨[97], some (.other 104), true, true⟩
    (¬ Target.littleEndian64.StoresHigh ∧ c.socket.blocking = false ∧ k.nonblocking = true ∧
      k.bytes.length < 2 ^ 31) ∧ (LoopAgrees .littleEndian64 c k ↔ k.bytes ≠ [] ∨ k.error = none) := by
  intro c k
  have ht : ¬ Target.littleEndian64.StoresHigh := fun h => nomatch h.1
  have hlen : k.bytes.length < 2 ^ 31 := by decide
  exact ⟨⟨ht, rfl, rfl, hlen⟩, (receive_early_return .littleEndian64 ht c rfl k rfl hlen).1⟩

/-- The connection was reset and nothing is pending: `receive` says that there is nothing to read
    and leaves the error where it is, and the loop would have thrown. -/
theorem receive_misses_error :
    let c := (SocketClientTCP.on 3 8000).unblocked
    let k : TcpPending := ⟨[], some (.other 104), false, true⟩
    (c.wrapper.receive Target.littleEndian64.toAbi).Returns TcpPending.kernel k (.ok none) k ∧
      (readLoop Target.littleEndian64.toAbi c.socket).Returns TcpPending.kernel k
        (.error (throwJsError (readError "read"))) { k with error := none } ∧
      ¬ LoopAgrees .littleEndian64 c k := by
  intro c k
  have hreceive : (c.wrapper.receive Target.littleEndian64.toAbi).Returns TcpPending.kernel k
      (.ok none) k :=
    (receive_of_not_positive rfl fun h => h.2.ne_zero rfl).mpr ⟨rfl, rfl⟩
  refine ⟨hreceive, ?_, fun hagrees => ?_⟩
  · exact readLoop_returns.mpr (receive_round_error _ _ _ rfl rfl (by decide))
  · exact receive_changes _ _ _ (fun _ => Option.some_ne_none _) (readLoop_returns.mp ((hagrees _ _).mp hreceive))

/-! ## Draining the connection -/

/-- `receive` returns all that is pending, or `undefined` if that is nothing, and leaves nothing
    behind; there is no other way for it to end. -/
def DrainsPending (t : Target) (c : SocketClientTCP) (pending : StdString) (closed : Bool) : Prop :=
  ∀ o k', (c.wrapper.receive t.toAbi).Returns TcpPending.kernel ⟨pending, none, closed, true⟩ o k' ↔
    o = .ok (nonEmpty pending) ∧ k' = ⟨[], none, closed, true⟩

/-- **A non-blocking `receive` drains the connection** exactly when the count of what is pending
    comes through, or there is nothing to count. -/
theorem drainsPending_iff (t : Target) (c : SocketClientTCP) (hb : c.socket.blocking = false)
    (pending : StdString) (closed : Bool) :
    DrainsPending t c pending closed ↔
      (pending ≠ [] → ¬ t.StoresHigh ∧ StoresPositive pending.length) := by
  let k : TcpPending := ⟨pending, none, closed, true⟩
  by_cases hpos : ¬ t.StoresHigh ∧ StoresPositive k.bytes.length
  · refine iff_of_true (fun o k' => (receive_of_positive hpos.1 hpos.2).trans ?_) fun _ => hpos
    have hdrains := receive_drains t.toAbi c.socket [] (k := k) (w := some []) rfl rfl
    rw [readLoop_returns]
    constructor
    · intro h
      exact Loop.ReturnsFrom.unique (Kernel.ofServe_functional _) h hdrains
    · intro h
      obtain ⟨rfl, rfl⟩ := h
      exact hdrains
  · constructor
    · intro h hne
      have hundefined := ((h _ _).mp ((receive_of_not_positive hb hpos).mpr ⟨rfl, rfl⟩)).1
      rw [nonEmpty_of_ne hne] at hundefined
      cases hundefined
    · intro h o k'
      have hempty : pending = [] := Decidable.byContradiction fun hne => hpos (h hne)
      subst hempty
      exact receive_of_not_positive hb hpos

/-- Three hundred bytes are pending, more than one `recv` reads. -/
theorem drainsPending_two_reads :
    let c := (SocketClientTCP.on 3 8000).unblocked
    let pending : StdString := List.replicate 300 97
    (c.wrapper.receive Target.littleEndian64.toAbi).Returns TcpPending.kernel
      ⟨pending, none, true, true⟩ (.ok (some pending)) ⟨[], none, true, true⟩ := by
  intro c pending
  have hpositive : StoresPositive pending.length := by
    rw [List.length_replicate, storesPositive_iff (by omega)]
    omega
  have hdrains := (drainsPending_iff .littleEndian64 c rfl pending true).mpr
    fun _ => ⟨fun h => (nomatch h.1), hpositive⟩
  have hpending : nonEmpty pending = some pending := nonEmpty_of_ne (List.cons_ne_nil _ _)
  exact (hdrains _ _).mpr ⟨congrArg Except.ok hpending.symm, rfl⟩

/-- One byte is pending on a 64-bit big-endian target: `receive` says that there is nothing to
    read and leaves the byte. -/
theorem receive_leaves_pending :
    let c := (SocketClientTCP.on 3 8000).unblocked
    let k : TcpPending := ⟨[97], none, false, true⟩
    (c.wrapper.receive Target.bigEndian64.toAbi).Returns TcpPending.kernel k (.ok none) k ∧
      ¬ DrainsPending .bigEndian64 c [97] false := by
  intro c k
  have hreceive : (c.wrapper.receive Target.bigEndian64.toAbi).Returns TcpPending.kernel k
      (.ok none) k :=
    (receive_of_not_positive rfl fun h => h.1 ⟨rfl, rfl⟩).mpr ⟨rfl, rfl⟩
  refine ⟨hreceive, ?_⟩
  intro h
  have hundefined := ((h _ _).mp hreceive).1
  cases hundefined

end NetLink
