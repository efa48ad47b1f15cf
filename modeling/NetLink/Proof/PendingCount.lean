import Mathlib.Algebra.Group.Nat.Defs
import NetLink.Proof.Kinds

/-!
# The pending count and its representation

`nextReadSize` hands the address of a `long` to an `ioctl` that stores an `int` there. Whether
the count comes back depends on where in the `long` the first four bytes are: in little-endian
order they are the low ones, which is what the conversion to `int` keeps, and an eight-byte
`long` in big-endian order has them at the other end, so that the conversion keeps four of the
bytes the variable was initialised with.

`countSurvives_iff` is about the data models of POSIX targets, ILP32 and LP64.
-/

namespace NetLink

open Interaction NetLinkWrapper

/-! ## Bytes and numbers -/

namespace Abi

theorem littleEndian_length (count n : Nat) : (littleEndian count n).length = count := by
  induction count generalizing n with
  | zero => rfl
  | succ count ih => rw [littleEndian, List.length_cons, ih]

theorem value_littleEndian (count n : Nat) : value (littleEndian count n) = n % 256 ^ count := by
  induction count generalizing n with
  | zero => rw [Nat.pow_zero, Nat.mod_one]; rfl
  | succ count ih =>
    have hlow : (UInt8.ofNat n).toNat = n % 256 := UInt8.toNat_ofNat'
    rw [littleEndian, value, ih, hlow, Nat.pow_succ', Nat.mod_mul]

theorem value_append (low high : List UInt8) :
    value (low ++ high) = value low + 256 ^ low.length * value high := by
  induction low with
  | nil => simp [value]
  | cons b low ih =>
    rw [List.cons_append, value, value, ih, List.length_cons, Nat.pow_succ', Nat.mul_add,
      Nat.mul_assoc, Nat.add_assoc]

theorem value_ones (count : Nat) : value (List.replicate count 255) = 256 ^ count - 1 := by
  induction count with
  | zero => rfl
  | succ count ih =>
    have hpos : 0 < 256 ^ count := Nat.pow_pos (by omega)
    have hbyte : (255 : UInt8).toNat = 255 := rfl
    rw [List.replicate_succ, value, ih, hbyte, Nat.pow_succ']
    omega

/-- In little-endian order the count is what the conversion keeps. -/
theorem reported_littleEndian {abi : Abi} (h : abi.bigEndian = false) (n : BitVec 32) :
    abi.reported n = n.toInt := by
  have hn : n.toNat < 256 ^ 4 := n.isLt
  have hload : abi.load (abi.storeInt n (List.replicate abi.longSize 255)) =
      n.toNat + 256 ^ 4 * (256 ^ (abi.longSize - 4) - 1) := by
    simp only [load, storeInt, inMemory, h, Bool.false_eq_true, if_false]
    rw [value_append, value_littleEndian, littleEndian_length, Nat.mod_eq_of_lt hn,
      List.drop_replicate, value_ones]
  have hword : BitVec.ofNat 32 (n.toNat + 256 ^ 4 * (256 ^ (abi.longSize - 4) - 1)) = n := by
    apply BitVec.eq_of_toNat_eq
    rw [BitVec.toNat_ofNat, show 256 ^ 4 = 2 ^ 32 from rfl, Nat.add_mul_mod_self_left]
    exact Nat.mod_eq_of_lt n.isLt
  rw [reported, hload, hword]

/-- In big-endian order the bytes behind the count are the low ones. -/
theorem load_bigEndian {abi : Abi} (h : abi.bigEndian = true) (n : BitVec 32) :
    abi.load (abi.storeInt n (List.replicate abi.longSize 255)) =
      256 ^ (abi.longSize - 4) - 1 + 256 ^ (abi.longSize - 4) * n.toNat := by
  have hn : n.toNat < 256 ^ 4 := n.isLt
  simp only [load, storeInt, inMemory, h, if_true, List.reverse_append, List.reverse_reverse,
    List.drop_replicate, List.reverse_replicate]
  rw [value_append, value_ones, value_littleEndian, List.length_replicate, Nat.mod_eq_of_lt hn]

/-- The count arrives: what `nextReadSize` makes of it is what was stored. -/
def Counts (abi : Abi) : Prop := ∀ n, abi.reported n = n.toInt

theorem Counts.eq_zero_iff {abi : Abi} (h : abi.Counts) {n : BitVec 32} :
    abi.reported n = 0 ↔ n = 0 := by
  rw [h n, ← BitVec.toInt_inj]
  rfl

theorem counts_lp64 : lp64.Counts := reported_littleEndian rfl

/-- A count of zero is never taken for the largest `int`, whatever the target. -/
theorem reported_zero_ne (abi : Abi) : abi.reported 0 ≠ 2147483647 := by
  cases hbig : abi.bigEndian with
  | false =>
    rw [reported_littleEndian hbig]
    decide
  | true =>
    rw [reported, load_bigEndian hbig]
    generalize abi.longSize - 4 = m
    -- the bytes behind the count are all ones: none of them, one, two, three, or a whole `int`
    match m with
    | 0 | 1 | 2 | 3 => decide
    | m + 4 =>
      have hpos : 0 < 256 ^ m := Nat.pow_pos (by omega)
      have hones : BitVec.ofNat 32 (256 ^ (m + 4) - 1 + 256 ^ (m + 4) * (0 : BitVec 32).toNat) =
          BitVec.allOnes 32 := by
        apply BitVec.eq_of_toNat_eq
        rw [BitVec.toNat_ofNat, BitVec.toNat_allOnes, Nat.pow_add]
        show (256 ^ m * 4294967296 - 1 + 256 ^ m * 4294967296 * 0) % 4294967296 = 4294967295
        omega
      rw [hones]
      decide

end Abi

/-! ## Targets -/

/-- A POSIX target: a `long` has four bytes, or eight. -/
structure Target extends Abi where
  longSize_eq : longSize = 4 ∨ longSize = 8

namespace Target

/-- A 64-bit little-endian target. -/
def littleEndian64 : Target := ⟨.lp64, .inr rfl⟩

/-- A 64-bit big-endian target. -/
def bigEndian64 : Target := ⟨⟨8, true, Nat.le_add_right 4 4⟩, .inr rfl⟩

/-- An `int` stored at the address of a `long` is its high half. -/
def StoresHigh (t : Target) : Prop := t.bigEndian = true ∧ t.longSize = 8

theorem reported_of_storesHigh {t : Target} (h : t.StoresHigh) (n : BitVec 32) :
    t.reported n = -1 := by
  obtain ⟨hbig, hsize⟩ := h
  have hword : BitVec.ofNat 32 (256 ^ 4 - 1 + 256 ^ 4 * n.toNat) = BitVec.allOnes 32 := by
    apply BitVec.eq_of_toNat_eq
    rw [BitVec.toNat_ofNat, show 256 ^ 4 = 2 ^ 32 from rfl, Nat.add_mul_mod_self_left]
    rfl
  rw [Abi.reported, Abi.load_bigEndian hbig, hsize, hword]
  rfl

theorem reported_of_not_storesHigh {t : Target} (h : ¬ t.StoresHigh) (n : BitVec 32) :
    t.reported n = n.toInt := by
  cases hbig : t.bigEndian with
  | false => exact Abi.reported_littleEndian hbig n
  | true =>
    -- A four-byte `long` is all there is to store into, in either order.
    have hsize : t.longSize = 4 := t.longSize_eq.resolve_right fun h8 => h ⟨hbig, h8⟩
    rw [Abi.reported, Abi.load_bigEndian hbig, hsize]
    simp

theorem counts_iff {t : Target} : t.Counts ↔ ¬ t.StoresHigh := by
  constructor
  · intro h hhigh
    have hzero := (reported_of_storesHigh hhigh 0).symm.trans (h 0)
    exact absurd hzero (by decide)
  · exact fun h n => reported_of_not_storesHigh h n

/-- What `receive` takes for a pending count is positive exactly when it is one. -/
theorem one_le_reported_iff {t : Target} {n : BitVec 32} :
    1 ≤ t.reported n ↔ ¬ t.StoresHigh ∧ 0 < n.toInt := by
  by_cases h : t.StoresHigh
  · rw [reported_of_storesHigh h]
    exact iff_of_false (by omega) fun hpos => hpos.1 h
  · rw [reported_of_not_storesHigh h]
    exact (and_iff_right h).symm

end Target

/-! ## The callers of `nextReadSize` -/

theorem Socket.nextReadSize_eq (s : Socket) (abi : Abi) :
    s.nextReadSize abi = .ask (.ioctl s.socketHandler) fun
      | .error _ => .ret (.error ⟨.errorIoctl, lit "Socket::nextReadSize: error ioctl"⟩)
      | .ok n => .ret (.ok (abi.reported n)) := by
  unfold Socket.nextReadSize
  simp only [Prog.call_bind]
  refine congrArg (Prog.ask _) (funext ?_)
  intro r
  cases r <;> rfl

theorem Socket.nextReadSize_begins {s : Socket} {abi : Abi} {n : BitVec 32}
    {t : Sys (Except Exception Int)} :
    (s.nextReadSize abi).Begins (.ioctl s.socketHandler) (.ok n) t ↔
      .ret (.ok (abi.reported n)) = t := by
  rw [Socket.nextReadSize_eq]
  exact Prog.begins_ask

/-- What `disconnect` asks of the kernel when it has been told of a pending count: the bytes, or a
    buffer that cannot be had. -/
def drainCall (s : Socket) (size : Int) : Call :=
  if size = 2147483647 then .badAlloc else .recv s.socketHandler size.toNat

/-- Before it closes, a TCP client reads away as much as is reported, if a buffer one byte longer
    can be had. -/
theorem drain_begins {s : Socket} (hs : s.protocol = .tcp ∧ s.type = .client) {abi : Abi}
    {n : BitVec 32} (hn : 0 < abi.reported n) :
    ∃ next, (drain abi s).Begins (.ioctl s.socketHandler) (.ok n)
      (.ask (drainCall s (abi.reported n)) next) := by
  unfold drain
  rw [if_pos hs, Socket.nextReadSize_eq, Prog.ask_bind]
  simp only [Prog.begins_ask, Prog.ret_bind, if_pos hn]
  by_cases hmax : abi.reported n = 2147483647
  · rw [show drainCall s (abi.reported n) = .badAlloc from if_pos hmax, if_pos hmax]
    exact ⟨_, rfl⟩
  · rw [show drainCall s (abi.reported n) = .recv s.socketHandler (abi.reported n).toNat from
      if_neg hmax, if_neg hmax]
    simp only [Socket.read, Prog.call_bind, Prog.ask_bind]
    exact ⟨_, rfl⟩

theorem SocketClientTCP.disconnect_begins (c : SocketClientTCP) {abi : Abi} {n : BitVec 32}
    (hn : 0 < abi.reported n) :
    ∃ next, (c.wrapper.disconnect abi).Begins (.ioctl c.socket.socketHandler) (.ok n)
      (.ask (drainCall c.socket (abi.reported n)) next) := by
  obtain ⟨next, h⟩ := drain_begins ⟨c.protocol, c.type⟩ hn
  unfold NetLinkWrapper.disconnect
  rw [c.live]
  exact ⟨_, h.bind _⟩

/-- The count `n` comes through: `nextReadSize` returns it, and where something is pending a
    `receive` that must not block goes on to its loop, and `disconnect` reads `n` bytes away. -/
structure CountSurvives (t : Target) (n : Nat) : Prop where
  returned : ∀ s : Socket, (s.nextReadSize t.toAbi).Begins (.ioctl s.socketHandler)
    (.ok (BitVec.ofNat 32 n)) (.ret (.ok n))
  received : 1 ≤ n → ∀ c : SocketClientTCP, c.socket.blocking = false →
    (c.wrapper.receive t.toAbi).enter.Begins (.ioctl c.socket.socketHandler)
      (.ok (BitVec.ofNat 32 n)) (.ret (.inl []))
  drained : 1 ≤ n → ∀ c : SocketClientTCP, ∃ next,
    (c.wrapper.disconnect t.toAbi).Begins (.ioctl c.socket.socketHandler)
      (.ok (BitVec.ofNat 32 n)) (.ask (.recv c.socket.socketHandler n) next)

theorem toInt_ofNat_of_lt {n : Nat} (hn : n < 2 ^ 31) : (BitVec.ofNat 32 n).toInt = n := by
  rw [BitVec.toInt_ofNat']
  exact Int.bmod_eq_of_le_mul_two (by omega) (by omega)

theorem reported_ofNat {t : Target} (h : ¬ t.StoresHigh) {n : Nat} (hn : n < 2 ^ 31) :
    t.reported (BitVec.ofNat 32 n) = n := by
  rw [Target.counts_iff.mpr h, toInt_ofNat_of_lt hn]

/-- **The pending count survives its representation** unless an `int` stored at the address of a
    `long` is the long's high half, or the count is the largest `int`: `disconnect` has no buffer
    for that. -/
theorem countSurvives_iff (t : Target) (n : Nat) (hn : n < 2 ^ 31) :
    CountSurvives t n ↔ ¬ t.StoresHigh ∧ n ≠ 2147483647 := by
  constructor
  · intro h
    have hhigh : ¬ t.StoresHigh := by
      intro hhigh
      have hret := Socket.nextReadSize_begins.mp (h.returned (SocketClientTCP.on 3 8000).socket)
      rw [Target.reported_of_storesHigh hhigh] at hret
      simp only [Prog.ret.injEq, Except.ok.injEq] at hret
      omega
    refine ⟨hhigh, ?_⟩
    rintro rfl
    let c := SocketClientTCP.on 3 8000
    have hreported := reported_ofNat hhigh hn
    have hpending : 0 < t.reported (BitVec.ofNat 32 2147483647) := by omega
    have hcall : drainCall c.socket (2147483647 : Nat) = .badAlloc := rfl
    have hthrows := c.disconnect_begins hpending
    rw [hreported, hcall] at hthrows
    obtain ⟨next, hread⟩ := h.drained (by omega) c
    obtain ⟨next', hthrows⟩ := hthrows
    cases hread.unique hthrows
  · intro h
    obtain ⟨hhigh, hmax⟩ := h
    have hreported := reported_ofNat hhigh hn
    refine ⟨fun s => ?_, fun hpos c hb => ?_, fun hpos c => ?_⟩
    · rw [Socket.nextReadSize_begins, hreported]
    · rw [c.receive_eq, receiveLoop_enter, Prog.begins_ask, receiveEntry, if_neg (by omega)]
    · have hpending : 0 < t.reported (BitVec.ofNat 32 n) := by omega
      have hcall : drainCall c.socket n = .recv c.socket.socketHandler n :=
        if_neg fun h => hmax (Int.ofNat.inj h)
      have hdrain := c.disconnect_begins hpending
      rw [hreported, hcall] at hdrain
      exact hdrain

theorem countSurvives_one : (1 : Nat) < 2 ^ 31 ∧
    (CountSurvives .littleEndian64 1 ↔ ¬ Target.littleEndian64.StoresHigh ∧ 1 ≠ 2147483647) :=
  ⟨by omega, countSurvives_iff .littleEndian64 1 (by omega)⟩

/-- One byte is pending on a 64-bit big-endian target, and `nextReadSize` returns -1. -/
theorem nextReadSize_big_endian :
    let s := (SocketClientTCP.on 3 8000).socket
    (s.nextReadSize Target.bigEndian64.toAbi).Begins (.ioctl 3) (.ok (BitVec.ofNat 32 1))
        (.ret (.ok (-1))) ∧
      ¬ CountSurvives .bigEndian64 1 := by
  intro s
  have hreported : Target.bigEndian64.reported (BitVec.ofNat 32 1) = -1 :=
    Target.reported_of_storesHigh ⟨rfl, rfl⟩ _
  refine ⟨Socket.nextReadSize_begins.mpr (by rw [hreported]), ?_⟩
  intro h
  have hret := Socket.nextReadSize_begins.mp (h.returned s)
  rw [hreported] at hret
  simp at hret

end NetLink
