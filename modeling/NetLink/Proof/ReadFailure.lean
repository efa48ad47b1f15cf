import NetLink.Lib.Poll
import NetLink.Proof.Rounds
import NetLink.Proof.Kinds
import NetLink.Kernel.Script

/-!
# What a read that throws has consumed

`receive` and `receive_from` collect pieces until one is not full. A read that would block ends
the collecting and what was collected is returned; a read that fails in any other way throws,
and what was collected is dropped. So an error met behind a full piece loses that piece.

Both loops are folds over the results of their reads (`Lib/Poll.lean`), and they differ only in
what else they keep beside the bytes. `Collects` is what they have in common, and the exact
condition is proved from it once.
-/

namespace NetLink

open Interaction NetLinkWrapper

/-! ## The property -/

/-- What was removed from the kernel's queue is what JavaScript gets: nothing, when the call
    throws, and otherwise the bytes of the returned value. -/
def Keeps {X Y : Type} (results : Nat → Except Errno X) (chunk : X → StdString)
    (data : Option Y → StdString) (o : Except JsError (Option Y)) (n : Nat) : Prop :=
  match o with
  | .error _ => Script.taken results n = []
  | .ok y => data y = ((Script.taken results n).map chunk).flatten

/-- Every `receive` against this script keeps what it takes. -/
def ReceiveKeeps (abi : Abi) (c : SocketClientTCP) (script : Script) : Prop :=
  ∀ o n, (c.wrapper.receive abi).Returns script.kernel 0 o n →
    Keeps script.reads id (fun y => y.getD []) o n

/-- Every `receiveFrom` against this script keeps what it takes. -/
def ReceiveFromKeeps (u : SocketUDP) (script : Script) : Prop :=
  ∀ o n, u.wrapper.receiveFrom.Returns script.kernel 0 o n →
    Keeps script.datagrams Prod.fst (fun y => (y.map Received.data).getD []) o n

/-- One or more full pieces, and then an error that is not would-block. -/
def FailsAfterData {X : Type} (results : Nat → Except Errno X) (chunk : X → StdString) : Prop :=
  ∃ n, 0 < n ∧ (∀ i < n, ∃ x, results i = .ok x ∧ (chunk x).length = readSize) ∧
    ∃ e, results n = .error e ∧ e.wouldBlock = false

/-- `receive` gets to its loop: the size is known, and the socket blocks or the size is not
    zero. -/
def EntersLoop (abi : Abi) (blocking : Bool) : Except Errno (BitVec 32) → Prop
  | .error _ => False
  | .ok n => blocking = true ∨ 1 ≤ abi.reported n

/-! ## Loops that collect pieces -/

/-- A round collects: it adds a full piece and goes on, ends with a piece that is not full, ends
    with what there is when the read would block, and throws on any other error. -/
structure Collects {σ X Y : Type} (round : σ → Except Errno X → σ ⊕ Except JsError (Option Y))
    (chunk : X → StdString) (collected : σ → StdString) (data : Option Y → StdString) : Prop where
  full : ∀ s x, (chunk x).length = readSize →
    ∃ s', round s (.ok x) = .inl s' ∧ collected s' = collected s ++ chunk x
  short : ∀ s x, (chunk x).length ≠ readSize →
    ∃ y, round s (.ok x) = .inr (.ok y) ∧ data y = collected s ++ chunk x
  block : ∀ s e, e.wouldBlock = true →
    ∃ y, round s (.error e) = .inr (.ok y) ∧ data y = collected s
  fail : ∀ s e, e.wouldBlock = false → ∃ err, round s (.error e) = .inr (.error err)

namespace Collects

variable {σ X Y : Type} {round : σ → Except Errno X → σ ⊕ Except JsError (Option Y)}
  {chunk : X → StdString} {collected : σ → StdString} {data : Option Y → StdString}
  {results : Nat → Except Errno X}

theorem keeps (hc : Collects round chunk collected data) (hok : ¬ FailsAfterData results chunk)
    {i n : Nat} {s : σ} {o : Except JsError (Option Y)} (h : Polls round results i s o n)
    (hs : collected s = ((Script.taken results i).map chunk).flatten)
    (hfull : ∀ j < i, ∃ x, results j = .ok x ∧ (chunk x).length = readSize) :
    Keeps results chunk data o n := by
  induction h with
  | leave hx =>
    rename_i i s o
    cases hr : results i with
    | error e =>
      rw [hr] at hx
      cases he : e.wouldBlock with
      | true =>
        obtain ⟨y, hy, hd⟩ := hc.block s e he
        rw [hy] at hx
        cases hx
        rw [Keeps, Script.taken_succ_error hr, hd, hs]
      | false =>
        obtain ⟨err, herr⟩ := hc.fail s e he
        rw [herr] at hx
        cases hx
        -- The first result is the only one an error can have without data before it.
        have hi : i = 0 := Nat.eq_zero_of_not_pos fun hpos => hok ⟨i, hpos, hfull, e, hr, he⟩
        subst hi
        exact Script.taken_succ_error hr
    | ok x =>
      rw [hr] at hx
      by_cases hlen : (chunk x).length = readSize
      -- A full piece never ends the loop, and any other always does.
      · obtain ⟨s', hs', -⟩ := hc.full s x hlen
        rw [hs'] at hx
        cases hx
      · obtain ⟨y, hy, hd⟩ := hc.short s x hlen
        rw [hy] at hx
        cases hx
        rw [Keeps, Script.taken_succ_ok hr, hd, hs]
        simp
  | again hx _ ih =>
    rename_i i _ s s' o _
    cases hr : results i with
    | error e =>
      rw [hr] at hx
      cases he : e.wouldBlock with
      | true =>
        obtain ⟨y, hy, -⟩ := hc.block s e he
        rw [hy] at hx
        cases hx
      | false =>
        obtain ⟨err, herr⟩ := hc.fail s e he
        rw [herr] at hx
        cases hx
    | ok x =>
      rw [hr] at hx
      by_cases hlen : (chunk x).length = readSize
      · obtain ⟨s₁, hs₁, hcol⟩ := hc.full s x hlen
        rw [hs₁] at hx
        cases hx
        refine ih ?_ fun j hj => ?_
        · rw [Script.taken_succ_ok hr, hcol, hs]
          simp
        · rcases Nat.lt_succ_iff_lt_or_eq.mp hj with hj | rfl
          · exact hfull j hj
          · exact ⟨x, hr, hlen⟩
      · obtain ⟨y, hy, -⟩ := hc.short s x hlen
        rw [hy] at hx
        cases hx

theorem throws (hc : Collects round chunk collected data) {n : Nat} {e : Errno}
    (hfull : ∀ i < n, ∃ x, results i = .ok x ∧ (chunk x).length = readSize)
    (hr : results n = .error e) (he : e.wouldBlock = false) (m : Nat) {i : Nat} (s : σ)
    (hi : i + m = n) : ∃ err, Polls round results i s (.error err) (n + 1) := by
  induction m generalizing i s with
  | zero =>
    have hi : i = n := hi
    subst hi
    obtain ⟨err, herr⟩ := hc.fail s e he
    exact ⟨err, .leave (by rw [hr, herr])⟩
  | succ m ih =>
    obtain ⟨x, hx, hlen⟩ := hfull i (by omega)
    obtain ⟨s', hs', -⟩ := hc.full s x hlen
    obtain ⟨err, h⟩ := ih s' (i := i + 1) (by omega)
    exact ⟨err, .again (by rw [hx, hs']) h⟩

theorem taken_ne_nil {n : Nat} (hn : 0 < n)
    (hfull : ∀ i < n, ∃ x, results i = .ok x ∧ (chunk x).length = readSize) :
    Script.taken results n ≠ [] := by
  cases n with
  | zero => exact absurd hn (Nat.lt_irrefl 0)
  | succ n =>
    obtain ⟨x, hx, -⟩ := hfull n (Nat.lt_succ_self n)
    rw [Script.taken_succ_ok hx]
    exact List.append_ne_nil_of_right_ne_nil _ (List.cons_ne_nil x [])

/-- **A collecting loop keeps what it takes exactly when no error comes behind a full piece.** -/
theorem keeps_iff (hc : Collects round chunk collected data) {s : σ} (hs : collected s = []) :
    (∀ o n, Polls round results 0 s o n → Keeps results chunk data o n) ↔
      ¬ FailsAfterData results chunk := by
  constructor
  · intro hkeeps h
    obtain ⟨n, hn, hfull, e, hr, he⟩ := h
    obtain ⟨err, h⟩ := hc.throws hfull hr he n s (Nat.zero_add n)
    have htaken : Script.taken results (n + 1) = [] := hkeeps _ _ h
    rw [Script.taken_succ_error hr] at htaken
    exact taken_ne_nil hn hfull htaken
  · intro hok o n h
    exact hc.keeps hok h hs fun j hj => absurd hj (Nat.not_lt_zero j)

end Collects

theorem receiveRound_collects : Collects receiveRound id id fun y => y.getD [] where
  full ss bytes h := ⟨ss ++ bytes, if_pos h, rfl⟩
  short ss bytes h := ⟨nonEmpty (ss ++ bytes), if_neg h, nonEmpty_getD _⟩
  block ss e h := ⟨nonEmpty ss, if_pos h, nonEmpty_getD _⟩
  fail ss e h := ⟨_, if_neg (by simp [h])⟩

theorem receiveFromRound_collects : Collects receiveFromRound Prod.fst ReceiveFromVars.read
    fun y => (y.map Received.data).getD [] where
  full v x h := ⟨⟨v.read ++ x.1, x.2.host, getInPort x.2⟩, if_pos h, rfl⟩
  short v x h := ⟨some ⟨x.2.host, getInPort x.2, v.read ++ x.1⟩, if_neg h, rfl⟩
  block v e h := by
    refine ⟨(nonEmpty v.read).map fun read => ⟨[], 0, read⟩, if_pos h, ?_⟩
    simp [Function.comp_def]
  fail v e h := ⟨_, if_neg (by simp [h])⟩

/-! ## The two calls -/

theorem receiveEntry_cases (abi : Abi) (blocking : Bool) (size : Except Errno (BitVec 32)) :
    (EntersLoop abi blocking size ∧ receiveEntry abi blocking size = .inl []) ∨
      (¬ EntersLoop abi blocking size ∧
        ((∃ err, receiveEntry abi blocking size = .inr (.error err)) ∨
          receiveEntry abi blocking size = .inr (.ok none))) := by
  cases size with
  | error e => exact .inr ⟨id, .inl ⟨_, rfl⟩⟩
  | ok n =>
    by_cases h : abi.reported n < 1 ∧ blocking = false
    · refine .inr ⟨?_, .inr (if_pos h)⟩
      intro h
      rcases h with hb | hsize
      · rw [h.2] at hb
        cases hb
      · omega
    · refine .inl ⟨?_, if_neg h⟩
      rw [not_and_or, Int.not_lt, Bool.not_eq_false] at h
      exact h.symm

theorem receive_keeps_iff (abi : Abi) (c : SocketClientTCP) (script : Script) :
    ReceiveKeeps abi c script ↔
      ¬ (EntersLoop abi c.socket.blocking script.size ∧ FailsAfterData script.reads id) := by
  have hreturns (o n) : (c.wrapper.receive abi).Returns script.kernel 0 o n ↔
      (receiveLoop abi c.socket).ReturnsFrom script.kernel
        ⟨none, .ret (receiveEntry abi c.socket.blocking script.size)⟩ 0 o n :=
    c.receive_returns abi rfl
  unfold ReceiveKeeps
  rcases receiveEntry_cases abi c.socket.blocking script.size with ⟨henter, hentry⟩ | ⟨hnot, hentry⟩
  · rw [and_iff_right henter, ← receiveRound_collects.keeps_iff (s := []) rfl]
    refine forall₂_congr fun o n => imp_congr_left ?_
    rw [hreturns, hentry, Loop.returnsFrom_again]
    refine (Loop.returnsFrom_iff_polls id (receiveLoop_body abi c.socket) fun _ => rfl).trans ?_
    exact ⟨fun ⟨_, hj, h⟩ => hj ▸ h, fun h => ⟨n, rfl, h⟩⟩
  · refine iff_of_true (fun o n h => ?_) fun h => hnot h.1
    rw [hreturns] at h
    rcases hentry with ⟨err, hentry⟩ | hentry
    · rw [hentry, Loop.returnsFrom_done] at h
      obtain ⟨rfl, rfl⟩ := h
      rfl
    · rw [hentry, Loop.returnsFrom_done] at h
      obtain ⟨rfl, rfl⟩ := h
      rfl

theorem receiveFrom_keeps_iff (u : SocketUDP) (script : Script) :
    ReceiveFromKeeps u script ↔ ¬ FailsAfterData script.datagrams Prod.fst := by
  unfold ReceiveFromKeeps
  rw [← receiveFromRound_collects.keeps_iff (s := ⟨[], [], 0⟩) rfl]
  refine forall₂_congr fun o n => imp_congr_left ?_
  refine u.receiveFrom_returns.trans ?_
  refine (Loop.returnsFrom_iff_polls id (receiveFromLoop_body u.protocol) fun _ => rfl).trans ?_
  exact ⟨fun ⟨_, hj, h⟩ => hj ▸ h, fun h => ⟨n, rfl, h⟩⟩

/-- The calls that read. -/
inductive ReadCall
  | receive (abi : Abi) (c : SocketClientTCP)
  | receiveFrom (u : SocketUDP)

namespace ReadCall

/-- Every such call against this script keeps what it takes. -/
def Keeps (script : Script) : ReadCall → Prop
  | receive abi c => ReceiveKeeps abi c script
  | receiveFrom u => ReceiveFromKeeps u script

/-- The call reads, and gets full pieces and then an error. -/
def FailsAfterData (script : Script) : ReadCall → Prop
  | receive abi c =>
    EntersLoop abi c.socket.blocking script.size ∧ NetLink.FailsAfterData script.reads id
  | receiveFrom _ => NetLink.FailsAfterData script.datagrams Prod.fst

end ReadCall

/-- **Which reads consume what they do not return.** Exactly the calls whose reads get full
    pieces and then an error other than would-block. -/
theorem reads_keep_iff (r : ReadCall) (script : Script) :
    r.Keeps script ↔ ¬ r.FailsAfterData script := by
  cases r with
  | receive abi c => exact receive_keeps_iff abi c script
  | receiveFrom u => exact receiveFrom_keeps_iff u script

/-- One full piece, and then a connection reset: the piece is lost with the exception. -/
theorem receive_loses_piece :
    let piece := List.replicate readSize (97 : UInt8)
    let script : Script := ⟨.ok 255, fun i => if i = 0 then .ok piece else .error (.other 104),
      fun _ => .error .eagain⟩
    ¬ (ReadCall.receive .lp64 (.on 3 8000)).Keeps script := by
  intro piece script hkeeps
  have hbad : FailsAfterData script.reads id := by
    refine ⟨1, Nat.one_pos, fun i hi => ⟨piece, ?_, ?_⟩, .other 104, rfl, rfl⟩
    · rw [Nat.lt_one_iff.mp hi]
      rfl
    · exact List.length_replicate
  exact (receive_keeps_iff .lp64 _ script).mp hkeeps ⟨.inl rfl, hbad⟩

end NetLink
