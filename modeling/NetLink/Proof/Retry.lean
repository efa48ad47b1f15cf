import NetLink.Proof.Rounds
import NetLink.Proof.Chain
import NetLink.Proof.Kinds
import NetLink.Kernel.SendScript

/-!
# Calling `send` again after it threw

`send` on a TCP socket goes on until all of its data is taken. It counts what has been taken in a
local variable and throws on the first error, whichever it is, so the count is gone with the
exception. A caller who sends the same data again sends twice what had been taken before.
`retryable_iff` says when that is nothing.
-/

namespace NetLink

open Interaction NetLinkWrapper
open Socket (SendToVars)

/-- A `send` that throws has had nothing taken, so that when the same call is made again and
    returns, the peer has been sent the data once. -/
def Retryable (limit : MaxTransfer) (c : SocketClientTCP) (stack : Ptr) (args : List JsValue)
    (script : SendScript) : Prop :=
  ∀ e k, (c.wrapper.send stack args).Returns (script.kernel limit) ⟨[], 0⟩ (.error e) k →
    k.bytes = [] ∧ ∀ (again : SendScript) k',
      (c.wrapper.send stack args).Returns (again.kernel limit) ⟨k.bytes, 0⟩ (.ok ()) k' →
        k'.bytes = (sendArgs args).2

/-- A `send` whose argument is refused has no data. -/
theorem sendArgs_rejected {args : List JsValue} {e : JsError}
    (h : (sendArgs args).1.rejected = some e) : (sendArgs args).2 = [] := by
  unfold sendArgs at h ⊢
  rw [ArgParser.new_eq_before] at h ⊢
  cases hget : args[0]? with
  | none =>
    rw [ArgParser.arg_absent hget]
    rfl
  | some a =>
    rw [ArgParser.arg_present hget] at h ⊢
    by_cases hreject : (GetValue.getString [] a .sendableData).1 = []
    · rw [hreject] at h
      cases h
    · simp only [Bool.false_and, Bool.false_eq_true, if_false, ne_eq, hreject, not_false_eq_true,
        if_true]
      exact TargetType.getValue_keeps .string [] a .sendableData hreject

section Rounds

variable (s : Socket) {limit : MaxTransfer} {data before : StdString} {script : SendScript}
  {w : Option (SendToVars ⊕ Nat)}

/-- While the outcomes take bytes and there are more to take, `send` goes on. -/
theorem send_rounds (n : Nat) (hok : ∀ i < n, ∃ m, script i = .ok m)
    (hlt : SendScript.moved limit script n < data.length) :
    ∃ w', (sendTcp s data).Reaches (script.kernel limit)
      (⟨before, 0⟩, ⟨w, (sendTcp s data).body (.inr 0)⟩)
      (⟨before ++ data.take (SendScript.moved limit script n), n⟩,
        ⟨w', (sendTcp s data).body (.inr (SendScript.moved limit script n))⟩) := by
  induction n with
  | zero => exact ⟨w, by simpa [SendScript.moved] using .refl⟩
  | succ n ih =>
    obtain ⟨m, hm⟩ := hok n (Nat.lt_succ_self n)
    rw [SendScript.moved_succ_ok hm] at hlt ⊢
    obtain ⟨w', h⟩ := ih (fun i hi => hok i (Nat.lt_succ_of_lt hi)) (by omega)
    have hmin : min (SendScript.takes limit m) (data.drop (SendScript.moved limit script n)).length =
        SendScript.takes limit m := by
      rw [List.length_drop]
      omega
    have hround := sendRound_ok (SendScript.takes_le limit m) (SendScript.moved limit script n)
    have hserve := SendScript.serve_ok limit
      (k := ⟨before ++ data.take (SendScript.moved limit script n), n⟩) hm
      s.socketHandler (data.drop (SendScript.moved limit script n))
    rw [hmin, List.append_assoc, ← List.take_add] at hserve
    rw [sendTcp_body s data (SendScript.moved limit script n), if_pos (by omega)] at h
    have htook := h.tail (.answer _ hserve)
    rw [hround] at htook
    exact ⟨_, htook.tail .again⟩

/-- What a `send` has done when it has counted `n` bytes: it gave the first `n` of its data away,
    and no outcome so far was an error. -/
structure Counted (limit : MaxTransfer) (script : SendScript) (before data : StdString) (n : Nat)
    (k : Taken) : Prop where
  count : n = min (SendScript.moved limit script k.sends) data.length
  bytes : k.bytes = before ++ data.take n
  ok : ∀ i < k.sends, ∃ m, script i = .ok m

theorem Counted.blocksMidway {n : Nat} {k : Taken} {e : Errno}
    (h : Counted limit script before data n k) (hlt : n < data.length)
    (hfails : script k.sends = .error e) :
    k.bytes = before ∨ script.BlocksMidway limit data.length := by
  have hcount := h.count
  cases hsends : k.sends with
  | zero =>
    refine .inl ?_
    rw [hsends, SendScript.moved, Nat.zero_min] at hcount
    rw [h.bytes, hcount, List.take_zero, List.append_nil]
  | succ sends =>
    have hmoved : SendScript.moved limit script k.sends < data.length := by omega
    exact .inr ⟨k.sends, by omega, h.ok, hmoved, e, hfails⟩

theorem Counted.succ {n m : Nat} {k : Taken} (h : Counted limit script before data n k)
    (hlt : n < data.length) (hm : script k.sends = .ok m) :
    Counted limit script before data (n + min (SendScript.takes limit m) (data.drop n).length)
      ⟨k.bytes ++ (data.drop n).take (SendScript.takes limit m), k.sends + 1⟩ := by
  have hcount := h.count
  refine ⟨?_, ?_, ?_⟩
  · rw [SendScript.moved_succ_ok hm, List.length_drop]
    omega
  · have htake : data.take (n + min (SendScript.takes limit m) (data.drop n).length) =
        data.take n ++ (data.drop n).take (SendScript.takes limit m) := by
      rw [List.take_add, ← List.take_eq_take_min]
    show k.bytes ++ _ = _
    rw [h.bytes, htake, List.append_assoc]
  · intro i hi
    rcases Nat.lt_succ_iff_lt_or_eq.mp hi with hlt | rfl
    · exact h.ok i hlt
    · exact ⟨m, hm⟩

/-- **The loop of `send`.** It returns when all of its data is taken, and when it throws nothing
    is, unless the outcomes block it midway. -/
theorem sendTcp_wp : (sendTcp s data).wp (script.kernel limit) (fun
    | .ok () => fun k => k.bytes = before ++ data
    | .error _ => fun k => k.bytes = before ∨ script.BlocksMidway limit data.length) ⟨before, 0⟩ := by
  refine ⟨Sum.elim (fun _ _ => False) (Counted limit script before data), ?_, ?_⟩
  · show Counted limit script before data 0 ⟨before, 0⟩
    exact ⟨by simp [SendScript.moved], by simp, by simp⟩
  · intro v k hv
    cases v with
    | inl _ => exact hv.elim
    | inr n =>
      have hv : Counted limit script before data n k := hv
      rw [sendTcp_body]
      split
      · rename_i hlt
        refine Prog.wp_ask.mpr ⟨trivial, ?_⟩
        intro r k' ha
        have ha : script.serve limit k (.send s.socketHandler (data.drop n)) = some (r, k') := ha
        cases hm : script k.sends with
        | ok m =>
          rw [SendScript.serve_ok limit hm] at ha
          cases ha
          have hlimit : min (SendScript.takes limit m) (data.drop n).length ≤ limit.bytes :=
            Nat.le_trans (Nat.min_le_left ..) (SendScript.takes_le limit m)
          rw [sendRound_ok hlimit]
          exact hv.succ hlt hm
        | error e =>
          rw [SendScript.serve_error limit hm] at ha
          cases ha
          exact hv.blocksMidway hlt hm
      · rename_i hge
        have hcount := hv.count
        show k.bytes = before ++ data
        rw [hv.bytes, show n = data.length by omega, List.take_length]

end Rounds

/-- When `send` is blocked midway it throws, with some of its data taken. -/
theorem sendTcp_throws {s : Socket} {limit : MaxTransfer} {data : StdString} {script : SendScript}
    (h : script.BlocksMidway limit data.length) : ∃ e k,
      (sendTcp s data).Returns (script.kernel limit) ⟨[], 0⟩ (.error e) k ∧ k.bytes ≠ [] := by
  obtain ⟨n, hpos, hok, hlt, e, hfails⟩ := h
  obtain ⟨w, hreach⟩ : ∃ w, (sendTcp s data).Reaches (script.kernel limit)
      (⟨[], 0⟩, ⟨some (.inr 0), (sendTcp s data).body (.inr 0)⟩)
      (⟨data.take (SendScript.moved limit script n), n⟩,
        ⟨w, (sendTcp s data).body (.inr (SendScript.moved limit script n))⟩) :=
    send_rounds s n hok hlt
  rw [sendTcp_body s data (SendScript.moved limit script n), if_pos hlt] at hreach
  have hserve := SendScript.serve_error limit
    (k := ⟨data.take (SendScript.moved limit script n), n⟩) hfails
    s.socketHandler (data.drop (SendScript.moved limit script n))
  have hend := hreach.tail (.answer _ hserve)
  have hthrow : (sendTcp s data).Returns (script.kernel limit) ⟨[], 0⟩
      (.error (throwJsError ⟨.errorSend, lit "Error sending data"⟩))
      ⟨data.take (SendScript.moved limit script n), n + 1⟩ := ⟨w, .head .again hend⟩
  refine ⟨_, _, hthrow, ?_⟩
  have hmoved := SendScript.moved_pos limit hpos hok
  have hdata : data ≠ [] := by
    rintro rfl
    exact Nat.not_lt_zero _ hlt
  simp only [ne_eq, List.take_eq_nil_iff, not_or]
  exact ⟨by omega, hdata⟩

/-- **`send` can be called again** after it threw exactly when the outcomes do not block it after
    some of the data was taken. -/
theorem retryable_iff (limit : MaxTransfer) (c : SocketClientTCP) (stack : Ptr) (args : List JsValue)
    (script : SendScript) :
    Retryable limit c stack args script ↔ ¬ script.BlocksMidway limit (sendArgs args).2.length := by
  unfold Retryable
  rw [c.send_eq]
  cases hrejected : (sendArgs args).1.rejected with
  | some e =>
    refine iff_of_true ?_ ?_
    · intro e' k hk
      obtain ⟨-, rfl⟩ := Loop.returnsFrom_done.mp hk
      refine ⟨rfl, ?_⟩
      intro again k' hk'
      obtain ⟨hok, -⟩ := Loop.returnsFrom_done.mp hk'
      cases hok
    · rw [sendArgs_rejected hrejected]
      intro h
      obtain ⟨n, -, -, hlt, -⟩ := h
      exact Nat.not_lt_zero _ hlt
  | none =>
    constructor
    · intro h hblocks
      obtain ⟨e, k, hret, hne⟩ := sendTcp_throws hblocks
      exact hne (h e k hret).1
    · intro hblocks e k hret
      have hnone : k.bytes = [] := ((sendTcp_wp c.socket).returns hret).resolve_right hblocks
      refine ⟨hnone, ?_⟩
      intro again k' hret'
      have hall := (sendTcp_wp c.socket).returns hret'
      rw [hnone] at hall
      exact hall

/-- Two bytes are to be sent, the first is taken, and then the buffer is full. The caller who
    sends them again has sent three. -/
theorem send_repeats_byte :
    let script : SendScript := fun i => if i = 0 then .ok 0 else .error .eagain
    let again : SendScript := fun _ => .ok 1
    let c : SocketClientTCP := (SocketClientTCP.on 5 9000).unblocked
    let args : List JsValue := [.string [104, 105]]
    (∃ e k k', (c.wrapper.send none args).Returns (script.kernel .linux) ⟨[], 0⟩ (.error e) k ∧
      (c.wrapper.send none args).Returns (again.kernel .linux) ⟨k.bytes, 0⟩ (.ok ()) k' ∧
      k.bytes = [104] ∧ k'.bytes = [104, 104, 105]) ∧ ¬ Retryable .linux c none args script := by
  intro script again c args
  have hsend : c.wrapper.send none args = sendTcp c.socket [104, 105] := c.send_eq none args
  have hbody (n : Nat) (hn : n < 2) : (sendTcp c.socket [104, 105]).body (.inr n) =
      .ask (.send 5 (List.drop n [104, 105])) fun r => .ret (sendRound n r) :=
    (sendTcp_body c.socket [104, 105] n).trans (if_pos hn)
  have hthrows : (c.wrapper.send none args).Returns (script.kernel .linux) ⟨[], 0⟩
      (.error (throwJsError ⟨.errorSend, lit "Error sending data"⟩)) ⟨[104], 2⟩ := by
    rw [hsend]
    apply (Loop.returnsFrom_again (s := Sum.inr 0)).mpr
    rw [hbody 0 (by decide)]
    refine (Loop.returnsFrom_serve (r := .ok 1) rfl).mpr
      ((Loop.returnsFrom_again (s := Sum.inr 1)).mpr ?_)
    rw [hbody 1 (by decide)]
    exact (Loop.returnsFrom_serve (r := .error .eagain) rfl).mpr (Loop.returnsFrom_done.mpr ⟨rfl, rfl⟩)
  have hreturns : (c.wrapper.send none args).Returns (again.kernel .linux) ⟨[104], 0⟩ (.ok ())
      ⟨[104, 104, 105], 1⟩ := by
    rw [hsend]
    apply (Loop.returnsFrom_again (s := Sum.inr 0)).mpr
    rw [hbody 0 (by decide)]
    refine (Loop.returnsFrom_serve (r := .ok 2) rfl).mpr
      ((Loop.returnsFrom_again (s := Sum.inr 2)).mpr ?_)
    rw [sendTcp_body c.socket [104, 105] 2]
    exact Loop.returnsFrom_done.mpr ⟨rfl, rfl⟩
  refine ⟨⟨_, _, _, hthrows, hreturns, rfl, rfl⟩, ?_⟩
  intro h
  cases (h _ _ hthrows).1

end NetLink
