import Mathlib.Data.List.Forall2
import NetLink.Proof.Rounds
import NetLink.Proof.Kinds
import NetLink.Kernel.Stream

/-!
# A TCP stream arrives as it was sent

One end of a connection calls `send`, the other calls `receive`, and the steps of the two calls
interleave in any way, with any choice of partial lengths up to what the kernel moves in one call,
which is less than 2³¹ bytes. A `World` is a moment of that: the
calls that are over, the ones in progress, and the bytes between.

The two loops never meet except in the stream, and each keeps an account of its own. A `send`
that has moved `n` bytes has moved the first `n` bytes of its data (`SendCode`); a `receive`
that has collected some bytes still holds all of them (`ReceiveCode`). `World.Inv` puts the two
accounts together: what was returned, collected and left in the stream is what was handed over,
call by call. `World.integrity` is what a caller sees of it.
-/

namespace NetLink

open Interaction NetLinkWrapper
open Socket (SendToVars)

/-! ## The sending loop -/

/-- Where a `send` of `data` that has moved `n` bytes can be. -/
inductive SendCode (s : Socket) (data : StdString) :
    Nat → Sys ((SendToVars ⊕ Nat) ⊕ Except JsError Unit) → Prop
  | going {n : Nat} : n ≤ data.length → SendCode s data n (.ret (.inl (.inr n)))
  | asking {n : Nat} : n < data.length →
      SendCode s data n
        (.ask (.send s.socketHandler (data.drop n)) fun r => .ret (sendRound n r))
  | finished : SendCode s data data.length (.ret (.inr (.ok ())))
  | thrown {n : Nat} {e : JsError} : n ≤ data.length → SendCode s data n (.ret (.inr (.error e)))

namespace SendCode

variable {s : Socket} {data : StdString} {n : Nat}
  {code : Sys ((SendToVars ⊕ Nat) ⊕ Except JsError Unit)}
  {limit : MaxTransfer}

theorem start (c : SocketClientTCP) (stack : Ptr) (args : List JsValue) :
    SendCode c.socket (sendArgs args).2 0 (c.wrapper.send stack args).start.code := by
  rw [c.send_eq]
  cases (sendArgs args).1.rejected with
  | some e => exact .thrown (Nat.zero_le _)
  | none => exact .going (Nat.zero_le _)

theorem again (c : SocketClientTCP) (stack : Ptr) (args : List JsValue)
    (hn : n ≤ (sendArgs args).2.length) :
    SendCode c.socket (sendArgs args).2 n ((c.wrapper.send stack args).body (.inr n)) := by
  rw [c.send_eq]
  cases (sendArgs args).1.rejected with
  | some e => exact .thrown hn
  | none =>
    simp only [sendTcp_body]
    split
    · exact .asking ‹_›
    · rw [show n = (sendArgs args).2.length by omega]
      exact .finished

/-- **One step of `send`.** What it adds to the stream are the bytes it then counts as moved. -/
theorem step {c : SocketClientTCP} {stack : Ptr} {args : List JsValue} {k k' : Stream}
    {f f' : SysConfig (SendToVars ⊕ Nat) (Except JsError Unit)}
    (h : SendCode c.socket (sendArgs args).2 n f.code)
    (hs : (c.wrapper.send stack args).Step (Stream.kernel limit) (k, f) (k', f')) :
    ∃ n' sent, SendCode c.socket (sendArgs args).2 n' f'.code ∧
      (sendArgs args).2.take n' = (sendArgs args).2.take n ++ sent ∧
      k'.bytes = k.bytes ++ sent := by
  generalize hdata : (sendArgs args).2 = data at h
  cases hs with
  | answer r ha =>
    cases h with
    | asking hlt =>
      cases r with
      | error e =>
        obtain rfl : k' = k := ha
        exact ⟨n, [], .thrown (Nat.le_of_lt hlt), by simp, by simp⟩
      | ok m =>
        -- The kernel took the first `m` of the bytes that were left, and an `int` holds `m`.
        obtain ⟨-, hm, hlimit, rfl⟩ := ha
        rw [List.length_drop] at hm
        refine ⟨n + m, (data.drop n).take m, ?_, List.take_add, rfl⟩
        show SendCode _ _ _ (.ret (sendRound n (.ok m)))
        rw [sendRound_ok hlimit]
        exact .going (by omega)
  | again =>
    cases h with
    | going hle =>
      subst hdata
      exact ⟨n, [], again c stack args hle, by simp, by simp⟩

end SendCode

/-! ## The receiving loop -/

/-- What a `receive` in progress has collected: what `ss` holds, or what is about to be
    returned. -/
def collected : SysConfig StdString (Except JsError (Option StdString)) → StdString
  | ⟨_, .ret (.inl ss)⟩ => ss
  | ⟨_, .ret (.inr (.ok y))⟩ => y.getD []
  | ⟨_, .ret (.inr (.error _))⟩ => []
  | ⟨vars, .ask ..⟩ => vars.getD []

/-- Where a `receive` can be. -/
inductive ReceiveCode (abi : Abi) (s : Socket) :
    SysConfig StdString (Except JsError (Option StdString)) → Prop
  | entering : ReceiveCode abi s
      ⟨none, .ask (.ioctl s.socketHandler) fun r => .ret (receiveEntry abi s.blocking r)⟩
  | asking {ss : StdString} : ReceiveCode abi s
      ⟨some ss, .ask (.recv s.socketHandler readSize) fun r => .ret (receiveRound ss r)⟩
  | going {vars : Option StdString} {x : StdString ⊕ Except JsError (Option StdString)} :
      ReceiveCode abi s ⟨vars, .ret x⟩

namespace ReceiveCode

variable {abi : Abi} {limit : MaxTransfer}

theorem start (c : SocketClientTCP) : ReceiveCode abi c.socket (c.wrapper.receive abi).start := by
  rw [c.receive_eq, Loop.start, receiveLoop_enter]
  exact .entering

/-- **One step of `receive`.** What it takes from the front of the stream it has collected. -/
theorem step {c : SocketClientTCP} {k k' : Stream}
    {f f' : SysConfig StdString (Except JsError (Option StdString))}
    (h : ReceiveCode abi c.socket f)
    (hs : (c.wrapper.receive abi).Step (Stream.kernel limit) (k, f) (k', f')) :
    ReceiveCode abi c.socket f' ∧ collected f ++ k.bytes = collected f' ++ k'.bytes := by
  rw [c.receive_eq] at hs
  cases hs with
  | answer r ha =>
    refine ⟨?_, ?_⟩
    · cases h with
      | entering => exact .going
      | asking => exact .going
    · cases h with
      | entering =>
        obtain rfl : k' = k := ha
        cases r with
        | error e => rfl
        | ok n =>
          simp only [receiveEntry]
          split <;> rfl
      | asking =>
        rename_i ss
        cases r with
        | error e =>
          obtain ⟨he, rfl⟩ := ha
          simp [receiveRound, he, collected]
        | ok bytes =>
          rw [Stream.answers_recv_ok ha]
          simp only [receiveRound]
          split <;> simp [collected]
  | again =>
    rw [receiveLoop_body]
    exact ⟨.asking, rfl⟩

end ReceiveCode

/-! ## Both ends -/

structure Sending where
  endpoint : SocketClientTCP
  stack : Ptr
  args : List JsValue
  config : SysConfig (SendToVars ⊕ Nat) (Except JsError Unit)

def Sending.data (s : Sending) : StdString := (sendArgs s.args).2

structure Receiving where
  endpoint : SocketClientTCP
  config : SysConfig StdString (Except JsError (Option StdString))

/-- The two ends of a connection and what is between them. `calls` are the `send`s that are
    over, with their data and how they ended; `returned` are the `Buffer`s that `receive` has
    returned. -/
structure World where
  stream : Stream
  calls : List (StdString × Except JsError Unit)
  sending : Option Sending
  returned : List StdString
  receiving : Option Receiving

namespace World

def init : World := ⟨⟨[], false⟩, [], none, [], none⟩

/-- The two ends take steps in any order. Either may be called with any wrapper of a TCP client,
    so an end may change its blocking mode between calls. -/
inductive Step (limit : MaxTransfer) (abi : Abi) : World → World → Prop
  | callSend {w : World} (c : SocketClientTCP) (stack : Ptr) (args : List JsValue) :
      w.sending = none →
      Step limit abi w { w with sending := some ⟨c, stack, args, (c.wrapper.send stack args).start⟩ }
  | send {w : World} {s : Sending} {stream : Stream}
      {config : SysConfig (SendToVars ⊕ Nat) (Except JsError Unit)} :
      w.sending = some s →
      (s.endpoint.wrapper.send s.stack s.args).Step (Stream.kernel limit) (w.stream, s.config)
        (stream, config) →
      Step limit abi w { w with stream, sending := some { s with config } }
  | sent {w : World} {s : Sending} {v : Option (SendToVars ⊕ Nat)} {o : Except JsError Unit} :
      w.sending = some s → s.config = ⟨v, .ret (.inr o)⟩ →
      Step limit abi w { w with sending := none, calls := w.calls ++ [(s.data, o)] }
  | callReceive {w : World} (c : SocketClientTCP) :
      w.receiving = none →
      Step limit abi w { w with receiving := some ⟨c, (c.wrapper.receive abi).start⟩ }
  | receive {w : World} {r : Receiving} {stream : Stream}
      {config : SysConfig StdString (Except JsError (Option StdString))} :
      w.receiving = some r →
      (r.endpoint.wrapper.receive abi).Step (Stream.kernel limit) (w.stream, r.config)
        (stream, config) →
      Step limit abi w { w with stream, receiving := some { r with config } }
  | received {w : World} {r : Receiving} {v : Option StdString}
      {o : Except JsError (Option StdString)} :
      w.receiving = some r → r.config = ⟨v, .ret (.inr o)⟩ →
      Step limit abi w { w with receiving := none, returned := w.returned ++ o.toOption.join.toList }
  | close {w : World} : Step limit abi w { w with stream := { w.stream with closed := true } }

abbrev Reachable (limit : MaxTransfer) (abi : Abi) (w : World) : Prop :=
  Relation.ReflTransGen (Step limit abi) init w

/-- The bytes collected by a `receive` still in progress. -/
def collected (w : World) : StdString :=
  match w.receiving with
  | some r => NetLink.collected r.config
  | none => []

/-- All `send` calls so far, with how they ended if they have. -/
def sends (w : World) : List (StdString × Option (Except JsError Unit)) :=
  w.calls.map (fun c => (c.1, some c.2)) ++ (w.sending.map fun s => (s.data, none)).toList

/-- What a `send` call may have put into the stream: all of its data, when it returned, and a
    prefix of it, when it threw or is in progress. -/
def Contributed : StdString × Option (Except JsError Unit) → StdString → Prop
  | (data, some (.ok ())), part => part = data
  | (data, _), part => part <+: data

/-- The account of both ends together. `parts` are the contributions of the calls that are over
    and `n` is what the call in progress has moved. -/
structure Inv (abi : Abi) (w : World) (parts : List StdString) (n : Nat) : Prop where
  calls : List.Forall₂ Contributed (w.calls.map fun c => (c.1, some c.2)) parts
  sending : ∀ s ∈ w.sending, SendCode s.endpoint.socket s.data n s.config.code
  receiving : ∀ r ∈ w.receiving, ReceiveCode abi r.endpoint.socket r.config
  account : w.returned.flatten ++ (w.collected ++ w.stream.bytes) =
    parts.flatten ++ (w.sending.elim [] fun s => s.data.take n)

theorem Inv.init (abi : Abi) : Inv abi init [] 0 where
  calls := .nil
  sending := fun _ h => absurd h (Option.not_mem_none _)
  receiving := fun _ h => absurd h (Option.not_mem_none _)
  account := rfl

theorem contributed_of_sendCode {s : Socket} {data : StdString} {n : Nat}
    {o : Except JsError Unit} (h : SendCode s data n (.ret (.inr o))) :
    Contributed (data, some o) (data.take n) := by
  cases h with
  | finished => exact List.take_length
  | thrown h => exact List.take_prefix n data

/-- **One step of the world** keeps the account. -/
theorem Inv.step {limit : MaxTransfer} {abi : Abi} {w w' : World} {parts : List StdString} {n : Nat}
    (h : Inv abi w parts n) (hs : Step limit abi w w') : ∃ parts' n', Inv abi w' parts' n' := by
  obtain ⟨hcalls, hsending, hreceiving, haccount⟩ := h
  cases hs with
  | callSend c stack args hidle =>
    rw [hidle] at haccount
    refine ⟨parts, 0, hcalls, ?_, hreceiving, ?_⟩
    · intro _ h
      cases h
      exact SendCode.start c stack args
    · simpa [collected] using haccount
  | @send s stream config hbusy hstep =>
    obtain ⟨n', sent, hcode, htake, hbytes⟩ := (hsending s hbusy).step hstep
    refine ⟨parts, n', hcalls, ?_, hreceiving, ?_⟩
    · intro _ h
      cases h
      exact hcode
    · have htake : s.data.take n' = s.data.take n ++ sent := htake
      rw [hbusy] at haccount
      have hcol : ({ w with stream, sending := some { s with config } } : World).collected =
          w.collected := rfl
      simp only [Option.elim_some] at haccount ⊢
      rw [hcol, hbytes, show Sending.data { s with config } = s.data from rfl, htake,
        ← List.append_assoc parts.flatten, ← haccount]
      simp only [List.append_assoc]
  -- The call is over: what it has moved becomes the last of the contributions.
  | @sent s v o hbusy hover =>
    have hcode := hsending s hbusy
    rw [hover] at hcode
    refine ⟨parts ++ [s.data.take n], 0, ?_, fun _ h => absurd h (Option.not_mem_none _), hreceiving, ?_⟩
    · rw [List.map_append]
      exact List.rel_append hcalls (.cons (contributed_of_sendCode hcode) .nil)
    · rw [hbusy] at haccount
      simpa [collected] using haccount
  | callReceive c hidle =>
    refine ⟨parts, n, hcalls, hsending, ?_, ?_⟩
    · intro _ h
      cases h
      exact ReceiveCode.start c
    · have hcol : w.collected = [] := by rw [collected, hidle]
      have hnew : NetLink.collected (c.wrapper.receive abi).start = [] := by
        rw [c.receive_eq, Loop.start, receiveLoop_enter]
        rfl
      rw [hcol] at haccount
      simpa only [collected, hnew] using haccount
  | @receive r stream config hbusy hstep =>
    obtain ⟨hcode, hbytes⟩ := (hreceiving r hbusy).step hstep
    refine ⟨parts, n, hcalls, hsending, ?_, ?_⟩
    · intro _ h
      cases h
      exact hcode
    · have hcol : w.collected = NetLink.collected r.config := by rw [collected, hbusy]
      rw [hcol, hbytes] at haccount
      exact haccount
  -- An error returns nothing, and `collected` counts nothing for it.
  | @received r v o hbusy hover =>
    refine ⟨parts, n, hcalls, hsending, fun _ h => absurd h (Option.not_mem_none _), ?_⟩
    have hcol : w.collected = (o.toOption.join.toList).flatten := by
      rw [collected, hbusy]
      show NetLink.collected r.config = _
      rw [hover]
      rcases o with e | _ | bytes
      · rfl
      · rfl
      · exact (List.append_nil bytes).symm
    rw [hcol] at haccount
    rw [List.flatten_append, List.append_assoc]
    exact haccount
  | close => exact ⟨parts, n, hcalls, hsending, hreceiving, haccount⟩

theorem Reachable.inv {limit : MaxTransfer} {abi : Abi} {w : World} (h : Reachable limit abi w) :
    ∃ parts n, Inv abi w parts n := by
  induction h with
  | refl => exact ⟨[], 0, .init abi⟩
  | tail _ hs ih =>
    obtain ⟨parts, n, hinv⟩ := ih
    exact hinv.step hs

/-- **Stream integrity.** At every moment, what `receive` has returned, then what a `receive`
    in progress has collected, then what is still in the stream, is what the `send` calls have
    contributed, in their order. -/
theorem integrity {limit : MaxTransfer} {abi : Abi} {w : World} (h : Reachable limit abi w) :
    ∃ parts, List.Forall₂ Contributed w.sends parts ∧
      w.returned.flatten ++ w.collected ++ w.stream.bytes = parts.flatten := by
  obtain ⟨parts, n, hcalls, -, -, haccount⟩ := h.inv
  rw [List.append_assoc, haccount]
  unfold sends
  cases w.sending with
  | none => exact ⟨parts, by simpa using hcalls, by simp⟩
  | some s =>
    refine ⟨parts ++ [s.data.take n], ?_, by simp⟩
    exact List.rel_append hcalls (.cons (List.take_prefix n s.data) .nil)

/-! ## A run -/

section Run

variable {limit : MaxTransfer} {abi : Abi} {w : World} {stream : Stream}

/-- The sending end goes on, and the other end waits. -/
theorem Reachable.sends (h : Reachable limit abi w) {s : Sending} (hs : w.sending = some s)
    {config : SysConfig (SendToVars ⊕ Nat) (Except JsError Unit)}
    (hreach : (s.endpoint.wrapper.send s.stack s.args).Reaches (Stream.kernel limit)
      (w.stream, s.config) (stream, config)) :
    Reachable limit abi { w with stream, sending := some { s with config } } := by
  generalize hst : (stream, config) = st at hreach
  induction hreach generalizing stream config with
  | refl =>
    cases hst
    have hw : { w with stream := w.stream, sending := some { s with config := s.config } } = w := by
      rw [← hs]
    rw [hw]
    exact h
  | @tail st _ _ hstep ih =>
    cases hst
    have hsends := @ih st.1 st.2 rfl
    exact hsends.tail (.send (s := { s with config := st.2 }) rfl hstep)

/-- The receiving end goes on, and the other end waits. -/
theorem Reachable.receives (h : Reachable limit abi w) {r : Receiving} (hr : w.receiving = some r)
    {config : SysConfig StdString (Except JsError (Option StdString))}
    (hreach : (r.endpoint.wrapper.receive abi).Reaches (Stream.kernel limit)
      (w.stream, r.config) (stream, config)) :
    Reachable limit abi { w with stream, receiving := some { r with config } } := by
  generalize hst : (stream, config) = st at hreach
  induction hreach generalizing stream config with
  | refl =>
    cases hst
    have hw : { w with stream := w.stream, receiving := some { r with config := r.config } } = w := by
      rw [← hr]
    rw [hw]
    exact h
  | @tail st _ _ hstep ih =>
    cases hst
    have hreceives := @ih st.1 st.2 rfl
    exact hreceives.tail (.receive (r := { r with config := st.2 }) rfl hstep)

/-- Two bytes are sent, one at a time; the first is received before the second has gone, and the
    second is still on its way. -/
theorem integrity_partial : ∃ w, Reachable .linux .lp64 w ∧ w.returned = [[97]] ∧
    w.calls = [([97, 98], .ok ())] ∧ w.stream.bytes = [98] ∧
    ∃ parts, List.Forall₂ Contributed w.sends parts ∧
      w.returned.flatten ++ w.collected ++ w.stream.bytes = parts.flatten := by
  let c := SocketClientTCP.on 3 8000
  let args : List JsValue := [.string [97, 98]]
  let data : StdString := [97, 98]
  have hsend : c.wrapper.send none args = sendTcp c.socket data := c.send_eq none args
  have hbyte (n : Nat) (hn : n < 2) (v : Option (SendToVars ⊕ Nat)) (bytes : StdString) :
      (c.wrapper.send none args).Reaches (Stream.kernel .linux)
        (⟨bytes, false⟩, ⟨v, .ret (.inl (.inr n))⟩)
        (⟨bytes ++ (data.drop n).take 1, false⟩, ⟨some (.inr n), .ret (.inl (.inr (n + 1)))⟩) := by
    have htaken : (Stream.kernel .linux).answers ⟨bytes, false⟩ (.send 3 (data.drop n)) (.ok 1)
        ⟨bytes ++ (data.drop n).take 1, false⟩ := by
      refine ⟨by decide, ?_, by decide, rfl⟩
      rw [List.length_drop]
      exact Nat.sub_pos_of_lt hn
    have hround : sendRound n (.ok 1) = .inl (.inr (n + 1)) :=
      sendRound_ok (show 1 ≤ MaxTransfer.linux.bytes by decide) n
    rw [hsend, ← hround]
    refine .head .again ?_
    rw [sendTcp_body, if_pos (show n < data.length from hn)]
    exact .single (.answer _ htaken)
  have hstart : (c.wrapper.send none args).start = ⟨none, .ret (.inl (.inr 0))⟩ := by rw [hsend]; rfl
  have hover (v : Option (SendToVars ⊕ Nat)) (stream : Stream) :
      (c.wrapper.send none args).Reaches (Stream.kernel .linux)
        (stream, ⟨v, .ret (.inl (.inr 2))⟩) (stream, ⟨some (.inr 2), .ret (.inr (.ok ()))⟩) := by
    have hbody : (c.wrapper.send none args).body (.inr 2) = .ret (.inr (.ok ())) := by
      rw [hsend, sendTcp_body]
      rfl
    exact .single (hbody ▸ .again)
  have hreceive : (c.wrapper.receive .lp64).Reaches (Stream.kernel .linux)
      (⟨[97], false⟩, (c.wrapper.receive .lp64).start)
      (⟨[], false⟩, ⟨some [], .ret (.inr (.ok (some [97])))⟩) := by
    have hpending : (Stream.kernel .linux).answers ⟨[97], false⟩ (.ioctl 3) (.ok 1)
        ⟨[97], false⟩ := rfl
    have hread : (Stream.kernel .linux).answers ⟨[97], false⟩ (.recv 3 readSize) (.ok [97])
        ⟨[], false⟩ :=
      .inl ⟨by decide, by decide, rfl, rfl⟩
    rw [c.receive_eq, Loop.start, receiveLoop_enter]
    refine .head (.answer _ hpending) (.head .again ?_)
    rw [receiveLoop_body]
    exact .single (.answer _ hread)
  have h₀ : Reachable .linux .lp64 _ := .single (.callSend c none args rfl)
  have h₁ := h₀.sends rfl (hstart ▸ hbyte 0 (by decide) none [])
  have h₂ := (Reachable.receives (h₁.tail (.callReceive c rfl)) rfl hreceive).tail (.received rfl rfl)
  have h₃ := Reachable.sends h₂ rfl ((hbyte 1 (by decide) _ []).trans (hover _ _))
  have h₄ := h₃.tail (.sent rfl rfl)
  exact ⟨_, h₄, rfl, rfl, rfl, integrity h₄⟩

end Run

end World

end NetLink
