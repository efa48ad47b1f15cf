import NetLink.Model.Wrapper

/-!
# One round of each loop is one call

The loops of `receive`, `receive_from` and `send` make exactly one system call in a round and
then decide, from its answer alone, whether to go round again. This file states that decision
as a function of the loop variables and the answer, and proves that the code computes it.
Everything proved about these loops later goes through the three `_body` lemmas.
-/

namespace NetLink

open Interaction

/-- `if (str.length())`: what has been read, or `undefined`. -/
def nonEmpty (ss : StdString) : Option StdString := if 0 < ss.length then some ss else none

theorem nonEmpty_of_ne {ss : StdString} (h : ss ≠ []) : nonEmpty ss = some ss :=
  if_pos (List.length_pos_iff.mpr h)

@[simp] theorem nonEmpty_getD (ss : StdString) : (nonEmpty ss).getD [] = ss := by
  unfold nonEmpty
  split
  · rfl
  · rename_i h
    exact (List.eq_nil_of_length_eq_zero (by omega)).symm

/-- The exception of a read that failed with something else than would-block. -/
def readError (functionName : String) : Exception :=
  ⟨.errorRead, lit "Socket::" ++ lit functionName ++ lit ": error detected"⟩

theorem append_taken (ss bytes : StdString) :
    (if (0 : Int) < bytes.length then ss ++ bytes.take (bytes.length : Int).toNat else ss) =
      ss ++ bytes := by
  split
  · simp
  · rename_i h
    have : bytes = [] := List.eq_nil_of_length_eq_zero (by omega)
    simp [this]

/-! ## `receive` -/

/-- What `nextReadSize` makes of a count the kernel stores. -/
def Abi.reported (abi : Abi) (n : BitVec 32) : Int :=
  (BitVec.ofNat 32 (abi.load (abi.storeInt n (List.replicate abi.longSize 255)))).toInt

/-- How `receive` begins: it does not read when nothing is reported and it must not block. -/
def receiveEntry (abi : Abi) (blocking : Bool) :
    Except Errno (BitVec 32) → StdString ⊕ Except JsError (Option StdString)
  | .error _ =>
    .inr (.error (throwJsError ⟨.errorIoctl, lit "Socket::nextReadSize: error ioctl"⟩))
  | .ok n => if abi.reported n < 1 ∧ blocking = false then .inr (.ok none) else .inl []

theorem receiveLoop_enter (abi : Abi) (s : Socket) :
    (NetLinkWrapper.receiveLoop abi s).enter =
      .ask (.ioctl s.socketHandler) fun r => .ret (receiveEntry abi s.blocking r) := by
  unfold NetLinkWrapper.receiveLoop Socket.nextReadSize
  simp only [Prog.call_bind, Prog.ask_bind]
  refine congrArg (Prog.ask _) (funext ?_)
  intro r
  cases r with
  | error e => rfl
  | ok n =>
    simp only [Prog.pure_eq, Prog.ret_bind, receiveEntry, ← Abi.reported.eq_def]
    split <;> rfl

/-- A round of `receive` with `ss` collected so far. -/
def receiveRound (ss : StdString) :
    Except Errno StdString → StdString ⊕ Except JsError (Option StdString)
  | .error e =>
    if e.wouldBlock then .inr (.ok (nonEmpty ss))
    else .inr (.error (throwJsError (readError "read")))
  | .ok bytes =>
    if bytes.length = readSize then .inl (ss ++ bytes) else .inr (.ok (nonEmpty (ss ++ bytes)))

theorem receiveLoop_body (abi : Abi) (s : Socket) (ss : StdString) :
    (NetLinkWrapper.receiveLoop abi s).body ss =
      .ask (.recv s.socketHandler readSize) fun r => .ret (receiveRound ss r) := by
  unfold NetLinkWrapper.receiveLoop Socket.read
  simp only [Prog.call_bind, Prog.ask_bind]
  refine congrArg (Prog.ask _) (funext ?_)
  intro r
  cases r with
  | error e =>
    cases h : e.wouldBlock <;>
      simp [checkReadError, receiveRound, h, readSize, nonEmpty, readError]
  | ok bytes =>
    simp only [Prog.pure_eq, Prog.ret_bind, receiveRound, append_taken, nonEmpty]
    by_cases h : bytes.length = readSize
    · simp [h]
    · have hne : (bytes.length : Int) ≠ (readSize : Nat) := by exact_mod_cast h
      simp [h, hne]

/-! ## `receive_from` -/

open NetLinkWrapper (Received ReceiveFromVars)

/-- A round of `receive_from`. A read that would block resets the sender. -/
def receiveFromRound (v : ReceiveFromVars) :
    Except Errno (StdString × SockAddr) → ReceiveFromVars ⊕ Except JsError (Option Received)
  | .error e =>
    if e.wouldBlock then .inr (.ok ((nonEmpty v.read).map fun read => ⟨[], 0, read⟩))
    else .inr (.error (throwJsError (readError "readFrom")))
  | .ok (bytes, addr) =>
    if bytes.length = readSize then .inl ⟨v.read ++ bytes, addr.host, getInPort addr⟩
    else .inr (.ok (some ⟨addr.host, getInPort addr, v.read ++ bytes⟩))

theorem receiveFromLoop_body {s : Socket} (hudp : s.protocol = .udp) (v : ReceiveFromVars) :
    (NetLinkWrapper.receiveFromLoop s).body v =
      .ask (.recvfrom s.socketHandler readSize) fun r => .ret (receiveFromRound v r) := by
  unfold NetLinkWrapper.receiveFromLoop Socket.readFrom
  simp only [hudp, ne_eq, not_true_eq_false, if_false, Prog.call_bind, Prog.ask_bind]
  refine congrArg (Prog.ask _) (funext ?_)
  intro r
  cases r with
  | error e =>
    cases h : e.wouldBlock
    · simp [checkReadError, receiveFromRound, h, readError]
    · by_cases hr : 0 < v.read.length <;>
        simp [checkReadError, receiveFromRound, h, readSize, nonEmpty, hr]
  | ok a =>
    obtain ⟨bytes, addr⟩ := a
    simp only [Prog.pure_eq, Prog.ret_bind, receiveFromRound, append_taken]
    have hhost : 0 < addr.host.length := List.length_pos_iff.mpr addr.host_ne
    by_cases h : bytes.length = readSize
    · simp [h]
    · have hne : (bytes.length : Int) ≠ (readSize : Nat) := by exact_mod_cast h
      simp [h, hne, hhost]

/-! ## `send` -/

open Socket (SendToVars)

/-- A round of `send` on a TCP socket, with `sentData` bytes gone. -/
def sendRound (sentData : Nat) (r : Except Errno Nat) : (SendToVars ⊕ Nat) ⊕ Except JsError Unit :=
  if intStatus r = -1 then .inr (.error (throwJsError ⟨.errorSend, lit "Error sending data"⟩))
  else .inl (.inr (advance sentData (intStatus r)))

theorem sendRound_ok {limit : MaxTransfer} {n : Nat} (h : n ≤ limit.bytes) (sentData : Nat) :
    sendRound sentData (.ok n) = .inl (.inr (sentData + n)) := by
  rw [sendRound, if_neg (limit.intStatus_ne h), limit.advance_ok h]

def sendTcp (s : Socket) (data : StdString) : SysLoop (SendToVars ⊕ Nat) (Except JsError Unit) :=
  (s.sendLoop data).inr.map jsResult

theorem sendTcp_body (s : Socket) (data : StdString) (sentData : Nat) :
    (sendTcp s data).body (.inr sentData) =
      if sentData < data.length then
        .ask (.send s.socketHandler (data.drop sentData)) fun r => .ret (sendRound sentData r)
      else .ret (.inr (.ok ())) := by
  unfold sendTcp Loop.map Loop.inr Socket.sendLoop
  simp only [Sum.elim_inr, Prog.call_bind]
  split
  · refine congrArg (Prog.ask _) (funext ?_)
    intro r
    simp only [sendRound]
    split <;> rfl
  · rfl

/-! ## Resolver lists -/

/-- Free what a pointer points to, unless it is null, and go on with `x`. -/
def releasing {α : Type} (x : α) : Ptr → Sys α
  | none => .ret x
  | some p => .ask (.freeaddrinfo p) fun _ => .ret x

theorem releaseEach_bind {α : Type} (p : Ptr) (x : α) :
    (ReleaseManager.releaseEach Sys.freeaddrinfo [p] >>= fun _ => .ret x) = releasing x p := by
  cases p <;> rfl

/-- `initSocket`: the list the resolver gives is worked through and then released. -/
theorem initSocket_eq (s : Socket) :
    s.initSocket = .ask (.getaddrinfo s.host s.service s.conf) fun
      | .error text =>
        .ret (.error ⟨.errorSetAddrInfo, lit "Socket::initSocket: Error setting addrInfo: " ++ text⟩)
      | .ok list => s.connectFirst list >>= fun outcome => releasing outcome (headPtr list) := by
  unfold Socket.initSocket
  simp only [Prog.call_bind]
  refine congrArg (Prog.ask _) (funext ?_)
  intro r
  cases r with
  | error text => rfl
  | ok list =>
    refine congrArg (s.connectFirst list >>= ·) (funext ?_)
    intro outcome
    exact releaseEach_bind (headPtr list) outcome

/-! ## `sendTo` -/

open NetLinkWrapper (SendToArgs)

def setAddrError : JsError :=
  throwJsError ⟨.errorSetAddrInfo, lit "Socket::sendTo: error setting addr info"⟩

def sendError : JsError :=
  throwJsError ⟨.errorSend, lit "Socket::sendTo: could not send the data"⟩

def sendToLoop (s : Socket) (stack : Ptr) (a : SendToArgs) :
    SysLoop SendToVars (Except JsError Unit) :=
  (s.sendTo stack a.data a.host a.port.toNat).map jsResult

theorem sendToLoop_refuses {s : Socket} (h : s.protocol ≠ .udp ∨ s.ipVer = .any) (stack : Ptr)
    (a : SendToArgs) : ∃ e, (sendToLoop s stack a).enter = .ret (.inr (.error e)) := by
  unfold sendToLoop Loop.map Socket.sendTo
  by_cases hudp : s.protocol = .udp
  · have hver : s.ipVer = .any := h.resolve_left fun hn => hn hudp
    simp only [hudp, hver, ne_eq, not_true_eq_false, if_false, if_true]
    exact ⟨_, rfl⟩
  · simp only [if_pos hudp]
    exact ⟨_, rfl⟩

/-- The opening of `sendTo`: the resolver is asked, and what the guard frees when it fails is
    whatever the result pointer held before. -/
theorem sendToLoop_enter {s : Socket} (hudp : s.protocol = .udp) (hver : s.ipVer ≠ .any)
    (stack : Ptr) (a : SendToArgs) :
    (sendToLoop s stack a).enter =
      .ask (.getaddrinfo (some (ofCString a.host)) (portStr a.port.toNat)
        { passive := false, family := s.ipVer.family, socktype := .dgram }) fun
        | .error _ => releasing (.inr (.error setAddrError)) stack
        | .ok res => .ret (.inl ⟨res, 0⟩) := by
  have hudp : ¬ s.protocol ≠ .udp := fun h => h hudp
  unfold sendToLoop Loop.map Socket.sendTo
  simp only [if_neg hudp, if_neg hver, Prog.call_bind, Prog.ask_bind]
  refine congrArg (Prog.ask _) (funext ?_)
  intro r
  cases r with
  | error e =>
    simp only [Socket.sendTo.addrInfoReleaser, ReleaseManager.destroy_addVar, Prog.bind_assoc,
      Prog.pure_eq, Prog.ret_bind]
    exact releaseEach_bind stack _
  | ok res => rfl

/-- A round of `sendTo`, once the datagram was handed over. -/
def sendToRound (v : SendToVars) (r : Except Errno Nat) : Sys (SendToVars ⊕ Except JsError Unit) :=
  if intStatus r = -1 then releasing (.inr (.error sendError)) (headPtr v.res)
  else .ret (.inl { v with sentBytes := advance v.sentBytes (intStatus r) })

theorem sendToRound_error (v : SendToVars) (e : Errno) :
    sendToRound v (.error e) = releasing (.inr (.error sendError)) (headPtr v.res) := rfl

theorem sendToRound_ok {limit : MaxTransfer} {n : Nat} (h : n ≤ limit.bytes) (v : SendToVars) :
    sendToRound v (.ok n) = .ret (.inl { v with sentBytes := v.sentBytes + n }) := by
  rw [sendToRound, if_neg (limit.intStatus_ne h), limit.advance_ok h]

/-- A round of `sendTo`: one datagram with all that is left, until nothing is. -/
theorem sendToLoop_body (s : Socket) (stack : Ptr) (a : SendToArgs) (v : SendToVars) :
    (sendToLoop s stack a).body v =
      if v.sentBytes < a.data.length then
        match v.res with
        | [] => .ask .nullDeref nofun
        | info :: _ =>
          .ask (.sendto s.socketHandler (a.data.drop v.sentBytes) info.addr) (sendToRound v)
      else releasing (.inr (.ok ())) (headPtr v.res) := by
  obtain ⟨res, sentBytes⟩ := v
  unfold sendToLoop Loop.map Socket.sendTo
  simp only [Socket.sendTo.addrInfoReleaser, ReleaseManager.destroy_addVar]
  split
  · cases res with
    | nil => exact congrArg (Prog.ask _) (funext fun r => Empty.elim r)
    | cons info rest =>
      simp only [Prog.call_bind, Prog.ask_bind]
      refine congrArg (Prog.ask _) (funext ?_)
      intro r
      simp only [sendToRound]
      split
      · simp only [Prog.bind_assoc, Prog.pure_eq, Prog.ret_bind]
        exact releaseEach_bind _ _
      · rfl
  · simp only [Prog.bind_assoc, Prog.pure_eq, Prog.ret_bind]
    exact releaseEach_bind _ _

end NetLink
