import NetLink.Lib.Overlay
import NetLink.Proof.Exports
import NetLink.Kernel.Log

/-!
# Which failures reach JavaScript

The socket layer turns some failed calls into exceptions and passes over others: a `close` or an
`F_GETFL` that fails, a read that would block, an `::accept` that fails for whatever reason, an
address that cannot be connected to while there is another one. `Log.failed` says which calls the
source sees fail, `Log.passedOver` names the ones it makes nothing of, and `Log.raised` gives the
exception that each of the others stands for (`Log.raised_isSome`).

The failures that count in the record of a method are what the method throws: there is none when
it returns, and one, the error thrown, when it does not (`failures_reported`). A constructor has
one more reason: that it has come to the end of the resolver's list (`new_failures_reported`).
-/

namespace NetLink

open Interaction NetLinkWrapper
open Socket (SendToVars)

namespace Log

/-- The call failed, as the source sees it: its `int` is -1 or, for the resolver, not 0. -/
def failed : SysEvent → Bool
  | ⟨.socket .., .error _⟩ | ⟨.connect .., .error _⟩ | ⟨.bind .., .error _⟩ | ⟨.listen .., .error _⟩
  | ⟨.setsockopt _, .error _⟩ | ⟨.accept _, .error _⟩ | ⟨.getsockname _, .error _⟩
  | ⟨.close _, .error _⟩ | ⟨.recv .., .error _⟩ | ⟨.recvfrom .., .error _⟩ | ⟨.ioctl _, .error _⟩
  | ⟨.getfl _, .error _⟩ | ⟨.setfl .., .error _⟩ | ⟨.getaddrinfo .., .error _⟩ => true
  | ⟨.send .., r⟩ | ⟨.sendto .., r⟩ => intStatus r = -1
  | _ => false

/-- The failures the source makes no exception of: those of `::accept`, `close` and `F_GETFL`, a
    read that would block, and what makes it go on to the next address. -/
def passedOver : SysEvent → Bool
  | ⟨.accept _, _⟩ | ⟨.close _, _⟩ | ⟨.getfl _, _⟩ => true
  | ⟨.recv .., .error e⟩ | ⟨.recvfrom .., .error e⟩ => e.wouldBlock
  | ⟨.socket .., _⟩ | ⟨.bind .., _⟩ | ⟨.connect .., _⟩ => true
  | _ => false

/-- The exception that a failed call stands for, if it stands for one. `resolver` is how the
    caller of the resolver puts it. -/
def raised (resolver : StdString → Exception) : SysEvent → Option Exception
  | ⟨.getaddrinfo .., .error text⟩ => some (resolver text)
  | ⟨.setsockopt _, .error _⟩ =>
    some ⟨.errorSetSockOpt, lit "Socket::initSocket: Error establishing socket options"⟩
  | ⟨.listen .., .error _⟩ =>
    some ⟨.errorCanNotListen, lit "Socket::initSocket: could not start listening"⟩
  | ⟨.getsockname _, .error _⟩ =>
    some ⟨.errorGetAddrInfo, lit "Socket::(static)getLocalPort: error getting socket info"⟩
  | ⟨.setfl .., .error _⟩ => some ⟨.errorIoctl, lit "Socket::blocking: ioctl error"⟩
  | ⟨.ioctl _, .error _⟩ => some ⟨.errorIoctl, lit "Socket::nextReadSize: error ioctl"⟩
  | ⟨.recv .., .error e⟩ => if e.wouldBlock then none else some (readError "read")
  | ⟨.recvfrom .., .error e⟩ => if e.wouldBlock then none else some (readError "readFrom")
  | ⟨.send .., r⟩ => if intStatus r = -1 then some ⟨.errorSend, lit "Error sending data"⟩ else none
  | ⟨.sendto .., r⟩ =>
    if intStatus r = -1 then some ⟨.errorSend, lit "Socket::sendTo: could not send the data"⟩ else none
  | _ => none

/-- The failure is one that an exception is made of. -/
def counts (event : SysEvent) : Bool := failed event && !passedOver event

/-- **The failures that stand for an exception** are those that are not passed over. -/
theorem raised_isSome (resolver : StdString → Exception) (event : SysEvent) :
    (raised resolver event).isSome = counts event := by
  obtain ⟨q, r⟩ := event
  cases q
  case send =>
    simp only [raised, counts, failed, passedOver]
    split <;> simp [*]
  case sendto =>
    simp only [raised, counts, failed, passedOver]
    split <;> simp [*]
  case recv =>
    cases r with
    | error e => cases he : e.wouldBlock <;> simp [raised, counts, failed, passedOver, he]
    | ok bytes => rfl
  case recvfrom =>
    cases r with
    | error e => cases he : e.wouldBlock <;> simp [raised, counts, failed, passedOver, he]
    | ok x => rfl
  all_goals cases r <;> rfl

/-- The failures in a record, as the errors JavaScript knows. -/
def failures (resolver : StdString → Exception) (log : List SysEvent) : List JsError :=
  log.filterMap fun event => (raised resolver event).map throwJsError

@[simp] theorem failures_append (resolver : StdString → Exception) (a b : List SysEvent) :
    failures resolver (a ++ b) = failures resolver a ++ failures resolver b := List.filterMap_append

/-- The failures in a record are those that count, each as its exception. -/
theorem failures_counted (resolver : StdString → Exception) (log : List SysEvent) :
    ((log.filter counts).map fun event => (raised resolver event).map throwJsError) =
      (failures resolver log).map some := by
  induction log with
  | nil => rfl
  | cons event log ih =>
    have hsome := raised_isSome resolver event
    rw [failures] at ih ⊢
    cases hraised : raised resolver event with
    | none =>
      rw [hraised] at hsome
      rw [List.filter_cons_of_neg (by simp [← hsome]), ih, List.filterMap_cons_none (by simp [hraised])]
    | some e =>
      rw [hraised] at hsome
      rw [List.filter_cons_of_pos (by simp [← hsome]), List.map_cons, ih,
        List.filterMap_cons_some (b := throwJsError e) (by simp [hraised]), hraised]
      rfl

theorem failures_send (resolver : StdString → Exception) (fd : Int) (data : StdString)
    (r : Except Errno Nat) : failures resolver [⟨.send fd data, r⟩] =
      if intStatus r = -1 then [throwJsError ⟨.errorSend, lit "Error sending data"⟩] else [] := by
  by_cases h : intStatus r = -1 <;> simp [failures, raised, h]

theorem failures_sendto (resolver : StdString → Exception) (fd : Int) (data : StdString)
    (addr : SockAddr) (r : Except Errno Nat) : failures resolver [⟨.sendto fd data addr, r⟩] =
      if intStatus r = -1 then
        [throwJsError ⟨.errorSend, lit "Socket::sendTo: could not send the data"⟩]
      else [] := by
  by_cases h : intStatus r = -1 <;> simp [failures, raised, h]

/-- How `sendTo` puts a failure of the resolver. -/
def sendToResolver (_ : StdString) : Exception :=
  ⟨.errorSetAddrInfo, lit "Socket::sendTo: error setting addr info"⟩

/-- How `initSocket` puts it. -/
def initResolver (text : StdString) : Exception :=
  ⟨.errorSetAddrInfo, lit "Socket::initSocket: Error setting addrInfo: " ++ text⟩

end Log

/-- What was thrown. -/
def thrown {α : Type} : Except JsError α → List JsError
  | .ok _ => []
  | .error e => [e]

@[simp] theorem thrown_map {α β : Type} (f : α → β) (r : Except JsError α) :
    thrown (r.map f) = thrown r := by
  cases r <;> rfl

/-- The failures between the two records are what was thrown. -/
def Surfaces {α : Type} (resolver : StdString → Exception) (log : List SysEvent)
    (r : Except JsError α) (log' : List SysEvent) : Prop :=
  Log.failures resolver log' = Log.failures resolver log ++ thrown r

/-- There are no failures between the two records. -/
def Passes (resolver : StdString → Exception) (log log' : List SysEvent) : Prop :=
  Log.failures resolver log' = Log.failures resolver log

section Surfaces

variable {resolver : StdString → Exception} {log log' log'' : List SysEvent} {event : SysEvent}
  {α β : Type} {r : Except JsError α}

theorem Passes.refl (resolver : StdString → Exception) (log : List SysEvent) :
    Passes resolver log log := rfl

theorem Passes.next (h : Passes resolver log log') (hevent : Log.failures resolver [event] = []) :
    Passes resolver log (log' ++ [event]) := by
  rw [Passes, Log.failures_append, h, hevent, List.append_nil]

/-- The last event is the reason for what is thrown. -/
theorem Passes.reports (h : Passes resolver log log')
    (hevent : Log.failures resolver [event] = thrown r) :
    Surfaces resolver log r (log' ++ [event]) := by
  rw [Surfaces, Log.failures_append, h, hevent]

theorem Passes.returns (h : Passes resolver log log') (hr : thrown r = []) :
    Surfaces resolver log r log' := by
  rw [Surfaces, h, hr, List.append_nil]

theorem Passes.trans (h : Passes resolver log log') (h' : Surfaces resolver log' r log'') :
    Surfaces resolver log r log'' := by
  rw [Surfaces, h', h]

theorem Surfaces.passes (h : Surfaces resolver log r log') (hr : thrown r = []) :
    Passes resolver log log' := by
  rw [Surfaces, hr, List.append_nil] at h
  exact h

theorem Surfaces.next (h : Surfaces resolver log r log')
    (hevent : Log.failures resolver [event] = []) : Surfaces resolver log r (log' ++ [event]) := by
  rw [Surfaces, Log.failures_append, h, hevent, List.append_nil]

theorem Surfaces.map (h : Surfaces resolver log r log') (f : α → β) :
    Surfaces resolver log (r.map f) log' := by
  rw [Surfaces, thrown_map]
  exact h

/-- Releasing a list is no failure. -/
theorem wp_releasing_reports {Φ : β → List SysEvent → Prop} {x : β} (p : Ptr)
    (h : ∀ log', Surfaces resolver log r log' → Φ x log')
    (hr : Surfaces resolver log r log') : (releasing x p).wp Log.kernel Φ log' := by
  cases p with
  | none => exact h log' hr
  | some p => exact Log.wp_ask.mpr fun _ => h _ (hr.next rfl)

theorem failures_recv {fd : Int} {cap : Nat} {e : Errno} (he : e.wouldBlock = true) :
    Log.failures resolver [⟨.recv fd cap, .error e⟩] = [] := by
  simp [Log.failures, Log.raised, he]

theorem failures_recv_error {fd : Int} {cap : Nat} {e : Errno} (he : e.wouldBlock = false) :
    Log.failures resolver [⟨.recv fd cap, .error e⟩] = [throwJsError (readError "read")] := by
  simp [Log.failures, Log.raised, he]

theorem failures_recvfrom {fd : Int} {cap : Nat} {e : Errno} (he : e.wouldBlock = true) :
    Log.failures resolver [⟨.recvfrom fd cap, .error e⟩] = [] := by
  simp [Log.failures, Log.raised, he]

theorem failures_recvfrom_error {fd : Int} {cap : Nat} {e : Errno} (he : e.wouldBlock = false) :
    Log.failures resolver [⟨.recvfrom fd cap, .error e⟩] =
      [throwJsError (readError "readFrom")] := by
  simp [Log.failures, Log.raised, he]

end Surfaces

/-! ## The socket layer -/

section Socket

variable (resolver : StdString → Exception) {s : Socket} {log : List SysEvent}

theorem nextReadSize_reports (abi : Abi) :
    (s.nextReadSize abi).wp Log.kernel (fun r => Surfaces resolver log (jsResult r)) log := by
  apply Log.wp_ask.mpr
  intro r
  cases r with
  | error e => exact (Passes.refl ..).reports rfl
  | ok n => exact (Passes.refl ..).reports rfl

theorem read_reports (bufferSize : Nat) :
    (s.read bufferSize).wp Log.kernel (fun r => Surfaces resolver log (jsResult r)) log := by
  unfold Socket.read
  simp only [Prog.call_bind]
  apply Log.wp_ask.mpr
  intro r
  cases r with
  | error e =>
    cases he : e.wouldBlock with
    | true =>
      simp only [checkReadError, he, if_true]
      exact (Passes.refl ..).reports (failures_recv he)
    | false =>
      simp only [checkReadError, he, Bool.false_eq_true, if_false]
      exact (Passes.refl ..).reports (failures_recv_error he)
  | ok bytes => exact (Passes.refl ..).reports rfl

theorem setBlocking_reports (blocking : Bool) :
    (s.setBlocking blocking).wp Log.kernel (fun x => Surfaces resolver log (jsResult x.1)) log := by
  unfold Socket.setBlocking
  apply Log.wp_ask.mpr
  intro r
  -- a `getfl` that fails is passed over
  have hgetfl : Passes resolver log (log ++ [⟨.getfl s.socketHandler, r⟩]) :=
    (Passes.refl ..).next rfl
  cases blocking with
  | true =>
    apply Log.wp_ask.mpr
    intro r'
    cases r' with
    | error e => exact hgetfl.reports rfl
    | ok => exact hgetfl.reports rfl
  | false =>
    apply Log.wp_ask.mpr
    intro r'
    cases r' with
    | error e => exact hgetfl.reports rfl
    | ok => exact hgetfl.reports rfl

end Socket

/-! ## The methods -/

section Methods

variable (resolver : StdString → Exception) {log : List SysEvent}

theorem receive_reports (abi : Abi) (c : SocketClientTCP) :
    (c.wrapper.receive abi).wp Log.kernel (Surfaces resolver log) log := by
  rw [c.receive_eq]
  refine ⟨fun _ => Passes resolver log, ?enter, ?round⟩
  case enter =>
    rw [receiveLoop_enter]
    apply Log.wp_ask.mpr
    intro r
    cases r with
    | error e => exact (Passes.refl ..).reports rfl
    | ok n =>
      have hpasses : Passes resolver log (log ++ [⟨.ioctl c.socket.socketHandler, .ok n⟩]) :=
        (Passes.refl ..).next rfl
      simp only [receiveEntry]
      split
      · exact hpasses.returns rfl
      · exact hpasses
  case round =>
    intro ss log' hlog
    rw [receiveLoop_body]
    apply Log.wp_ask.mpr
    intro r
    cases r with
    | error e =>
      cases he : e.wouldBlock with
      | true =>
        simp only [receiveRound, he, if_true]
        exact hlog.reports (failures_recv he)
      | false =>
        simp only [receiveRound, he]
        exact hlog.reports (failures_recv_error he)
    | ok bytes =>
      simp only [receiveRound]
      split
      · exact hlog.next rfl
      · exact hlog.reports rfl

theorem receiveFrom_reports (u : SocketUDP) :
    u.wrapper.receiveFrom.wp Log.kernel (Surfaces resolver log) log := by
  rw [u.receiveFrom_eq]
  refine ⟨fun _ => Passes resolver log, Passes.refl .., ?_⟩
  intro v log' hlog
  rw [receiveFromLoop_body u.protocol]
  apply Log.wp_ask.mpr
  intro r
  cases r with
  | error e =>
    cases he : e.wouldBlock with
    | true =>
      simp only [receiveFromRound, he, if_true]
      exact hlog.reports (failures_recvfrom he)
    | false =>
      simp only [receiveFromRound, he]
      exact hlog.reports (failures_recvfrom_error he)
  | ok x =>
    simp only [receiveFromRound]
    split
    · exact hlog.next rfl
    · exact hlog.reports rfl

theorem sendTcp_reports (s : Socket) (data : StdString) :
    (sendTcp s data).wp Log.kernel (Surfaces resolver log) log := by
  refine ⟨fun v log' => (∃ n, v = .inr n) ∧ Passes resolver log log',
    ⟨⟨0, rfl⟩, Passes.refl ..⟩, ?_⟩
  rintro _ log' ⟨⟨sentData, rfl⟩, hlog⟩
  rw [sendTcp_body]
  split
  · apply Log.wp_ask.mpr
    intro r
    have hsend := Log.failures_send resolver s.socketHandler (data.drop sentData) r
    simp only [sendRound]
    split
    · rename_i h
      exact hlog.reports (hsend.trans (if_pos h))
    · rename_i h
      exact ⟨⟨_, rfl⟩, hlog.next (hsend.trans (if_neg h))⟩
  · exact hlog.returns rfl

theorem sendTo_reports (u : SocketUDP) (stack : Ptr) (a : SendToArgs) :
    (sendToLoop u.socket stack a).wp Log.kernel (Surfaces Log.sendToResolver log) log := by
  refine ⟨fun _ => Passes Log.sendToResolver log, ?enter, ?round⟩
  case enter =>
    rw [sendToLoop_enter u.protocol u.ipVer]
    apply Log.wp_ask.mpr
    intro r
    cases r with
    | error text =>
      exact wp_releasing_reports stack (fun _ h => h)
        ((Passes.refl ..).reports (r := (.error setAddrError : Except JsError Unit)) rfl)
    | ok res => exact (Passes.refl ..).next rfl
  case round =>
    intro v log' hlog
    rw [sendToLoop_body]
    split
    · cases v.res with
      | nil => exact Log.wp_ask.mpr fun r => Empty.elim r
      | cons info rest =>
        apply Log.wp_ask.mpr
        intro r
        have hsend := Log.failures_sendto Log.sendToResolver u.socket.socketHandler
          (a.data.drop v.sentBytes) info.addr r
        unfold sendToRound
        split
        · rename_i h
          exact wp_releasing_reports (headPtr v.res) (fun _ h => h)
            (hlog.reports (r := (.error sendError : Except JsError Unit)) (hsend.trans (if_pos h)))
        · rename_i h
          exact hlog.next (hsend.trans (if_neg h))
    · exact wp_releasing_reports (headPtr v.res) (fun _ h => h)
        (hlog.returns (r := (.ok () : Except JsError Unit)) rfl)

theorem accept_reports (l : SocketServerTCP) :
    l.wrapper.accept.wp Log.kernel (Surfaces resolver log) log := by
  have hserver : ¬ l.socket.type ≠ .server := fun h => h l.type
  have htcp : ¬ l.socket.protocol ≠ .tcp := fun h => h l.protocol
  unfold NetLinkWrapper.accept Socket.accept
  rw [l.live]
  simp only [if_neg hserver, if_neg htcp]
  apply Log.wp_ask.mpr
  intro r
  cases r with
  | error e => exact (Passes.refl ..).reports rfl
  | ok x =>
    obtain ⟨fd, addr⟩ := x
    have haccept : Passes resolver log (log ++ [⟨.accept l.socket.socketHandler, .ok (fd, addr)⟩]) :=
      (Passes.refl ..).next rfl
    apply Log.wp_ask.mpr
    intro r
    cases r with
    | error e => exact haccept.reports rfl
    | ok sin =>
      let a : Socket := ⟨addr.host, [], getInPort addr, getInPort sin, l.socket.protocol,
        l.socket.ipVer, .client, true, 0, fd⟩
      apply Prog.wp_bind.mpr
      show (a.setBlocking l.socket.blocking >>= _).wp _ _ _
      refine Prog.wp_bind.mpr ((setBlocking_reports resolver l.socket.blocking).mono ?_)
      rintro ⟨o, a'⟩ log' h
      have hall := Passes.trans (haccept.next rfl) h
      cases o with
      | error e => exact hall
      | ok => exact (hall.passes rfl).returns rfl

theorem drain_reports (abi : Abi) (s : Socket) :
    (drain abi s).wp Log.kernel (fun r => Surfaces resolver log (jsResult r)) log := by
  unfold drain
  split
  · refine Prog.wp_bind.mpr ((nextReadSize_reports resolver abi).mono ?_)
    intro r log' h
    cases r with
    | error e => exact h
    | ok n =>
      simp only
      split
      · split
        · exact Log.wp_ask.mpr fun r => Empty.elim r
        · refine Prog.wp_bind.mpr ((read_reports resolver _).mono ?_)
          intro r' log'' h'
          have hall := (h.passes rfl).trans h'
          cases r' with
          | error e => exact hall
          | ok x => exact (hall.passes rfl).returns rfl
      · exact (h.passes rfl).returns rfl
  · exact (Passes.refl ..).returns rfl

theorem disconnect_reports (abi : Abi) (l : Live) :
    (l.wrapper.disconnect abi).wp Log.kernel (fun x => Surfaces resolver log x.1) log := by
  unfold NetLinkWrapper.disconnect
  rw [l.live]
  refine Prog.wp_bind.mpr ((drain_reports resolver abi l.socket).mono ?_)
  intro r log' h
  cases r with
  | error e => exact h
  | ok =>
    simp only
    rw [disconnect_destructor]
    -- whether the `close` fails makes no difference
    exact Log.wp_ask.mpr fun r => (h.passes rfl).reports rfl

theorem setterIsBlocking_reports (l : Live) (blocking : Bool) :
    (l.wrapper.setterIsBlocking (.boolean blocking)).wp Log.kernel
      (fun x => Surfaces resolver log x.1) log := by
  unfold setterIsBlocking
  rw [l.live]
  refine Prog.wp_bind.mpr ((setBlocking_reports resolver blocking).mono ?_)
  rintro ⟨o, s⟩ log' h
  cases o with
  | error e => exact h
  | ok => exact h

/-- What a method throws for its arguments alone. -/
def Method.rejected : Method → Option JsError
  | send _ args => (sendArgs args).1.rejected
  | sendTo _ args => (sendToArgs args).1.rejected
  | setIsBlocking (.boolean _) => none
  | setIsBlocking _ =>
    some ⟨.error, lit "Value to set \"isBlocking\" to must be a boolean."⟩
  | _ => none

/-- Arguments that are rejected are rejected at once. -/
theorem run_rejected (abi : Abi) {m : Method} {e : JsError} (he : m.rejected = some e)
    (w : NetLinkWrapper) : (m.run abi w).enter = .ret (.inr ⟨.error e, some w, none⟩) := by
  cases m with
  | send stack args =>
    have hargs : (sendArgs args).1.rejected = some e := he
    simp only [Method.run, Loop.map, NetLinkWrapper.send, hargs]
    rfl
  | sendTo stack args =>
    have hargs : (sendToArgs args).1.rejected = some e := he
    simp only [Method.run, Loop.map, NetLinkWrapper.sendTo, hargs]
    rfl
  | setIsBlocking value =>
    cases value with
    | boolean b => cases he
    | _ =>
      cases he
      rfl
  | _ => cases he

/-- **A method** of an object that has it throws what its failures stand for. -/
theorem run_reports (abi : Abi) {cls : SocketClass} {w : NetLinkWrapper} (hw : cls.IsLive w)
    {m : Method} (hm : cls.Offers m) (hargs : m.rejected = none) :
    (m.run abi w).wp Log.kernel (fun out => Surfaces Log.sendToResolver log out.result) log := by
  obtain ⟨s, hs, -⟩ := SocketClass.isLive_iff.mp hw
  cases m with
  | accept =>
    cases cls with
    | serverTCP =>
      obtain ⟨l, rfl⟩ := hw
      exact Loop.wp_ofProg (Prog.wp_bind.mpr ((accept_reports _ l).mono fun _ _ h => h.map _))
    | _ => exact absurd (hm _ rfl) (by decide)
  | receive =>
    cases cls with
    | clientTCP =>
      obtain ⟨c, rfl⟩ := hw
      exact Loop.wp_map ((receive_reports _ abi c).mono fun _ _ h => h.map _)
    | _ => exact absurd (hm _ rfl) (by decide)
  | send stack args =>
    cases cls with
    | clientTCP =>
      obtain ⟨c, rfl⟩ := hw
      have hargs : (sendArgs args).1.rejected = none := hargs
      refine Loop.wp_map ?_
      rw [c.send_eq, hargs]
      exact sendTcp_reports _ c.socket _
    | _ => exact absurd (hm _ rfl) (by decide)
  | receiveFrom =>
    cases cls with
    | udp =>
      obtain ⟨u, rfl⟩ := hw
      exact Loop.wp_map ((receiveFrom_reports _ u).mono fun _ _ h => h.map _)
    | _ => exact absurd (hm _ rfl) (by decide)
  | sendTo stack args =>
    cases cls with
    | udp =>
      obtain ⟨u, rfl⟩ := hw
      have hargs : (sendToArgs args).1.rejected = none := hargs
      refine Loop.wp_map ?_
      rw [u.sendTo_eq, hargs]
      exact sendTo_reports u stack _
    | _ => exact absurd (hm _ rfl) (by decide)
  | setIsBlocking value =>
    cases value with
    | boolean b =>
      exact Loop.wp_ofProg (Prog.wp_bind.mpr (setterIsBlocking_reports _ ⟨w, s, hs⟩ b))
    | _ => cases hargs
  | disconnect => exact Loop.wp_ofProg (Prog.wp_bind.mpr (disconnect_reports _ abi ⟨w, s, hs⟩))
  | finalise =>
    refine Loop.wp_ofProg (Prog.wp_bind.mpr ?_)
    unfold NetLinkWrapper.destructor
    rw [hs]
    exact Log.wp_ask.mpr fun r => (Passes.refl ..).reports rfl

end Methods

/-! ## The constructors -/

namespace Log

/-- The addresses a resolver gave. -/
def candidates (log : List SysEvent) : List AddrInfo :=
  log.flatMap fun
    | ⟨.getaddrinfo .., .ok list⟩ => list
    | _ => []

/-- How many addresses could not be used. -/
def unusable (log : List SysEvent) : Nat :=
  log.countP fun
    | ⟨.socket .., .error _⟩ | ⟨.bind .., .error _⟩ | ⟨.connect .., .error _⟩ => true
    | _ => false

@[simp] theorem candidates_append (a b : List SysEvent) :
    candidates (a ++ b) = candidates a ++ candidates b := List.flatMap_append

@[simp] theorem unusable_append (a b : List SysEvent) :
    unusable (a ++ b) = unusable a + unusable b := List.countP_append

/-- What a constructor throws when there is no address left. -/
def connectError : JsError :=
  throwJsError ⟨.errorConnectSocket, lit "Socket::initSocket: error in socket connection/bind"⟩

/-- What the record of a constructor comes to: the failures in it or, when there are none and no
    address could be used, that one. -/
def verdict (log : List SysEvent) : List JsError :=
  if failures initResolver log = [] ∧ unusable log = (candidates log).length then [connectError]
  else failures initResolver log

end Log

/-- A part of a constructor that asks no resolver reports its failures, and `n` addresses could
    not be used in it. -/
structure Stretch {α : Type} (log : List SysEvent) (r : Except JsError α) (n : Nat)
    (log' : List SysEvent) : Prop where
  reports : Surfaces Log.initResolver log r log'
  unusable : Log.unusable log' = Log.unusable log + n
  candidates : Log.candidates log' = Log.candidates log

section Constructors

variable {cls : SocketClass} {s : Socket} {fd : Int} {log log' log'' : List SysEvent}
  {event : SysEvent} {α β : Type} {r : Except JsError α} {n m : Nat}

theorem Stretch.refl (a : α) (log : List SysEvent) :
    Stretch log (.ok a : Except JsError α) 0 log :=
  ⟨(Passes.refl ..).returns rfl, rfl, rfl⟩

theorem Stretch.trans (h : Stretch log r n log') (hr : thrown r = []) {r' : Except JsError β}
    (h' : Stretch log' r' m log'') : Stretch log r' (n + m) log'' where
  reports := (h.reports.passes hr).trans h'.reports
  unusable := by rw [h'.unusable, h.unusable, Nat.add_assoc]
  candidates := h'.candidates.trans h.candidates

theorem Stretch.once (hr : Log.failures Log.initResolver [event] = thrown r)
    (hn : Log.unusable [event] = n) (hcandidates : Log.candidates [event] = []) :
    Stretch log r n (log ++ [event]) where
  reports := (Passes.refl ..).reports hr
  unusable := by rw [Log.unusable_append, hn]
  candidates := by rw [Log.candidates_append, hcandidates, List.append_nil]

/-- How trying an address ends: it is the one, or it is one more that could not be used. -/
def TriesOne (log : List SysEvent) : Except Exception Bool → List SysEvent → Prop
  | .ok connected, log' => Stretch log (.ok () : Except JsError Unit) (cond connected 0 1) log'
  | .error e, log' => ∃ n, Stretch log (.error (throwJsError e) : Except JsError Unit) n log'

theorem connectedOrClose_tried {r : Except Errno Unit} {event : SysEvent}
    (hfailures : Log.failures Log.initResolver [event] = [])
    (hunusable : Log.unusable [event] = match r with | .ok _ => 0 | .error _ => 1)
    (hcandidates : Log.candidates [event] = []) :
    (Socket.connectedOrClose fd r).wp Log.kernel (fun connected => TriesOne log (.ok connected))
      (log ++ [event]) := by
  cases r with
  | ok => exact Stretch.once hfailures hunusable hcandidates
  | error e =>
    refine Log.wp_ask.mpr fun r => ?_
    have hclose : Stretch (log ++ [event]) (.ok () : Except JsError Unit) 0
        (log ++ [event] ++ [⟨.close fd, r⟩]) := .once rfl rfl rfl
    exact (Stretch.once (r := (.ok () : Except JsError Unit)) hfailures hunusable
      hcandidates).trans rfl hclose

theorem tryAddress_tried (s : Socket) (fd : Int) (res : AddrInfo) :
    (s.tryAddress fd res).wp Log.kernel (TriesOne log) log := by
  unfold Socket.tryAddress
  cases s.type with
  | client =>
    simp only
    split
    · apply Log.wp_ask.mpr
      intro r
      show (Socket.connectedOrClose fd r >>= _).wp _ _ _
      refine Prog.wp_bind.mpr (connectedOrClose_tried ?_ ?_ ?_) <;> cases r <;> rfl
    · apply Log.wp_ask.mpr
      intro r
      show (Socket.connectedOrClose fd r >>= _).wp _ _ _
      refine Prog.wp_bind.mpr (connectedOrClose_tried ?_ ?_ ?_) <;> cases r <;> rfl
  | server =>
    apply Log.wp_ask.mpr
    intro r
    cases r with
    | error e => exact ⟨0, .once rfl rfl rfl⟩
    | ok =>
      have hoptions : Stretch log (.ok () : Except JsError Unit) 0
          (log ++ [⟨.setsockopt fd, .ok ()⟩]) := .once rfl rfl rfl
      apply Log.wp_ask.mpr
      intro r
      show (Socket.connectedOrClose fd r >>= _).wp _ _ _
      refine Prog.wp_bind.mpr (Prog.wp.mono (connectedOrClose_tried ?_ ?_ ?_) ?_)
      · cases r <;> rfl
      · cases r <;> rfl
      · cases r <;> rfl
      · intro connected log' h
        have htried : Stretch log (.ok () : Except JsError Unit) (0 + cond connected 0 1) log' :=
          hoptions.trans rfl h
        rw [Nat.zero_add] at htried
        split
        · apply Log.wp_ask.mpr
          intro r
          cases r with
          | error e => exact ⟨_, htried.trans rfl (.once rfl rfl rfl)⟩
          | ok =>
            have hlisten : Stretch log' (.ok () : Except JsError Unit) 0
                (log' ++ [⟨.listen fd s.listenQueue, .ok ()⟩]) := .once rfl rfl rfl
            exact htried.trans rfl hlisten
        · exact htried

/-- How a search through the resolver's list ends: with an address that comes before its end, at
    its end, or in the middle with an exception. -/
def Searched (log : List SysEvent) (list : List AddrInfo) :
    Except Exception (Bool × Socket) → List SysEvent → Prop
  | .ok (true, _), log' => ∃ n < list.length, Stretch log (.ok () : Except JsError Unit) n log'
  | .ok (false, _), log' => Stretch log (.ok () : Except JsError Unit) list.length log'
  | .error e, log' => ∃ n, Stretch log (.error (throwJsError e) : Except JsError Unit) n log'

/-- One more address that could not be used. -/
theorem Searched.cons {res : AddrInfo} {next : List AddrInfo}
    {o : Except Exception (Bool × Socket)}
    (h : Stretch log (.ok () : Except JsError Unit) 1 log') (h' : Searched log' next o log'') :
    Searched log (res :: next) o log'' := by
  rcases o with e | ⟨_ | _, s⟩
  · obtain ⟨n, h'⟩ := h'
    exact ⟨_, h.trans rfl h'⟩
  · have hall := h.trans rfl h'
    rw [Nat.add_comm] at hall
    exact hall
  · obtain ⟨n, hn, h'⟩ := h'
    exact ⟨1 + n, by rw [List.length_cons]; omega, h.trans rfl h'⟩

theorem candidateLoop_searched (list : List AddrInfo) (s : Socket) :
    (Socket.candidateLoop list s).wp Log.kernel (Searched log list) log := by
  induction list generalizing s log with
  | nil => exact .refl () log
  | cons res next ih =>
    apply Log.wp_ask.mpr
    intro r
    cases r with
    | error e => exact (ih _).mono fun o log' h => .cons (.once rfl rfl rfl) h
    | ok fd =>
      have hsocket : Stretch log (.ok () : Except JsError Unit) 0
          (log ++ [⟨.socket res.family res.socktype res.protocol, .ok fd⟩]) := .once rfl rfl rfl
      show (Socket.tryAddress { s with socketHandler := fd } fd res >>= _).wp _ _ _
      refine Prog.wp_bind.mpr ((tryAddress_tried _ fd res).mono ?_)
      intro o log' h
      rcases o with e | _ | _
      · obtain ⟨n, h⟩ := h
        exact ⟨_, hsocket.trans rfl h⟩
      · exact (ih _).mono fun o log'' h' => .cons (hsocket.trans rfl h) h'
      · exact ⟨0 + 0, Nat.zero_lt_succ _, hsocket.trans rfl h⟩

/-- What a constructor throws is what its calls come to. -/
def Settles {α : Type} (log : List SysEvent) (r : Except JsError α) (log' : List SysEvent) : Prop :=
  ∃ xs n list, Log.failures Log.initResolver log' = Log.failures Log.initResolver log ++ xs ∧
    Log.unusable log' = Log.unusable log + n ∧
    Log.candidates log' = Log.candidates log ++ list ∧
    thrown r = if xs = [] ∧ n = list.length then [Log.connectError] else xs

theorem connectFirst_settles (list : List AddrInfo) (s : Socket)
    (hlog : Log.failures Log.initResolver log' = Log.failures Log.initResolver log)
    (hunusable : Log.unusable log' = Log.unusable log)
    (hcandidates : Log.candidates log' = Log.candidates log ++ list) :
    (s.connectFirst list).wp Log.kernel (fun o => Settles log (jsResult o)) log' := by
  have hsettles {α : Type} {r : Except JsError Unit} {r' : Except JsError α} {n : Nat}
      {log'' : List SysEvent} (h : Stretch log' r n log'')
      (hr : thrown r' = if thrown r = [] ∧ n = list.length then [Log.connectError] else thrown r) :
      Settles log r' log'' := by
    refine ⟨thrown r, n, list, ?_, ?_, h.candidates.trans hcandidates, hr⟩
    · rw [← hlog]
      exact h.reports
    · rw [← hunusable]
      exact h.unusable
  refine Prog.wp_bind.mpr ((candidateLoop_searched list s).mono ?_)
  intro o log'' h
  rcases o with e | ⟨_ | _, s'⟩
  · obtain ⟨n, h⟩ := h
    exact hsettles h (if_neg (by simp [thrown])).symm
  · exact hsettles h (if_pos ⟨rfl, rfl⟩).symm
  · obtain ⟨n, hn, h⟩ := h
    simp only
    split
    · apply Log.wp_ask.mpr
      intro r
      cases r with
      | error e =>
        have hname : Stretch log'' (.error (throwJsError ⟨.errorGetAddrInfo, _⟩) : Except JsError Unit) 0
            (log'' ++ [⟨.getsockname s'.socketHandler, .error e⟩]) := .once rfl rfl rfl
        exact hsettles (h.trans rfl hname) (if_neg (by simp [thrown])).symm
      | ok sin =>
        have hname : Stretch log'' (.ok () : Except JsError Unit) 0
            (log'' ++ [⟨.getsockname s'.socketHandler, .ok sin⟩]) := .once rfl rfl rfl
        exact hsettles (h.trans rfl hname) (if_neg fun h => Nat.ne_of_lt hn h.2).symm
    · exact hsettles h (if_neg fun h => Nat.ne_of_lt hn h.2).symm

theorem Settles.next {r : Except JsError α} (h : Settles log r log')
    (hfailures : Log.failures Log.initResolver [event] = []) (hunusable : Log.unusable [event] = 0)
    (hcandidates : Log.candidates [event] = []) : Settles log r (log' ++ [event]) := by
  obtain ⟨xs, n, list, hxs, hn, hlist, hr⟩ := h
  refine ⟨xs, n, list, ?_, ?_, ?_, hr⟩
  · rw [Log.failures_append, hfailures, List.append_nil, hxs]
  · rw [Log.unusable_append, hunusable, Nat.add_zero, hn]
  · rw [Log.candidates_append, hcandidates, List.append_nil, hlist]

theorem initSocket_settles (s : Socket) :
    s.initSocket.wp Log.kernel (fun o => Settles log (jsResult o)) log := by
  rw [initSocket_eq]
  apply Log.wp_ask.mpr
  intro r
  cases r with
  | error text =>
    refine ⟨[throwJsError (Log.initResolver text)], 0, [], ?_, ?_, ?_, rfl⟩
    · rw [Log.failures_append]
      rfl
    · rw [Log.unusable_append]
      rfl
    · rw [Log.candidates_append]
      rfl
  | ok list =>
    have hfirst : (s.connectFirst list).wp Log.kernel (fun o => Settles log (jsResult o))
        (log ++ [⟨.getaddrinfo s.host s.service s.conf, .ok list⟩]) := by
      refine connectFirst_settles list s ?_ ?_ ?_
      · rw [Log.failures_append]
        exact List.append_nil _
      · rw [Log.unusable_append]
        rfl
      · rw [Log.candidates_append]
        exact congrArg _ (List.append_nil list)
    refine Prog.wp_bind.mpr (hfirst.mono ?_)
    intro o log' h
    cases headPtr list with
    | none => exact h
    | some p => exact Log.wp_ask.mpr fun _ => h.next rfl rfl rfl

/-- Why a constructor does not get to make a call. -/
def SocketClass.refusal (cls : SocketClass) (isConstructCall : Bool) (args : List JsValue) :
    Option JsError :=
  if !isConstructCall then some (notConstructCall cls.name) else (cls.parse args).1.rejected

theorem new_refused {isConstructCall : Bool} {args : List JsValue} {e : JsError}
    (h : cls.refusal isConstructCall args = some e) :
    cls.new isConstructCall args = .ret (.error e) := by
  rw [SocketClass.refusal] at h
  rw [cls.new_eq]
  unfold construct
  split
  · rename_i hcall
    rw [if_pos hcall] at h
    cases h
    rfl
  · rename_i hcall
    rw [if_neg hcall] at h
    rw [h]
    rfl

/-- **A constructor** that gets to make calls throws what they come to. -/
theorem new_settles (cls : SocketClass) {isConstructCall : Bool} {args : List JsValue}
    (h : cls.refusal isConstructCall args = none) :
    (cls.new isConstructCall args).wp Log.kernel (Settles log) log := by
  rw [SocketClass.refusal] at h
  rw [cls.new_eq]
  unfold construct
  split
  · rename_i hcall
    rw [if_pos hcall] at h
    cases h
  · rename_i hcall
    rw [if_neg hcall] at h
    rw [h]
    refine Prog.wp_bind.mpr ((initSocket_settles (cls.parse args).2).mono ?_)
    intro o log' hsettles
    cases o <;> exact hsettles

end Constructors

/-! ## Whole runs -/

/-- The kernel with a descriptor table keeps the record. -/
theorem Os.plain_refines_log : Os.plain.Refines Os.log Log.kernel where
  allowed _ := fun _ _ => trivial
  answers h := by
    obtain ⟨-, mode, rfl⟩ := h
    rfl

/-- What a call of a method comes to: its arguments are rejected and it makes no call, or the
    failures that count in its record are, as exceptions, what it throws. -/
def Method.Accounts (m : Method) (k : Os) (out : Outcome) (k' : Os) : Prop :=
  match m.rejected with
  | some e => out.result = .error e ∧ k' = k
  | none => ∃ events, k'.log = k.log ++ events ∧
      ((events.filter Log.counts).map fun event =>
        (Log.raised Log.sendToResolver event).map throwJsError) = (thrown out.result).map some

theorem run_accounts {abi : Abi} {cls : SocketClass} {w : NetLinkWrapper} (hw : cls.IsLive w)
    {m : Method} (hm : cls.Offers m) {k k' : Os} {out : Outcome}
    (hret : (m.run abi w).Returns Os.plain k out k') : m.Accounts k out k' := by
  unfold Method.Accounts
  cases hargs : m.rejected with
  | some e =>
    have hwp : (m.run abi w).wp Os.plain (fun out k' => out.result = .error e ∧ k' = k) k :=
      Loop.wp_leaves (run_rejected abi hargs w) ⟨rfl, rfl⟩
    exact hwp.returns hret
  | none =>
    have hlog := hret.below Os.plain_refines_log
    obtain ⟨events, hevents⟩ := Os.log_of_returns hret
    refine ⟨events, hevents.symm, ?_⟩
    have h : Surfaces Log.sendToResolver k.log out.result k'.log :=
      (run_reports abi hw hm hargs).returns hlog
    rw [Surfaces, ← hevents, Log.failures_append] at h
    rw [Log.failures_counted, List.append_cancel_left h]

/-- **The failures that count are what is thrown.** In every state a process can get to, an object
    that is not destroyed is of a class, and whatever method of its class is called on it throws
    one error for the one failure that counts, or returns and there was none. -/
theorem Process.failures_reported {abi : Abi} {p : Process} (h : Reachable abi p) {i : Nat}
    {w : NetLinkWrapper} (hi : p.At i w) (hlive : w.isDestroyed = false) :
    ∃ cls : SocketClass, cls.IsLive w ∧ ∀ m out os, cls.Offers m →
      (m.run abi w).Returns Os.plain p.os out os → m.Accounts p.os out os := by
  have hsocket : w.socket ≠ none := by
    intro hnone
    rw [isDestroyed, hnone] at hlive
    cases hlive
  obtain ⟨cls, hw⟩ := h.isLive hi hsocket
  exact ⟨cls, hw, fun m out os hm hret => run_accounts hw hm hret⟩

theorem Process.failures_reported_one_socket :
    ∃ cls : SocketClass, cls.IsLive (SocketUDP.on 3 9000).wrapper ∧ ∀ m out os, cls.Offers m →
      (m.run .lp64 (SocketUDP.on 3 9000).wrapper).Returns Os.plain oneSocketOs out os →
      m.Accounts oneSocketOs out os :=
  @failures_reported .lp64 oneSocket (oneSocket_reachable .lp64) 0 _ rfl rfl

/-- **What a constructor throws.** It is refused before it makes a call, or it throws what the
    failures in its record stand for; and when there are none it throws if and only if none of
    the resolver's addresses could be used. -/
theorem new_failures_reported {cls : SocketClass} {isConstructCall : Bool} {args : List JsValue}
    {k k' : Os} {r : Except JsError NetLinkWrapper}
    (h : (cls.new isConstructCall args).Runs Os.plain k r k') :
    match cls.refusal isConstructCall args with
    | some e => r = .error e ∧ k' = k
    | none => ∃ events, k'.log = k.log ++ events ∧ thrown r = Log.verdict events := by
  cases hrefusal : cls.refusal isConstructCall args with
  | some e =>
    rw [new_refused hrefusal] at h
    obtain ⟨rfl, rfl⟩ := h
    exact ⟨rfl, rfl⟩
  | none =>
    have hlog := h.below Os.plain_refines_log
    have hwp : (cls.new isConstructCall args).wp Log.kernel (Settles k.log) k.log :=
      new_settles cls hrefusal
    obtain ⟨events, hevents⟩ := Os.log_of_runs h
    refine ⟨events, hevents.symm, ?_⟩
    obtain ⟨xs, n, list, hxs, hn, hlist, hr⟩ := hwp.runs hlog
    rw [← hevents, Log.failures_append] at hxs
    rw [← hevents, Log.unusable_append] at hn
    rw [← hevents, Log.candidates_append] at hlist
    rw [hr, Log.verdict, List.append_cancel_left hxs, List.append_cancel_left hlist,
      Nat.add_left_cancel hn]

/-- The first of two addresses cannot be bound to, and `new SocketUDP()` takes the second. -/
theorem new_failures_reported_second :
    let start : Os := ⟨∅, fun _ => false, []⟩
    ∃ w k, (SocketClass.udp.new true []).Runs Os.plain start (.ok w) k ∧
      Log.unusable k.log = 1 ∧ (Log.candidates k.log).length = 2 ∧
      ∃ events, k.log = [] ++ events ∧
        thrown (.ok w : Except JsError NetLinkWrapper) = Log.verdict events := by
  intro start
  let a := AddrInfo.loopback 7
  let k₁ := start.next false (.getaddrinfo none (portStr 0) ⟨true, .inet, .dgram⟩) (.ok [a, a])
  let k₂ := k₁.next false (.socket .inet .dgram 17) (.ok 3)
  let k₃ := k₂.next false (.setsockopt 3) (.ok ())
  let k₄ := k₃.next false (.bind 3 a.addr) (.error (.other 98))
  let k₅ := k₄.next false (.close 3) (.ok ())
  let k₆ := k₅.next false (.socket .inet .dgram 17) (.ok 3)
  let k₇ := k₆.next false (.setsockopt 3) (.ok ())
  let k₈ := k₇.next false (.bind 3 a.addr) (.ok ())
  let k₉ := k₈.next false (.getsockname 3) (.ok a.addr)
  let k := k₉.next false (.freeaddrinfo 7) ()
  have hrun : (SocketClass.udp.new true []).Runs Os.plain start
      (.ok (SocketUDP.on 3 9000).wrapper) k := by
    refine ⟨.ok [a, a], k₁, ⟨⟨nofun, nofun⟩, false, rfl⟩, ?_⟩
    refine ⟨.ok 3, k₂, ⟨⟨nofun, ?_⟩, false, rfl⟩, ?_⟩
    · rintro _ ⟨⟩
      exact ⟨by decide, by decide⟩
    refine ⟨.ok (), k₃, ⟨Os.possible_of_open rfl (by decide) nofun nofun, false, rfl⟩, ?_⟩
    refine ⟨.error (.other 98), k₄, ⟨Os.possible_of_open rfl (by decide) nofun nofun, false, rfl⟩, ?_⟩
    refine ⟨.ok (), k₅, ⟨Os.possible_of_open rfl (by decide) nofun nofun, false, rfl⟩, ?_⟩
    refine ⟨.ok 3, k₆, ⟨⟨nofun, ?_⟩, false, rfl⟩, ?_⟩
    · rintro _ ⟨⟩
      exact ⟨by decide, by decide⟩
    refine ⟨.ok (), k₇, ⟨Os.possible_of_open rfl (by decide) nofun nofun, false, rfl⟩, ?_⟩
    refine ⟨.ok (), k₈, ⟨Os.possible_of_open rfl (by decide) nofun nofun, false, rfl⟩, ?_⟩
    refine ⟨.ok a.addr, k₉, ⟨Os.possible_of_open rfl (by decide) nofun nofun, false, rfl⟩, ?_⟩
    exact ⟨(), k, ⟨⟨nofun, nofun⟩, false, rfl⟩, rfl, rfl⟩
  exact ⟨_, k, hrun, rfl, rfl, new_failures_reported hrun⟩

end NetLink
