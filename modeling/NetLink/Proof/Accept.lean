import NetLink.Proof.Kinds
import NetLink.Kernel.Accepting

/-!
# What `accept` reports

`accept` is to say one of three things: here is a connection, there is none to accept, or an
error. The read path looks at `errno` to tell the last two apart. `Socket::accept` does not look:
every failure becomes a null pointer, and the wrapper makes `undefined` of it. `reports_iff` says
that this is the whole difference.
-/

namespace NetLink

open Interaction NetLinkWrapper

/-- The socket of a connection that the listener `s` has accepted. -/
def Socket.connection (s : Socket) (fd : Int) (peer localAddr : SockAddr) : Socket where
  hostTo := peer.host
  hostFrom := []
  portTo := getInPort peer
  portFrom := getInPort localAddr
  protocol := s.protocol
  ipVer := s.ipVer
  type := .client
  blocking := s.blocking
  listenQueue := 0
  socketHandler := fd

/-- What `accept()` returns on a listener `s`. -/
def accepted (s : Socket) (o : Accepting) : Except JsError (Option NetLinkWrapper) :=
  match o.accept with
  | .error _ => .ok none
  | .ok (fd, peer) =>
    match o.getsockname with
    | .error _ =>
      .error (throwJsError
        ⟨.errorGetAddrInfo, lit "Socket::(static)getLocalPort: error getting socket info"⟩)
    | .ok localAddr =>
      match o.setfl with
      | .error _ => .error (throwJsError ⟨.errorIoctl, lit "Socket::blocking: ioctl error"⟩)
      | .ok () => .ok (some (.ofSocket (s.connection fd peer localAddr)))

/-- On a connection, setting the mode comes to what the last of its two calls answers. The flags
    it could not read are taken for `-1`. -/
theorem setBlocking_runs {o : Accepting} {conn : Socket} {peer : SockAddr}
    (hconn : o.accept = .ok (conn.socketHandler, peer)) (listener : Int) (blocking : Bool) :
    (conn.setBlocking blocking).Runs (o.kernel listener) ()
      (match o.setfl with
        | .error _ => .error ⟨.errorIoctl, lit "Socket::blocking: ioctl error"⟩
        | .ok () => .ok (), { conn with blocking }) () := by
  have hsetfl (flags : BitVec 32) :
      o.serve listener () (.setfl conn.socketHandler flags) = some (o.setfl, ()) :=
    Accepting.about_connection hconn o.setfl
  refine ⟨o.getfl, (), Accepting.about_connection hconn o.getfl, ?_⟩
  cases blocking with
  | true =>
    refine ⟨o.setfl, (), hsetfl _, ?_⟩
    cases o.setfl <;> exact ⟨rfl, rfl⟩
  | false =>
    refine ⟨o.setfl, (), hsetfl _, ?_⟩
    cases o.setfl <;> exact ⟨rfl, rfl⟩

/-- A listener's `accept()` comes to `accepted`. -/
theorem accept_runs (s : SocketServerTCP) (o : Accepting) :
    s.wrapper.accept.Runs (o.kernel s.socket.socketHandler) () (accepted s.socket o) () := by
  have htcp : ¬ s.socket.protocol ≠ .tcp := fun h => h s.protocol
  have hserver : ¬ s.socket.type ≠ .server := fun h => h s.type
  unfold NetLinkWrapper.accept
  rw [s.live]
  simp only [Socket.accept, if_neg htcp, if_neg hserver, Prog.call_bind, Prog.ask_bind]
  refine ⟨o.accept, (), if_pos rfl, ?_⟩
  unfold accepted
  cases hconn : o.accept with
  | error e => exact ⟨rfl, rfl⟩
  | ok conn =>
    obtain ⟨fd, peer⟩ := conn
    refine ⟨o.getsockname, (), Accepting.about_connection hconn o.getsockname, ?_⟩
    cases o.getsockname with
    | error e => exact ⟨rfl, rfl⟩
    | ok localAddr =>
      let conn : Socket := { s.socket.connection fd peer localAddr with blocking := true }
      show Prog.Runs _ ((conn.setBlocking s.socket.blocking >>= _) >>= _) () _ ()
      rw [Prog.bind_assoc]
      refine Prog.runs_bind.mpr ⟨_, (), setBlocking_runs hconn _ _, ?_⟩
      cases o.setfl <;> exact ⟨rfl, rfl⟩

/-- What `accept()` is to make of the answers it gets, on a listener `s`. -/
structure Reported (s : Socket) (o : Accepting) (r : Except JsError (Option NetLinkWrapper)) :
    Prop where
  connection : ∀ fd peer localAddr flags, o.accept = .ok (fd, peer) →
    o.getsockname = .ok localAddr → o.getfl = .ok flags → o.setfl = .ok () →
    ∃ c : SocketClientTCP, r = .ok (some c.wrapper) ∧ c.socket.socketHandler = fd ∧
      c.wrapper.hostTo = peer.host ∧ c.wrapper.portTo = peer.port ∧
      c.wrapper.portFrom = localAddr.port ∧ c.wrapper.ipVersion = s.ipVer
  nothing : r = .ok none ↔ ∃ e, o.accept = .error e ∧ e.wouldBlock = true
  /-- The kernel does not tell a blocking socket that it would block. -/
  blocking : s.blocking = true → (∀ e, o.accept = .error e → e.wouldBlock = false) → r ≠ .ok none
  thrown : ∀ e, o.accept = .error e → e.wouldBlock = false → ∃ err, r = .error err
  /-- There is a connection, but it has no local address or its mode cannot be set. -/
  unusable : ∀ conn, o.accept = .ok conn →
    (∃ e, o.getsockname = .error e) ∨ (∃ e, o.setfl = .error e) → ∃ err, r = .error err

/-- `accept()` comes back, in one way only, and reports what the kernel said. -/
def Reports (s : SocketServerTCP) (o : Accepting) : Prop :=
  ∃ r, (∀ r' k, s.wrapper.accept.Runs (o.kernel s.socket.socketHandler) () r' k ↔ r' = r) ∧
    Reported s.socket o r

theorem reports_of_reported {s : SocketServerTCP} {o : Accepting}
    (h : Reported s.socket o (accepted s.socket o)) : Reports s o := by
  refine ⟨accepted s.socket o, fun r k => ⟨fun hrun => ?_, ?_⟩, h⟩
  · exact (hrun.unique (Kernel.ofServe_functional _) (accept_runs s o)).1
  · rintro rfl
    exact accept_runs s o

theorem accepted_failure {s : Socket} {o : Accepting} {e : Errno} (h : o.accept = .error e) :
    accepted s o = .ok none := by
  unfold accepted
  rw [h]

theorem accepted_connection {s : Socket} {o : Accepting} {fd : Int} {peer : SockAddr}
    (h : o.accept = .ok (fd, peer)) : accepted s o ≠ .ok none := by
  unfold accepted
  rw [h]
  cases o.getsockname with
  | error e => nofun
  | ok localAddr => cases o.setfl <;> nofun

theorem accepted_unusable {s : Socket} {o : Accepting} {conn : Int × SockAddr}
    (h : o.accept = .ok conn)
    (hfails : (∃ e, o.getsockname = .error e) ∨ (∃ e, o.setfl = .error e)) :
    ∃ err, accepted s o = .error err := by
  unfold accepted
  rw [h]
  rcases hfails with ⟨e, he⟩ | ⟨e, he⟩
  · rw [he]
    exact ⟨_, rfl⟩
  · rw [he]
    cases o.getsockname <;> exact ⟨_, rfl⟩

/-- **`accept` reports what the kernel said** exactly when that was not a failure other than
    would-block. -/
theorem reports_iff (s : SocketServerTCP) (o : Accepting) :
    Reports s o ↔ ∀ e, o.accept = .error e → e.wouldBlock = true := by
  constructor
  · intro h e he
    obtain ⟨r, hruns, hreported⟩ := h
    have hr := (hruns _ _).mp (accept_runs s o)
    rw [accepted_failure he] at hr
    obtain ⟨e', he', hblock⟩ := hreported.nothing.mp hr.symm
    rw [he] at he'
    cases he'
    exact hblock
  · intro h
    refine reports_of_reported ⟨?_, ?_, ?_, ?_, fun conn => accepted_unusable⟩
    · intro fd peer localAddr flags haccept hsockname _ hsetfl
      let conn := s.socket.connection fd peer localAddr
      refine ⟨⟨.ofSocket conn, s.protocol, rfl⟩, ?_, rfl, rfl, ?_, ?_, rfl⟩
      · simp only [accepted, haccept, hsockname, hsetfl]
        rfl
      · exact UInt16.ofNat_toNat
      · exact UInt16.ofNat_toNat
    · constructor
      · intro hnone
        cases haccept : o.accept with
        | error e => exact ⟨e, rfl, h e haccept⟩
        | ok conn => exact absurd hnone (accepted_connection haccept)
      · intro hfails
        obtain ⟨e, he, -⟩ := hfails
        exact accepted_failure he
    · intro _ hnever
      cases haccept : o.accept with
      | error e =>
        have := hnever e haccept
        rw [h e haccept] at this
        cases this
      | ok conn => exact accepted_connection haccept
    · intro e he hblock
      rw [h e he] at hblock
      cases hblock

/-- A blocking listener of a process that has no descriptor left (`EMFILE`): `accept()` says that
    there is nothing to accept. -/
theorem accept_hides_failure :
    let c : SocketServerTCP := ⟨.ofSocket
      { hostTo := [], hostFrom := [], portTo := 0, portFrom := 8000, protocol := .tcp, ipVer := .ip4,
        type := .server, blocking := true, listenQueue := defaultListenQueue, socketHandler := 3 },
      rfl, rfl⟩
    let o : Accepting := ⟨.error (.other 24), .error .ebadf, .error .ebadf, .error .ebadf⟩
    c.wrapper.accept.Runs (o.kernel 3) () (.ok none) () ∧ ¬ Reports c o := by
  intro c o
  have hrun : c.wrapper.accept.Runs (o.kernel 3) () (.ok none) () := accept_runs c o
  refine ⟨hrun, ?_⟩
  intro h
  obtain ⟨r, hruns, hreported⟩ := h
  have hr : (.ok none : Except JsError (Option NetLinkWrapper)) = r := (hruns _ _).mp hrun
  exact hreported.blocking rfl (by rintro e ⟨⟩; rfl) hr.symm

end NetLink
