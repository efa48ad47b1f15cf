import NetLink.Proof.Rounds

/-!
# The three kinds of socket

A `SocketUDP`, a `SocketClientTCP` and a `SocketServerTCP` that is not destroyed, each with the
protocol and type its constructor gives it. The facts are fields, so that a theorem about one
of them has no hypothesis to repeat.

`SocketClass` names the three constructors, so that what holds of all of them is said once:
each reads its arguments and then opens a socket of its own kind (`SocketClass.new_eq`).
-/

namespace NetLink

open Interaction

/-- A resolver's answer for one local address, at the address `self`. -/
def AddrInfo.loopback (self : Nat) : AddrInfo where
  self := self
  family := .inet
  socktype := .dgram
  protocol := 17
  addr := ⟨.inet, lit "127.0.0.1", 9000, by decide⟩

/-- The descriptor a wrapper owns. -/
def NetLinkWrapper.fd? (obj : NetLinkWrapper) : Option Int := obj.socket.map (·.socketHandler)

theorem NetLinkWrapper.fd?_eq {obj : NetLinkWrapper} {s : Socket} (hs : obj.socket = some s) :
    obj.fd? = some s.socketHandler := congrArg (Option.map _) hs

/-- A live wrapper together with the socket it owns. -/
structure Live where
  wrapper : NetLinkWrapper
  socket : Socket
  live : wrapper.socket = some socket

def Live.ofSocket (socket : Socket) : Live := ⟨.ofSocket socket, socket, rfl⟩

theorem Live.receive_eq (l : Live) (abi : Abi) :
    l.wrapper.receive abi = NetLinkWrapper.receiveLoop abi l.socket := by
  unfold NetLinkWrapper.receive
  rw [l.live]

theorem Live.receiveFrom_eq (l : Live) :
    l.wrapper.receiveFrom = NetLinkWrapper.receiveFromLoop l.socket := by
  unfold NetLinkWrapper.receiveFrom
  rw [l.live]

/-- `receive` from the answer to its first call on. -/
theorem Live.receive_returns (l : Live) (abi : Abi) {K : Type} {serve : K → (q : Call) → Option (q.Ret × K)}
    {k k₁ k' : K} {size : Except Errno (BitVec 32)} {o : Except JsError (Option StdString)}
    (h : serve k (.ioctl l.socket.socketHandler) = some (size, k₁)) :
    (l.wrapper.receive abi).Returns (.ofServe serve) k o k' ↔
      (NetLinkWrapper.receiveLoop abi l.socket).ReturnsFrom (.ofServe serve)
        ⟨none, .ret (receiveEntry abi l.socket.blocking size)⟩ k₁ o k' := by
  rw [l.receive_eq, Loop.Returns, Loop.start, receiveLoop_enter]
  exact Loop.returnsFrom_serve h

/-- `receiveFrom` goes straight to its loop. -/
theorem Live.receiveFrom_returns (l : Live) {K : Type} {ker : Kernel Call Call.Ret K} {k k' : K}
    {o : Except JsError (Option NetLinkWrapper.Received)} :
    l.wrapper.receiveFrom.Returns ker k o k' ↔
      (NetLinkWrapper.receiveFromLoop l.socket).ReturnsFrom ker
        ⟨some ⟨[], [], 0⟩, (NetLinkWrapper.receiveFromLoop l.socket).body ⟨[], [], 0⟩⟩ k o k' := by
  rw [l.receiveFrom_eq]
  exact Loop.returnsFrom_again

/-- A `SocketUDP`. The binding opens it with the server constructor. -/
structure SocketUDP extends Live where
  protocol : socket.protocol = .udp
  type : socket.type = .server
  ipVer : socket.ipVer ≠ .any

theorem Live.sendTo_eq (l : Live) (stack : Ptr) (args : List JsValue) :
    l.wrapper.sendTo stack args =
      match (NetLinkWrapper.sendToArgs args).1.rejected with
      | some e => .done (.error e)
      | none => sendToLoop l.socket stack (NetLinkWrapper.sendToArgs args).2 := by
  unfold NetLinkWrapper.sendTo
  rw [l.live]
  rfl

/-- What `new SocketUDP(portFrom)` is when it got the descriptor `fd`. -/
def SocketUDP.on (fd : Int) (portFrom : UInt16) : SocketUDP where
  toLive := .ofSocket
    { hostTo := [], hostFrom := [], portTo := 0, portFrom := portFrom.toNat, protocol := .udp,
      ipVer := .ip4, type := .server, blocking := true, listenQueue := defaultListenQueue,
      socketHandler := fd }
  protocol := rfl
  type := rfl
  ipVer := nofun

/-- A `SocketClientTCP`, constructed or accepted. -/
structure SocketClientTCP extends Live where
  protocol : socket.protocol = .tcp
  type : socket.type = .client

theorem SocketClientTCP.sendTcp_eq (c : SocketClientTCP) (stack : Ptr) (data : StdString) :
    (c.socket.send stack data).map jsResult = sendTcp c.socket data := by
  have hclient : ¬ c.socket.type ≠ .client := fun h => h c.type
  have htcp : c.socket.protocol ≠ .udp := by
    rw [c.protocol]
    nofun
  rw [Socket.send, if_neg hclient, if_neg htcp]
  rfl

theorem SocketClientTCP.send_eq (c : SocketClientTCP) (stack : Ptr) (args : List JsValue) :
    c.wrapper.send stack args =
      match (NetLinkWrapper.sendArgs args).1.rejected with
      | some e => .done (.error e)
      | none => sendTcp c.socket (NetLinkWrapper.sendArgs args).2 := by
  unfold NetLinkWrapper.send
  rw [c.live]
  show (match (NetLinkWrapper.sendArgs args).1.rejected with
    | some e => _
    | none => (c.socket.send stack (NetLinkWrapper.sendArgs args).2).map jsResult) = _
  rw [c.sendTcp_eq]

/-- What `new SocketClientTCP(portTo, "127.0.0.1")` is when it got the descriptor `fd`. -/
def SocketClientTCP.on (fd : Int) (portTo : UInt16) : SocketClientTCP where
  toLive := .ofSocket
    { hostTo := lit "127.0.0.1", hostFrom := [], portTo := portTo.toNat, portFrom := 50000,
      protocol := .tcp, ipVer := .ip4, type := .client, blocking := true, listenQueue := 0,
      socketHandler := fd }
  protocol := rfl
  type := rfl

/-- The same client with `isBlocking` false. -/
def SocketClientTCP.unblocked (c : SocketClientTCP) : SocketClientTCP where
  wrapper := { c.wrapper with socket := some { c.socket with blocking := false }, blocking := false }
  socket := { c.socket with blocking := false }
  live := rfl
  protocol := c.protocol
  type := c.type

structure SocketServerTCP extends Live where
  protocol : socket.protocol = .tcp
  type : socket.type = .server

/-! ## The constructors -/

/-- What an argument is read into satisfies what its old content and all parsed values do. -/
theorem ArgParser.arg_value {T : Type} {P : T → Prop}
    {getValue : T → JsValue → GetValue.SubType → StdString × T} (p : ArgParser) (argName : String)
    {value : T} (subType : GetValue.SubType) (hvalue : P value)
    (hget : ∀ arg, P (getValue value arg subType).2) :
    P (p.arg getValue argName value subType).2 := by
  unfold ArgParser.arg
  simp only
  split
  · exact hvalue
  split
  · split <;> exact hvalue
  split
  · exact hvalue
  split <;> exact hget _

theorem GetValue.getIpVer_ne_any {value : IPVer} (h : value ≠ .any) (arg : JsValue)
    (subType : GetValue.SubType) : (GetValue.getIpVer value arg subType).2 ≠ .any := by
  cases arg with
  | string s =>
    simp only [GetValue.getIpVer]
    split
    · nofun
    split
    · nofun
    · exact h
  | _ => exact h

/-- The classes JavaScript can construct. -/
inductive SocketClass
  | clientTCP
  | serverTCP
  | udp
  deriving DecidableEq, Repr

namespace SocketClass

def protocol : SocketClass → Protocol
  | clientTCP | serverTCP => .tcp
  | udp => .udp

/-- A `SocketUDP` is opened with the server constructor. -/
def type : SocketClass → SocketType
  | clientTCP => .client
  | serverTCP | udp => .server

def name : SocketClass → String
  | clientTCP => "SocketClientTCP"
  | serverTCP => "SocketServerTCP"
  | udp => "SocketUDP"

def new : SocketClass → Bool → List JsValue → Sys (Except JsError NetLinkWrapper)
  | clientTCP => NetLinkWrapper.newTcpClient
  | serverTCP => NetLinkWrapper.newTcpServer
  | udp => NetLinkWrapper.newUdp

/-- What a socket of this class is before `initSocket`. -/
structure Opens (cls : SocketClass) (s : Socket) : Prop where
  protocol : s.protocol = cls.protocol
  type : s.type = cls.type
  ipVer : s.ipVer ≠ .any
  blocking : s.blocking = true

theorem Opens.on {cls : SocketClass} {s : Socket} (h : cls.Opens s) (fd : Int) :
    cls.Opens { s with socketHandler := fd } := ⟨h.protocol, h.type, h.ipVer, h.blocking⟩

theorem Opens.settleIpVer {cls : SocketClass} {s : Socket} (h : cls.Opens s) (res : AddrInfo) :
    s.settleIpVer res = s := if_neg h.ipVer

/-- What a constructor reads from its arguments: the parser after it, and the socket it goes on
    to open. -/
def parse : SocketClass → List JsValue → ArgParser × Socket
  | clientTCP, args =>
    let (p, port) := (ArgParser.new args).arg GetValue.getPort "port" 0 .none
    let (p, host) := p.arg GetValue.getString "host" [] .none
    let (p, ipVer) := p.opt GetValue.getIpVer "ipVersion" .ip4 .none
    (p, { hostTo := host, hostFrom := [], portTo := port.toNat, portFrom := 0, protocol := .tcp,
          ipVer, type := .client, blocking := true, listenQueue := 0, socketHandler := -1 })
  | serverTCP, args =>
    let (p, portFrom) := (ArgParser.new args).arg GetValue.getPort "portFrom" 0 .none
    let (p, hostFrom) := p.opt GetValue.getString "hostFrom" [] .none
    let (p, ipVer) := p.opt GetValue.getIpVer "ipVersion" .ip4 .none
    (p, { hostTo := [], hostFrom, portTo := 0, portFrom := portFrom.toNat, protocol := .tcp, ipVer,
          type := .server, blocking := true, listenQueue := defaultListenQueue, socketHandler := -1 })
  | udp, args =>
    let (p, portFrom) := (ArgParser.new args).opt GetValue.getPort "portFrom" 0 .none
    let (p, hostFrom) := p.opt GetValue.getString "hostFrom" [] .none
    let (p, ipVer) := p.opt GetValue.getIpVer "ipVersion" .ip4 .none
    (p, { hostTo := [], hostFrom, portTo := 0, portFrom := portFrom.toNat, protocol := .udp, ipVer,
          type := .server, blocking := true, listenQueue := defaultListenQueue, socketHandler := -1 })

/-- **A constructor** reads its arguments and opens a socket. -/
theorem new_eq (cls : SocketClass) (isConstructCall : Bool) (args : List JsValue) :
    cls.new isConstructCall args = NetLinkWrapper.construct cls.name isConstructCall
      (cls.parse args).1 (cls.parse args).2.initSocket := by
  cases cls <;> rfl

theorem parse_opens (cls : SocketClass) (args : List JsValue) : cls.Opens (cls.parse args).2 := by
  have hver (p : ArgParser) : (p.opt GetValue.getIpVer "ipVersion" .ip4 .none).2 ≠ .any :=
    ArgParser.arg_value (P := (· ≠ IPVer.any)) _ _ _ (by decide)
      fun arg => GetValue.getIpVer_ne_any (by decide) arg _
  cases cls with
  | clientTCP => exact ⟨rfl, rfl, hver _, rfl⟩
  | serverTCP => exact ⟨rfl, rfl, hver _, rfl⟩
  | udp => exact ⟨rfl, rfl, hver _, rfl⟩

/-- A live object of this class. -/
def IsLive : SocketClass → NetLinkWrapper → Prop
  | clientTCP, w => ∃ c : SocketClientTCP, c.wrapper = w
  | serverTCP, w => ∃ s : SocketServerTCP, s.wrapper = w
  | udp, w => ∃ u : SocketUDP, u.wrapper = w

theorem isLive_iff {cls : SocketClass} {w : NetLinkWrapper} :
    cls.IsLive w ↔ ∃ s, w.socket = some s ∧ s.protocol = cls.protocol ∧ s.type = cls.type ∧
      (cls = .udp → s.ipVer ≠ .any) := by
  cases cls with
  | clientTCP =>
    constructor
    · intro h
      obtain ⟨c, rfl⟩ := h
      exact ⟨c.socket, c.live, c.protocol, c.type, nofun⟩
    · intro h
      obtain ⟨s, hs, hprotocol, htype, -⟩ := h
      exact ⟨⟨⟨w, s, hs⟩, hprotocol, htype⟩, rfl⟩
  | serverTCP =>
    constructor
    · intro h
      obtain ⟨c, rfl⟩ := h
      exact ⟨c.socket, c.live, c.protocol, c.type, nofun⟩
    · intro h
      obtain ⟨s, hs, hprotocol, htype, -⟩ := h
      exact ⟨⟨⟨w, s, hs⟩, hprotocol, htype⟩, rfl⟩
  | udp =>
    constructor
    · intro h
      obtain ⟨u, rfl⟩ := h
      exact ⟨u.socket, u.live, u.protocol, u.type, fun _ => u.ipVer⟩
    · intro h
      obtain ⟨s, hs, hprotocol, htype, hver⟩ := h
      exact ⟨⟨⟨w, s, hs⟩, hprotocol, htype, hver rfl⟩, rfl⟩

end SocketClass

end NetLink
