import NetLink.Model.ReleaseManager

/-!
# `NL::Socket`

`src/netlink/socket.cc`, POSIX build, function by function. A method that only reads the fields
takes the socket; one that writes them also returns it, on every exit, so that a field written
before a throw is seen to be written. A C++ exception is the `error` of an `Except`.

The two loops over a send buffer are `SysLoop`s; the loop over the resolver's candidates ends
with the list and is a structural recursion.
-/

namespace NetLink

open Interaction

/-- The fields of `NL::Socket`. -/
structure Socket where
  hostTo : StdString
  hostFrom : StdString
  portTo : Nat
  portFrom : Nat
  protocol : Protocol
  ipVer : IPVer
  type : SocketType
  blocking : Bool
  listenQueue : Nat
  socketHandler : Int
  deriving DecidableEq

/-! ## The static helpers -/

/-- `getInPort`: `ntohs` of the port field, which is the same one in either family. -/
def getInPort (sa : SockAddr) : Nat := sa.port.toNat

/-- `getLocalPort`. -/
def getLocalPort (socketHandler : Int) : Sys (Except Exception Nat) := do
  match ← Sys.getsockname socketHandler with
  | .ok sin => return .ok (getInPort sin)
  | .error _ =>
    return .error ⟨.errorGetAddrInfo, lit "Socket::(static)getLocalPort: error getting socket info"⟩

/-- `checkReadError`: the exception it throws for this `errno`, if any. -/
def checkReadError (functionName : StdString) (e : Errno) : Except Exception Unit :=
  if e.wouldBlock then .ok ()
  else .error ⟨.errorRead, lit "Socket::" ++ functionName ++ lit ": error detected"⟩

/-- `snprintf(portStr, 10, "%u", port)`. -/
def portStr (port : Nat) : List Char := (Nat.toDigits 10 port).take 9

/-- The `ai_family` asked for. -/
def IPVer.family : IPVer → Family
  | .ip4 => .inet
  | .ip6 => .inet6
  | .any => .unspec

/-- The `ai_socktype` asked for. -/
def Protocol.socktype : Protocol → SockType
  | .tcp => .stream
  | .udp => .dgram

namespace Socket

/-! ## `initSocket` and the constructors -/

/-- The hints `initSocket` passes to the resolver. -/
def conf (s : Socket) : Hints where
  passive := s.type = .server || s.protocol = .udp
  family := s.ipVer.family
  socktype := s.protocol.socktype

/-- The host `initSocket` asks the resolver for, null for any local address. -/
def host (s : Socket) : Option StdString :=
  if s.type = .client ∧ s.protocol = .tcp then some (ofCString s.hostTo)
  else if s.hostFrom = [] ∨ s.hostFrom = lit "*" then none
  else some (ofCString s.hostFrom)

/-- The service `initSocket` asks the resolver for. -/
def service (s : Socket) : List Char :=
  if s.type = .client ∧ s.protocol = .tcp then portStr s.portTo else portStr s.portFrom

/-- `if (… == -1) close(_socketHandler); else connected = true;` -/
def connectedOrClose (fd : Int) : Except Errno Unit → Sys Bool
  | .ok () => return true
  | .error _ => do
    let _ ← Sys.close fd
    return false

/-- The `switch(_type)` of the candidate loop, once `socket()` has given a descriptor: whether
    this candidate is the one. A server goes on to `listen` on the descriptor even when `bind`
    has just failed and the descriptor was closed. -/
def tryAddress (s : Socket) (fd : Int) (res : AddrInfo) : Sys (Except Exception Bool) :=
  match s.type with
  | .client =>
    if s.protocol = .udp then do
      let connected ← connectedOrClose fd (← Sys.bind fd res.addr)
      return .ok connected
    else do
      let connected ← connectedOrClose fd (← Sys.connect fd res.addr)
      return .ok connected
  | .server => do
    match ← Sys.setsockopt fd with
    | .error _ =>
      return .error ⟨.errorSetSockOpt, lit "Socket::initSocket: Error establishing socket options"⟩
    | .ok () =>
      let connected ← connectedOrClose fd (← Sys.bind fd res.addr)
      if s.protocol = .tcp then
        match ← Sys.listen fd s.listenQueue with
        | .error _ =>
          return .error ⟨.errorCanNotListen, lit "Socket::initSocket: could not start listening"⟩
        | .ok () => return .ok connected
      else return .ok connected

/-- `if(connected && _ipVer == ANY)`: the family that was found becomes the socket's version. -/
def settleIpVer (s : Socket) (res : AddrInfo) : Socket :=
  if s.ipVer = .any then
    match res.family with
    | .inet => { s with ipVer := .ip4 }
    | .inet6 => { s with ipVer := .ip6 }
    | .unspec => s
  else s

/-- `while(!connected && res)`: the candidates in order, until one is connected. -/
def candidateLoop : List AddrInfo → Socket → Sys (Except Exception (Bool × Socket))
  | [], s => return .ok (false, s)
  | res :: next, s => do
    match ← Sys.socket res.family res.socktype res.protocol with
    | .error _ => candidateLoop next { s with socketHandler := -1 }
    | .ok fd =>
      let s := { s with socketHandler := fd }
      match ← s.tryAddress fd res with
      | .error e => return .error e
      | .ok true => return .ok (true, s.settleIpVer res)
      | .ok false => candidateLoop next s

/-- What `initSocket` does between registering the list and leaving. -/
def connectFirst (s : Socket) (res : List AddrInfo) : Sys (Except Exception Socket) := do
  match ← candidateLoop res s with
  | .error e => return .error e
  | .ok (false, _) =>
    return .error ⟨.errorConnectSocket, lit "Socket::initSocket: error in socket connection/bind"⟩
  | .ok (true, s) =>
    if s.portFrom = 0 then
      match ← getLocalPort s.socketHandler with
      | .error e => return .error e
      | .ok port => return .ok { s with portFrom := port }
    else return .ok s

/-- `initSocket`. The list pointer is null before the resolver is asked and after it failed;
    the guard is given its value, so that walking down the list does not move it. -/
def initSocket (s : Socket) : Sys (Except Exception Socket) := do
  let status ← Sys.getaddrinfo s.host s.service s.conf
  let res := match status with
    | .ok list => list
    | .error _ => []
  let addrInfoReleaser : ReleaseManager Empty := ReleaseManager.new.addAddress (headPtr res)
  let outcome ← match status with
    | .error text =>
      return .error ⟨.errorSetAddrInfo, lit "Socket::initSocket: Error setting addrInfo: " ++ text⟩
    | .ok _ => s.connectFirst res
  addrInfoReleaser.destroy Sys.freeaddrinfo Empty.elim
  return outcome

/-- The client constructor. The handler is not initialised before `initSocket`; nothing reads
    it there before a candidate has set it. -/
def newClient (hostTo : StdString) (portTo : Nat) (protocol : Protocol) (ipVer : IPVer) :
    Sys (Except Exception Socket) :=
  initSocket
    { hostTo, hostFrom := [], portTo, portFrom := 0, protocol, ipVer, type := .client,
      blocking := true, listenQueue := 0, socketHandler := -1 }

/-- The server constructor. -/
def newServer (portFrom : Nat) (protocol : Protocol) (ipVer : IPVer) (hostFrom : StdString)
    (listenQueue : Nat) : Sys (Except Exception Socket) :=
  initSocket
    { hostTo := [], hostFrom, portTo := 0, portFrom, protocol, ipVer, type := .server,
      blocking := true, listenQueue, socketHandler := -1 }

/-- `~Socket()`. -/
def destructor (s : Socket) : Sys Unit :=
  if s.socketHandler ≠ -1 then do
    let _ ← Sys.close s.socketHandler
    return ()
  else return ()

/-! ## Blocking mode, and accepting -/

/-- `blocking(bool)`: the field is written first, and stays written when the calls fail. When
    `F_GETFL` fails its `-1` is used as the flags. -/
def setBlocking (s : Socket) (blocking : Bool) : Sys (Except Exception Unit × Socket) := do
  let s := { s with blocking }
  let flags := match ← Sys.getfl s.socketHandler with
    | .ok flags => flags
    | .error _ => BitVec.allOnes 32
  let result ←
    if blocking then Sys.setfl s.socketHandler (flags &&& ~~~ oNonblock)
    else Sys.setfl s.socketHandler (flags ||| oNonblock)
  match result with
  | .error _ => return (.error ⟨.errorIoctl, lit "Socket::blocking: ioctl error"⟩, s)
  | .ok () => return (.ok (), s)

/-- `accept()`: null when the kernel has no connection to give, whatever the reason. -/
def accept (s : Socket) : Sys (Except Exception (Option Socket)) :=
  if s.protocol ≠ .tcp then
    return .error ⟨.expectedTcpSocket,
      lit "Socket::accept: non-tcp socket can not accept connections"⟩
  else if s.type ≠ .server then
    return .error ⟨.expectedServerSocket,
      lit "Socket::accept: non-server socket can not accept connections"⟩
  else do
    match ← Sys.accept s.socketHandler with
    | .error _ => return .ok none
    | .ok (newHandler, incomingAddr) =>
      match ← getLocalPort newHandler with
      | .error e => return .error e
      | .ok localPort =>
        let acceptSocket : Socket :=
          { hostTo := incomingAddr.host, hostFrom := [], portTo := getInPort incomingAddr,
            portFrom := localPort, protocol := s.protocol, ipVer := s.ipVer, type := .client,
            blocking := true, listenQueue := 0, socketHandler := newHandler }
        match ← acceptSocket.setBlocking s.blocking with
        | (.error e, _) => return .error e
        | (.ok (), acceptSocket) => return .ok (some acceptSocket)

/-! ## Sending -/

/-- The local variables of the loop in `sendTo`. -/
structure SendToVars where
  res : List AddrInfo
  sentBytes : Nat

/-- `sendTo(buffer, size, hostTo, portTo)`. The result pointer is not initialised: `stack` is
    what the memory it lives in holds before the call. The guard is given the variable, and a
    failed resolver leaves the variable as it was. -/
def sendTo (s : Socket) (stack : Ptr) (buffer hostTo : StdString) (portTo : Nat) :
    SysLoop SendToVars (Except Exception Unit) where
  enter :=
    if s.protocol ≠ .udp then
      return .inr (.error ⟨.expectedUdpSocket,
        lit "Socket::sendTo: non-UDP socket can not 'sendTo'"⟩)
    else if s.ipVer = .any then
      return .inr (.error ⟨.badIpVer, lit "Socket::sendTo: bad ip version."⟩)
    else do
      match ← Sys.getaddrinfo (some (ofCString hostTo)) (portStr portTo)
        { passive := false, family := s.ipVer.family, socktype := .dgram } with
      | .error _ =>
        addrInfoReleaser.destroy Sys.freeaddrinfo fun _ => stack
        return .inr (.error ⟨.errorSetAddrInfo, lit "Socket::sendTo: error setting addr info"⟩)
      | .ok res => return .inl { res, sentBytes := 0 }
  body v :=
    if v.sentBytes < buffer.length then
      match v.res with
      | [] => do nomatch ← Sys.nullDeref
      | info :: _ => do
        let status := intStatus
          (← Sys.sendto s.socketHandler (buffer.drop v.sentBytes) info.addr)
        if status = -1 then
          addrInfoReleaser.destroy Sys.freeaddrinfo fun _ => headPtr v.res
          return .inr (.error ⟨.errorSend, lit "Socket::sendTo: could not send the data"⟩)
        else return .inl { v with sentBytes := advance v.sentBytes status }
    else do
      addrInfoReleaser.destroy Sys.freeaddrinfo fun _ => headPtr v.res
      return .inr (.ok ())
where
  /-- The guard over the one local variable. -/
  addrInfoReleaser : ReleaseManager Unit := ReleaseManager.new.addVar ()

/-- `while (sentData < size)`, the loop of `send` on a TCP socket. -/
def sendLoop (s : Socket) (buffer : StdString) : SysLoop Nat (Except Exception Unit) where
  enter := return .inl 0
  body sentData :=
    if sentData < buffer.length then do
      let status := intStatus (← Sys.send s.socketHandler (buffer.drop sentData))
      if status = -1 then return .inr (.error ⟨.errorSend, lit "Error sending data"⟩)
      else return .inl (advance sentData status)
    else return .inr (.ok ())

/-- `send(buffer, size)`. -/
def send (s : Socket) (stack : Ptr) (buffer : StdString) :
    SysLoop (SendToVars ⊕ Nat) (Except Exception Unit) :=
  if s.type ≠ .client then
    .done (.error ⟨.expectedClientSocket,
      lit "Socket::send: Expected client socket (socket with host and port target)"⟩)
  else if s.protocol = .udp then (s.sendTo stack buffer s.hostTo s.portTo).inl
  else (s.sendLoop buffer).inr

/-! ## Receiving -/

/-- What `read` leaves: its result, and the bytes in the buffer. -/
structure Read where
  status : Int
  buffer : StdString

/-- `read(buffer, bufferSize)`. The count is put into an `int`, which holds it: every caller asks
    for 255 bytes or for a number that is an `int` itself, but for a buffer that has grown past
    that (`SmartBuffer::read`). -/
def read (s : Socket) (bufferSize : Nat) : Sys (Except Exception Read) := do
  match ← Sys.recv s.socketHandler bufferSize with
  | .error e =>
    match checkReadError (lit "read") e with
    | .error err => return .error err
    | .ok () => return .ok ⟨-1, []⟩
  | .ok bytes => return .ok ⟨bytes.length, bytes⟩

/-- What `readFrom` leaves: its result, the bytes in the buffer, and the two out-parameters. -/
structure ReadFrom where
  status : Int
  buffer : StdString
  hostFrom : StdString
  portFrom : Nat

/-- `readFrom(buffer, bufferSize, &hostFrom, &portFrom)`. -/
def readFrom (s : Socket) (bufferSize : Nat) : Sys (Except Exception ReadFrom) :=
  if s.protocol ≠ .udp then
    return .error ⟨.expectedUdpSocket, lit "Socket::readFrom: non-UDP socket can not 'readFrom'"⟩
  else do
    match ← Sys.recvfrom s.socketHandler bufferSize with
    | .error e =>
      match checkReadError (lit "readFrom") e with
      | .error err => return .error err
      | .ok () => return .ok ⟨-1, [], [], 0⟩
    | .ok (bytes, addr) => return .ok ⟨bytes.length, bytes, addr.host, getInPort addr⟩

/-- `disconnect()`: the result of `close` is not looked at. -/
def disconnect (s : Socket) : Sys Socket := do
  let _ ← Sys.close s.socketHandler
  return { s with socketHandler := -1 }

end Socket

/-! ## The size of the next read -/

/-- How the target stores integers: the size of a `long`, at least that of an `int`, and the
    order of its bytes. -/
structure Abi where
  longSize : Nat
  bigEndian : Bool
  int_le_long : 4 ≤ longSize

namespace Abi

/-- A 64-bit target: an 8-byte `long`, least significant byte first. -/
def lp64 : Abi := ⟨8, false, by decide⟩

/-- The `count` low bytes of a number, least significant first. -/
def littleEndian : Nat → Nat → List UInt8
  | 0, _ => []
  | count + 1, n => UInt8.ofNat n :: littleEndian count (n / 256)

/-- The number some bytes stand for, least significant first. -/
def value : List UInt8 → Nat
  | [] => 0
  | b :: bs => b.toNat + 256 * value bs

/-- Between significance order and address order. -/
def inMemory (abi : Abi) (bytes : List UInt8) : List UInt8 :=
  if abi.bigEndian then bytes.reverse else bytes

/-- Store an `int` at the start of some memory. -/
def storeInt (abi : Abi) (n : BitVec 32) (memory : List UInt8) : List UInt8 :=
  abi.inMemory (littleEndian 4 n.toNat) ++ memory.drop 4

/-- The bits of the integer that some memory holds. -/
def load (abi : Abi) (memory : List UInt8) : Nat := value (abi.inMemory memory)

end Abi

/-- `nextReadSize()`: a `long` initialised to `-1`, handed to an `ioctl` that stores an `int`
    at its address, and converted to `int` on return. -/
def Socket.nextReadSize (s : Socket) (abi : Abi) : Sys (Except Exception Int) := do
  let result := List.replicate abi.longSize (255 : UInt8)
  match ← Sys.ioctl s.socketHandler with
  | .error _ => return .error ⟨.errorIoctl, lit "Socket::nextReadSize: error ioctl"⟩
  | .ok n => return .ok (BitVec.ofNat 32 (abi.load (abi.storeInt n result))).toInt

end NetLink
