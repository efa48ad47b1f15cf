import NetLink.Model.Socket
import NetLink.Model.ArgParser

/-!
# `NetLinkWrapper`

`src/netlinkwrapper.cc`: the objects JavaScript holds. A wrapper owns its `NL::Socket` until it
is disconnected, which is what the option in `socket` is; the other fields are the copies its
getters read.

A method that returns to JavaScript does so with `Except JsError`. `receive` and `receiveFrom`
answer `none` for `undefined`. Methods that change the wrapper return it, on every exit. The
static `set_blocking` is bound to no property and is left out.
-/

namespace NetLink

open Interaction GetValue

/-- The fields of `NetLinkWrapper`. A null `socket` is `none`. -/
structure NetLinkWrapper where
  socket : Option Socket
  blocking : Bool
  ipVersion : IPVer
  portFrom : UInt16
  hostFrom : StdString
  portTo : UInt16
  hostTo : StdString
  deriving DecidableEq

/-- `READ_SIZE`. -/
def readSize : Nat := 255

/-- `throw_js_error`. -/
def throwJsError (err : Exception) : JsError where
  cls := .error
  message := lit "[NetLinkSocket Error " ++ printed err.code.toNat ++ lit "]: " ++ err.msg

/-- `catch (NL::Exception &err) { throw_js_error(err); return; }` -/
def jsResult {α : Type} : Except Exception α → Except JsError α := Except.mapError throwJsError

namespace NetLinkWrapper

/-- `NetLinkWrapper(NL::Socket *)`. -/
def ofSocket (socket : Socket) : NetLinkWrapper where
  socket := some socket
  blocking := socket.blocking
  ipVersion := socket.ipVer
  portFrom := UInt16.ofNat socket.portFrom
  hostFrom := socket.hostFrom
  portTo := UInt16.ofNat socket.portTo
  hostTo := socket.hostTo

/-- `~NetLinkWrapper()`, which the garbage collector runs. -/
def destructor (obj : NetLinkWrapper) : Sys Unit :=
  match obj.socket with
  | none => return ()
  | some socket => do
    let socket ← socket.disconnect
    socket.destructor

/-- What `throw_if_destroyed` throws. -/
def destroyedError : JsError :=
  ⟨.error, lit "Cannot use NetLinkSocket that has already been destroyed."⟩

/-- The `isDestroyed` getter. -/
def isDestroyed (obj : NetLinkWrapper) : Bool := obj.socket.isNone

/-- The `isBlocking` getter. -/
def isBlocking (obj : NetLinkWrapper) : Bool := obj.blocking

/-! ## Constructors -/

/-- The error of a constructor called without `new`. -/
def notConstructCall (className : String) : JsError :=
  ⟨.error, lit className ++ lit " constructor must be invoked via 'new'."⟩

/-- What the three constructors have in common: refuse a plain call and invalid arguments, then
    open the socket and wrap it. -/
def construct (className : String) (isConstructCall : Bool) (p : ArgParser)
    (newSocket : Sys (Except Exception Socket)) : Sys (Except JsError NetLinkWrapper) :=
  if !isConstructCall then return .error (notConstructCall className)
  else
    match p.rejected with
    | some e => return .error e
    | none => do
      let socket ← newSocket
      return jsResult (socket.map ofSocket)

/-- `new_tcp_client`. -/
def newTcpClient (isConstructCall : Bool) (args : List JsValue) :
    Sys (Except JsError NetLinkWrapper) :=
  let (p, port) := (ArgParser.new args).arg getPort "port" 0 .none
  let (p, host) := p.arg getString "host" [] .none
  let (p, ipVersion) := p.opt getIpVer "ipVersion" .ip4 .none
  construct "SocketClientTCP" isConstructCall p (Socket.newClient host port.toNat .tcp ipVersion)

/-- `new_udp`. -/
def newUdp (isConstructCall : Bool) (args : List JsValue) : Sys (Except JsError NetLinkWrapper) :=
  let (p, portFrom) := (ArgParser.new args).opt getPort "portFrom" 0 .none
  let (p, hostFrom) := p.opt getString "hostFrom" [] .none
  let (p, ipVersion) := p.opt getIpVer "ipVersion" .ip4 .none
  construct "SocketUDP" isConstructCall p
    (Socket.newServer portFrom.toNat .udp ipVersion hostFrom defaultListenQueue)

/-- `new_tcp_server`. -/
def newTcpServer (isConstructCall : Bool) (args : List JsValue) :
    Sys (Except JsError NetLinkWrapper) :=
  let (p, portFrom) := (ArgParser.new args).arg getPort "portFrom" 0 .none
  let (p, hostFrom) := p.opt getString "hostFrom" [] .none
  let (p, ipVersion) := p.opt getIpVer "ipVersion" .ip4 .none
  construct "SocketServerTCP" isConstructCall p
    (Socket.newServer portFrom.toNat .tcp ipVersion hostFrom defaultListenQueue)

/-! ## Methods -/

/-- `accept()`. -/
def accept (obj : NetLinkWrapper) : Sys (Except JsError (Option NetLinkWrapper)) :=
  match obj.socket with
  | none => return .error destroyedError
  | some socket => do
    let accepted ← socket.accept
    return jsResult (accepted.map (Option.map ofSocket))

/-- The drain of `disconnect`: a TCP client reads away what is pending, into a buffer that has one
    byte more. For the largest `int` there is no such number, and no such buffer. -/
def drain (abi : Abi) (socket : Socket) : Sys (Except Exception Unit) :=
  if socket.protocol = .tcp ∧ socket.type = .client then do
    match ← socket.nextReadSize abi with
    | .error err => return .error err
    | .ok size =>
      if 0 < size then
        if size = 2147483647 then nomatch ← Sys.badAlloc
        else
          match ← socket.read size.toNat with
          | .error err => return .error err
          | .ok _ => return .ok ()
      else return .ok ()
  else return .ok ()

/-- `disconnect()`. -/
def disconnect (abi : Abi) (obj : NetLinkWrapper) : Sys (Except JsError Unit × NetLinkWrapper) :=
  match obj.socket with
  | none => return (.error destroyedError, obj)
  | some socket => do
    match ← drain abi socket with
    | .error err => return (.error (throwJsError err), obj)
    | .ok () =>
      let socket ← socket.disconnect
      socket.destructor
      return (.ok (), { obj with socket := none })

/-- The loop of `receive`. Its variable is what `ss` holds. -/
def receiveLoop (abi : Abi) (socket : Socket) :
    SysLoop StdString (Except JsError (Option StdString)) where
  enter := do
    match ← socket.nextReadSize abi with
    | .error err => return .inr (.error (throwJsError err))
    | .ok nextReadSize =>
      if nextReadSize < 1 ∧ socket.blocking = false then return .inr (.ok none)
      else return .inl []
  body ss := do
    match ← socket.read readSize with
    | .error err => return .inr (.error (throwJsError err))
    | .ok ⟨bufferRead, buffer⟩ =>
      let ss := if 0 < bufferRead then ss ++ buffer.take bufferRead.toNat else ss
      if bufferRead ≠ readSize then
        return .inr (.ok (if 0 < ss.length then some ss else none))
      else return .inl ss

/-- `receive()`. -/
def receive (abi : Abi) (obj : NetLinkWrapper) :
    SysLoop StdString (Except JsError (Option StdString)) :=
  match obj.socket with
  | none => .done (.error destroyedError)
  | some socket => receiveLoop abi socket

/-- The object `receiveFrom` returns. -/
structure Received where
  host : StdString
  port : Nat
  data : StdString
  deriving DecidableEq

/-- The local variables of the loop of `receive_from`. -/
structure ReceiveFromVars where
  read : StdString
  hostFrom : StdString
  portFrom : Nat

/-- The loop of `receive_from`. -/
def receiveFromLoop (socket : Socket) :
    SysLoop ReceiveFromVars (Except JsError (Option Received)) where
  enter := return .inl ⟨[], [], 0⟩
  body v := do
    match ← socket.readFrom readSize with
    | .error err => return .inr (.error (throwJsError err))
    | .ok ⟨bufferRead, buffer, hostFrom, portFrom⟩ =>
      let read := if 0 < bufferRead then v.read ++ buffer.take bufferRead.toNat else v.read
      if bufferRead ≠ readSize then
        if 0 < hostFrom.length ∨ portFrom ≠ 0 ∨ 0 < read.length then
          return .inr (.ok (some ⟨hostFrom, portFrom, read⟩))
        else return .inr (.ok none)
      else return .inl ⟨read, hostFrom, portFrom⟩

/-- `receive_from()`. -/
def receiveFrom (obj : NetLinkWrapper) :
    SysLoop ReceiveFromVars (Except JsError (Option Received)) :=
  match obj.socket with
  | none => .done (.error destroyedError)
  | some socket => receiveFromLoop socket

/-- The argument of `send`: the parser, and what `data` holds after it. -/
def sendArgs (args : List JsValue) : ArgParser × StdString :=
  (ArgParser.new args).arg getString "data" [] .sendableData

/-- `send(data)`. `stack` is what `NL::Socket::sendTo` finds in its result pointer. -/
def send (stack : Ptr) (obj : NetLinkWrapper) (args : List JsValue) :
    SysLoop (Socket.SendToVars ⊕ Nat) (Except JsError Unit) :=
  let (p, data) := sendArgs args
  match p.rejected with
  | some e => .done (.error e)
  | none =>
    match obj.socket with
    | none => .done (.error destroyedError)
    | some socket => (socket.send stack data).map jsResult

/-- The arguments of `sendTo`. -/
structure SendToArgs where
  host : StdString
  port : UInt16
  data : StdString

/-- The parser of `send_to`, and what its variables hold after it. -/
def sendToArgs (args : List JsValue) : ArgParser × SendToArgs :=
  let (p, host) := (ArgParser.new args).arg getString "host" [] .none
  let (p, port) := p.arg getPort "port" 0 .none
  let (p, data) := p.arg getString "data" [] .sendableData
  (p, ⟨host, port, data⟩)

/-- `send_to(host, port, data)`. -/
def sendTo (stack : Ptr) (obj : NetLinkWrapper) (args : List JsValue) :
    SysLoop Socket.SendToVars (Except JsError Unit) :=
  let (p, a) := sendToArgs args
  match p.rejected with
  | some e => .done (.error e)
  | none =>
    match obj.socket with
    | none => .done (.error destroyedError)
    | some socket => (socket.sendTo stack a.data a.host a.port.toNat).map jsResult

/-- `setter_is_blocking`, with the wrapper as the assignment leaves it. -/
def setterIsBlocking (obj : NetLinkWrapper) :
    JsValue → Sys (Except JsError Unit × NetLinkWrapper)
  | .boolean blocking =>
    match obj.socket with
    | none => return (.error destroyedError, obj)
    | some socket => do
      match ← socket.setBlocking blocking with
      | (.error err, socket) =>
        return (.error (throwJsError err), { obj with socket := some socket })
      | (.ok (), socket) => return (.ok (), { obj with socket := some socket, blocking })
  | _ => return (.error ⟨.error, lit "Value to set \"isBlocking\" to must be a boolean."⟩, obj)

end NetLinkWrapper

end NetLink
