import NetLink.Model.Wrapper

/-!
# What `NetLinkWrapper::init` exports

The four classes of `src/netlinkwrapper.cc` with the accessors and methods each puts on its
template. The three sockets inherit from the base class, so an object has what its class and the
base class have.

A getter reads the wrapper and nothing else: what it shows is a copy that was made when the
wrapper was. Every accessor but one has the setter that throws.
-/

namespace NetLink

open Interaction

/-- What a getter shows. -/
inductive Shown
  | boolean (b : Bool)
  | number (n : UInt16)
  | text (s : StdString)
  deriving DecidableEq

namespace NetLinkWrapper

/-- The `isIPv4` getter. -/
def isIPv4 (obj : NetLinkWrapper) : Bool := obj.ipVersion = .ip4

/-- The `isIPv6` getter. -/
def isIPv6 (obj : NetLinkWrapper) : Bool := obj.ipVersion = .ip6

/-- What `setter_throw_exception` throws. -/
def setterThrowException (property constructorName : StdString) : JsError where
  cls := .error
  message := lit "Property \"" ++ property ++ lit "\" on " ++ constructorName ++
    lit " instance cannot be set as it is a readonly property."

end NetLinkWrapper

/-- The accessors. -/
inductive Accessor
  | isBlocking
  | isDestroyed
  | isIPv4
  | isIPv6
  | portFrom
  | hostTo
  | portTo
  | hostFrom
  deriving DecidableEq, Repr

namespace Accessor

def name : Accessor → String
  | isBlocking => "isBlocking"
  | isDestroyed => "isDestroyed"
  | isIPv4 => "isIPv4"
  | isIPv6 => "isIPv6"
  | portFrom => "portFrom"
  | hostTo => "hostTo"
  | portTo => "portTo"
  | hostFrom => "hostFrom"

/-- The getters, `getter_is_blocking` to `getter_port_to`. -/
def get (obj : NetLinkWrapper) : Accessor → Shown
  | isBlocking => .boolean obj.isBlocking
  | isDestroyed => .boolean obj.isDestroyed
  | isIPv4 => .boolean obj.isIPv4
  | isIPv6 => .boolean obj.isIPv6
  | portFrom => .number obj.portFrom
  | hostTo => .text obj.hostTo
  | portTo => .number obj.portTo
  | hostFrom => .text obj.hostFrom

/-- The setters: `setter_is_blocking`, and `setter_throw_exception` for the rest. -/
def set (obj : NetLinkWrapper) (constructorName : StdString) (value : JsValue) :
    Accessor → Sys (Except JsError Unit × NetLinkWrapper)
  | isBlocking => obj.setterIsBlocking value
  | accessor =>
    return (.error (NetLinkWrapper.setterThrowException (lit accessor.name) constructorName), obj)

end Accessor

/-- The methods on the prototypes. -/
inductive MethodName
  | disconnect
  | receive
  | send
  | accept
  | receiveFrom
  | sendTo
  deriving DecidableEq, Repr

/-- A class as `init` sets it up. -/
structure ClassTemplate where
  className : String
  accessors : List Accessor
  methods : List MethodName
  deriving DecidableEq

namespace ClassTemplate

/-- `Inherit`: instances also have what the parent puts on its own. -/
def inherit (t parent : ClassTemplate) : ClassTemplate where
  className := t.className
  accessors := parent.accessors ++ t.accessors
  methods := parent.methods ++ t.methods

def base : ClassTemplate where
  className := "SocketBase"
  accessors := [.isBlocking, .isDestroyed, .isIPv4, .isIPv6, .portFrom]
  methods := [.disconnect]

def tcpClient : ClassTemplate :=
  inherit
    { className := "SocketClientTCP"
      accessors := [.hostTo, .portTo]
      methods := [.receive, .send] } base

def tcpServer : ClassTemplate :=
  inherit
    { className := "SocketServerTCP"
      accessors := [.hostFrom]
      methods := [.accept] } base

def udp : ClassTemplate :=
  inherit
    { className := "SocketUDP"
      accessors := [.hostFrom]
      methods := [.receiveFrom, .sendTo] } base

end ClassTemplate

end NetLink
