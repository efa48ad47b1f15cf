import Mathlib.Logic.Basic

/-!
# The types every part of the binding shares

`src/netlink/core.h` and `src/netlink/exception.h`, and the two C++ notions the rest is written
in: `std::string`, which is a sequence of bytes with a length and may hold a zero, and the
pointer that may be null.

An `Exception` keeps its code and its message. The native error code of the source is not
modelled: nothing in the binding reads it.
-/

namespace NetLink

/-- A `std::string`. -/
abbrev StdString := List UInt8

/-- The bytes of a string literal. -/
def lit (s : String) : StdString := s.toUTF8.data.toList

/-- A number as `operator<<` prints it. -/
def printed {α : Type} [ToString α] (a : α) : StdString := lit (toString a)

/-- What the C-string constructor `std::string(const char *)` keeps of a zero-terminated
    buffer with this content: everything before the first zero. -/
def ofCString (bytes : StdString) : StdString := bytes.takeWhile (· != 0)

/-- A pointer: null, or the address it holds. -/
abbrev Ptr := Option Nat

/-- `NL::Protocol`. -/
inductive Protocol
  | tcp
  | udp
  deriving DecidableEq, Repr

/-- `NL::IPVer`. -/
inductive IPVer
  | ip4
  | ip6
  | any
  deriving DecidableEq, Repr

/-- `NL::SocketType`. -/
inductive SocketType
  | client
  | server
  deriving DecidableEq, Repr

/-- `NL::Exception::CODE`, in the order of `exception.code.inc`. -/
inductive Code
  | badProtocol
  | badIpVer
  | errorInit
  | errorSetAddrInfo
  | errorGetAddrInfo
  | errorSetSockOpt
  | errorCanNotListen
  | errorConnectSocket
  | errorSend
  | errorRead
  | errorIoctl
  | errorSelect
  | errorAlloc
  | expectedTcpSocket
  | expectedUdpSocket
  | expectedClientSocket
  | expectedServerSocket
  | expectedHostTo
  | outOfRange
  deriving DecidableEq, Repr

/-- The number an enumerator prints as. -/
def Code.toNat (c : Code) : Nat := c.ctorIdx

/-- `NL::Exception`. -/
structure Exception where
  code : Code
  msg : StdString
  deriving DecidableEq, Repr

/-- `DEFAULT_LISTEN_QUEUE` (`config.h`). -/
def defaultListenQueue : Nat := 50

end NetLink
