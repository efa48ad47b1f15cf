import NetLink.Lib.Loop
import NetLink.Model.Core

/-!
# The system calls the binding makes

One constructor of `Call` per libc function of the POSIX build, with the arguments the source
passes, and `Call.Ret`, what comes back. A call that can fail answers in `Except Errno`: the
source sees `-1` and, where it looks, `errno`. What a kernel does with a call is not said here
but in `Kernel/`.

Three things are carried in a different form than in C.

* A buffer argument of `recv` and `recvfrom` is its capacity, and the bytes placed in it are
  part of the answer; the returned count is their number.
* `send` and `sendto` answer the number of bytes taken, as a `ssize_t` holds it. What the source
  makes of it by keeping it in an `int` is `intStatus`. A kernel that says how much a call moves
  is given a `MaxTransfer`.
* A resolver list is the Lean list of its nodes. Each node knows its own address, so that the
  pointer to the list is the address of its head.
-/

namespace NetLink

open Interaction

/-- The `errno` values the binding tells apart, and all others. -/
inductive Errno
  | eagain
  | ewouldblock
  | ebadf
  | other (code : Nat)
  deriving DecidableEq, Repr

/-- `errno == EAGAIN || errno == EWOULDBLOCK`. -/
def Errno.wouldBlock (e : Errno) : Bool := e = .eagain || e = .ewouldblock

/-- `sa_family`. -/
inductive Family
  | inet
  | inet6
  | unspec
  deriving DecidableEq, Repr

/-- `ai_socktype`. -/
inductive SockType
  | stream
  | dgram
  deriving DecidableEq, Repr

/-- A socket address: its family, the numeric text `inet_ntop` prints for it, which is never
    empty, and its port. -/
structure SockAddr where
  family : Family
  host : StdString
  port : UInt16
  host_ne : host ≠ []
  deriving DecidableEq

/-- The fields of `struct addrinfo` a request sets. -/
structure Hints where
  passive : Bool
  family : Family
  socktype : SockType
  deriving DecidableEq, Repr

/-- A node of a resolver list, with the address it lives at. -/
structure AddrInfo where
  self : Nat
  family : Family
  socktype : SockType
  protocol : Int
  addr : SockAddr
  deriving DecidableEq

/-- The pointer to a resolver list: the address of its head, null when it is empty. -/
def headPtr (list : List AddrInfo) : Ptr := list.head?.map AddrInfo.self

/-- `O_NONBLOCK`. -/
def oNonblock : BitVec 32 := 2048#32

/-- The calls. Two are no calls of the source, and the program does not come back from them:
    `nullDeref` is what a read through a null pointer does, and `badAlloc` is what `new` does when
    it is asked for more than any object has, which is throw a `std::bad_alloc` that nothing
    catches. -/
inductive Call
  | socket (family : Family) (socktype : SockType) (protocol : Int)
  | connect (fd : Int) (addr : SockAddr)
  | bind (fd : Int) (addr : SockAddr)
  | listen (fd : Int) (backlog : Nat)
  | setsockopt (fd : Int)
  | accept (fd : Int)
  | getsockname (fd : Int)
  | close (fd : Int)
  | send (fd : Int) (data : StdString)
  | recv (fd : Int) (cap : Nat)
  | sendto (fd : Int) (data : StdString) (addr : SockAddr)
  | recvfrom (fd : Int) (cap : Nat)
  | ioctl (fd : Int)
  | getfl (fd : Int)
  | setfl (fd : Int) (flags : BitVec 32)
  | getaddrinfo (host : Option StdString) (service : List Char) (hints : Hints)
  | freeaddrinfo (addr : Nat)
  | nullDeref
  | badAlloc

namespace Call

/-- What a call answers. A failed `getaddrinfo` answers the text `gai_strerror` has for its
    status; `ioctl(FIONREAD)` answers the `int` it stores. -/
abbrev Ret : Call → Type
  | socket .. => Except Errno Int
  | connect .. => Except Errno Unit
  | bind .. => Except Errno Unit
  | listen .. => Except Errno Unit
  | setsockopt .. => Except Errno Unit
  | accept .. => Except Errno (Int × SockAddr)
  | getsockname .. => Except Errno SockAddr
  | close .. => Except Errno Unit
  | send .. => Except Errno Nat
  | recv .. => Except Errno StdString
  | sendto .. => Except Errno Nat
  | recvfrom .. => Except Errno (StdString × SockAddr)
  | ioctl .. => Except Errno (BitVec 32)
  | getfl .. => Except Errno (BitVec 32)
  | setfl .. => Except Errno Unit
  | getaddrinfo .. => Except StdString (List AddrInfo)
  | freeaddrinfo .. => Unit
  | nullDeref | badAlloc => Empty

/-- The descriptor a call is about. -/
def fd? : Call → Option Int
  | connect fd _ | bind fd _ | listen fd _ | setsockopt fd | accept fd | getsockname fd
  | close fd | send fd _ | recv fd _ | sendto fd _ _ | recvfrom fd _ | ioctl fd | getfl fd
  | setfl fd _ => some fd
  | socket .. | getaddrinfo .. | freeaddrinfo .. | nullDeref | badAlloc => none

end Call

/-- Code that makes system calls. -/
abbrev Sys := Prog Call Call.Ret

/-- Code that makes system calls in a loop. -/
abbrev SysLoop := Loop Call Call.Ret

/-- Where a loop of system calls can be. -/
abbrev SysConfig := Config Call Call.Ret

/-- A system call and its answer. -/
abbrev SysEvent := Event Call Call.Ret

/-! ## One call as code, under its C name -/

namespace Sys

abbrev socket (family : Family) (socktype : SockType) (protocol : Int) : Sys (Except Errno Int) :=
  Prog.call (Call.socket family socktype protocol)
abbrev connect (fd : Int) (addr : SockAddr) : Sys (Except Errno Unit) := Prog.call (Call.connect fd addr)
abbrev bind (fd : Int) (addr : SockAddr) : Sys (Except Errno Unit) := Prog.call (Call.bind fd addr)
abbrev listen (fd : Int) (backlog : Nat) : Sys (Except Errno Unit) := Prog.call (Call.listen fd backlog)
abbrev setsockopt (fd : Int) : Sys (Except Errno Unit) := Prog.call (Call.setsockopt fd)
abbrev accept (fd : Int) : Sys (Except Errno (Int × SockAddr)) := Prog.call (Call.accept fd)
abbrev getsockname (fd : Int) : Sys (Except Errno SockAddr) := Prog.call (Call.getsockname fd)
abbrev close (fd : Int) : Sys (Except Errno Unit) := Prog.call (Call.close fd)
abbrev send (fd : Int) (data : StdString) : Sys (Except Errno Nat) := Prog.call (Call.send fd data)
abbrev recv (fd : Int) (cap : Nat) : Sys (Except Errno StdString) := Prog.call (Call.recv fd cap)
abbrev sendto (fd : Int) (data : StdString) (addr : SockAddr) : Sys (Except Errno Nat) :=
  Prog.call (Call.sendto fd data addr)
abbrev recvfrom (fd : Int) (cap : Nat) : Sys (Except Errno (StdString × SockAddr)) :=
  Prog.call (Call.recvfrom fd cap)
abbrev ioctl (fd : Int) : Sys (Except Errno (BitVec 32)) := Prog.call (Call.ioctl fd)
abbrev getfl (fd : Int) : Sys (Except Errno (BitVec 32)) := Prog.call (Call.getfl fd)
abbrev setfl (fd : Int) (flags : BitVec 32) : Sys (Except Errno Unit) := Prog.call (Call.setfl fd flags)
abbrev getaddrinfo (host : Option StdString) (service : List Char) (hints : Hints) :
    Sys (Except StdString (List AddrInfo)) := Prog.call (Call.getaddrinfo host service hints)
abbrev freeaddrinfo (addr : Nat) : Sys Unit := Prog.call (Call.freeaddrinfo addr)
abbrev nullDeref : Sys Empty := Prog.call Call.nullDeref
abbrev badAlloc : Sys Empty := Prog.call Call.badAlloc

end Sys

/-! ## Counts in an `int` -/

/-- What is left of a `ssize_t` in an `int`. -/
def narrow (n : Nat) : Int := (BitVec.ofNat 32 n).toInt

/-- `int status = ::send(…)`, and the same of `::sendto`. -/
def intStatus : Except Errno Nat → Int
  | .error _ => -1
  | .ok n => narrow n

/-- `sent += status`, where `sent` is a `size_t` less than the length of a string: the sum can
    leave the range of a `size_t` only downwards. -/
def advance (sent : Nat) (status : Int) : Nat :=
  if 0 ≤ status then sent + status.toNat
  else (sent + 18446744073709551616 - status.natAbs) % 18446744073709551616

theorem narrow_of_lt {n : Nat} (h : n < 2147483648) : narrow n = n := by
  rw [narrow, BitVec.toInt_ofNat']
  exact Int.bmod_eq_of_le_mul_two (by omega) (by omega)

/-- The most a kernel moves in one call. A `ssize_t` could tell of more; an `int` holds this. -/
structure MaxTransfer where
  bytes : Nat
  pos : 0 < bytes
  lt : bytes < 2147483648

namespace MaxTransfer

/-- What Linux moves at most: the largest `int` less a page. -/
def linux : MaxTransfer := ⟨2147479552, by decide, by decide⟩

/-- The payload of a UDP datagram over IPv4. -/
def datagram : MaxTransfer := ⟨65507, by decide, by decide⟩

variable {limit : MaxTransfer} {n : Nat}

theorem intStatus_ok (h : n ≤ limit.bytes) : intStatus (.ok n) = n :=
  narrow_of_lt (Nat.lt_of_le_of_lt h limit.lt)

theorem intStatus_ne (h : n ≤ limit.bytes) : intStatus (.ok n) ≠ -1 := by
  rw [intStatus_ok h]
  omega

theorem advance_ok (h : n ≤ limit.bytes) (sent : Nat) : advance sent (intStatus (.ok n)) = sent + n := by
  rw [intStatus_ok h, advance, if_pos (Int.natCast_nonneg n), Int.toNat_natCast]

end MaxTransfer

end NetLink
