import NetLink.Lib.Signature
import NetLink.Model.Socket

/-!
# `NL::SocketGroup`

`src/netlink/socket_group.cc` and its inline part, with `getTime` and `iMax` of `util.cc`. A group
is a vector of pointers to sockets, which it does not own, and up to three callbacks. `listen`
waits in `select` and calls back for every socket that is ready.

A callback is code of the program that uses the library, and it is handed the group it was called
from. It is a question here like a system call is: asked with what the memory holds, it answers
what it has made of the memory, and whether it threw. A `Socket *` is the address of an object,
and `Memory` says what is there.

An `fd_set` has bits for the descriptors from 0 up to `FD_SETSIZE`. The source uses `FD_SET` and
`FD_ISSET` on whatever descriptor a member has, -1 once it is disconnected. What they do to a
descriptor without a bit is not defined, and `outOfBounds` stands for it: nothing comes after.
-/

namespace NetLink

open Interaction

/-- `NL::SocketGroup`, with pointers to sockets and to callbacks. -/
structure SocketGroup where
  vSocket : List Nat
  cmdOnAccept : Ptr
  cmdOnRead : Ptr
  cmdOnDisconnect : Ptr
  deriving DecidableEq

namespace SocketGroup

def new : SocketGroup := ⟨[], none, none, none⟩

def add (g : SocketGroup) (socket : Nat) : SocketGroup := { g with vSocket := g.vSocket ++ [socket] }

/-- `remove(Socket *)`: the first pointer of this value is erased, if there is one. -/
def remove (g : SocketGroup) (socket : Nat) : SocketGroup :=
  { g with vSocket := g.vSocket.erase socket }

def setCmdOnAccept (g : SocketGroup) (cmd : Ptr) : SocketGroup := { g with cmdOnAccept := cmd }

def setCmdOnRead (g : SocketGroup) (cmd : Ptr) : SocketGroup := { g with cmdOnRead := cmd }

def setCmdOnDisconnect (g : SocketGroup) (cmd : Ptr) : SocketGroup :=
  { g with cmdOnDisconnect := cmd }

end SocketGroup

/-- What a callback can get at: the group that called it, and the sockets. -/
structure Memory where
  group : SocketGroup
  sockets : Nat → Socket

/-- `struct timeval`. -/
structure Timeval where
  sec : UInt64
  usec : UInt64
  deriving DecidableEq

/-- `getTime`. The sum is made in floating point, which does not round it up to the next
    millisecond for any time of the coming centuries. -/
def Timeval.getTime (now : Timeval) : UInt64 := now.sec * 1000 + now.usec / 1000

/-- The `timeval` of a number of milliseconds. -/
def Timeval.ofMilisec (milisec : UInt64) : Timeval := ⟨milisec / 1000, milisec % 1000 * 1000⟩

/-- What `listen` asks, beyond the calls of the sockets. -/
inductive GroupCall
  | gettimeofday
  | select (nfds : Int) (readfds : List Int) (timeout : Timeval)
  | exec (cmd : Nat) (socket : Nat) (reference : Ptr) (mem : Memory)
  | outOfBounds

namespace GroupCall

/-- `select` answers the descriptors that are ready, each once; the status the source sees is
    their number. A callback answers the memory it leaves, also when it throws. -/
abbrev Ret : GroupCall → Type
  | gettimeofday => Timeval
  | select .. => Except Errno (List Int)
  | exec .. => Except Exception Unit × Memory
  | outOfBounds => Empty

end GroupCall

abbrev GroupRet : Call ⊕ GroupCall → Type := SumRet Call.Ret GroupCall.Ret

/-- Code that makes system calls and calls back. -/
abbrev GroupSys := Prog (Call ⊕ GroupCall) GroupRet

abbrev GroupLoop := Loop (Call ⊕ GroupCall) GroupRet

namespace GroupSys

abbrev gettimeofday : GroupSys Timeval := .ask (.inr .gettimeofday) .ret

abbrev select (nfds : Int) (readfds : List Int) (timeout : Timeval) :
    GroupSys (Except Errno (List Int)) := .ask (.inr (.select nfds readfds timeout)) .ret

abbrev exec (cmd : Nat) (socket : Nat) (reference : Ptr) (mem : Memory) :
    GroupSys (Except Exception Unit × Memory) := .ask (.inr (.exec cmd socket reference mem)) .ret

abbrev outOfBounds : GroupSys Empty := .ask (.inr .outOfBounds) .ret

end GroupSys

namespace SocketGroup

/-- `if(cmd) cmd->exec(socket, this, reference);` -/
def call (cmd : Ptr) (socket : Nat) (reference : Ptr) (mem : Memory) :
    GroupSys (Except Exception Unit × Memory) :=
  match cmd with
  | none => return (.ok (), mem)
  | some cmd => GroupSys.exec cmd socket reference mem

/-- What is done for a socket that is ready. -/
def launch (abi : Abi) (reference : Ptr) (mem : Memory) (socket : Nat) :
    GroupSys (Except Exception Unit × Memory) :=
  let s := mem.sockets socket
  if s.type = .server ∧ s.protocol = .tcp then call mem.group.cmdOnAccept socket reference mem
  else if s.protocol = .tcp then do
    match ← (s.nextReadSize abi).inl with
    | .error err => return (.error err, mem)
    | .ok size =>
      if size = 0 then call mem.group.cmdOnDisconnect socket reference mem
      else call mem.group.cmdOnRead socket reference mem
  else call mem.group.cmdOnRead socket reference mem

/-- Where `listen` is: at the test of the outer loop, or at the test of the inner one, with the
    descriptors that `select` has left in the set. -/
inductive ListenVars
  | outer (finTime : UInt64) (executedOnce result : Bool) (mem : Memory)
  | inner (finTime : UInt64) (result : Bool) (mem : Memory) (setSockets : List Int)
      (i launchSockets : Nat)

/-- `iMax`. -/
def iMax (a b : Int) : Int := if a > b then a else b

/-- `FD_SET` for every socket: the descriptors, and the highest. -/
def setSockets (mem : Memory) : List Int := mem.group.vSocket.map fun p => (mem.sockets p).socketHandler

def maxHandle (mem : Memory) : Int := (setSockets mem).foldl iMax 0

/-- `FD_SETSIZE`. -/
def fdSetSize : Int := 1024

/-- There is a bit for the descriptor. -/
abbrev FitsSet (fd : Int) : Prop := 0 ≤ fd ∧ fd < fdSetSize

/-- There is a bit for the descriptor of every member. -/
abbrev InBounds (mem : Memory) : Prop := ∀ fd ∈ setSockets mem, FitsSet fd

/-- `listen(milisec, reference)`, on the group in `mem`. -/
def listen (abi : Abi) (milisec : UInt32) (reference : Ptr) (mem : Memory) :
    GroupLoop ListenVars (Except Exception Bool × Memory) where
  enter := do
    let now ← GroupSys.gettimeofday
    return .inl (.outer (now.getTime + milisec.toUInt64) false false mem)
  body
    | .outer finTime executedOnce result mem => do
      let now ← GroupSys.gettimeofday
      if now.getTime < finTime ∨ executedOnce = false then
        if InBounds mem then
          let now ← GroupSys.gettimeofday
          let milisecLeft := finTime - now.getTime
          match ← GroupSys.select (maxHandle mem + 1) (setSockets mem) (.ofMilisec milisecLeft) with
          | .error _ =>
            return .inr (.error ⟨.errorSelect,
              lit "SocketGroup::listen: could not perform socket select"⟩, mem)
          | .ok ready => return .inl (.inner finTime result mem ready 0 0)
        else nomatch ← GroupSys.outOfBounds
      else return .inr (.ok result, mem)
    | .inner finTime result mem ready i launchSockets =>
      if h : launchSockets < ready.length ∧ i < mem.group.vSocket.length then
        let socket := mem.group.vSocket[i]
        let fd := (mem.sockets socket).socketHandler
        if FitsSet fd then
          if fd ∈ ready then do
            match ← launch abi reference mem socket with
            | (.error err, mem) => return .inr (.error err, mem)
            | (.ok (), mem) =>
              return .inl (.inner finTime result mem ready (i + 1) (launchSockets + 1))
          else return .inl (.inner finTime result mem ready (i + 1) launchSockets)
        else do nomatch ← GroupSys.outOfBounds
      else return .inl (.outer finTime true (result || 0 < launchSockets) mem)

end SocketGroup

end NetLink
