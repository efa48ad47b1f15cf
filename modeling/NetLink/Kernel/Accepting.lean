import NetLink.Model.Posix

/-!
# A kernel with one answer to `accept`

What a kernel says to one call of `accept()`, and to the calls about the new connection that
follow it. Each of the four can be an error of any number. The connection is the only descriptor
the following calls are answered for, so a program that asked about another would not come back.
-/

namespace NetLink

open Interaction

/-- The answers an `accept()` will get. -/
structure Accepting where
  accept : Except Errno (Int × SockAddr)
  getsockname : Except Errno SockAddr
  getfl : Except Errno (BitVec 32)
  setfl : Except Errno Unit

namespace Accepting

/-- The descriptor of the connection, if there is one. -/
def connection? (o : Accepting) : Option Int :=
  match o.accept with
  | .ok (fd, _) => some fd
  | .error _ => none

/-- The answer to a call about the descriptor `fd`, if that is the connection. -/
def about {X : Type} (o : Accepting) (fd : Int) (x : X) : Option (X × Unit) :=
  if o.connection? = some fd then some (x, ()) else none

theorem about_connection {X : Type} {o : Accepting} {fd : Int} {peer : SockAddr}
    (h : o.accept = .ok (fd, peer)) (x : X) : o.about fd x = some (x, ()) := by
  simp only [about, connection?, h, if_true]

def serve (o : Accepting) (listener : Int) (_ : Unit) : (q : Call) → Option (q.Ret × Unit)
  | .accept fd => if fd = listener then some (o.accept, ()) else none
  | .getsockname fd => o.about fd o.getsockname
  | .getfl fd => o.about fd o.getfl
  | .setfl fd _ => o.about fd o.setfl
  | _ => none

/-- The kernel of a listening socket with the descriptor `listener`. -/
def kernel (o : Accepting) (listener : Int) : Kernel Call Call.Ret Unit :=
  .ofServe (o.serve listener)

end Accepting

end NetLink
