import NetLink.Model.Posix

/-!
# A kernel that transmits datagrams

The sending side of a UDP socket, and a resolver that knows the host: `getaddrinfo` yields the
addresses `first :: rest`, and `sendto` either transmits everything it is given, possibly
nothing, as one datagram and returns the count, or fails and transmits nothing. The state is
what has been transmitted, each datagram with its destination. No other call is answered except
`freeaddrinfo`; `sendTo` makes no other. What is too long for a datagram is not transmitted:
`limit` is the payload of the largest.
-/

namespace NetLink

open Interaction

/-- What has been transmitted, oldest first. -/
abbrev Outbox := List (StdString × SockAddr)

namespace Outbox

def answers (limit : MaxTransfer) (first : AddrInfo) (rest : List AddrInfo) (k : Outbox) :
    (q : Call) → q.Ret → Outbox → Prop
  | .getaddrinfo .., r, k' => r = .ok (first :: rest) ∧ k' = k
  | .sendto _ data addr, .ok n, k' =>
    n = data.length ∧ n ≤ limit.bytes ∧ k' = k ++ [(data, addr)]
  | .sendto .., .error _, k' => k' = k
  | .freeaddrinfo _, _, k' => k' = k
  | _, _, _ => False

def kernel (limit : MaxTransfer) (first : AddrInfo) (rest : List AddrInfo) :
    Kernel Call Call.Ret Outbox where
  allowed _ _ := True
  answers := answers limit first rest

end Outbox

end NetLink
