import NetLink.Kernel.Udp
import NetLink.Proof.Kinds
import NetLink.Proof.Rounds

/-!
# `receiveFrom` and datagram boundaries

What a UDP receive is for is to hand over one datagram with its sender (`ReceivesHead`). The
code reads in pieces of `readSize` and takes a piece of exactly that size as a sign that more
is to come, which is how a stream is read. A datagram has no more to come: what did not fit is
gone, and the next `recvfrom` is about the next datagram, or about an empty queue.

`receiveFrom_receivesHead_iff` says when the two agree: exactly when the head datagram is
shorter than a piece.
-/

namespace NetLink

open Interaction NetLinkWrapper

/-- One call takes exactly the head datagram, whole and with its sender, without waiting; on an
    empty queue a non-blocking call returns `undefined`. -/
def ReceivesHead (u : SocketUDP) (k : UdpQueue) : Prop :=
  match k.queue with
  | d :: rest =>
    u.wrapper.receiveFrom.Returns UdpQueue.kernel k
        (.ok (some ⟨d.sender.host, getInPort d.sender, d.payload⟩)) { k with queue := rest } ∧
      ¬ u.wrapper.receiveFrom.Waits UdpQueue.kernel k
  | [] => k.nonblocking = true → u.wrapper.receiveFrom.Returns UdpQueue.kernel k (.ok none) k

section Rounds

variable {u : SocketUDP} {k k' : UdpQueue} {w : Option ReceiveFromVars} {v : ReceiveFromVars}
  {o : Except JsError (Option Received)}

theorem receiveFrom_round_cons {d : Datagram} {rest : List Datagram} {nonblocking : Bool} :
    (receiveFromLoop u.socket).ReturnsFrom UdpQueue.kernel
        ⟨w, (receiveFromLoop u.socket).body v⟩ ⟨d :: rest, nonblocking⟩ o k' ↔
      (receiveFromLoop u.socket).ReturnsFrom UdpQueue.kernel
        ⟨w, .ret (receiveFromRound v (.ok (d.payload.take readSize, d.sender)))⟩
        ⟨rest, nonblocking⟩ o k' := by
  rw [receiveFromLoop_body u.protocol]
  exact Loop.returnsFrom_serve (UdpQueue.serve_cons d rest nonblocking _ _)

theorem receiveFrom_round_empty :
    (receiveFromLoop u.socket).ReturnsFrom UdpQueue.kernel
        ⟨w, (receiveFromLoop u.socket).body v⟩ ⟨[], true⟩ o k' ↔
      o = .ok ((nonEmpty v.read).map fun read => ⟨[], 0, read⟩) ∧ k' = ⟨[], true⟩ := by
  rw [receiveFromLoop_body u.protocol]
  apply (Loop.returnsFrom_serve (UdpQueue.serve_empty _ _)).trans
  exact Loop.returnsFrom_done

theorem receiveFrom_round_wait :
    ¬ (receiveFromLoop u.socket).ReturnsFrom UdpQueue.kernel
        ⟨w, (receiveFromLoop u.socket).body v⟩ ⟨[], false⟩ o k' := by
  rw [receiveFromLoop_body u.protocol]
  exact Loop.not_returnsFrom_of_blocks (Kernel.ofServe_blocks (UdpQueue.serve_wait _ _))

theorem receiveFromRound_short {d : Datagram} (hlen : d.payload.length < readSize) :
    receiveFromRound v (.ok (d.payload.take readSize, d.sender)) =
      .inr (.ok (some ⟨d.sender.host, getInPort d.sender, v.read ++ d.payload⟩)) := by
  have htake : d.payload.take readSize = d.payload := List.take_of_length_le (by omega)
  simp only [receiveFromRound, htake, if_neg (Nat.ne_of_lt hlen)]

theorem receiveFromRound_full {d : Datagram} (hlen : readSize ≤ d.payload.length) :
    receiveFromRound v (.ok (d.payload.take readSize, d.sender)) =
      .inl ⟨v.read ++ d.payload.take readSize, d.sender.host, getInPort d.sender⟩ := by
  have htake : (d.payload.take readSize).length = readSize := by
    rw [List.length_take, Nat.min_eq_left hlen]
  simp only [receiveFromRound, if_pos htake]

theorem receiveFrom_length_le {c : SysConfig ReceiveFromVars _}
    (h : (receiveFromLoop u.socket).ReturnsFrom UdpQueue.kernel c k o k') :
    k'.queue.length ≤ k.queue.length := by
  obtain ⟨_, h⟩ := h
  exact Loop.Reaches.rel (fun a b : UdpQueue => b.queue.length ≤ a.queue.length)
    (fun _ => Nat.le_refl _) (fun h₁ h₂ => Nat.le_trans h₂ h₁) UdpQueue.answers_length_le h

/-- A full piece with nothing behind it: the read that would block then resets the sender. -/
theorem receiveFrom_alone {d : Datagram} (hlen : readSize ≤ d.payload.length) :
    u.wrapper.receiveFrom.Returns UdpQueue.kernel ⟨[d], true⟩ o k' ↔
      o = .ok (some ⟨[], 0, d.payload.take readSize⟩) ∧ k' = ⟨[], true⟩ := by
  rw [u.receiveFrom_returns, receiveFrom_round_cons, receiveFromRound_full hlen,
    Loop.returnsFrom_again, receiveFrom_round_empty, List.nil_append]
  have hne : d.payload.take readSize ≠ [] := by
    apply List.ne_nil_of_length_pos
    rw [List.length_take, Nat.min_eq_left hlen]
    decide
  rw [nonEmpty_of_ne hne, Option.map_some]

end Rounds

theorem receivesHead_of_short {u : SocketUDP} {d : Datagram} {rest : List Datagram}
    {nonblocking : Bool} (hlen : d.payload.length < readSize) :
    u.wrapper.receiveFrom.Returns UdpQueue.kernel ⟨d :: rest, nonblocking⟩
      (.ok (some ⟨d.sender.host, getInPort d.sender, d.payload⟩)) ⟨rest, nonblocking⟩ := by
  rw [u.receiveFrom_returns, receiveFrom_round_cons, receiveFromRound_short hlen,
    Loop.returnsFrom_done]
  exact ⟨rfl, rfl⟩

/-- A head that fills the piece makes the call go on to what is behind it: it cannot end with
    the head's sender and only the head gone. -/
theorem not_receivesHead_of_long {u : SocketUDP} {d : Datagram} {rest : List Datagram}
    {nonblocking : Bool} (hlen : readSize ≤ d.payload.length) :
    ¬ u.wrapper.receiveFrom.Returns UdpQueue.kernel ⟨d :: rest, nonblocking⟩
      (.ok (some ⟨d.sender.host, getInPort d.sender, d.payload⟩)) ⟨rest, nonblocking⟩ := by
  intro h
  cases rest with
  | nil =>
    cases nonblocking with
    | false =>
      rw [u.receiveFrom_returns, receiveFrom_round_cons, receiveFromRound_full hlen,
        Loop.returnsFrom_again] at h
      exact receiveFrom_round_wait h
    | true =>
      obtain ⟨ho, -⟩ := (receiveFrom_alone hlen).mp h
      simp only [Except.ok.injEq, Option.some.injEq, Received.mk.injEq] at ho
      exact d.sender.host_ne ho.1
  | cons d₂ rest₂ =>
    -- The second datagram is taken too, so more is gone than the head.
    rw [u.receiveFrom_returns, receiveFrom_round_cons, receiveFromRound_full hlen,
      Loop.returnsFrom_again, receiveFrom_round_cons] at h
    have hle := receiveFrom_length_le h
    simp only [List.length_cons] at hle
    omega

/-- **`receiveFrom` keeps datagram boundaries exactly below the piece size.** -/
theorem receiveFrom_receivesHead_iff (u : SocketUDP) (k : UdpQueue) :
    ReceivesHead u k ↔ ∀ d ∈ k.queue.head?, d.payload.length < readSize := by
  obtain ⟨_ | ⟨d, rest⟩, nonblocking⟩ := k
  · refine iff_of_true (fun hnb : nonblocking = true => ?_) (fun d hd => absurd hd (by simp))
    subst hnb
    rw [u.receiveFrom_returns, receiveFrom_round_empty]
    exact ⟨rfl, rfl⟩
  · simp only [List.head?_cons, Option.mem_def, Option.some.injEq, forall_eq']
    constructor
    · intro h
      obtain ⟨h, -⟩ := h
      exact Nat.lt_of_not_le fun hlen => not_receivesHead_of_long hlen h
    · intro hlen
      have h : u.wrapper.receiveFrom.Returns UdpQueue.kernel ⟨d :: rest, nonblocking⟩ _ _ :=
        receivesHead_of_short hlen
      exact ⟨h, h.not_waits (Kernel.ofServe_functional _)⟩

/-- A datagram of exactly one piece, alone in the queue of a non-blocking socket: the object
    that comes back has an empty host and port 0. -/
theorem receiveFrom_loses_sender :
    let sender : SockAddr := ⟨.inet, lit "127.0.0.1", 9000, by decide⟩
    let d : Datagram := ⟨List.replicate readSize 97, sender⟩
    (SocketUDP.on 3 8000).wrapper.receiveFrom.Returns UdpQueue.kernel ⟨[d], true⟩
        (.ok (some ⟨[], 0, d.payload⟩)) ⟨[], true⟩ ∧
      ¬ ReceivesHead (SocketUDP.on 3 8000) ⟨[d], true⟩ := by
  intro sender d
  have hlen : d.payload.length = readSize := List.length_replicate
  refine ⟨(receiveFrom_alone (Nat.le_of_eq hlen.symm)).mpr ⟨?_, rfl⟩, fun h => ?_⟩
  · rw [List.take_of_length_le (Nat.le_of_eq hlen)]
  · exact not_receivesHead_of_long (Nat.le_of_eq hlen.symm) h.1

end NetLink
