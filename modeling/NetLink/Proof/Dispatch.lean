import NetLink.Lib.Walk
import NetLink.Proof.PendingCount
import NetLink.Kernel.Listening

/-!
# Which callbacks `listen` makes

A round of `listen` is one `select` and a walk over the group that calls back for the sockets
found ready. The walk goes by position and ends when it has come to as many ready sockets as
`select` counted. `launch_wp`, `outer_wp` and `inner_wp` say once what one step of it does, and
everything else here is read off them.

Whatever the callbacks do to the group, each is made for a member, one that was found ready, and
is the one that is due for it (`listen_calls_rightly`). When they leave the group alone every ready
socket is served in every round (`listen_serves_ready`). When each takes its socket out of the
group, the walk passes over the socket that moves up into its place (`listen_passes_over`). The
target is one whose pending count arrives.

`listen` asks the set about descriptors that have no bit in it when the group has such members. It
does not if there is none to begin with and the callbacks make none (`listen_in_bounds`).
-/

namespace NetLink

open Interaction

namespace SocketGroup

/-- The callback that is due for a socket that is ready: a listener has a connection to accept; a
    connection with nothing to read has come to its end; anything else is to be read. -/
def due (mem : Memory) (size : Int → Except Errno (BitVec 32)) (socket : Nat) :
    Except Exception Ptr :=
  let s := mem.sockets socket
  if s.type = .server ∧ s.protocol = .tcp then .ok mem.group.cmdOnAccept
  else if s.protocol = .tcp then
    match size s.socketHandler with
    | .error _ => .error ⟨.errorIoctl, lit "Socket::nextReadSize: error ioctl"⟩
    | .ok n => .ok (if n = 0 then mem.group.cmdOnDisconnect else mem.group.cmdOnRead)
  else .ok mem.group.cmdOnRead

/-! ## What one step does -/

section Steps

variable {abi : Abi} {may : Listening → Exec → Prop} {outside : Prop} {clock : Nat → Timeval}
  {reacts : Reaction} {reference : Ptr} {milisec : UInt32} {mem₀ mem : Memory} {socket : Nat}
  {k : Listening} {round : Readiness}

/-- The callback at `cmd` may be made and `Φ` holds after it, or without it when there is none. -/
def AfterCall (may : Listening → Exec → Prop) (reacts : Reaction)
    (Φ : Except Exception Unit × Memory → Listening → Prop) (mem : Memory) (socket : Nat) (k : Listening) : Ptr → Prop
  | none => Φ (.ok (), mem) k
  | some cmd => may k ⟨cmd, socket, mem⟩ ∧ ∀ r, reacts cmd socket mem r →
      Φ r { k with execs := k.execs ++ [⟨cmd, socket, mem⟩] }

theorem call_wp {cmd : Ptr} {Φ : Except Exception Unit × Memory → Listening → Prop}
    (h : AfterCall may reacts Φ mem socket k cmd) :
    (call cmd socket reference mem).wp (Listening.kernel may outside clock reacts) Φ k := by
  cases cmd with
  | none => exact h
  | some cmd => exact Listening.wp_exec h.1 h.2

/-- **What is done for a ready socket**: the callback that is due is made. -/
theorem launch_wp {Φ : Except Exception Unit × Memory → Listening → Prop} (habi : abi.Counts)
    (hround : k.rounds.getLast? = some round)
    (h : match due mem round.size socket with
      | .error e => Φ (.error e, mem) k
      | .ok cmd => AfterCall may reacts Φ mem socket k cmd) :
    (launch abi reference mem socket).wp (Listening.kernel may outside clock reacts) Φ k := by
  unfold launch
  unfold due at h
  simp only at h ⊢
  by_cases haccept : (mem.sockets socket).type = .server ∧ (mem.sockets socket).protocol = .tcp
  · rw [if_pos haccept] at h ⊢
    exact call_wp h
  rw [if_neg haccept] at h ⊢
  by_cases htcp : (mem.sockets socket).protocol = .tcp
  · rw [if_pos htcp] at h ⊢
    rw [Socket.nextReadSize_eq, Prog.inl_ask, Prog.ask_bind]
    apply Listening.wp_ioctl hround
    cases hsize : round.size (mem.sockets socket).socketHandler with
    | error e =>
      rw [hsize] at h
      exact h
    | ok n =>
      rw [hsize] at h
      simp only [Prog.inl_ret, Prog.ret_bind, habi.eq_zero_iff] at h ⊢
      split at h
      · rename_i hzero
        rw [if_pos hzero]
        exact call_wp h
      · rename_i hzero
        rw [if_neg hzero]
        exact call_wp h
  · rw [if_neg htcp] at h ⊢
    exact call_wp h

variable {Ψ : ListenVars ⊕ (Except Exception Bool × Memory) → Listening → Prop} {finTime : UInt64}
  {executedOnce result : Bool}

/-- **The outer loop**: time is up, or there is another `select`. -/
theorem outer_wp (hbounds : ¬ InBounds mem → outside)
    (hleave : executedOnce = true → Ψ (.inr (.ok result, mem)) { k with readings := k.readings + 1 })
    (herror : ∀ e, Ψ (.inr (.error e, mem)) { k with readings := k.readings + 2 })
    (hround : ∀ round : Readiness, round.ready.Nodup → (∀ fd ∈ round.ready, fd ∈ setSockets mem) →
      Ψ (.inl (.inner finTime result mem round.ready 0 0))
        { k with readings := k.readings + 2, rounds := k.rounds ++ [round] }) :
    ((listen abi milisec reference mem₀).body (.outer finTime executedOnce result mem)).wp
      (Listening.kernel may outside clock reacts) Ψ k := by
  apply Listening.wp_gettimeofday.mpr
  show Prog.wp _ (if _ then _ else _) _ _
  split
  · show Prog.wp _ (if _ then _ else _) _ _
    split
    · apply Listening.wp_gettimeofday.mpr
      exact Listening.wp_select (fun e => herror _) hround
    · rename_i hout
      exact ⟨hbounds hout, fun r => Empty.elim r⟩
  · rename_i htest
    apply hleave
    cases executedOnce with
    | true => rfl
    | false => exact absurd (.inr rfl) htest

/-- **The inner loop**: it is over, or the next member is not ready, or the callback that is due
    for it is made. -/
theorem inner_wp {ready : List Int} {i launchSockets : Nat} (habi : abi.Counts)
    (hbounds : ¬ InBounds mem → outside)
    (hround : k.rounds.getLast? = some round)
    (hover : ¬ (launchSockets < ready.length ∧ i < mem.group.vSocket.length) →
      Ψ (.inl (.outer finTime true (result || 0 < launchSockets) mem)) k)
    (hskip : ∀ (_ : launchSockets < ready.length) (_ : i < mem.group.vSocket.length),
      (mem.sockets mem.group.vSocket[i]).socketHandler ∉ ready →
      Ψ (.inl (.inner finTime result mem ready (i + 1) launchSockets)) k)
    (herror : ∀ e mem' k', Ψ (.inr (.error e, mem')) k')
    (hquiet : ∀ (_ : launchSockets < ready.length) (_ : i < mem.group.vSocket.length),
      (mem.sockets mem.group.vSocket[i]).socketHandler ∈ ready →
      due mem round.size mem.group.vSocket[i] = .ok none →
      Ψ (.inl (.inner finTime result mem ready (i + 1) (launchSockets + 1))) k)
    (hcall : ∀ (_ : launchSockets < ready.length) (_ : i < mem.group.vSocket.length),
      (mem.sockets mem.group.vSocket[i]).socketHandler ∈ ready →
      ∀ cmd, due mem round.size mem.group.vSocket[i] = .ok (some cmd) →
      may k ⟨cmd, mem.group.vSocket[i], mem⟩ ∧
        ∀ mem', reacts cmd mem.group.vSocket[i] mem (.ok (), mem') →
          Ψ (.inl (.inner finTime result mem' ready (i + 1) (launchSockets + 1)))
            { k with execs := k.execs ++ [⟨cmd, mem.group.vSocket[i], mem⟩] }) :
    ((listen abi milisec reference mem₀).body
      (.inner finTime result mem ready i launchSockets)).wp
      (Listening.kernel may outside clock reacts) Ψ k := by
  unfold listen
  simp only
  split
  · rename_i h
    by_cases hfits : FitsSet (mem.sockets mem.group.vSocket[i]).socketHandler
    · rw [if_pos hfits]
      split
      · rename_i hready
        apply Prog.wp_bind.mpr
        apply launch_wp habi hround
        cases hdue : due mem round.size mem.group.vSocket[i] with
        | error e => exact herror e mem k
        | ok cmd =>
          cases cmd with
          | none => exact hquiet h.1 h.2 hready hdue
          | some cmd =>
            obtain ⟨hmay, hreacts⟩ := hcall h.1 h.2 hready cmd hdue
            refine ⟨hmay, ?_⟩
            intro r hr
            obtain ⟨o, mem'⟩ := r
            cases o with
            | error e => exact herror e mem' _
            | ok => exact hreacts mem' hr
      · rename_i hready
        exact hskip h.1 h.2 hready
    · rw [if_neg hfits]
      have hmember := List.mem_map_of_mem (f := fun p => (mem.sockets p).socketHandler)
        (List.getElem_mem h.2)
      exact ⟨hbounds fun hin => hfits (hin _ hmember), fun r => Empty.elim r⟩
  · rename_i h
    exact hover h

end Steps

/-! ## Whatever the callbacks do -/

/-- The descriptors that were found ready so far, counted each time. -/
def readyCount (rounds : List Readiness) : Nat := (rounds.flatMap Readiness.ready).length

/-- A callback that is rightly made: for a member of the group, which the last `select` has found
    ready; it is the one that is due; and there are no more callbacks than sockets found ready. -/
structure Rightly (k : Listening) (e : Exec) : Prop where
  member : e.socket ∈ e.mem.group.vSocket
  due : ∃ round, k.rounds.getLast? = some round ∧
    (e.mem.sockets e.socket).socketHandler ∈ round.ready ∧
    due e.mem round.size e.socket = .ok (some e.cmd)
  count : k.execs.length < readyCount k.rounds

section AnyCallbacks

variable {abi : Abi} {clock : Nat → Timeval} {reacts : Reaction} {reference : Ptr}
  {milisec : UInt32} {mem : Memory}

/-- In a round, there is a callback left for every ready socket not come to. -/
def CallsLeft (k : Listening) : ListenVars → Prop
  | .outer .. => k.execs.length ≤ readyCount k.rounds
  | .inner _ _ _ ready _ launchSockets =>
    (∃ round, k.rounds.getLast? = some round ∧ round.ready = ready) ∧ launchSockets ≤ ready.length ∧
      k.execs.length + (ready.length - launchSockets) ≤ readyCount k.rounds

theorem listen_rightly_wp (habi : abi.Counts) : (listen abi milisec reference mem).wp
    (Listening.kernel Rightly True clock reacts) (fun _ _ => True) .start := by
  refine ⟨fun v k => CallsLeft k v, ?_, ?_⟩
  · apply Listening.wp_gettimeofday.mpr
    exact Nat.le_refl 0
  intro v k hv
  cases v with
  | outer finTime executedOnce result mem =>
    apply outer_wp fun _ => trivial
    · exact fun _ => trivial
    · exact fun _ => trivial
    · intro round _ _
      refine ⟨⟨round, List.getLast?_concat, rfl⟩, Nat.zero_le _, ?_⟩
      have hv : k.execs.length ≤ readyCount k.rounds := hv
      simp only [readyCount, List.flatMap_append, List.flatMap_singleton, List.length_append] at hv ⊢
      omega
  | inner finTime result mem ready i launchSockets =>
    obtain ⟨⟨round, hround, rfl⟩, hle, hcount⟩ := hv
    apply inner_wp habi (fun _ => trivial) hround
    · intro _
      exact Nat.le_trans (Nat.le_add_right _ _) hcount
    · intro _ _ _
      exact ⟨⟨round, hround, rfl⟩, hle, hcount⟩
    · exact fun _ _ _ => trivial
    · intro hmore _ _ _
      exact ⟨⟨round, hround, rfl⟩, hmore, by omega⟩
    · intro hmore hi hready cmd hdue
      refine ⟨⟨List.getElem_mem _, ⟨round, hround, hready, hdue⟩, by omega⟩, ?_⟩
      intro mem' _
      refine ⟨⟨round, hround, rfl⟩, hmore, ?_⟩
      show (k.execs ++ [_]).length + _ ≤ readyCount k.rounds
      rw [List.length_append, List.length_singleton]
      omega

theorem listen_in_bounds_wp (habi : abi.Counts) (hmem : InBounds mem)
    (hkeep : ∀ {cmd socket mem r}, reacts cmd socket mem r → InBounds mem → InBounds r.2) :
    (listen abi milisec reference mem).wp
      (Listening.kernel (fun _ _ => True) False clock reacts) (fun _ _ => True) .start := by
  refine ⟨fun v k => match v with
    | .outer _ _ _ mem => InBounds mem
    | .inner _ _ mem ready _ _ =>
      InBounds mem ∧ ∃ round, k.rounds.getLast? = some round ∧ round.ready = ready, ?_, ?_⟩
  · apply Listening.wp_gettimeofday.mpr
    exact hmem
  intro v k hv
  cases v with
  | outer finTime executedOnce result mem =>
    apply outer_wp fun h => h hv
    · exact fun _ => trivial
    · exact fun _ => trivial
    · exact fun round _ _ => ⟨hv, round, List.getLast?_concat, rfl⟩
  | inner finTime result mem ready i launchSockets =>
    obtain ⟨hmem, round, hround, rfl⟩ := hv
    apply inner_wp habi (fun h => h hmem) hround
    · exact fun _ => hmem
    · exact fun _ _ _ => ⟨hmem, round, hround, rfl⟩
    · exact fun _ _ _ => trivial
    · exact fun _ _ _ _ => ⟨hmem, round, hround, rfl⟩
    · intro _ _ _ cmd _
      exact ⟨trivial, fun mem' hr => ⟨hkeep hr hmem, round, hround, rfl⟩⟩

/-- **No descriptor is used that has no bit in the set**, when every member has one to begin with
    and no callback leaves a member without. -/
theorem listen_in_bounds (habi : abi.Counts) (hmem : InBounds mem)
    (hkeep : ∀ {cmd socket mem r}, reacts cmd socket mem r → InBounds mem → InBounds r.2)
    {k : Listening} {v : Option ListenVars} {next} :
    ¬ (listen abi milisec reference mem).Reaches (Listening.free clock reacts)
      (.start, (listen abi milisec reference mem).start) (k, ⟨v, .ask (.inr .outOfBounds) next⟩) := by
  intro h
  have hcongr : (Listening.free clock reacts).answers =
      (Listening.kernel (fun _ _ => True) False clock reacts).answers := rfl
  exact (listen_in_bounds_wp habi hmem hkeep).allowed (h.congr hcongr)

end AnyCallbacks

/-! ## What callbacks leave as it was -/

/-- The same socket, as far as `listen` can tell. -/
structure Alike (s s' : Socket) : Prop where
  socketHandler : s'.socketHandler = s.socketHandler
  type : s'.type = s.type
  protocol : s'.protocol = s.protocol

theorem Alike.refl (s : Socket) : Alike s s := ⟨rfl, rfl, rfl⟩

theorem Alike.trans {s s' s'' : Socket} (h : Alike s s') (h' : Alike s' s'') : Alike s s'' :=
  ⟨h'.socketHandler.trans h.socketHandler, h'.type.trans h.type, h'.protocol.trans h.protocol⟩

/-- The group of `mem` with these members, and they are still the sockets they are in `mem`. -/
structure Holds (mem : Memory) (members : List Nat) (mem' : Memory) : Prop where
  group : mem'.group = { mem.group with vSocket := members }
  alike : ∀ p ∈ members, Alike (mem.sockets p) (mem'.sockets p)

namespace Holds

variable {mem mem' mem'' : Memory} {members members' : List Nat}

theorem refl (mem : Memory) : Holds mem mem.group.vSocket mem := ⟨rfl, fun _ _ => .refl _⟩

theorem trans (h : Holds mem members mem') (h' : Holds mem' members' mem'')
    (hsub : members' ⊆ members) : Holds mem members' mem'' where
  group := by rw [h'.group, h.group]
  alike p hp := (h.alike p (hsub hp)).trans (h'.alike p hp)

theorem vSocket (h : Holds mem members mem') : mem'.group.vSocket = members := by rw [h.group]

theorem setSockets (h : Holds mem members mem') :
    setSockets mem' = members.map fun p => (mem.sockets p).socketHandler := by
  rw [SocketGroup.setSockets, h.vSocket]
  exact List.map_congr_left fun p hp => (h.alike p hp).socketHandler

theorem inBounds (h : Holds mem members mem') (hsub : members ⊆ mem.group.vSocket)
    (hmem : InBounds mem) : InBounds mem' := by
  intro fd hfd
  rw [h.setSockets] at hfd
  exact hmem fd (List.map_subset _ hsub hfd)

/-- The same callback is due. -/
theorem due (h : Holds mem members mem') {socket : Nat} (hsocket : socket ∈ members)
    (size : Int → Except Errno (BitVec 32)) :
    due mem' size socket = due mem size socket := by
  have halike := h.alike socket hsocket
  unfold SocketGroup.due
  simp only [h.group, halike.socketHandler, halike.type, halike.protocol]

end Holds

/-- Every callback leaves the group and what `listen` can tell of its members as they are. -/
def LeaveAlone : Reaction := fun _ _ mem r => Holds mem mem.group.vSocket r.2

/-- Every callback removes the socket it was made for from the group, and leaves the other members
    as they are. -/
def TakeOut : Reaction := fun _ socket mem r => Holds mem (mem.group.remove socket).vSocket r.2

theorem LeaveAlone.inBounds {cmd socket : Nat} {mem : Memory} {r : Except Exception Unit × Memory}
    (h : LeaveAlone cmd socket mem r) (hmem : InBounds mem) : InBounds r.2 :=
  Holds.inBounds h (List.Subset.refl _) hmem

theorem TakeOut.inBounds {cmd socket : Nat} {mem : Memory} {r : Except Exception Unit × Memory}
    (h : TakeOut cmd socket mem r) (hmem : InBounds mem) : InBounds r.2 :=
  Holds.inBounds h List.erase_subset hmem

/-- Two UDP sockets with the descriptors 3 and 4, and one callback for everything. -/
def twoSockets : Memory where
  group := (((new.add 0).add 1).setCmdOnAccept (some 7)).setCmdOnRead (some 7)
    |>.setCmdOnDisconnect (some 7)
  sockets p := (SocketUDP.on (3 + p) 9000).socket

/-- Both of them are found ready. -/
def bothReady : Readiness := ⟨[3, 4], fun _ => .ok 0⟩

/-- A clock that does not go on. -/
def stopped : Nat → Timeval := fun _ => ⟨0, 0⟩

def isReady (mem : Memory) (round : Readiness) (socket : Nat) : Bool :=
  (mem.sockets socket).socketHandler ∈ round.ready

/-- The sockets among these that a round has found ready. -/
def readyAmong (mem : Memory) (round : Readiness) (sockets : List Nat) : List Nat :=
  sockets.filter (isReady mem round)

/-- The callback that is due for a socket, if any is. -/
def dueCall (mem : Memory) (round : Readiness) (socket : Nat) : Option (Nat × Nat) :=
  match due mem round.size socket with
  | .ok (some cmd) => some (cmd, socket)
  | _ => none

/-- The callbacks of a round that serves every socket found ready, in the order of the group. -/
def served (mem : Memory) (round : Readiness) : List (Nat × Nat) :=
  (readyAmong mem round mem.group.vSocket).filterMap (dueCall mem round)

theorem readyAmong_append (mem : Memory) (round : Readiness) (a b : List Nat) :
    readyAmong mem round (a ++ b) = readyAmong mem round a ++ readyAmong mem round b :=
  List.filter_append ..

/-- No more sockets are ready than there are descriptors that are. -/
theorem readyAmong_length_le {mem : Memory} {sockets : List Nat} (round : Readiness)
    (hnodup : (sockets.map fun p => (mem.sockets p).socketHandler).Nodup) :
    (readyAmong mem round sockets).length ≤ round.ready.length := by
  have hsub : ((readyAmong mem round sockets).map fun p => (mem.sockets p).socketHandler) ⊆
      round.ready := by
    intro fd hfd
    obtain ⟨p, hp, rfl⟩ := List.mem_map.mp hfd
    exact of_decide_eq_true (List.mem_filter.mp hp).2
  have hdistinct : ((readyAmong mem round sockets).map fun p => (mem.sockets p).socketHandler).Nodup :=
    hnodup.sublist (List.filter_sublist.map _)
  have hle := hdistinct.length_le_of_subset hsub
  rwa [List.length_map] at hle

section Quiet

variable {abi : Abi} {clock : Nat → Timeval} {reference : Ptr} {milisec : UInt32} {mem : Memory}

/-- The walk has come to everything when it has come to the end, or to as many ready sockets as
    there are ready descriptors. -/
theorem readyAmong_take (hnodup : (setSockets mem).Nodup) {round : Readiness} {i : Nat}
    (h : ¬ ((readyAmong mem round (mem.group.vSocket.take i)).length < round.ready.length ∧
      i < mem.group.vSocket.length)) :
    readyAmong mem round (mem.group.vSocket.take i) = readyAmong mem round mem.group.vSocket := by
  have hsplit := readyAmong_append mem round (mem.group.vSocket.take i) (mem.group.vSocket.drop i)
  rw [List.take_append_drop] at hsplit
  have hrest : readyAmong mem round (mem.group.vSocket.drop i) = [] := by
    by_cases hi : i < mem.group.vSocket.length
    · have hle := readyAmong_length_le round hnodup
      have hlen := congrArg List.length hsplit
      rw [List.length_append] at hlen
      exact List.eq_nil_of_length_eq_zero (by omega)
    · rw [List.drop_eq_nil_of_le (by omega)]
      rfl
  rw [hsplit, hrest, List.append_nil]

/-- Every round so far has served every ready socket, the one in progress up to where it is. -/
def Serves (mem : Memory) (k : Listening) : ListenVars → Prop
  | .outer _ _ result mem' =>
    Holds mem mem.group.vSocket mem' ∧ k.execs.map Exec.made = k.rounds.flatMap (served mem) ∧
      result = k.rounds.any fun round => round.ready ≠ []
  | .inner _ result mem' ready i launchSockets =>
    Holds mem mem.group.vSocket mem' ∧ ∃ rounds round, k.rounds = rounds ++ [round] ∧
      round.ready = ready ∧ (∀ fd ∈ round.ready, fd ∈ setSockets mem) ∧
      k.execs.map Exec.made = rounds.flatMap (served mem) ++
        (readyAmong mem round (mem.group.vSocket.take i)).filterMap (dueCall mem round) ∧
      launchSockets = (readyAmong mem round (mem.group.vSocket.take i)).length ∧
      result = rounds.any fun round => round.ready ≠ []

theorem readyAmong_eq_nil {round : Readiness} (hsub : ∀ fd ∈ round.ready, fd ∈ setSockets mem) :
    readyAmong mem round mem.group.vSocket = [] ↔ round.ready = [] := by
  constructor
  · intro h
    by_contra hne
    obtain ⟨fd, hfd⟩ := List.exists_mem_of_ne_nil _ hne
    obtain ⟨p, hp, rfl⟩ := List.mem_map.mp (hsub fd hfd)
    have hmem : p ∈ readyAmong mem round mem.group.vSocket :=
      List.mem_filter.mpr ⟨hp, decide_eq_true hfd⟩
    rw [h] at hmem
    cases hmem
  · intro h
    simp [readyAmong, isReady, h]

theorem readyAmong_succ {round : Readiness} {i : Nat} (h : i < mem.group.vSocket.length) :
    readyAmong mem round (mem.group.vSocket.take (i + 1)) =
      readyAmong mem round (mem.group.vSocket.take i) ++
        if (mem.sockets mem.group.vSocket[i]).socketHandler ∈ round.ready then
          [mem.group.vSocket[i]] else [] := by
  rw [List.take_succ_eq_append_getElem h, readyAmong_append]
  congr 1
  by_cases hready : (mem.sockets mem.group.vSocket[i]).socketHandler ∈ round.ready
  · simp [readyAmong, isReady, hready]
  · simp [readyAmong, isReady, hready]

/-- One more socket is ready than were before it. -/
theorem readyAmong_next {round : Readiness} {i : Nat} (h : i < mem.group.vSocket.length)
    (hready : (mem.sockets mem.group.vSocket[i]).socketHandler ∈ round.ready) :
    readyAmong mem round (mem.group.vSocket.take (i + 1)) =
        readyAmong mem round (mem.group.vSocket.take i) ++ [mem.group.vSocket[i]] ∧
      (readyAmong mem round (mem.group.vSocket.take (i + 1))).length =
        (readyAmong mem round (mem.group.vSocket.take i)).length + 1 := by
  have hnext : readyAmong mem round (mem.group.vSocket.take (i + 1)) =
      readyAmong mem round (mem.group.vSocket.take i) ++ [mem.group.vSocket[i]] := by
    rw [readyAmong_succ h, if_pos hready]
  refine ⟨hnext, ?_⟩
  rw [hnext, List.length_append, List.length_singleton]

theorem listen_serves_wp (habi : abi.Counts) (hnodup : (setSockets mem).Nodup) :
    (listen abi milisec reference mem).wp (Listening.free clock LeaveAlone) (fun
      | (.ok result, mem') => fun k => Holds mem mem.group.vSocket mem' ∧
          k.execs.map Exec.made = k.rounds.flatMap (served mem) ∧
          result = k.rounds.any fun round => round.ready ≠ []
      | _ => fun _ => True) .start := by
  refine ⟨fun v k => Serves mem k v, ?_, ?_⟩
  · apply Listening.wp_gettimeofday.mpr
    exact ⟨.refl mem, rfl, rfl⟩
  intro v k hv
  cases v with
  | outer finTime executedOnce result mem' =>
    obtain ⟨hholds, hexecs, hresult⟩ := hv
    apply outer_wp fun _ => trivial
    · exact fun _ => ⟨hholds, hexecs, hresult⟩
    · exact fun _ => trivial
    · intro round _ hsub
      rw [hholds.setSockets] at hsub
      refine ⟨hholds, k.rounds, round, rfl, rfl, hsub, ?_, rfl, hresult⟩
      rw [List.take_zero]
      exact hexecs.trans (List.append_nil _).symm
  | inner finTime result mem' ready i launchSockets =>
    obtain ⟨hholds, rounds, round, hrounds, rfl, hsub, hexecs, rfl, hresult⟩ := hv
    -- the callbacks so far have left the group, and only that is known of the sockets
    obtain ⟨group, sockets⟩ := mem'
    obtain rfl : group = mem.group := hholds.group
    have hlast : k.rounds.getLast? = some round := by rw [hrounds, List.getLast?_concat]
    have hhandler {i : Nat} (hi : i < mem.group.vSocket.length) :=
      (hholds.alike _ (List.getElem_mem hi)).socketHandler
    apply inner_wp habi (fun _ => trivial) hlast
    · intro hover
      have hall := readyAmong_take hnodup hover
      rw [hall] at hexecs ⊢
      refine ⟨hholds, ?_, ?_⟩
      · rw [hexecs, hrounds, List.flatMap_append, List.flatMap_singleton]
        rfl
      · have hsome : 0 < (readyAmong mem round mem.group.vSocket).length ↔ round.ready ≠ [] := by
          rw [List.length_pos_iff, ne_eq, readyAmong_eq_nil hsub]
        rw [hrounds, List.any_append, hresult]
        simp [hsome]
    · intro _ hi hskip
      have hi : i < mem.group.vSocket.length := hi
      rw [hhandler hi] at hskip
      refine ⟨hholds, rounds, round, hrounds, rfl, hsub, ?_, ?_, hresult⟩
      · rw [readyAmong_succ hi, if_neg hskip, List.append_nil]
        exact hexecs
      · rw [readyAmong_succ hi, if_neg hskip, List.append_nil]
    · exact fun _ _ _ => trivial
    · intro _ hi hready hdue
      have hi : i < mem.group.vSocket.length := hi
      obtain ⟨hnext, hcount⟩ := readyAmong_next hi (hhandler hi ▸ hready)
      rw [hholds.due (List.getElem_mem hi)] at hdue
      refine ⟨hholds, rounds, round, hrounds, rfl, hsub, ?_, hcount.symm, hresult⟩
      rw [hexecs, hnext]
      simp [dueCall, hdue]
    · intro _ hi hready cmd hdue
      have hi : i < mem.group.vSocket.length := hi
      obtain ⟨hnext, hcount⟩ := readyAmong_next hi (hhandler hi ▸ hready)
      rw [hholds.due (List.getElem_mem hi)] at hdue
      refine ⟨trivial, ?_⟩
      intro mem'' hr
      refine ⟨hholds.trans hr (List.Subset.refl _), rounds, round, hrounds, rfl, hsub, ?_,
        hcount.symm, hresult⟩
      show (k.execs ++ [_]).map Exec.made = _
      rw [List.map_append, hexecs, hnext]
      simp [dueCall, hdue, Exec.made]

/-- **Every ready socket is served**, in every round, once and in the order of the group, as long
    as the callbacks leave the group alone; and `listen` tells whether any was. -/
theorem listen_serves_ready (habi : abi.Counts) (hnodup : (setSockets mem).Nodup)
    (hbounds : InBounds mem) :
    (∀ {k v next}, ¬ (listen abi milisec reference mem).Reaches (Listening.free clock LeaveAlone)
      (.start, (listen abi milisec reference mem).start)
      (k, ⟨v, .ask (.inr .outOfBounds) next⟩)) ∧
    ∀ {result mem' k}, (listen abi milisec reference mem).Returns
        (Listening.free clock LeaveAlone) .start (.ok result, mem') k →
      Holds mem mem.group.vSocket mem' ∧ k.execs.map Exec.made = k.rounds.flatMap (served mem) ∧
        result = k.rounds.any fun round => round.ready ≠ [] :=
  ⟨listen_in_bounds habi hbounds LeaveAlone.inBounds,
    fun h => (listen_serves_wp habi hnodup).returns h⟩

end Quiet

theorem listen_serves_ready_two :
    [(7, 0), (7, 1)] = [bothReady].flatMap (served twoSockets) := by
  have hreturns : (listen .lp64 0 none twoSockets).Returns (Listening.free stopped LeaveAlone) .start
      (.ok true, twoSockets) ⟨4, [bothReady], [⟨7, 0, twoSockets⟩, ⟨7, 1, twoSockets⟩]⟩ := by
    refine Loop.returnsFrom_ask.mpr ⟨_, _, ⟨rfl, rfl⟩, Loop.returnsFrom_again.mpr ?_⟩
    refine Loop.returnsFrom_ask.mpr ⟨_, _, ⟨rfl, rfl⟩, ?_⟩
    refine Loop.returnsFrom_ask.mpr ⟨_, _, ⟨rfl, rfl⟩, ?_⟩
    refine Loop.returnsFrom_ask.mpr ⟨.ok [3, 4], _, ⟨by decide, by decide, bothReady.size, rfl⟩, ?_⟩
    refine Loop.returnsFrom_again.mpr ?_
    refine Loop.returnsFrom_ask.mpr ⟨(.ok (), twoSockets), _, ⟨.refl _, rfl⟩, ?_⟩
    refine Loop.returnsFrom_again.mpr ?_
    refine Loop.returnsFrom_ask.mpr ⟨(.ok (), twoSockets), _, ⟨.refl _, rfl⟩, ?_⟩
    refine Loop.returnsFrom_again.mpr (Loop.returnsFrom_again.mpr ?_)
    refine Loop.returnsFrom_ask.mpr ⟨_, _, ⟨rfl, rfl⟩, ?_⟩
    exact Loop.returnsFrom_done.mpr ⟨rfl, rfl⟩
  exact ((listen_serves_ready Abi.counts_lp64 (by decide) (by decide)).2 hreturns).2.1

/-! ## Callbacks that take their socket out of the group -/

/-- The sockets taken out so far and those left, after one more round. -/
def takenOut (mem : Memory) (st : List Nat × List Nat) (round : Readiness) : List Nat × List Nat :=
  let taken := Shrinking.visited (isReady mem round) st.2
  (st.1 ++ taken, st.2.filter (· ∉ taken))

section TakeOut

open Shrinking (Walk)

variable {abi : Abi} {clock : Nat → Timeval} {reference : Ptr} {milisec : UInt32}
  {mem mem' : Memory} {members : List Nat}

/-- The walk has nothing ahead of it when it is at the end, or has taken out as many sockets as
    there are ready descriptors. -/
theorem nothing_ahead {round : Readiness} {start now taken : List Nat} {i : Nat}
    (hnodup : (start.map fun p => (mem.sockets p).socketHandler).Nodup)
    (hwalk : Walk (isReady mem round) start now i taken)
    (h : ¬ (taken.length < round.ready.length ∧ i < now.length)) :
    ∀ p ∈ now.drop i, isReady mem round p = false := by
  intro p hp
  by_contra hready
  have hready : isReady mem round p = true := by simpa using hready
  have hi : i < now.length := by
    by_contra hi
    rw [List.drop_eq_nil_of_le (by omega)] at hp
    cases hp
  have hmem : p ∈ start ∧ p ∉ taken := by
    have hnow : p ∈ start.filter (· ∉ taken) := hwalk.left ▸ List.mem_of_mem_drop hp
    simpa using hnow
  -- one more socket than there are ready descriptors would be ready
  have hfit : ∀ q ∈ taken ++ [p], q ∈ start ∧ isReady mem round q = true := by
    intro q hq
    rcases List.mem_append.mp hq with hq | hq
    · exact hwalk.fit q hq
    · cases List.mem_singleton.mp hq
      exact ⟨hmem.1, hready⟩
  have hdistinct : (taken ++ [p]).Nodup :=
    List.nodup_append.mpr ⟨hwalk.nodup, List.nodup_singleton _, by
      rintro q hq _ hp rfl
      cases List.mem_singleton.mp hp
      exact hmem.2 hq⟩
  have hhandles : ((taken ++ [p]).map fun q => (mem.sockets q).socketHandler).Nodup :=
    hdistinct.map_on fun a ha b hb => List.inj_on_of_nodup_map hnodup (hfit a ha).1 (hfit b hb).1
  have hle := readyAmong_length_le round hhandles
  rw [readyAmong, List.filter_eq_self.mpr fun q hq => (hfit q hq).2, List.length_append,
    List.length_singleton] at hle
  omega

/-- The rounds so far have gone as `takenOut` says, the one in progress up to where it is. -/
def TakesOut (mem : Memory) (k : Listening) : ListenVars → Prop
  | .outer _ _ result mem' => ∃ called members,
    k.rounds.foldl (takenOut mem) ([], mem.group.vSocket) = (called, members) ∧
      Holds mem members mem' ∧ k.execs.map Exec.socket = called ∧
      (members.map fun p => (mem.sockets p).socketHandler).Nodup ∧ result = decide (called ≠ [])
  | .inner _ result mem' ready i launchSockets => ∃ rounds round called members taken now,
    k.rounds = rounds ++ [round] ∧ round.ready = ready ∧
      rounds.foldl (takenOut mem) ([], mem.group.vSocket) = (called, members) ∧
      Holds mem now mem' ∧ k.execs.map Exec.socket = called ++ taken ∧
      (members.map fun p => (mem.sockets p).socketHandler).Nodup ∧ result = decide (called ≠ []) ∧
      Walk (isReady mem round) members now i taken ∧ launchSockets = taken.length

/-- There is a callback for everything. -/
structure CallsBack (g : SocketGroup) : Prop where
  accept : g.cmdOnAccept ≠ none
  read : g.cmdOnRead ≠ none
  disconnect : g.cmdOnDisconnect ≠ none

theorem CallsBack.due_ne_none (h : CallsBack mem.group) (size : Int → Except Errno (BitVec 32))
    (socket : Nat) : due mem size socket ≠ .ok none := by
  unfold due
  simp only
  split
  · exact fun heq => h.accept (Except.ok.inj heq)
  split
  · split
    · nofun
    · split
      · exact fun heq => h.disconnect (Except.ok.inj heq)
      · exact fun heq => h.read (Except.ok.inj heq)
  · exact fun heq => h.read (Except.ok.inj heq)

theorem listen_takes_out_wp (habi : abi.Counts) (hnodup : (setSockets mem).Nodup)
    (hcalls : CallsBack mem.group) :
    (listen abi milisec reference mem).wp (Listening.free clock TakeOut) (fun
      | (.ok result, mem') => fun k =>
        k.rounds.foldl (takenOut mem) ([], mem.group.vSocket) =
            (k.execs.map Exec.socket, mem'.group.vSocket) ∧
          Holds mem mem'.group.vSocket mem' ∧ result = decide (k.execs ≠ [])
      | _ => fun _ => True) .start := by
  refine ⟨fun v k => TakesOut mem k v, ?_, ?_⟩
  · apply Listening.wp_gettimeofday.mpr
    exact ⟨[], mem.group.vSocket, rfl, .refl mem, rfl, hnodup, rfl⟩
  intro v k hv
  cases v with
  | outer finTime executedOnce result mem' =>
    obtain ⟨called, members, hfold, hholds, hcalled, hdistinct, hresult⟩ := hv
    apply outer_wp fun _ => trivial
    · intro _
      obtain rfl := hholds.vSocket
      refine ⟨hfold.trans (by rw [hcalled]), hholds, ?_⟩
      rw [hresult, ← hcalled]
      simp
    · exact fun _ => trivial
    · intro round _ _
      exact ⟨k.rounds, round, called, members, [], members, rfl, rfl, hfold, hholds,
        hcalled.trans (List.append_nil _).symm, hdistinct, hresult, .begin _ _, rfl⟩
  | inner finTime result mem' ready i launchSockets =>
    obtain ⟨rounds, round, called, members, taken, now, hrounds, rfl, hfold, hholds, hcalled,
      hdistinct, hresult, hwalk, rfl⟩ := hv
    obtain ⟨group, sockets⟩ := mem'
    obtain rfl : group = { mem.group with vSocket := now } := hholds.group
    have hlast : k.rounds.getLast? = some round := by rw [hrounds, List.getLast?_concat]
    have hhandler {i : Nat} (hi : i < now.length) :=
      (hholds.alike _ (List.getElem_mem hi)).socketHandler
    apply inner_wp habi (fun _ => trivial) hlast
    · intro hover
      obtain ⟨htaken, hnow⟩ := hwalk.ended (nothing_ahead hdistinct hwalk hover)
      refine ⟨called ++ taken, now, ?_, hholds, hcalled, ?_, ?_⟩
      · rw [hrounds, List.foldl_append, hfold, htaken, hnow]
        rfl
      · rw [hnow]
        exact hdistinct.sublist (List.filter_sublist.map _)
      · rw [hresult]
        cases called <;> cases taken <;> simp
    · intro _ hi hskip
      have hi : i < now.length := hi
      have hskip : isReady mem round now[i] = false := decide_eq_false (hhandler hi ▸ hskip)
      exact ⟨rounds, round, called, members, taken, now, hrounds, rfl, hfold, hholds, hcalled,
        hdistinct, hresult, hwalk.pass hi hskip, rfl⟩
    · exact fun _ _ _ => trivial
    · intro _ _ _ hdue
      have hcalls' : CallsBack ({ mem.group with vSocket := now } : SocketGroup) :=
        ⟨hcalls.accept, hcalls.read, hcalls.disconnect⟩
      exact absurd hdue (CallsBack.due_ne_none hcalls' _ _)
    · intro _ hi hready cmd _
      have hi : i < now.length := hi
      have hready : isReady mem round now[i] = true := decide_eq_true (hhandler hi ▸ hready)
      refine ⟨trivial, ?_⟩
      intro mem'' hr
      have hmembers : members.Nodup := hdistinct.of_map _
      refine ⟨rounds, round, called, members, taken ++ [now[i]], now.erase now[i], hrounds, rfl,
        hfold, hholds.trans hr List.erase_subset, ?_, hdistinct, hresult,
        hwalk.take hmembers hi hready, ?_⟩
      · rw [List.map_append, hcalled, List.append_assoc]
        rfl
      · rw [List.length_append, List.length_singleton]

/-- **A ready socket is passed over** when the one before it was taken out by its callback: in
    each round the callbacks are made for `Shrinking.visited` of the ready members, and the others
    stay for the next. -/
theorem listen_passes_over (habi : abi.Counts) (hnodup : (setSockets mem).Nodup)
    (hbounds : InBounds mem) (hcalls : CallsBack mem.group) :
    (∀ {k v next}, ¬ (listen abi milisec reference mem).Reaches (Listening.free clock TakeOut)
      (.start, (listen abi milisec reference mem).start)
      (k, ⟨v, .ask (.inr .outOfBounds) next⟩)) ∧
    ∀ {result mem' k}, (listen abi milisec reference mem).Returns
        (Listening.free clock TakeOut) .start (.ok result, mem') k →
      k.rounds.foldl (takenOut mem) ([], mem.group.vSocket) =
          (k.execs.map Exec.socket, mem'.group.vSocket) ∧
        Holds mem mem'.group.vSocket mem' ∧ result = decide (k.execs ≠ []) :=
  ⟨listen_in_bounds habi hbounds TakeOut.inBounds,
    fun h => (listen_takes_out_wp habi hnodup hcalls).returns h⟩

end TakeOut

/-- Both sockets are ready, and the callback is made for the first alone. -/
theorem listen_passes_over_second :
    [bothReady].foldl (takenOut twoSockets) ([], [0, 1]) = ([0], [1]) := by
  -- the callback that removes its socket also disconnects it
  let after : Memory := ⟨{ twoSockets.group with vSocket := [1] },
    Function.update twoSockets.sockets 0 { twoSockets.sockets 0 with socketHandler := -1 }⟩
  have hafter : TakeOut 7 0 twoSockets (.ok (), after) := by
    refine ⟨rfl, ?_⟩
    intro p hp
    obtain rfl := List.mem_singleton.mp hp
    exact .refl _
  have hreturns : (listen .lp64 0 none twoSockets).Returns (Listening.free stopped TakeOut) .start
      (.ok true, after) ⟨4, [bothReady], [⟨7, 0, twoSockets⟩]⟩ := by
    refine Loop.returnsFrom_ask.mpr ⟨_, _, ⟨rfl, rfl⟩, Loop.returnsFrom_again.mpr ?_⟩
    refine Loop.returnsFrom_ask.mpr ⟨_, _, ⟨rfl, rfl⟩, ?_⟩
    refine Loop.returnsFrom_ask.mpr ⟨_, _, ⟨rfl, rfl⟩, ?_⟩
    refine Loop.returnsFrom_ask.mpr ⟨.ok [3, 4], _, ⟨by decide, by decide, bothReady.size, rfl⟩, ?_⟩
    refine Loop.returnsFrom_again.mpr ?_
    refine Loop.returnsFrom_ask.mpr ⟨(.ok (), after), _, ⟨hafter, rfl⟩, ?_⟩
    refine Loop.returnsFrom_again.mpr (Loop.returnsFrom_again.mpr ?_)
    refine Loop.returnsFrom_ask.mpr ⟨_, _, ⟨rfl, rfl⟩, ?_⟩
    exact Loop.returnsFrom_done.mpr ⟨rfl, rfl⟩
  have hcalls : CallsBack twoSockets.group := ⟨by decide, by decide, by decide⟩
  exact ((listen_passes_over Abi.counts_lp64 (by decide) (by decide) hcalls).2 hreturns).1

end SocketGroup

end NetLink
