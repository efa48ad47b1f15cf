import NetLink.Proof.Kinds
import NetLink.Kernel.Candidates
import Mathlib.Data.Nat.Find

/-!
# Which address a constructor settles on

`initSocket` tries the resolver's candidates in order. A candidate that fails in `socket`, in
`connect` or in `bind` is passed over: its descriptor is closed and the next one is tried. A
failure of `setsockopt`, or of `listen` on a bound descriptor, is not passed over: it is thrown,
under the code the constructors document for it, and the candidates that remain are not tried.

So a constructor succeeds when some candidate passes all of its calls and none before it fails
in one of these two (`Chosen`), and then the socket is that candidate's. For a TCP client there
is no such failure and any candidate that passes will do (`exists_chosen_client`).

One failure is left out of `chosen_iff`. When `bind` fails for a TCP server the descriptor is
closed as for the others, and `listen` is called on it all the same.
-/

namespace NetLink

open Interaction NetLinkWrapper

namespace Candidate

/-- The calls made for a candidate as long as they succeed. -/
def calls (c : Candidate) : SocketClass → List (Except Errno Unit)
  | .clientTCP => [c.socket, c.connect]
  | .udp => [c.socket, c.setsockopt, c.bind]
  | .serverTCP => [c.socket, c.setsockopt, c.bind, c.listen]

/-- It passes all of its calls. -/
def Passes (cls : SocketClass) (c : Candidate) : Prop := ∀ r ∈ c.calls cls, r = .ok ()

/-- It fails in a call whose failure is thrown: `setsockopt`, or `listen` after `bind`. -/
def Aborts (cls : SocketClass) (c : Candidate) : Prop :=
  cls ≠ .clientTCP ∧ c.socket = .ok () ∧
    (c.setsockopt ≠ .ok () ∨ cls = .serverTCP ∧ c.bind = .ok () ∧ c.listen ≠ .ok ())

/-- What is thrown for it then. -/
def abortError (c : Candidate) : Exception :=
  match c.setsockopt with
  | .error _ => ⟨.errorSetSockOpt, lit "Socket::initSocket: Error establishing socket options"⟩
  | .ok () => ⟨.errorCanNotListen, lit "Socket::initSocket: could not start listening"⟩

/-- It is neither the one nor the end: the next candidate is tried. -/
def PassedOver (cls : SocketClass) (c : Candidate) : Prop := ¬ c.Passes cls ∧ ¬ c.Aborts cls

/-- It comes to `bind`, and fails there. -/
def FailsBind (c : Candidate) : Prop :=
  c.socket = .ok () ∧ c.setsockopt = .ok () ∧ c.bind ≠ .ok ()

theorem Aborts.not_passes {cls : SocketClass} {c : Candidate} (h : c.Aborts cls) :
    ¬ c.Passes cls := by
  intro hp
  obtain ⟨hclient, -, hset | ⟨rfl, -, hlisten⟩⟩ := h
  · cases cls with
    | clientTCP => exact hclient rfl
    | _ => exact hset (hp _ (by simp [calls]))
  · exact hlisten (hp _ (by simp [calls]))

theorem passedOver_of_socket {cls : SocketClass} {c : Candidate} {e : Errno}
    (h : c.socket = .error e) : c.PassedOver cls := by
  refine ⟨fun hp => ?_, fun ha => ?_⟩
  · have hok : c.socket = .ok () := hp _ (by cases cls <;> simp [calls])
    cases h.symm.trans hok
  · cases h.symm.trans ha.2.1

end Candidate

/-- The candidate `c`, at place `i`, is tried: every one before it is passed over. -/
structure Tried (cls : SocketClass) (cands : List Candidate) (i : Nat) (c : Candidate) : Prop where
  place : cands[i]? = some c
  earlier : ∀ c' ∈ cands.take i, c'.PassedOver cls

/-- It is tried and passes all of its calls. -/
def Chosen (cls : SocketClass) (cands : List Candidate) (i : Nat) (c : Candidate) : Prop :=
  Tried cls cands i c ∧ c.Passes cls

/-- What is thrown when every candidate is passed over. -/
def passedOverError : Exception :=
  ⟨.errorConnectSocket, lit "Socket::initSocket: error in socket connection/bind"⟩

/-- No candidate a TCP server tries fails in `bind`. -/
def ServerBinds (cls : SocketClass) (cands : List Candidate) : Prop :=
  cls = .serverTCP → ∀ i c, Tried cls cands i c → ¬ c.FailsBind

namespace Attempts

variable {cands : List Candidate} {cls : SocketClass} {s : Socket} {c : Candidate} {i : Nat}
  {fd : Int}

theorem candidate?_holding (hc : cands[i]? = some c) :
    (holding i fd).candidate? cands fd = some c := by
  simp [candidate?, holding, hc]

theorem told_holding (hc : cands[i]? = some c) (call : Candidate → Except Errno Unit) :
    (holding i fd).told cands fd call = call c := by
  rw [told, candidate?_holding hc, Option.elim]

theorem owner_holding : (holding i fd).owner fd ≠ none := by simp [holding]

theorem holding_close : { holding i fd with owner := Function.update (holding i fd).owner fd none } =
    after (i + 1) := by
  simp [holding, after]

/-! ## One candidate -/

/-- What trying a candidate that was handed `fd` comes to. -/
def Judged (cls : SocketClass) (c : Candidate) (i : Nat) (fd : Int) :
    Except Exception Bool → Attempts → Prop
  | .ok true, k => c.Passes cls ∧ k = holding i fd
  | .ok false, k => c.PassedOver cls ∧ k = after (i + 1)
  | .error e, k => c.Aborts cls ∧ e = c.abortError ∧ k = holding i fd

theorem connectedOrClose_wp (r : Except Errno Unit) :
    (Socket.connectedOrClose fd r).wp (kernel cands) (fun connected k =>
      connected = r.isOk ∧ k = if connected then holding i fd else after (i + 1)) (holding i fd) := by
  cases r with
  | ok => exact ⟨rfl, rfl⟩
  | error e =>
    refine ⟨owner_holding, ?_⟩
    intro _ _ h
    obtain ⟨rfl, rfl⟩ := h
    exact ⟨rfl, holding_close⟩

theorem tryAddress_client (hs : SocketClass.clientTCP.Opens s) (hc : cands[i]? = some c)
    (hsocket : c.socket = .ok ()) :
    (s.tryAddress fd c.info).wp (kernel cands) (Judged .clientTCP c i fd) (holding i fd) := by
  have htcp : s.protocol ≠ .udp := by
    rw [hs.protocol]
    nofun
  unfold Socket.tryAddress
  rw [show s.type = .client from hs.type]
  simp only [if_neg htcp]
  refine ⟨⟨c, candidate?_holding hc, rfl⟩, ?_⟩
  intro r k h
  obtain ⟨rfl, rfl⟩ := h
  rw [told_holding hc]
  show (Socket.connectedOrClose fd c.connect >>= _).wp _ _ _
  refine Prog.wp_bind.mpr ((connectedOrClose_wp c.connect).mono ?_)
  intro connected k h
  obtain ⟨rfl, rfl⟩ := h
  cases hconnect : c.connect with
  | ok => exact ⟨by simp [Candidate.Passes, Candidate.calls, hsocket, hconnect], rfl⟩
  | error e =>
    exact ⟨⟨by simp [Candidate.Passes, Candidate.calls, hconnect], fun h => h.1 rfl⟩, rfl⟩

theorem tryAddress_server (hcls : cls ≠ .clientTCP) (hs : cls.Opens s) (hc : cands[i]? = some c)
    (hsocket : c.socket = .ok ()) (hbind : cls = .serverTCP → ¬ c.FailsBind) :
    (s.tryAddress fd c.info).wp (kernel cands) (Judged cls c i fd) (holding i fd) := by
  have hserver : s.type = .server := by
    rw [hs.type]
    cases cls with
    | clientTCP => exact absurd rfl hcls
    | _ => rfl
  unfold Socket.tryAddress
  rw [hserver]
  refine ⟨owner_holding, ?_⟩
  intro r k h
  obtain ⟨rfl, rfl⟩ := h
  rw [told_holding hc]
  cases hset : c.setsockopt with
  | error e =>
    exact ⟨⟨hcls, hsocket, .inl (by simp [hset])⟩, by simp [Candidate.abortError, hset], rfl⟩
  | ok =>
    refine ⟨⟨c, candidate?_holding hc, rfl⟩, ?_⟩
    intro r k h
    obtain ⟨rfl, rfl⟩ := h
    rw [told_holding hc]
    show (Socket.connectedOrClose fd c.bind >>= _).wp _ _ _
    refine Prog.wp_bind.mpr ((connectedOrClose_wp c.bind).mono ?_)
    intro connected k h
    obtain ⟨rfl, rfl⟩ := h
    cases cls with
    | clientTCP => exact absurd rfl hcls
    | udp =>
      have hudp : s.protocol ≠ .tcp := by
        rw [hs.protocol]
        nofun
      simp only [if_neg hudp]
      cases hb : c.bind with
      | ok => exact ⟨by simp [Candidate.Passes, Candidate.calls, hsocket, hset, hb], rfl⟩
      | error e =>
        refine ⟨⟨by simp [Candidate.Passes, Candidate.calls, hb], ?_⟩, rfl⟩
        intro h
        obtain ⟨-, -, h | ⟨⟨⟩, -⟩⟩ := h
        exact h hset
    -- Only here is `listen` called. `hbind` excludes the call on a closed descriptor.
    | serverTCP =>
      have htcp : s.protocol = .tcp := hs.protocol
      have hb : c.bind = .ok () := by
        by_contra hne
        exact hbind rfl ⟨hsocket, hset, hne⟩
      simp only [if_pos htcp, hb]
      refine ⟨owner_holding, ?_⟩
      intro r k h
      obtain ⟨rfl, rfl⟩ := h
      rw [show (if (Except.ok () : Except Errno Unit).isOk = true then holding i fd
        else after (i + 1)) = holding i fd from rfl, told_holding hc]
      cases hlisten : c.listen with
      | error e =>
        exact ⟨⟨hcls, hsocket, .inr ⟨rfl, hb, by simp [hlisten]⟩⟩,
          by simp [Candidate.abortError, hset], rfl⟩
      | ok => exact ⟨by simp [Candidate.Passes, Candidate.calls, hsocket, hset, hb, hlisten], rfl⟩

theorem tryAddress_wp (hs : cls.Opens s) (hc : cands[i]? = some c) (hsocket : c.socket = .ok ())
    (hbind : cls = .serverTCP → ¬ c.FailsBind) :
    (s.tryAddress fd c.info).wp (kernel cands) (Judged cls c i fd) (holding i fd) := by
  by_cases hcls : cls = .clientTCP
  · subst hcls
    exact tryAddress_client hs hc hsocket
  · exact tryAddress_server hcls hs hc hsocket hbind

/-! ## All of them -/

/-- A candidate that is tried aborts, and none was asked for after it. -/
def Aborted (cls : SocketClass) (cands : List Candidate) (e : Exception) (k : Attempts) : Prop :=
  ∃ i c, Tried cls cands i c ∧ c.Aborts cls ∧ e = c.abortError ∧ k.tried = i + 1

/-- Every candidate was asked for and passed over, and nothing is open. -/
def Exhausted (cls : SocketClass) (cands : List Candidate) (k : Attempts) : Prop :=
  (∀ c ∈ cands, c.PassedOver cls) ∧ k = after cands.length

def Found (cls : SocketClass) (cands : List Candidate) :
    Except Exception (Bool × Socket) → Attempts → Prop
  | .ok (true, s), k => ∃ i c, Chosen cls cands i c ∧ k = holding i s.socketHandler
  | .ok (false, _), k => Exhausted cls cands k
  | .error e, k => Aborted cls cands e k

/-- **The candidate loop**, by induction over the candidates that are left. -/
theorem candidateLoop_wp (hbind : ServerBinds cls cands) (pre rest : List Candidate)
    (hcands : cands = pre ++ rest) (hpre : ∀ c ∈ pre, c.PassedOver cls) (hs : cls.Opens s) :
    (Socket.candidateLoop (rest.map (·.info)) s).wp (kernel cands) (Found cls cands)
      (after pre.length) := by
  induction rest generalizing pre s with
  | nil =>
    rw [List.append_nil] at hcands
    subst hcands
    exact ⟨hpre, rfl⟩
  | cons c rest ih =>
    have htried : Tried cls cands pre.length c := by
      subst hcands
      exact ⟨by simp, by rwa [List.take_left]⟩
    have hnext (hover : c.PassedOver cls) (fd : Int) :=
      ih (s := { s with socketHandler := fd }) (pre ++ [c]) (by simp [hcands])
        (List.forall_mem_append.mpr ⟨hpre, List.forall_mem_singleton.mpr hover⟩) (hs.on fd)
    rw [List.length_append, List.length_singleton] at hnext
    refine ⟨⟨fun _ => rfl, c, htried.place, rfl, rfl, rfl⟩, ?_⟩
    intro r k hans
    cases r with
    | error e =>
      obtain ⟨⟨c', hc', hsocket⟩, rfl⟩ := hans
      cases htried.place.symm.trans hc'
      exact hnext (Candidate.passedOver_of_socket hsocket) (-1)
    | ok fd =>
      obtain ⟨⟨c', hc', hsocket⟩, -, -, rfl⟩ := hans
      cases htried.place.symm.trans hc'
      show (Socket.tryAddress { s with socketHandler := fd } fd c.info >>= _).wp _ _ _
      refine Prog.wp_bind.mpr ((tryAddress_wp (hs.on fd) htried.place hsocket
        fun hserver => hbind hserver _ _ htried).mono fun o k hjudged => ?_)
      rcases o with e | _ | _
      · obtain ⟨haborts, rfl, rfl⟩ := hjudged
        exact ⟨_, c, htried, haborts, rfl, rfl⟩
      · obtain ⟨hover, rfl⟩ := hjudged
        exact hnext hover fd
      · obtain ⟨hpasses, rfl⟩ := hjudged
        rw [(hs.on fd).settleIpVer]
        exact ⟨_, c, ⟨htried, hpasses⟩, rfl⟩

/-- Why a construction throws: a candidate aborts, or all of them are passed over. -/
def Fails (cls : SocketClass) (cands : List Candidate) (e : Exception) (k : Attempts) : Prop :=
  Aborted cls cands e k ∨ e = passedOverError ∧ Exhausted cls cands k

/-- What a construction comes to: the socket of the candidate that is chosen, on the one
    descriptor that is open; or what it throws. -/
def Settles (cls : SocketClass) (cands : List Candidate) :
    Except Exception Socket → Attempts → Prop
  | .ok s, k => ∃ i c, Chosen cls cands i c ∧ k = holding i s.socketHandler
  | .error e, k => Fails cls cands e k

end Attempts

theorem Tried.not_chosen {cls : SocketClass} {cands : List Candidate} {i j : Nat}
    {c c' : Candidate} (h : Tried cls cands i c) (habort : c.Aborts cls) :
    ¬ Chosen cls cands j c' := by
  intro h
  obtain ⟨h', hpasses⟩ := h
  have hmem {n m : Nat} {a : Candidate} (ha : cands[n]? = some a) (hlt : n < m) :
      a ∈ cands.take m :=
    List.mem_of_getElem? ((List.getElem?_take_of_lt hlt).trans ha)
  rcases Nat.lt_trichotomy i j with hlt | rfl | hlt
  · exact (h'.earlier c (hmem h.place hlt)).2 habort
  · cases h.place.symm.trans h'.place
    exact habort.not_passes hpasses
  · exact (h.earlier c' (hmem h'.place hlt)).1 hpasses

namespace Attempts

variable {cands : List Candidate} {cls : SocketClass} {s : Socket}

/-- None is chosen by a construction that throws. -/
theorem Fails.not_chosen {e : Exception} {k : Attempts} (h : Fails cls cands e k) (i : Nat)
    (c : Candidate) : ¬ Chosen cls cands i c := by
  rcases h with h | h
  · obtain ⟨j, c', htried, habort, -, -⟩ := h
    exact htried.not_chosen habort
  · obtain ⟨-, hover, -⟩ := h
    exact fun hchosen => (hover c (List.mem_of_getElem? hchosen.1.place)).1 hchosen.2

theorem connectFirst_wp (hbind : ServerBinds cls cands) (hs : cls.Opens s) :
    (s.connectFirst (cands.map (·.info))).wp (kernel cands) (Settles cls cands) (after 0) := by
  have hloop := candidateLoop_wp hbind [] cands (List.nil_append cands).symm (by simp) hs
  refine Prog.wp_bind.mpr (hloop.mono ?_)
  intro o k hfound
  rcases o with e | ⟨_ | _, s⟩
  · exact .inl hfound
  · exact .inr ⟨rfl, hfound⟩
  · obtain ⟨i, c, hchosen, rfl⟩ := hfound
    simp only
    split
    · refine ⟨owner_holding, ?_⟩
      intro r k h
      obtain ⟨⟨addr, rfl⟩, rfl⟩ := h
      exact ⟨i, c, hchosen, rfl⟩
    · exact ⟨i, c, hchosen, rfl⟩

theorem initSocket_wp (hbind : ServerBinds cls cands) (hs : cls.Opens s) :
    s.initSocket.wp (kernel cands) (Settles cls cands) (after 0) := by
  rw [initSocket_eq]
  refine ⟨trivial, ?_⟩
  intro r k h
  obtain ⟨rfl, rfl⟩ := h
  refine Prog.wp_bind.mpr ((connectFirst_wp hbind hs).mono ?_)
  intro o k hsettles
  cases headPtr (cands.map (·.info)) with
  | none => exact hsettles
  | some p =>
    refine ⟨trivial, ?_⟩
    rintro _ k rfl
    exact hsettles

theorem answered {k : Attempts} {q : Call} (h : (kernel cands).allowed k q) :
    ∃ r k', (kernel cands).answers k q r k' := by
  cases q with
  | socket family socktype protocol =>
    obtain ⟨hnone, c, hc, -⟩ := h
    cases hsocket : c.socket with
    | error e => exact ⟨.error e, _, ⟨c, hc, hsocket⟩, rfl⟩
    | ok => exact ⟨.ok 0, _, ⟨c, hc, hsocket⟩, Int.le_refl 0, hnone 0, rfl⟩
  | getaddrinfo => exact ⟨_, _, rfl, rfl⟩
  | freeaddrinfo => exact ⟨(), _, rfl⟩
  | setsockopt => exact ⟨_, _, rfl, rfl⟩
  | bind => exact ⟨_, _, rfl, rfl⟩
  | connect => exact ⟨_, _, rfl, rfl⟩
  | listen => exact ⟨_, _, rfl, rfl⟩
  | getsockname => exact ⟨.ok ⟨.inet, [0], 0, by decide⟩, _, ⟨_, rfl⟩, rfl⟩
  | close => exact ⟨_, _, rfl, rfl⟩
  | _ => exact h.elim

end Attempts

/-- For a TCP client, one is chosen exactly when one passes: the first that does. -/
theorem exists_chosen_client {cands : List Candidate} :
    (∃ i c, Chosen .clientTCP cands i c) ↔ ∃ c ∈ cands, c.Passes .clientTCP := by
  classical
  constructor
  · intro h
    obtain ⟨i, c, hchosen⟩ := h
    exact ⟨c, List.mem_of_getElem? hchosen.1.place, hchosen.2⟩
  · intro h
    obtain ⟨c, hc, hpasses⟩ := h
    have hex : ∃ i : Nat, ∃ c, cands[i]? = some c ∧ c.Passes .clientTCP := by
      obtain ⟨i, hi⟩ := List.mem_iff_getElem?.mp hc
      exact ⟨i, c, hi, hpasses⟩
    obtain ⟨c, hplace, hpasses⟩ := Nat.find_spec hex
    refine ⟨Nat.find hex, c, ⟨hplace, fun c' hc' => ⟨fun hpasses' => ?_, fun h => h.1 rfl⟩⟩, hpasses⟩
    obtain ⟨j, hj⟩ := List.mem_iff_getElem?.mp hc'
    rw [List.getElem?_take] at hj
    split at hj
    · rename_i hlt
      exact Nat.find_min hex hlt ⟨c', hj, hpasses'⟩
    · cases hj

/-- What a construction comes to in JavaScript: it succeeds exactly when a candidate is chosen,
    and then that candidate's descriptor is the socket's and the only one left open. Otherwise
    the error says whether a candidate ended the search, with the rest not tried, or all of them
    were passed over. -/
structure FallsBack (cls : SocketClass) (cands : List Candidate)
    (r : Except JsError NetLinkWrapper) (k : Attempts) : Prop where
  succeeds : (∃ w, r = .ok w) ↔ ∃ i c, Chosen cls cands i c
  chosen : ∀ w, r = .ok w → ∃ i c fd, Chosen cls cands i c ∧ w.fd? = some fd ∧ k = .holding i fd
  throws : ∀ err, r = .error err →
    (∃ i c, Tried cls cands i c ∧ c.Aborts cls ∧ err = throwJsError c.abortError ∧
      k.tried = i + 1) ∨
    (∀ c ∈ cands, c.PassedOver cls) ∧ err = throwJsError passedOverError ∧ k = .after cands.length

theorem Attempts.Settles.fallsBack {cls : SocketClass} {cands : List Candidate}
    {o : Except Exception Socket} {k : Attempts} (h : Settles cls cands o k) :
    FallsBack cls cands (jsResult (o.map ofSocket)) k := by
  cases o with
  | error e =>
    have hne (w : NetLinkWrapper) : Except.error (throwJsError e) ≠ .ok w := nofun
    refine ⟨iff_of_false (fun ⟨w, hw⟩ => hne w hw) fun ⟨i, c, hc⟩ => h.not_chosen i c hc,
      fun w hw => (hne w hw).elim, ?_⟩
    rintro _ ⟨⟩
    rcases h with h | h
    · obtain ⟨i, c, htried, haborts, rfl, hk⟩ := h
      exact .inl ⟨i, c, htried, haborts, rfl, hk⟩
    · obtain ⟨rfl, hover, hk⟩ := h
      exact .inr ⟨hover, rfl, hk⟩
  | ok s =>
    obtain ⟨i, c, hchosen, rfl⟩ := h
    refine ⟨iff_of_true ⟨_, rfl⟩ ⟨i, c, hchosen⟩, ?_, nofun⟩
    rintro _ ⟨⟩
    exact ⟨i, c, _, hchosen, rfl, rfl⟩

/-- **Address fallback.** A construction whose arguments are accepted comes to an end. It makes
    no call on a descriptor it has closed, asks for a new one only when the one before is closed,
    and ends with the first candidate that passes unless one before it aborts, which is then the
    last to be tried; for a TCP client none does. -/
theorem chosen_iff (cls : SocketClass) (args : List JsValue) (cands : List Candidate)
    (hargs : (cls.parse args).1.rejected = none) (hbind : ServerBinds cls cands) :
    (∃ r k, (cls.new true args).Runs (Attempts.kernel cands) (.after 0) r k) ∧
    (cls.new true args).wp (Attempts.kernel cands) (FallsBack cls cands) (.after 0) ∧
    (cls = .clientTCP → ((∃ i c, Chosen cls cands i c) ↔ ∃ c ∈ cands, c.Passes cls)) := by
  have hwp : (cls.new true args).wp (Attempts.kernel cands) (FallsBack cls cands) (.after 0) := by
    rw [cls.new_eq, construct, hargs]
    refine Prog.wp_bind.mpr ((Attempts.initSocket_wp hbind (cls.parse_opens args)).mono ?_)
    exact fun o k hsettles => hsettles.fallsBack
  refine ⟨hwp.exists_runs Attempts.answered, hwp, ?_⟩
  rintro rfl
  exact exists_chosen_client

section TwoAddresses

private def noDescriptor : Candidate :=
  ⟨.loopback 7, .error (.other 97), .ok (), .ok (), .ok (), .ok ()⟩

private def noReuse : Candidate :=
  ⟨.loopback 7, .ok (), .error (.other 92), .ok (), .ok (), .ok ()⟩

private def fine : Candidate := ⟨.loopback 8, .ok (), .ok (), .ok (), .ok (), .ok ()⟩

theorem chosen_second :
    ∃ w k, (SocketClass.serverTCP.new true [.number (.finite 8000)]).Runs
      (Attempts.kernel [noDescriptor, fine]) (.after 0) (.ok w) k := by
  have hbind : ServerBinds .serverTCP [noDescriptor, fine] := by
    intro _ i c htried hfails
    have hc : c = noDescriptor ∨ c = fine := by simpa using List.mem_of_getElem? htried.place
    rcases hc with rfl | rfl <;> exact hfails.2.2 rfl
  have hchosen : Chosen .serverTCP [noDescriptor, fine] 1 fine := by
    refine ⟨⟨rfl, ?_⟩, by simp [Candidate.Passes, Candidate.calls, fine]⟩
    rintro c' hc'
    obtain rfl := List.mem_singleton.mp hc'
    exact Candidate.passedOver_of_socket rfl
  obtain ⟨⟨r, k, hrun⟩, hwp, -⟩ := chosen_iff .serverTCP [.number (.finite 8000)] _ rfl hbind
  obtain ⟨w, rfl⟩ := (hwp.runs hrun).succeeds.mpr ⟨1, fine, hchosen⟩
  exact ⟨w, k, hrun⟩

/-- `setsockopt` fails for the first address. The second one passes all of its calls, and the
    construction throws. -/
theorem fallback_stops_at_setsockopt :
    (SocketClass.udp.new true []).Runs (Attempts.kernel [noReuse, fine]) (.after 0)
        (.error (throwJsError ⟨.errorSetSockOpt,
          lit "Socket::initSocket: Error establishing socket options"⟩)) (.holding 0 3) ∧
      fine ∈ [noReuse, fine] ∧ fine.Passes .udp := by
  refine ⟨?_, by simp, by simp [Candidate.Passes, Candidate.calls, fine]⟩
  refine ⟨_, _, ⟨rfl, rfl⟩, ?_⟩
  refine ⟨.ok 3, .holding 0 3, ⟨⟨noReuse, rfl, rfl⟩, by decide, rfl, rfl⟩, ?_⟩
  exact ⟨.error (.other 92), _, ⟨rfl, rfl⟩, (), _, rfl, rfl, rfl⟩

end TwoAddresses

end NetLink
