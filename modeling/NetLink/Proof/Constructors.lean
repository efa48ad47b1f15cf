import NetLink.Proof.Methods

/-!
# What a constructor can do to the descriptor table

`initSocket` works through the resolver's list: for each address it opens a descriptor and tries
it, and goes on to the next one after closing it. A descriptor that fails in `bind` or `connect`
is closed; one that fails later, in a call whose failure throws, is not (`Makes.stranded`).

A TCP server calls `listen` also after `bind` has failed and the descriptor is closed. The kernel
answers `EBADF`, so that exit throws with nothing left open, and the addresses that remain are
not tried.
-/

namespace NetLink

open Interaction NetLinkWrapper

/-- What a constructor may do: make calls on descriptors that were not open before, and close
    one that is open. -/
def OnlyNew (before : Finset Int) (k : Os) (q : Call) (fd : Int) : Prop :=
  fd ∉ before ∧ (q = .close fd → fd ∈ k.opened)

/-- The table after part of an attempt: which descriptors are open, and how many failures there
    were that strand one. -/
structure Os.Becomes (opened : Finset Int) (n : Nat) (k k' : Os) : Prop where
  opened : k'.opened = opened
  nonblock : k'.nonblock = k.nonblock
  strandings : Os.strandings k'.log = Os.strandings k.log + n

theorem Os.Becomes.refl (k : Os) : k.Becomes k.opened 0 k := ⟨rfl, rfl, rfl⟩

theorem Os.Becomes.next {k k' : Os} {opened : Finset Int} {n m : Nat} (h : k.Becomes opened n k')
    {q : Call} {r : q.Ret} {mode : Bool} (hafter : k'.after mode q r = k')
    (hm : n + Os.strandings [⟨q, r⟩] = m) : k.Becomes opened m (k'.next mode q r) where
  opened := by rw [Os.next_opened, hafter, h.opened]
  nonblock := by rw [Os.next_nonblock, hafter, h.nonblock]
  strandings := by rw [Os.next_log, Os.strandings_append, h.strandings, ← hm, Nat.add_assoc]

/-- What trying the descriptor `fd` can do: it is the one; it was closed; or a throw, with the
    descriptor left open or not. -/
def Tries (fd : Int) (k : Os) : Except Exception Bool → Os → Prop
  | .ok true, k' => k.Becomes k.opened 0 k'
  | .ok false, k' => k.Becomes (k.opened.erase fd) 0 k'
  | .error _, k' => k.Becomes k.opened 1 k' ∨ k.Becomes (k.opened.erase fd) 0 k'

section Candidates

variable {before : Finset Int} {cls : SocketClass} {s : Socket} {fd : Int} {k k' : Os}

theorem onlyNew_asked (hfd : fd ∉ before) {q : Call} (hq : q.fd? = some fd) {k : Os}
    (hclose : q = .close fd → fd ∈ k.opened) : ∀ fd' ∈ q.fd?, OnlyNew before k q fd' := by
  intro fd' h
  obtain rfl : fd = fd' := Option.some.inj (hq.symm.trans h)
  exact ⟨hfd, hclose⟩

theorem connectedOrClose_wp (hfd : fd ∉ before) (r : Except Errno Unit)
    (hopen : fd ∈ k.opened)
    (hk : k.Becomes k.opened 0 k') :
    (Socket.connectedOrClose fd r).wp (Os.kernel (OnlyNew before))
      (fun connected => Tries fd k (.ok connected)) k' := by
  cases r with
  | ok => exact hk
  | error e =>
    refine Os.wp_ask.mpr ⟨onlyNew_asked hfd rfl fun _ => hk.opened ▸ hopen, fun r mode _ =>
      ⟨?_, hk.nonblock, ?_⟩⟩
    · rw [Os.next_opened, ← hk.opened]
      rfl
    · rw [Os.next_log, Os.strandings_append, hk.strandings]
      rfl

theorem tries_listen_error (hopen : fd ∈ k.opened) {connected : Bool}
    (hk : Tries fd k (.ok connected) k') {backlog : Nat} {err : Errno} {mode : Bool}
    (hr : k'.Possible (.listen fd backlog) (.error err)) (e : Exception) :
    Tries fd k (.error e) (k'.next mode (.listen fd backlog) (.error err)) := by
  have hbadf : some err = some .ebadf ↔ fd ∉ k'.opened := hr.badf fd rfl
  cases connected with
  | true =>
    -- `bind` went through, so the descriptor is open and this failure leaves it so.
    have hne : err ≠ .ebadf := fun h => hbadf.mp (congrArg some h) (hk.opened ▸ hopen)
    exact .inl (hk.next rfl (by simp [Os.strandings, hne]))
  | false =>
    -- `bind` failed and the descriptor is closed: `listen` can only say so.
    have hclosed : fd ∉ k'.opened := hk.opened ▸ Finset.notMem_erase fd _
    obtain rfl : err = .ebadf := Option.some.inj (hbadf.mpr hclosed)
    exact .inr (hk.next rfl rfl)

theorem tries_listen_ok {connected : Bool} (hk : Tries fd k (.ok connected) k') {backlog : Nat}
    {mode : Bool} (hr : k'.Possible (.listen fd backlog) (.ok ())) :
    Tries fd k (.ok connected) (k'.next mode (.listen fd backlog) (.ok ())) := by
  cases connected with
  | true => exact hk.next rfl rfl
  | false =>
    have hclosed : fd ∉ k'.opened := hk.opened ▸ Finset.notMem_erase fd _
    exact absurd ((hr.badf fd rfl).mpr hclosed) (by nofun)

theorem tryAddress_wp (hfd : fd ∉ before) (hopen : fd ∈ k.opened) (s : Socket) (res : AddrInfo) :
    (s.tryAddress fd res).wp (Os.kernel (OnlyNew before)) (Tries fd k) k := by
  unfold Socket.tryAddress
  cases s.type with
  | client =>
    simp only
    split
    · refine Os.wp_ask.mpr ⟨onlyNew_asked hfd rfl nofun, ?_⟩
      intro r mode _
      show (Socket.connectedOrClose fd r >>= _).wp _ _ _
      exact Prog.wp_bind.mpr (connectedOrClose_wp hfd r hopen ((Os.Becomes.refl k).next rfl rfl))
    · refine Os.wp_ask.mpr ⟨onlyNew_asked hfd rfl nofun, ?_⟩
      intro r mode _
      show (Socket.connectedOrClose fd r >>= _).wp _ _ _
      exact Prog.wp_bind.mpr (connectedOrClose_wp hfd r hopen ((Os.Becomes.refl k).next rfl rfl))
  | server =>
    refine Os.wp_ask.mpr ⟨onlyNew_asked hfd rfl nofun, ?_⟩
    intro r mode _
    cases r with
    | error e => exact .inl ((Os.Becomes.refl k).next rfl rfl)
    | ok =>
      have hk : k.Becomes k.opened 0 (k.next mode (.setsockopt fd) (.ok ())) :=
        (Os.Becomes.refl k).next rfl rfl
      refine Os.wp_ask.mpr ⟨onlyNew_asked hfd rfl nofun, ?_⟩
      intro r mode' _
      show (Socket.connectedOrClose fd r >>= _).wp _ _ _
      refine Prog.wp_bind.mpr ((connectedOrClose_wp hfd r hopen (hk.next rfl rfl)).mono ?_)
      intro connected k' hk
      -- Whatever became of `bind`, a TCP server goes on to `listen`.
      split
      · refine Os.wp_ask.mpr ⟨onlyNew_asked hfd rfl nofun, ?_⟩
        intro r mode'' hr
        cases r with
        | error err => exact tries_listen_error hopen hk hr _
        | ok => exact tries_listen_ok hk hr
      · exact hk

end Candidates

section InitSocket

variable {before : Finset Int} {cls : SocketClass} {s : Socket} {fd : Int} {mode : Bool}
  {n : Nat} {k k₁ k₂ : Os}

theorem Os.Opened.becomes (h : k.Opened fd mode 0 k₁) (h' : k₁.Becomes k₁.opened n k₂) :
    k.Opened fd mode n k₂ where
  fresh := h.fresh
  opened := h'.opened.trans h.opened
  mode := by rw [h'.nonblock, h.mode]
  keeps g hg := by rw [h'.nonblock, h.keeps g hg]
  strandings := by rw [h'.strandings, h.strandings, Nat.add_zero]

theorem Os.Opened.erased (h : k.Opened fd mode 0 k₁)
    (h' : k₁.Becomes (k₁.opened.erase fd) 0 k₂) : k.Restored k₂ where
  opened := by rw [h'.opened, h.opened, Finset.erase_insert h.fresh.2]
  keeps g hg := by rw [h'.nonblock, h.keeps g hg]
  strandings := h'.strandings.trans h.strandings

/-- What working through the candidates can do: one is connected; none is; or a throw, with a
    descriptor left open or not. -/
def Finds (cls : SocketClass) (k : Os) : Except Exception (Bool × Socket) → Os → Prop
  | .ok (true, s), k' => cls.Opens s ∧ k.Opened s.socketHandler false 0 k'
  | .ok (false, _), k' => k.Restored k'
  | .error _, k' => k.Restored k' ∨ ∃ fd, k.Opened fd false 1 k'

theorem Finds.frame {o : Except Exception (Bool × Socket)} (h : k.Restored k₁)
    (hf : Finds cls k₁ o k₂) : Finds cls k o k₂ := by
  have hrefl : k₂.Restored k₂ := (Os.Same.refl k₂).restored
  rcases o with e | ⟨_ | _, s⟩
  · exact hf.imp h.trans fun ⟨fd, hfd⟩ => ⟨fd, hfd.frame h hrefl⟩
  · exact h.trans hf
  · exact ⟨hf.1, hf.2.frame h hrefl⟩

/-- **The candidate loop**, by induction over the resolver's list. -/
theorem candidateLoop_wp (list : List AddrInfo) (hk : k.opened = before) (hs : cls.Opens s) :
    (Socket.candidateLoop list s).wp (Os.kernel (OnlyNew before)) (Finds cls k) k := by
  induction list generalizing s k with
  | nil => exact (Os.Same.refl k).restored
  | cons res next ih =>
    refine Os.wp_ask.mpr ⟨nofun, ?_⟩
    intro r mode hr
    cases r with
    | error e =>
      have hrestored : k.Restored (k.next mode (.socket res.family res.socktype res.protocol)
          (.error e)) := ⟨rfl, fun _ _ => rfl, by simp [Os.strandings]⟩
      exact (ih (hrestored.opened.trans hk) (hs.on (-1))).mono fun o k' h => h.frame hrestored
    | ok fd =>
      have hfresh : k.Fresh fd := hr.fresh fd rfl
      have hopened : k.Opened fd false 0
          (k.next mode (.socket res.family res.socktype res.protocol) (.ok fd)) :=
        ⟨hfresh, rfl, Function.update_self .., Os.update_keeps hfresh _, by simp [Os.strandings]⟩
      show (Socket.tryAddress { s with socketHandler := fd } fd res >>= _).wp _ _ _
      refine Prog.wp_bind.mpr ((tryAddress_wp (hk ▸ hfresh.2)
        (hopened.opened ▸ Finset.mem_insert_self fd _) _ res).mono fun o k₂ htries => ?_)
      rcases o with e | _ | _
      · exact htries.symm.imp hopened.erased fun h => ⟨fd, hopened.becomes h⟩
      · have hrestored := hopened.erased htries
        exact (ih (hrestored.opened.trans hk) (hs.on fd)).mono fun o k' h => h.frame hrestored
      · rw [(hs.on fd).settleIpVer]
        exact ⟨hs.on fd, hopened.becomes htries⟩

def OpensSocket (cls : SocketClass) (k : Os) : Except Exception Socket → Os → Prop
  | .ok s, k' => cls.Opens s ∧ k.Opened s.socketHandler false 0 k'
  | .error _, k' => k.Restored k' ∨ ∃ fd, k.Opened fd false 1 k'

theorem OpensSocket.frame {o : Except Exception Socket} (hbefore : k.Restored k₁)
    {k₃ : Os} (h : OpensSocket cls k₁ o k₂) (hafter : k₂.Restored k₃) :
    OpensSocket cls k o k₃ := by
  cases o with
  | error e =>
    exact h.imp (fun h => (hbefore.trans h).trans hafter)
      fun ⟨fd, hfd⟩ => ⟨fd, hfd.frame hbefore hafter⟩
  | ok s => exact ⟨h.1, h.2.frame hbefore hafter⟩

theorem connectFirst_wp (list : List AddrInfo) (hk : k.opened = before) (hs : cls.Opens s) :
    (s.connectFirst list).wp (Os.kernel (OnlyNew before)) (OpensSocket cls k) k := by
  refine Prog.wp_bind.mpr ((candidateLoop_wp list hk hs).mono ?_)
  intro o k₁ hfinds
  rcases o with e | ⟨_ | _, s⟩
  · exact hfinds
  · exact .inl hfinds
  · obtain ⟨hs, hopened⟩ := hfinds
    simp only
    split
    · refine Os.wp_ask.mpr ⟨onlyNew_asked (hk ▸ hopened.fresh.2) rfl nofun, ?_⟩
      intro r mode _
      cases r with
      | error e => exact .inr ⟨_, hopened.becomes ((Os.Becomes.refl k₁).next rfl rfl)⟩
      | ok sin =>
        exact ⟨⟨hs.protocol, hs.type, hs.ipVer, hs.blocking⟩,
          hopened.becomes ((Os.Becomes.refl k₁).next rfl rfl)⟩
    · exact ⟨hs, hopened⟩

theorem initSocket_wp (hs : cls.Opens s) :
    s.initSocket.wp (Os.kernel (OnlyNew k.opened)) (OpensSocket cls k) k := by
  rw [initSocket_eq]
  refine Os.wp_ask.mpr ⟨nofun, ?_⟩
  intro r mode _
  have hbefore := ((Os.Same.refl k).next (q := .getaddrinfo s.host s.service s.conf) trivial mode
    r).restored
  cases r with
  | error text => exact .inl hbefore
  | ok list =>
    refine Prog.wp_bind.mpr ((connectFirst_wp list hbefore.opened hs).mono ?_)
    intro o k₁ hopens
    cases headPtr list with
    | none => exact hopens.frame hbefore (Os.Same.refl k₁).restored
    | some p =>
      refine Os.wp_ask.mpr ⟨nofun, ?_⟩
      intro r mode _
      exact hopens.frame hbefore ((Os.Same.refl k₁).next (q := .freeaddrinfo p) trivial mode
        r).restored

end InitSocket

/-- **A constructor** makes a socket of its class that blocks. -/
theorem new_wp (cls : SocketClass) (isConstructCall : Bool) (args : List JsValue) (k : Os) :
    (cls.new isConstructCall args).wp (Os.kernel (OnlyNew k.opened))
      (fun r => Makes cls.Opens false k (r.map some)) k := by
  rw [cls.new_eq]
  unfold construct
  split
  · exact .refused (Os.Same.refl k).restored
  split
  · exact .refused (Os.Same.refl k).restored
  · refine Prog.wp_bind.mpr ((initSocket_wp (cls.parse_opens args)).mono ?_)
    intro o k' h
    cases o with
    | ok s => exact .made h.1 h.2
    | error e =>
      rcases h with h | ⟨fd, h⟩
      · exact .refused h
      · exact .stranded h

/-- A run of a constructor is one of the things `Makes` allows. -/
theorem new_makes {cls : SocketClass} {isConstructCall : Bool} {args : List JsValue} {k k' : Os}
    {r : Except JsError NetLinkWrapper}
    (h : (cls.new isConstructCall args).Runs Os.plain k r k') :
    Makes cls.Opens false k (r.map some) k' :=
  (new_wp cls isConstructCall args k).runs (Os.runs_of_plain h)

theorem new_isLive {cls : SocketClass} {isConstructCall : Bool} {args : List JsValue} {k k' : Os}
    {w : NetLinkWrapper} (h : (cls.new isConstructCall args).Runs Os.plain k (.ok w) k') :
    cls.IsLive w := by
  have hmakes := new_makes h
  rw [show (Except.ok w).map some = (.ok (some w) : Except JsError _) from rfl] at hmakes
  cases hmakes with
  | @made _ s hs _ => exact SocketClass.isLive_iff.mpr ⟨s, rfl, hs.protocol, hs.type, fun _ => hs.ipVer⟩

end NetLink
