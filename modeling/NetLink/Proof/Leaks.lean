import NetLink.Proof.Constructors

/-!
# Which failures leak a descriptor

A constructor that throws never runs the destructor, and `accept` throws before it has anything
to return, so every exit has to close what it opened. The exits for a failed `bind` and a failed
`connect` do. The ones that throw in the middle do not: `setsockopt`, `listen`, `getsockname` and
`F_SETFL` leave the new descriptor open with nobody to own it.

`leaks_iff` is that, exactly: a call leaks when one of these four fails on an open descriptor,
and not otherwise.
-/

namespace NetLink

open Interaction NetLinkWrapper

/-- The calls that make a socket. -/
inductive MakingCall
  | construct (cls : SocketClass) (isConstructCall : Bool) (args : List JsValue)
  | accept (obj : NetLinkWrapper)

def MakingCall.run : MakingCall → Sys (Except JsError (Option NetLinkWrapper))
  | construct cls isConstructCall args =>
    cls.new isConstructCall args >>= fun r => .ret (r.map some)
  | accept obj => obj.accept

/-- No descriptor is leaked: a call that makes no socket leaves the open descriptors as they
    were, and one that makes a socket has added exactly the one the socket owns. -/
def NoLeak (k : Os) : Except JsError (Option NetLinkWrapper) → Os → Prop
  | .ok (some a), k' => ∃ fd, a.fd? = some fd ∧ fd ∉ k.opened ∧ k'.opened = insert fd k.opened
  | .ok none, k' => k'.opened = k.opened
  | .error _, k' => k'.opened = k.opened

theorem Makes.noLeak_iff {P : Socket → Prop} {mode : Bool} {k k' : Os}
    {r : Except JsError (Option NetLinkWrapper)} (h : Makes P mode k r k') :
    NoLeak k r k' ↔ Os.strandings k'.log = Os.strandings k.log := by
  cases h with
  | made _ h => exact iff_of_true ⟨_, rfl, h.fresh.2, h.opened⟩ h.strandings
  | nothing h => exact iff_of_true h.opened h.strandings
  | refused h => exact iff_of_true h.opened h.strandings
  | stranded h =>
    refine iff_of_false (fun hopened => h.fresh.2 ?_) fun hcount => ?_
    · have hopened : k'.opened = k.opened := hopened
      rw [← hopened, h.opened]
      exact Finset.mem_insert_self ..
    · have hone := h.strandings
      omega

theorem accept_makes (obj : NetLinkWrapper) (k : Os) :
    obj.accept.wp Os.plain (fun r k' => ∃ P mode, Makes P mode k r k') k := by
  cases hs : obj.socket with
  | none =>
    unfold NetLinkWrapper.accept
    rw [hs]
    exact ⟨fun _ => True, true, .refused (Os.Same.refl k).restored⟩
  | some s => exact (accept_wp hs (fun _ => trivial) fun _ _ _ _ _ => trivial).mono fun _ _ h => ⟨_, _, h⟩

/-- **Which calls leak.** A call that makes a socket leaks no descriptor exactly when no
    `setsockopt`, `getsockname` or `F_SETFL` fails in it, and no `listen` on an open descriptor. -/
theorem leaks_iff (c : MakingCall) (k : Os) (r : Except JsError (Option NetLinkWrapper)) (k' : Os)
    (h : c.run.Runs Os.plain k r k') :
    NoLeak k r k' ↔ Os.strandings k'.log = Os.strandings k.log := by
  cases c with
  | construct cls isConstructCall args =>
    obtain ⟨r, k₁, hrun, rfl, rfl⟩ := Prog.runs_bind.mp h
    exact (new_makes hrun).noLeak_iff
  | accept obj =>
    obtain ⟨P, mode, hmakes⟩ := (accept_makes obj k).runs h
    exact hmakes.noLeak_iff

section Listener

/-- A TCP server on descriptor 3, and a process that has nothing else open. -/
private def listener : NetLinkWrapper := .ofSocket
  { hostTo := [], hostFrom := [], portTo := 0, portFrom := 8000, protocol := .tcp, ipVer := .ip4,
    type := .server, blocking := true, listenQueue := 50, socketHandler := 3 }

private def listening : Os := ⟨{3}, fun _ => false, []⟩

theorem leaks_iff_accepted : ∃ a k', listener.accept.Runs Os.plain listening (.ok (some a)) k' ∧
    k'.opened = {4, 3} ∧ (NoLeak listening (.ok (some a)) k' ↔
      Os.strandings k'.log = Os.strandings listening.log) := by
  let addr : SockAddr := ⟨.inet, lit "127.0.0.1", 9000, by decide⟩
  let k₁ := listening.next false (.accept 3) (.ok (4, addr))
  let k₂ := k₁.next false (.getsockname 4) (.ok addr)
  let k₃ := k₂.next false (.getfl 4) (.ok 0)
  have haccept : listening.Possible (.accept 3) (.ok (4, addr)) :=
    Os.possible_of_open rfl (by decide) nofun (by rintro _ ⟨⟩; exact ⟨by decide, by decide⟩)
  have hopen : (4 : Int) ∈ ({4, 3} : Finset Int) := by decide
  have hgetsockname : k₁.Possible (.getsockname 4) (.ok addr) :=
    Os.possible_of_open rfl hopen nofun nofun
  have hgetfl : k₂.Possible (.getfl 4) (.ok 0) := Os.possible_of_open rfl hopen nofun nofun
  have hsetfl : k₃.Possible (.setfl 4 (0 &&& ~~~ oNonblock)) (.ok ()) :=
    Os.possible_of_open rfl hopen nofun nofun
  have hrun : listener.accept.Runs Os.plain listening (.ok (some _)) _ :=
    ⟨_, _, ⟨haccept, false, rfl⟩, _, _, ⟨hgetsockname, false, rfl⟩, _, _, ⟨hgetfl, false, rfl⟩,
      _, _, ⟨hsetfl, false, rfl⟩, rfl, rfl⟩
  exact ⟨_, _, hrun, rfl, leaks_iff (.accept listener) _ _ _ hrun⟩

/-- `getsockname` fails on a connection that was just accepted: the call throws, and the
    connection's descriptor stays open. -/
theorem accept_leaks :
    ∃ e k', listener.accept.Runs Os.plain listening (.error e) k' ∧ k'.opened = {4, 3} ∧
      ¬ NoLeak listening (.error e) k' := by
  let addr : SockAddr := ⟨.inet, lit "127.0.0.1", 9000, by decide⟩
  have haccept : listening.Possible (.accept 3) (.ok (4, addr)) :=
    Os.possible_of_open rfl (by decide) nofun (by rintro _ ⟨⟩; exact ⟨by decide, by decide⟩)
  have hgetsockname : (listening.next false (.accept 3) (.ok (4, addr))).Possible (.getsockname 4)
      (.error (.other 105)) := Os.possible_of_open rfl (by decide) nofun nofun
  refine ⟨_, _, ⟨_, _, ⟨haccept, false, rfl⟩, _, _, ⟨hgetsockname, false, rfl⟩, rfl, rfl⟩, rfl, ?_⟩
  intro h
  have h : ({4, 3} : Finset Int) = {3} := h
  exact absurd h (by decide)

end Listener

end NetLink
