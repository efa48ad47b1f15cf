import NetLink.Proof.Rounds
import NetLink.Proof.Kinds
import NetLink.Kernel.Log

/-!
# What becomes of a resolver's list

Both `initSocket` and `sendTo` ask the resolver once and leave the list to a scope guard.
`initSocket` starts from a null pointer and gives the guard its value, so the list is released
once on every way out, and nothing is when there is none (`initSocket_balanced`).

`sendTo` gives the guard its variable, which the resolver sets only when it succeeds, and which
nothing has set before. When the resolver fails the guard releases whatever that memory held.
-/

namespace NetLink

open Interaction NetLinkWrapper
open Socket (SendToVars)

/-- Releasing the one list that is out balances the record. -/
theorem Log.wp_releasing {α : Type} {x : α} {list : List AddrInfo}
    {Φ : α → List SysEvent → Prop} {log : List SysEvent}
    (hlog : Log.lists log = ([], (headPtr list).toList, false))
    (h : ∀ log', Log.Balanced log' → Log.resolverFailed log' = false → Φ x log') :
    (releasing x (headPtr list)).wp Log.kernel Φ log := by
  simp only [Log.lists, Prod.mk.injEq] at hlog
  obtain ⟨hfreed, hheads, hfailed⟩ := hlog
  cases hhead : headPtr list with
  | none =>
    rw [hhead] at hheads
    exact h log (hfreed.trans hheads.symm) hfailed
  | some p =>
    rw [hhead] at hheads
    refine Log.wp_ask.mpr fun r => h _ ?_ ?_
    · rw [Log.Balanced, Log.freed_append, Log.heads_append, hfreed, hheads]
      rfl
    · rw [Log.resolverFailed_append, hfailed]
      rfl

/-! ## `initSocket` -/

section InitSocket

theorem connectedOrClose_unrelated (fd : Int) (r : Except Errno Unit) :
    (Socket.connectedOrClose fd r).Asks Log.Unrelated := by
  cases r with
  | ok => exact trivial
  | error e => exact ⟨trivial, fun _ => trivial⟩

theorem tryAddress_unrelated (s : Socket) (fd : Int) (res : AddrInfo) :
    (s.tryAddress fd res).Asks Log.Unrelated := by
  unfold Socket.tryAddress
  cases s.type with
  | client =>
    simp only
    split
    · exact ⟨trivial, fun r => (connectedOrClose_unrelated fd r).bind fun _ => trivial⟩
    · exact ⟨trivial, fun r => (connectedOrClose_unrelated fd r).bind fun _ => trivial⟩
  | server =>
    refine ⟨trivial, ?_⟩
    intro r
    cases r with
    | error e => exact trivial
    | ok =>
      refine ⟨trivial, fun r => (connectedOrClose_unrelated fd r).bind ?_⟩
      intro connected
      split
      · refine ⟨trivial, ?_⟩
        intro r
        cases r <;> exact trivial
      · exact trivial

theorem candidateLoop_unrelated (list : List AddrInfo) (s : Socket) :
    (Socket.candidateLoop list s).Asks Log.Unrelated := by
  induction list generalizing s with
  | nil => exact trivial
  | cons res next ih =>
    refine ⟨trivial, ?_⟩
    intro r
    cases r with
    | error e => exact ih _
    | ok fd =>
      refine (tryAddress_unrelated _ fd res).bind ?_
      intro outcome
      rcases outcome with e | _ | _
      · exact trivial
      · exact ih _
      · exact trivial

theorem connectFirst_unrelated (s : Socket) (list : List AddrInfo) :
    (s.connectFirst list).Asks Log.Unrelated := by
  refine (candidateLoop_unrelated list s).bind ?_
  intro outcome
  rcases outcome with e | ⟨_ | _, s⟩
  · exact trivial
  · exact trivial
  · simp only
    split
    · refine ⟨trivial, ?_⟩
      intro r
      cases r <;> exact trivial
    · exact trivial

/-- **`initSocket`** releases exactly the list it was given. -/
theorem initSocket_balanced (s : Socket) :
    s.initSocket.wp Log.kernel (fun _ => Log.Balanced) [] := by
  rw [initSocket_eq, Log.wp_ask]
  intro r
  cases r with
  | error text => exact rfl
  | ok list =>
    rw [Prog.wp_bind]
    -- The list stays the one that is out, and nothing is freed, until the guard goes.
    have hrest : (s.connectFirst list).wp Log.kernel
        (fun _ log => Log.lists log = ([], (headPtr list).toList, false))
        [⟨.getaddrinfo s.host s.service s.conf, .ok list⟩] := by
      refine (connectFirst_unrelated s list).wp (fun _ _ _ _ => trivial) ?_
        (Log.lists_getaddrinfo _ _ _ list)
      rintro log q r _ hlog hq rfl
      rw [Log.lists_unrelated hq, hlog]
    exact hrest.mono fun outcome log hlog => Log.wp_releasing hlog fun _ h _ => h

theorem new_balanced (cls : SocketClass) (isConstructCall : Bool) (args : List JsValue) :
    (cls.new isConstructCall args).wp Log.kernel (fun _ => Log.Balanced) [] := by
  rw [cls.new_eq]
  unfold construct
  split
  · exact rfl
  split
  · exact rfl
  · exact Prog.wp_bind.mpr (initSocket_balanced _)

end InitSocket

/-! ## `sendTo` -/

/-- A call releases what the resolver gave it, and a failed resolver makes it throw and nothing
    else. -/
def ReleasesLists (o : Except JsError Unit) (log : List SysEvent) : Prop :=
  Log.Balanced log ∧ (Log.resolverFailed log = true → o = .error setAddrError)

def SendToReleases (stack : Ptr) (o : Except JsError Unit) (log : List SysEvent) : Prop :=
  ReleasesLists o log ↔ (Log.resolverFailed log = true → stack = none)

theorem SendToReleases.of_balanced {stack : Ptr} {o : Except JsError Unit} {log : List SysEvent}
    (hlog : Log.Balanced log) (hok : Log.resolverFailed log = false) :
    SendToReleases stack o log :=
  iff_of_true ⟨hlog, fun h => absurd (hok.symm.trans h) (by decide)⟩
    fun h => absurd (hok.symm.trans h) (by decide)

/-- `sendTo` gives back the list it got, and, when it got none, what its pointer held. -/
theorem sendToLoop_releases {s : Socket} (hudp : s.protocol = .udp) (hver : s.ipVer ≠ .any)
    (stack : Ptr) (a : SendToArgs) :
    (sendToLoop s stack a).wp Log.kernel (SendToReleases stack) [] := by
  refine ⟨fun v log => Log.lists log = ([], (headPtr v.res).toList, false), ?_, ?_⟩
  · rw [sendToLoop_enter hudp hver, Log.wp_ask]
    intro r
    cases r with
    | error text =>
      -- The resolver failed, and the guard frees what `stack` was.
      cases stack with
      | none => exact iff_of_true ⟨rfl, fun _ => rfl⟩ fun _ => rfl
      | some p =>
        refine Log.wp_ask.mpr fun _ => iff_of_false (fun h => ?_) fun h => ?_
        · exact absurd h.1 (List.cons_ne_nil p [])
        · exact absurd (h rfl) (Option.some_ne_none p)
    | ok res => exact Log.lists_getaddrinfo _ _ _ res
  · intro v log hlog
    rw [sendToLoop_body]
    split
    · cases v.res with
      | nil => exact Log.wp_ask.mpr nofun
      | cons info rest =>
        refine Log.wp_ask.mpr ?_
        intro r
        have hlog : Log.lists (log ++ [⟨_, r⟩]) = ([], (headPtr v.res).toList, false) := by
          rw [Log.lists_unrelated (q := .sendto _ _ _) trivial, hlog]
        unfold sendToRound
        split
        · exact Log.wp_releasing hlog fun _ => .of_balanced
        · exact hlog
    · exact Log.wp_releasing hlog fun _ => .of_balanced

/-- Every `sendTo`: a call that does not get to the resolver has nothing to release. -/
theorem sendTo_releases (obj : NetLinkWrapper) (stack : Ptr) (args : List JsValue) :
    (obj.sendTo stack args).wp Log.kernel (SendToReleases stack) [] := by
  have hnothing (o : Except JsError Unit) : SendToReleases stack o [] := .of_balanced rfl rfl
  cases hsocket : obj.socket with
  | none =>
    unfold NetLinkWrapper.sendTo
    rw [hsocket]
    simp only
    split
    · exact Loop.wp_done (hnothing _)
    · exact Loop.wp_done (hnothing _)
  | some s =>
    rw [Live.sendTo_eq ⟨obj, s, hsocket⟩]
    split
    · exact Loop.wp_done (hnothing _)
    · by_cases h : s.protocol ≠ .udp ∨ s.ipVer = .any
      · obtain ⟨e, henter⟩ := sendToLoop_refuses h stack (sendToArgs args).2
        exact Loop.wp_leaves henter (hnothing _)
      · rw [not_or, not_not] at h
        exact sendToLoop_releases h.1 h.2 stack _

/-! ## Both -/

/-- The calls that use the resolver. `stack` is what the result pointer of `sendTo` holds before
    anything is stored in it. -/
inductive ResolverCall
  | construct (cls : SocketClass) (isConstructCall : Bool) (args : List JsValue)
  | sendTo (obj : NetLinkWrapper) (stack : Ptr) (args : List JsValue)

namespace ResolverCall

def Vars : ResolverCall → Type
  | construct .. => Empty
  | sendTo .. => Socket.SendToVars

def run : (c : ResolverCall) → SysLoop c.Vars (Except JsError Unit)
  | construct cls isConstructCall args =>
    .ofProg (cls.new isConstructCall args >>= fun r => .ret (r.map fun _ => ()))
  | sendTo obj stack args => obj.sendTo stack args

/-- What it got from the resolver is released, each list once, and nothing else; and a `sendTo`
    whose resolver fails only throws. -/
def Releases (o : Except JsError Unit) (log : List SysEvent) : ResolverCall → Prop
  | construct .. => Log.Balanced log
  | sendTo .. => ReleasesLists o log

/-- The result pointer is null before the resolver is asked. -/
def StartsNull : ResolverCall → Prop
  | construct .. => True
  | sendTo _ stack _ => stack = none

end ResolverCall

/-- **Resolver lists are released once, exactly where the resolver succeeds or the result pointer
    is null before it is asked.** -/
theorem resolver_lists_released (c : ResolverCall) (o : Except JsError Unit) (log : List SysEvent)
    (h : c.run.Returns Log.kernel [] o log) :
    c.Releases o log ↔ (Log.resolverFailed log = true → c.StartsNull) := by
  cases c with
  | construct cls isConstructCall args =>
    obtain ⟨r, log', hrun, rfl, rfl⟩ := Prog.runs_bind.mp (Loop.returns_ofProg.mp h)
    exact iff_of_true ((new_balanced cls isConstructCall args).runs hrun) fun _ => trivial
  | sendTo obj stack args => exact (sendTo_releases obj stack args).returns h

section Garbage

private def callArgs : List JsValue := [.string [104], .number (.finite 9000), .string [97]]

/-- What it asks of a resolver that fails, when its pointer held `stack`. -/
private def failedLog (stack : Ptr) : List SysEvent :=
  ⟨.getaddrinfo (some [104]) (portStr 9000) ⟨false, .inet, .dgram⟩, .error []⟩ ::
    stack.toList.map fun p => ⟨.freeaddrinfo p, ()⟩

private theorem sendTo_resolver_fails (stack : Ptr) :
    ((SocketUDP.on 3 8000).wrapper.sendTo stack callArgs).Returns Log.kernel []
      (.error setAddrError) (failedLog stack) := by
  have hcall : (SocketUDP.on 3 8000).wrapper.sendTo stack callArgs =
      sendToLoop (SocketUDP.on 3 8000).socket stack (sendToArgs callArgs).2 :=
    (SocketUDP.on 3 8000).sendTo_eq stack callArgs
  rw [hcall, Loop.Returns, Loop.start, sendToLoop_enter rfl (by decide)]
  refine Loop.returnsFrom_ask.mpr ⟨.error [], failedLog none, rfl, ?_⟩
  cases stack with
  | none => exact Loop.returnsFrom_done.mpr ⟨rfl, rfl⟩
  | some p =>
    refine Loop.returnsFrom_ask.mpr ⟨(), failedLog (some p), rfl, ?_⟩
    exact Loop.returnsFrom_done.mpr ⟨rfl, rfl⟩

theorem resolver_lists_released_null :
    let call := ResolverCall.sendTo (SocketUDP.on 3 8000).wrapper none callArgs
    call.Releases (.error setAddrError) (failedLog none) ↔
      (Log.resolverFailed (failedLog none) = true → call.StartsNull) :=
  resolver_lists_released _ _ _ (sendTo_resolver_fails none)

/-- The resolver fails, and the result pointer held something: that is freed. -/
theorem sendTo_frees_garbage :
    let call := ResolverCall.sendTo (SocketUDP.on 3 8000).wrapper (some 57005) callArgs
    let log := failedLog (some 57005)
    call.run.Returns Log.kernel [] (.error setAddrError) log ∧ Log.freed log = [57005] ∧
      ¬ call.Releases (.error setAddrError) log := by
  refine ⟨sendTo_resolver_fails (some 57005), rfl, ?_⟩
  intro hrel
  exact absurd (show [57005] = [] from hrel.1) (List.cons_ne_nil _ _)

end Garbage

end NetLink
