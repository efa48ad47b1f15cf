import Mathlib.Data.Finset.Basic
import NetLink.Model.Posix

/-!
# A kernel with a descriptor table

The descriptors that are open in the process, whether each has `O_NONBLOCK`, and a record of the
calls. Every call may succeed or fail, within these rules:

* `socket` and `accept` hand out a descriptor that is not negative and not open. One from
  `socket` blocks; for one from `accept` that depends on the system and is left open.
* `close` releases its descriptor, also when it reports an error.
* `F_SETFL` sets the mode as asked or fails without effect.
* `EBADF` is what a call gets on a descriptor that is not open, and no other call gets it.

What a program may do is a parameter: the calls it may make on a descriptor, in a given state.
-/

namespace NetLink

open Interaction

/-- The `errno` a call left, when it failed. -/
def Call.errno? : (q : Call) → q.Ret → Option Errno
  | .socket .., .error e | .connect .., .error e | .bind .., .error e | .listen .., .error e
  | .setsockopt .., .error e | .accept .., .error e | .getsockname .., .error e
  | .close .., .error e | .send .., .error e | .recv .., .error e | .sendto .., .error e
  | .recvfrom .., .error e | .ioctl .., .error e | .getfl .., .error e | .setfl .., .error e =>
    some e
  | _, _ => none

/-- The descriptor a call handed out, when it succeeded. -/
def Call.handed? : (q : Call) → q.Ret → Option Int
  | .socket .., .ok fd => some fd
  | .accept _, .ok (fd, _) => some fd
  | _, _ => none

/-- The descriptors of a process. -/
structure Os where
  opened : Finset Int
  nonblock : Int → Bool
  log : List SysEvent

namespace Os

def hasNonblock (flags : BitVec 32) : Bool := flags &&& oNonblock ≠ 0

def open' (k : Os) (fd : Int) (nonblock : Bool) : Os :=
  { k with opened := insert fd k.opened, nonblock := Function.update k.nonblock fd nonblock }

/-- What an answer changes. `mode` is the mode of an accepted descriptor. -/
def after (k : Os) (mode : Bool) : (q : Call) → q.Ret → Os
  | .socket .., .ok fd => k.open' fd false
  | .accept _, .ok (fd, _) => k.open' fd mode
  | .close fd, _ => { k with opened := k.opened.erase fd }
  | .setfl fd flags, .ok () => { k with nonblock := Function.update k.nonblock fd (hasNonblock flags) }
  | _, _ => k

/-- What an answer changes, with the record. -/
def next (k : Os) (mode : Bool) (q : Call) (r : q.Ret) : Os :=
  { k.after mode q r with log := k.log ++ [⟨q, r⟩] }

/-- A descriptor that can be handed out. -/
def Fresh (k : Os) (fd : Int) : Prop := 0 ≤ fd ∧ fd ∉ k.opened

/-- The answers a call can get. -/
structure Possible (k : Os) (q : Call) (r : q.Ret) : Prop where
  badf : ∀ fd ∈ q.fd?, q.errno? r = some .ebadf ↔ fd ∉ k.opened
  fresh : ∀ fd ∈ q.handed? r, k.Fresh fd

theorem possible_of_open {k : Os} {q : Call} {r : q.Ret} {fd : Int} (hfd : q.fd? = some fd)
    (hopen : fd ∈ k.opened) (hr : q.errno? r ≠ some .ebadf)
    (hfresh : ∀ fd ∈ q.handed? r, k.Fresh fd) : k.Possible q r where
  badf := by
    intro fd' h
    obtain rfl : fd = fd' := Option.some.inj (hfd.symm.trans h)
    exact iff_of_false hr (not_not.mpr hopen)
  fresh := hfresh

/-- The kernel, for a program that may make the calls `may`, each on this descriptor. -/
def kernel (may : Os → Call → Int → Prop) : Kernel Call Call.Ret Os where
  allowed k q := ∀ fd ∈ q.fd?, may k q fd
  answers k q r k' := k.Possible q r ∧ ∃ mode, k' = k.next mode q r

/-- The kernel, for a program that may do anything. -/
def plain : Kernel Call Call.Ret Os := kernel fun _ _ _ => True

variable {may : Os → Call → Int → Prop} {α ρ σ : Type}

/-- What a program may do does not change what the kernel answers. -/
theorem runs_of_plain {t : Sys α} {k k' : Os} {a : α} (h : t.Runs plain k a k') :
    t.Runs (kernel may) k a k' :=
  h.congr (show plain.answers = (kernel may).answers from rfl)

theorem reaches_of_plain {L : SysLoop σ ρ} {st st' : Os × SysConfig σ ρ}
    (h : L.Reaches plain st st') : L.Reaches (kernel may) st st' :=
  h.congr (show plain.answers = (kernel may).answers from rfl)

theorem wp_ask {q : Call} {next : q.Ret → Sys α} {Φ : α → Os → Prop} {k : Os} :
    (Prog.ask q next).wp (kernel may) Φ k ↔ (∀ fd ∈ q.fd?, may k q fd) ∧
      ∀ r mode, k.Possible q r → (next r).wp (kernel may) Φ (k.next mode q r) := by
  refine and_congr_right fun _ => ⟨fun h r mode hr => h r _ ⟨hr, mode, rfl⟩, fun h => ?_⟩
  intro r _ h
  obtain ⟨hr, mode, rfl⟩ := h
  exact h r mode hr

/-! ## What is read off the state -/

@[simp] theorem next_opened (k : Os) (mode : Bool) (q : Call) (r : q.Ret) :
    (k.next mode q r).opened = (k.after mode q r).opened := rfl

@[simp] theorem next_nonblock (k : Os) (mode : Bool) (q : Call) (r : q.Ret) :
    (k.next mode q r).nonblock = (k.after mode q r).nonblock := rfl

@[simp] theorem next_log (k : Os) (mode : Bool) (q : Call) (r : q.Ret) :
    (k.next mode q r).log = k.log ++ [⟨q, r⟩] := rfl

/-! ## The record -/

theorem log_grows {k k' : Os} {q : Call} {r : q.Ret} (h : (kernel may).answers k q r k') :
    k.log <+: k'.log := by
  obtain ⟨-, mode, rfl⟩ := h
  exact List.prefix_append ..

theorem log_of_runs {t : Sys α} {k k' : Os} {a : α} (h : t.Runs (kernel may) k a k') :
    k.log <+: k'.log :=
  h.rel (fun k k' => k.log <+: k'.log) (fun _ => List.prefix_refl _) List.IsPrefix.trans log_grows

theorem log_of_returns {L : SysLoop σ ρ} {k k' : Os} {o : ρ} (h : L.Returns (kernel may) k o k') :
    k.log <+: k'.log := by
  obtain ⟨v, h⟩ := h
  exact h.rel (fun k k' => k.log <+: k'.log) (fun _ => List.prefix_refl _) List.IsPrefix.trans log_grows

/-- How often a descriptor of this number was closed. -/
def closings (fd : Int) (log : List SysEvent) : Nat :=
  log.countP fun
    | ⟨.close fd', _⟩ => fd' = fd
    | _ => false

/-- The failures in the middle of making a socket, on a descriptor that is open. -/
def strandings (log : List SysEvent) : Nat :=
  log.countP fun
    | ⟨.setsockopt _, .error _⟩ => true
    | ⟨.listen .., .error e⟩ => e ≠ .ebadf
    | ⟨.getsockname _, .error _⟩ => true
    | ⟨.setfl .., .error _⟩ => true
    | _ => false

@[simp] theorem closings_append (fd : Int) (a b : List SysEvent) :
    closings fd (a ++ b) = closings fd a + closings fd b := List.countP_append

@[simp] theorem strandings_append (a b : List SysEvent) :
    strandings (a ++ b) = strandings a + strandings b := List.countP_append

/-- Every `close` was of an open descriptor: none was told `EBADF`. -/
def ClosesOpen (log : List SysEvent) : Prop := ∀ fd, (⟨.close fd, .error .ebadf⟩ : SysEvent) ∉ log

theorem ClosesOpen.next {k : Os} {mode : Bool} {q : Call} {r : q.Ret} (h : ClosesOpen k.log)
    (hr : k.Possible q r) (hclose : ∀ fd, q = .close fd → fd ∈ k.opened) :
    ClosesOpen (k.next mode q r).log := by
  intro fd hmem
  rcases List.mem_append.mp hmem with hold | hnew
  · exact h fd hold
  · cases List.mem_singleton.mp hnew
    exact (hr.badf fd rfl).mp rfl (hclose fd rfl)

/-! ## Calls that leave the table alone -/

/-- The calls that move data, and those that are not about a descriptor. -/
def Quiet : Call → Prop
  | .send .. | .recv .. | .sendto .. | .recvfrom .. | .ioctl _ | .getfl _ | .getaddrinfo ..
  | .freeaddrinfo _ | .nullDeref | .badAlloc => True
  | _ => False

/-- A quiet call on this descriptor, or on none. -/
def QuietOn (fd : Int) (q : Call) : Prop := Quiet q ∧ ∀ fd' ∈ q.fd?, fd' = fd

/-- Nothing has happened to the descriptor table. -/
structure Same (k k' : Os) : Prop where
  opened : k'.opened = k.opened
  nonblock : k'.nonblock = k.nonblock
  closings : ∀ fd, closings fd k'.log = closings fd k.log
  strandings : strandings k'.log = strandings k.log

theorem Same.refl (k : Os) : Same k k := ⟨rfl, rfl, fun _ => rfl, rfl⟩

theorem Same.next {k k' : Os} {q : Call} (h : Same k k') (hq : Quiet q) (mode : Bool)
    (r : q.Ret) : Same k (k'.next mode q r) := by
  have hafter : k'.after mode q r = k' := by cases q <;> first | exact hq.elim | rfl
  have hclosings (fd : Int) : Os.closings fd [⟨q, r⟩] = 0 := by
    cases q <;> first | exact hq.elim | rfl
  have hstrandings : Os.strandings [⟨q, r⟩] = 0 := by cases q <;> first | exact hq.elim | rfl
  refine ⟨?_, ?_, fun fd => ?_, ?_⟩
  · rw [next_opened, hafter, h.opened]
  · rw [next_nonblock, hafter, h.nonblock]
  · rw [next_log, closings_append, hclosings, h.closings, Nat.add_zero]
  · rw [next_log, strandings_append, hstrandings, h.strandings, Nat.add_zero]

section Frame

variable {fd : Int} {k₀ k : Os}

theorem quiet_wp {t : Sys α} (ht : t.Asks (QuietOn fd)) (hmay : ∀ k' q, Same k₀ k' → may k' q fd)
    (hk : Same k₀ k) : t.wp (kernel may) (fun _ => Same k₀) k := by
  refine ht.wp (fun k q hk hq fd' hfd => hq.2 fd' hfd ▸ hmay k q hk) ?_ hk
  intro k q r _ hk hq h
  obtain ⟨-, mode, rfl⟩ := h
  exact hk.next hq.1 mode r

theorem quiet_loop_wp {L : SysLoop σ ρ} (hL : L.Asks (QuietOn fd))
    (hmay : ∀ k' q, Same k₀ k' → may k' q fd) (hk : Same k₀ k) :
    L.wp (kernel may) (fun _ => Same k₀) k := by
  refine hL.wp (fun k q hk hq fd' hfd => hq.2 fd' hfd ▸ hmay k q hk) ?_ hk
  intro k q r _ hk hq h
  obtain ⟨-, mode, rfl⟩ := h
  exact hk.next hq.1 mode r

end Frame

/-! ## Calls that change it -/

/-- A descriptor was closed, once. -/
structure Closed (fd : Int) (k k' : Os) : Prop where
  opened : k'.opened = k.opened.erase fd
  nonblock : k'.nonblock = k.nonblock
  closings : closings fd k'.log = closings fd k.log + 1

theorem Same.close {k k' : Os} (h : Same k k') (fd : Int) (mode : Bool)
    (r : (Call.close fd).Ret) : Closed fd k (k'.next mode (.close fd) r) where
  opened := by rw [next_opened, ← h.opened]; rfl
  nonblock := h.nonblock
  closings := by
    rw [next_log, closings_append, h.closings]
    simp [Os.closings]

structure Restored (k k' : Os) : Prop where
  opened : k'.opened = k.opened
  keeps : ∀ fd ∈ k.opened, k'.nonblock fd = k.nonblock fd
  strandings : strandings k'.log = strandings k.log

/-- One more descriptor is open, in the mode `mode`, and `n` failures came after it was handed
    out. -/
structure Opened (fd : Int) (mode : Bool) (n : Nat) (k k' : Os) : Prop where
  fresh : k.Fresh fd
  opened : k'.opened = insert fd k.opened
  mode : k'.nonblock fd = mode
  keeps : ∀ g ∈ k.opened, k'.nonblock g = k.nonblock g
  strandings : strandings k'.log = strandings k.log + n

theorem Same.restored {k k' : Os} (h : Same k k') : Restored k k' :=
  ⟨h.opened, fun fd _ => congrFun h.nonblock fd, h.strandings⟩

theorem Restored.trans {k k₁ k₂ : Os} (h : Restored k k₁) (h' : Restored k₁ k₂) :
    Restored k k₂ where
  opened := h'.opened.trans h.opened
  keeps fd hfd := (h'.keeps fd (h.opened ▸ hfd)).trans (h.keeps fd hfd)
  strandings := h'.strandings.trans h.strandings

theorem Opened.frame {fd : Int} {mode : Bool} {n : Nat} {k k₁ k₂ k₃ : Os}
    (h : Opened fd mode n k₁ k₂) (hbefore : Restored k k₁) (hafter : Restored k₂ k₃) :
    Opened fd mode n k k₃ where
  fresh := ⟨h.fresh.1, hbefore.opened ▸ h.fresh.2⟩
  opened := by rw [hafter.opened, h.opened, hbefore.opened]
  mode := by rw [hafter.keeps fd (h.opened ▸ Finset.mem_insert_self fd _), h.mode]
  keeps g hg := by
    have hg₁ : g ∈ k₁.opened := hbefore.opened ▸ hg
    rw [hafter.keeps g (h.opened ▸ Finset.mem_insert_of_mem hg₁), h.keeps g hg₁,
      hbefore.keeps g hg]
  strandings := by rw [hafter.strandings, h.strandings, hbefore.strandings]

theorem update_keeps {k : Os} {fd : Int} (h : k.Fresh fd) (mode : Bool) :
    ∀ g ∈ k.opened, Function.update k.nonblock fd mode g = k.nonblock g := by
  intro g hg
  refine Function.update_of_ne ?_ _ _
  rintro rfl
  exact h.2 hg

theorem hasNonblock_and_not (flags : BitVec 32) : hasNonblock (flags &&& ~~~ oNonblock) = false := by
  have h : flags &&& ~~~ oNonblock &&& oNonblock = 0#32 := by
    rw [BitVec.and_assoc, show ~~~ oNonblock &&& oNonblock = 0#32 from rfl, BitVec.and_zero]
  simp [hasNonblock, h]

theorem hasNonblock_or (flags : BitVec 32) : hasNonblock (flags ||| oNonblock) = true := by
  have h : (flags ||| oNonblock) &&& oNonblock = oNonblock := by
    ext i
    simp only [BitVec.getElem_and, BitVec.getElem_or]
    cases flags[i] <;> cases oNonblock[i] <;> rfl
  rw [hasNonblock, h]
  decide

end Os

end NetLink
