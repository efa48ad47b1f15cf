import NetLink.Lib.Variant
import NetLink.Proof.Dispatch

/-!
# How long `listen` takes

`listen` reads the clock once to fix the time it is to end, and twice in every round: for its test,
and again for the timeout it hands to `select`. Two things are said here of any environment with
a clock, whatever it answers otherwise.

The walk over the group is bounded even when callbacks add to the group, because every callback
uses up one of the sockets that `select` counted. So `listen` ends once the clock has passed its
end (`listen_ends`).

The timeout is a difference of unsigned numbers. When the clock passes the end between the test
and the second reading it wraps around, and `select` is asked to wait for half an eternity
(`listen_timeout_iff`). With `listen()`, whose time is nothing, one tick is enough.
-/

namespace NetLink

open Interaction

namespace SocketGroup

/-- An environment with a clock. `readings` counts how often it has been read. -/
structure Clocked {K : Type} (ker : Kernel (Call ⊕ GroupCall) GroupRet K) (clock : Nat → Timeval)
    (readings : K → Nat) : Prop where
  reads : ∀ {k now k'}, ker.answers k (.inr .gettimeofday) now k' →
    now = clock (readings k) ∧ readings k' = readings k + 1
  keeps : ∀ {k q r k'}, q ≠ .inr .gettimeofday → ker.answers k q r k' → readings k' = readings k

theorem Listening.clocked (clock : Nat → Timeval) (reacts : Reaction) :
    Clocked (Listening.free clock reacts) clock Listening.readings where
  reads ha := by
    obtain ⟨rfl, rfl⟩ := ha
    exact ⟨rfl, rfl⟩
  keeps {k q r k'} hq ha := by
    cases q with
    | inl q =>
      cases q
      case ioctl => exact congrArg Listening.readings ha.2
      all_goals exact ha.elim
    | inr q =>
      cases q with
      | gettimeofday => exact absurd rfl hq
      | exec =>
        obtain ⟨-, rfl⟩ := ha
        rfl
      | outOfBounds => exact r.elim
      | select nfds fds timeout =>
        cases r with
        | error e => exact congrArg Listening.readings ha
        | ok ready =>
          obtain ⟨-, -, size, rfl⟩ := ha
          rfl

/-- The questions that are asked for a member. -/
def Aside : Call ⊕ GroupCall → Prop
  | .inl (.ioctl _) | .inr (.exec ..) | .inr .outOfBounds => True
  | _ => False

theorem call_asks (cmd : Ptr) (socket : Nat) (reference : Ptr) (mem : Memory) :
    (call cmd socket reference mem).Asks Aside := by
  cases cmd with
  | none => trivial
  | some cmd => exact ⟨trivial, fun _ => trivial⟩

theorem launch_asks (abi : Abi) (reference : Ptr) (mem : Memory) (socket : Nat) :
    (launch abi reference mem socket).Asks Aside := by
  unfold launch
  simp only
  split
  · exact call_asks ..
  split
  · rw [Socket.nextReadSize_eq]
    refine ⟨trivial, ?_⟩
    intro r
    cases r with
    | error e => trivial
    | ok n =>
      show Prog.Asks Aside (if _ then _ else _)
      split
      · exact call_asks ..
      · exact call_asks ..
  · exact call_asks ..

/-! ## What one step does to the clock -/

section Clock

variable {K : Type} {ker : Kernel (Call ⊕ GroupCall) GroupRet K} {clock : Nat → Timeval}
  {readings : K → Nat} {abi : Abi} {milisec : UInt32} {reference : Ptr} {mem : Memory} {k : K}

/-- The same environment, with other questions allowed. -/
def allowing (ker : Kernel (Call ⊕ GroupCall) GroupRet K) (allowed : K → Call ⊕ GroupCall → Prop) :
    Kernel (Call ⊕ GroupCall) GroupRet K := ⟨allowed, ker.answers⟩

theorem launch_readings (h : Clocked ker clock readings) {allowed : K → Call ⊕ GroupCall → Prop}
    (hallowed : ∀ k q, Aside q → allowed k q) (socket : Nat) :
    (launch abi reference mem socket).wp (allowing ker allowed)
      (fun _ k' => readings k' = readings k) k := by
  refine (launch_asks abi reference mem socket).wp (fun k q _ hq => hallowed k q hq) ?_ rfl
  intro k' q r k'' hk' hq ha
  refine (h.keeps ?_ ha).trans hk'
  rintro rfl
  exact hq

/-- **The outer loop**: the clock is read for the test, and again for the timeout. -/
theorem Clocked.outer_wp (h : Clocked ker clock readings) {allowed : K → Call ⊕ GroupCall → Prop}
    (hclock : ∀ k, allowed k (.inr .gettimeofday)) (haside : ∀ k q, Aside q → allowed k q)
    {mem₀ : Memory} {finTime : UInt64} {executedOnce result : Bool} {Ψ : ListenVars ⊕ (Except Exception Bool × Memory) → K → Prop}
    (hleave : ∀ o k', readings k' = readings k + 1 → Ψ (.inr (o, mem)) k')
    (hselect : ((clock (readings k)).getTime < finTime ∨ executedOnce = false) →
      ∀ k', readings k' = readings k + 2 → allowed k' (.inr (.select (maxHandle mem + 1)
        (setSockets mem) (.ofMilisec (finTime - (clock (readings k + 1)).getTime)))))
    (herror : ∀ o k', readings k' = readings k + 2 → Ψ (.inr (o, mem)) k')
    (hround : ((clock (readings k)).getTime < finTime ∨ executedOnce = false) →
      ∀ ready k', readings k' = readings k + 2 → Ψ (.inl (.inner finTime result mem ready 0 0)) k') :
    ((listen abi milisec reference mem₀).body (.outer finTime executedOnce result mem)).wp
      (allowing ker allowed) Ψ k := by
  refine ⟨hclock k, ?_⟩
  intro now k₁ ha
  obtain ⟨rfl, h₁⟩ := h.reads ha
  show Prog.wp _ (if _ then _ else _) _ _
  split
  · rename_i htest
    show Prog.wp _ (if _ then _ else _) _ _
    split
    · refine ⟨hclock k₁, ?_⟩
      intro now k₂ ha
      obtain ⟨rfl, h₂⟩ := h.reads ha
      have h₂ : readings k₂ = readings k + 2 := by rw [h₂, h₁]
      rw [h₁]
      refine ⟨hselect htest k₂ h₂, ?_⟩
      intro r k₃ ha
      have h₃ : readings k₃ = readings k + 2 := (h.keeps (by nofun) ha).trans h₂
      cases r with
      | error e => exact herror _ k₃ h₃
      | ok ready => exact hround htest ready k₃ h₃
    · exact ⟨haside k₁ _ trivial, fun r => Empty.elim r⟩
  · exact hleave _ k₁ h₁

/-- **The inner loop** does not read the clock. -/
theorem Clocked.inner_wp (h : Clocked ker clock readings) {allowed : K → Call ⊕ GroupCall → Prop}
    (haside : ∀ k q, Aside q → allowed k q) {mem₀ : Memory} {finTime : UInt64} {result : Bool}
    {ready : List Int} {i launchSockets : Nat}
    {Ψ : ListenVars ⊕ (Except Exception Bool × Memory) → K → Prop}
    (hover : ∀ result, Ψ (.inl (.outer finTime true result mem)) k)
    (hskip : i < mem.group.vSocket.length →
      Ψ (.inl (.inner finTime result mem ready (i + 1) launchSockets)) k)
    (herror : ∀ o k', readings k' = readings k → Ψ (.inr o) k')
    (hlaunch : launchSockets < ready.length → ∀ mem' k', readings k' = readings k →
      Ψ (.inl (.inner finTime result mem' ready (i + 1) (launchSockets + 1))) k') :
    ((listen abi milisec reference mem₀).body
      (.inner finTime result mem ready i launchSockets)).wp (allowing ker allowed) Ψ k := by
  unfold listen
  simp only
  split
  · rename_i hgo
    by_cases hfits : FitsSet (mem.sockets mem.group.vSocket[i]).socketHandler
    · rw [if_pos hfits]
      split
      · apply Prog.wp_bind.mpr
        apply (launch_readings h haside _).mono
        rintro ⟨o, mem'⟩ k' hk'
        cases o with
        | error e => exact herror _ k' hk'
        | ok => exact hlaunch hgo.1 mem' k' hk'
      · exact hskip hgo.2
    · rw [if_neg hfits]
      exact ⟨haside k _ trivial, fun r => Empty.elim r⟩
  · exact hover _

end Clock

/-! ## It ends -/

section Ends

variable {K : Type} {ker : Kernel (Call ⊕ GroupCall) GroupRet K} {clock : Nat → Timeval}
  {readings : K → Nat} {abi : Abi} {milisec : UInt32} {reference : Ptr} {mem : Memory} {k : K}

/-- The readings to come before the clock has passed the end; the ready sockets not come to; the
    members ahead. -/
def variant (passes : Nat) (readings : K → Nat) : ListenVars → K → Nat × Nat × Nat
  | .outer _ executedOnce _ _, k => ((if executedOnce then 0 else 1) + (passes - readings k), 0, 0)
  | .inner _ _ mem ready i launchSockets, k =>
    (passes - readings k, 1 + (ready.length - launchSockets), mem.group.vSocket.length - i)

/-- The time at which `listen` is to end. -/
def ListenVars.finTime : ListenVars → UInt64
  | .outer finTime .. => finTime
  | .inner finTime .. => finTime

/-- **`listen` ends**, whatever `select` finds and whatever the callbacks do, when the clock comes
    to pass its end. -/
theorem listen_ends (h : Clocked ker clock readings) {passes : Nat}
    (hpasses : ∀ n, passes ≤ n →
      (clock (readings k)).getTime + milisec.toUInt64 ≤ (clock n).getTime) :
    (listen abi milisec reference mem).Ends ker (k, (listen abi milisec reference mem).start) := by
  have hallow : ∀ (k : K) (q : Call ⊕ GroupCall), Aside q → True := fun _ _ _ => trivial
  have hends : (listen abi milisec reference mem).Ends (allowing ker fun _ _ => True)
      (k, (listen abi milisec reference mem).start) := by
    have hwf : WellFounded (Prod.Lex (· < ·) (Prod.Lex (· < ·) (· < ·)) :
        Nat × Nat × Nat → Nat × Nat × Nat → Prop) :=
      (Prod.lex Nat.lt_wfRel (Prod.lex Nat.lt_wfRel Nat.lt_wfRel)).wf
    refine Loop.ends_of_variant hwf (variant passes readings)
      (I := fun v _ => v.finTime = (clock (readings k)).getTime + milisec.toUInt64) ?_ ?_
    · intro v k' hv
      cases v with
      | outer finTime executedOnce result mem =>
        apply h.outer_wp (fun _ => trivial) hallow
        · exact fun _ _ _ => trivial
        · exact fun _ _ _ => trivial
        · exact fun _ _ _ => trivial
        · intro htest ready k'' hk''
          refine ⟨hv, .left _ _ ?_⟩
          -- a second round is only begun while the clock has not passed the end
          show passes - readings k'' < (if executedOnce then 0 else 1) + (passes - readings k')
          rw [hk'']
          cases executedOnce with
          | false => simp only [Bool.false_eq_true, if_false]; omega
          | true =>
            have hbefore : readings k' < passes := by
              apply Nat.lt_of_not_le
              intro hafter
              have hpast := hpasses (readings k') hafter
              have hv : finTime = _ := hv
              rw [← hv] at hpast
              rcases htest with hlt | hfalse
              · exact UInt64.not_le.mpr hlt hpast
              · cases hfalse
            simp only [if_true]
            omega
      | inner finTime result mem ready i launchSockets =>
        apply h.inner_wp hallow
        · intro result
          refine ⟨hv, ?_⟩
          show Prod.Lex _ _ (0 + _, _) _
          rw [Nat.zero_add]
          exact .right _ (.left _ _ (by omega))
        · intro hi
          exact ⟨hv, .right _ (.right _ (by omega))⟩
        · exact fun _ _ _ => trivial
        · intro hmore mem' k'' hk''
          refine ⟨hv, ?_⟩
          show Prod.Lex _ _ (passes - readings k'', _) _
          rw [hk'']
          exact .right _ (.left _ _ (by omega))
    · refine ⟨trivial, ?_⟩
      intro now k' ha
      obtain ⟨rfl, -⟩ := h.reads ha
      exact rfl
  have hans : (allowing ker fun _ _ => True).answers = ker.answers := rfl
  exact hends.congr hans

end Ends

theorem listen_ends_second : (listen .lp64 1000 none twoSockets).Ends
    (Listening.free (fun n => if n < 5 then ⟨0, 0⟩ else ⟨1, 0⟩) fun _ _ _ _ => True)
    (.start, (listen .lp64 1000 none twoSockets).start) := by
  refine listen_ends (Listening.clocked _ _) (show ∀ n, 5 ≤ n → _ from ?_)
  intro n hn
  simp only [Nat.not_lt.mpr hn, if_false]
  decide

/-! ## The timeout -/

/-- The clock reads a number of milliseconds back from its `timeval`. -/
theorem getTime_ofMilisec (milisec : UInt64) : (Timeval.ofMilisec milisec).getTime = milisec := by
  apply UInt64.toNat_inj.mp
  have husec : milisec.toNat % 1000 * 1000 < 2 ^ 64 := by omega
  have hsec : milisec.toNat / 1000 * 1000 < 2 ^ 64 :=
    Nat.lt_of_le_of_lt (Nat.div_mul_le_self ..) milisec.toNat_lt
  have hlt := milisec.toNat_lt
  simp only [Timeval.getTime, Timeval.ofMilisec, UInt64.toNat_add, UInt64.toNat_mul,
    UInt64.toNat_div, UInt64.toNat_mod, UInt64.reduceToNat]
  rw [Nat.mod_eq_of_lt hsec, Nat.mod_eq_of_lt husec]
  omega

section Timeout

variable {K : Type} {ker : Kernel (Call ⊕ GroupCall) GroupRet K} {clock : Nat → Timeval}
  {readings : K → Nat} {abi : Abi} {milisec : UInt32} {reference : Ptr} {mem : Memory} {k : K}

/-- Only `select` is restricted: its timeout is what is left until `finTime`, by the last reading
    of a clock that had been read before `first`. -/
def timed (clock : Nat → Timeval) (readings : K → Nat) (first : Nat) (finTime : UInt64) (k : K) :
    Call ⊕ GroupCall → Prop
  | .inr (.select _ _ timeout) => first < readings k ∧
      timeout = .ofMilisec (finTime - (clock (readings k - 1)).getTime)
  | _ => True

theorem listen_timed_wp (h : Clocked ker clock readings) :
    (listen abi milisec reference mem).wp (allowing ker (timed clock readings (readings k)
      ((clock (readings k)).getTime + milisec.toUInt64))) (fun _ _ => True) k := by
  refine ⟨fun v k' => v.finTime = (clock (readings k)).getTime + milisec.toUInt64 ∧
    readings k < readings k', ?_, ?_⟩
  · refine ⟨trivial, ?_⟩
    intro now k' ha
    obtain ⟨rfl, hk'⟩ := h.reads ha
    exact ⟨rfl, by omega⟩
  have haside : ∀ k' q, Aside q → timed clock readings (readings k)
      ((clock (readings k)).getTime + milisec.toUInt64) k' q := by
    intro k' q hq
    unfold timed
    split
    · exact hq.elim
    · trivial
  intro v k' hv
  obtain ⟨hfin, hk'⟩ := hv
  cases v with
  | outer finTime executedOnce result mem =>
    apply h.outer_wp (fun _ => trivial) haside
    · exact fun _ _ _ => trivial
    · intro _ k'' hk''
      refine ⟨by omega, ?_⟩
      rw [hk'', ← hfin]
      rfl
    · exact fun _ _ _ => trivial
    · intro _ ready k'' hk''
      exact ⟨hfin, by omega⟩
  | inner finTime result mem ready i launchSockets =>
    apply h.inner_wp haside
    · exact fun _ => ⟨hfin, hk'⟩
    · exact fun _ => ⟨hfin, hk'⟩
    · exact fun _ _ _ => trivial
    · intro _ mem' k'' hk''
      exact ⟨hfin, by omega⟩

/-- **`select` is never asked to wait longer than `listen` was told, unless the clock has passed
    the end since the test**: then what is left of the time wraps around. -/
theorem listen_timeout_iff (h : Clocked ker clock readings)
    (hclock : ∀ {m n}, m ≤ n → (clock m).getTime ≤ (clock n).getTime)
    (hfit : (clock (readings k)).getTime.toNat + milisec.toNat < 2 ^ 64)
    {k' : K} {v : Option ListenVars} {nfds : Int} {fds : List Int} {timeout : Timeval} {next}
    (hreach : (listen abi milisec reference mem).Reaches ker
      (k, (listen abi milisec reference mem).start)
      (k', ⟨v, .ask (.inr (.select nfds fds timeout)) next⟩)) :
    timeout.getTime ≤ milisec.toUInt64 ↔
      (clock (readings k' - 1)).getTime ≤ (clock (readings k)).getTime + milisec.toUInt64 := by
  have hans : ker.answers = (allowing ker (timed clock readings (readings k)
      ((clock (readings k)).getTime + milisec.toUInt64))).answers := rfl
  obtain ⟨hread, rfl⟩ := (listen_timed_wp h).allowed (hreach.congr hans)
  have hlater := hclock (show readings k ≤ readings k' - 1 by omega)
  rw [getTime_ofMilisec]
  rw [UInt64.le_iff_toNat_le] at hlater
  simp only [UInt64.le_iff_toNat_le, UInt64.toNat_sub, UInt64.toNat_add, UInt32.toNat_toUInt64]
  have hlt := (clock (readings k' - 1)).getTime.toNat_lt
  omega

end Timeout

/-- A clock that goes on by a millisecond at its third reading. -/
def ticking : Nat → Timeval
  | 0 | 1 => ⟨0, 0⟩
  | _ => ⟨0, 1000⟩

theorem ticking_mono {m n : Nat} (h : m ≤ n) : (ticking m).getTime ≤ (ticking n).getTime := by
  match m, n with
  | 0, 0 | 0, 1 | 1, 1 => decide
  | 0, n + 2 | 1, n + 2 => show (Timeval.mk 0 0).getTime ≤ (Timeval.mk 0 1000).getTime; decide
  | m + 2, n + 2 => exact UInt64.le_refl _

/-- A `listen(0)` for which the clock goes on between the test and the second reading. -/
theorem listen_timeout_wraps :
    ¬ (Timeval.ofMilisec 18446744073709551615).getTime ≤ (0 : UInt32).toUInt64 := by
  have htimeout := @listen_timeout_iff Listening (Listening.free ticking LeaveAlone) ticking
    Listening.readings .lp64 0 none twoSockets .start (Listening.clocked _ _) ticking_mono (by decide)
  have hreads (n : Nat) : (Listening.free ticking LeaveAlone).answers ⟨n, [], []⟩ (.inr .gettimeofday)
    (ticking n) ⟨n + 1, [], []⟩ := ⟨rfl, rfl⟩
  have hwraps := htimeout (.head (.answer _ (hreads 0)) (.head .again
    (.head (.answer _ (hreads 1)) (.head (.answer _ (hreads 2)) .refl))))
  exact fun hle => absurd (hwraps.mp hle) (by decide)

end SocketGroup

end NetLink
