import NetLink.Model.Exports
import NetLink.Proof.Lifecycle
import NetLink.Kernel.Ports

/-!
# What an object says of its ports

A wrapper answers its getters from copies that were made when it was constructed or accepted, and
the kernel is not asked again. `Site.truthful` says that they tell the truth all the same, in every
state a process can get to: `portFrom` is the port the descriptor is bound to, `portTo` of a client
the port of its peer, and the version is that of the descriptor's family.

For a constructor the port has gone through the text that the resolver is given
(`ofDigitChars_portStr`), and when it was 0 it is read back from the kernel. Later nothing that a
method does binds a descriptor anew (`run_binds`), and no other wrapper has this one's descriptor.
-/

namespace NetLink

open Interaction NetLinkWrapper

/-- The service that a port is written as spells that port. -/
theorem ofDigitChars_portStr {port : Nat} (hport : port < 65536) :
    Nat.ofDigitChars 10 (portStr port) 0 = port := by
  have hlen : (Nat.toDigits 10 port).length ≤ 9 :=
    (Nat.length_toDigits_le_iff (by decide) (by decide)).mpr (Nat.lt_trans hport (by decide))
  rw [portStr, List.take_of_length_le hlen, Nat.ofDigitChars_ten_toDigits]

/-! ## Making sockets -/

/-- A socket and what the kernel knows of its descriptor agree. -/
structure Placed (s : Socket) (b : Binding) : Prop where
  version : s.ipVer ≠ .any
  family : b.family = s.ipVer.family
  portFrom : ∃ here : SockAddr, b.localAddr = some here ∧ s.portFrom = getInPort here
  portTo : s.type = .client → ∃ peer : SockAddr, b.peer = some peer ∧ s.portTo = getInPort peer

/-- They agree once a local port that was asked for as 0 is filled in. -/
def Connected (s : Socket) (b : Binding) : Prop :=
  ∃ port, (s.portFrom ≠ 0 → port = s.portFrom) ∧ Placed { s with portFrom := port } b

/-- What a constructor goes on to open, as far as ports go. -/
structure Ported (cls : SocketClass) (s : Socket) : Prop extends cls.Opens s where
  portTo_lt : s.portTo < 65536
  portFrom_lt : s.portFrom < 65536
  portFrom_client : s.type = .client → s.portFrom = 0

theorem Ported.on {cls : SocketClass} {s : Socket} (h : Ported cls s) (fd : Int) :
    Ported cls { s with socketHandler := fd } :=
  ⟨h.toOpens.on fd, h.portTo_lt, h.portFrom_lt, h.portFrom_client⟩

theorem parse_ported (cls : SocketClass) (args : List JsValue) : Ported cls (cls.parse args).2 where
  toOpens := cls.parse_opens args
  portTo_lt := by cases cls <;> first | exact UInt16.toNat_lt _ | exact Nat.zero_lt_succ _
  portFrom_lt := by cases cls <;> first | exact UInt16.toNat_lt _ | exact Nat.zero_lt_succ _
  portFrom_client h := by cases cls <;> first | rfl | cases h

/-- An address that the resolver may offer for this socket. -/
structure Offered (s : Socket) (info : AddrInfo) : Prop where
  family : info.family = s.ipVer.family
  port : getInPort info.addr = if s.type = .client then s.portTo else s.portFrom

section Making

variable {cls : SocketClass} {s : Socket} {fd : Int} {k : Ports}

theorem Ported.not_udp (hs : Ported cls s) (htype : s.type = .client) : s.protocol ≠ .udp := by
  rw [hs.protocol]
  rw [hs.type] at htype
  cases cls <;> cases htype
  nofun

theorem Ported.service (hs : Ported cls s) :
    Nat.ofDigitChars 10 s.service 0 = if s.type = .client then s.portTo else s.portFrom := by
  unfold Socket.service
  by_cases htype : s.type = .client
  · have htcp : s.protocol = .tcp := by
      have h := hs.not_udp htype
      cases hp : s.protocol with
      | tcp => rfl
      | udp => exact absurd hp h
    rw [if_pos ⟨htype, htcp⟩, if_pos htype]
    exact ofDigitChars_portStr hs.portTo_lt
  · rw [if_neg fun h => htype h.1, if_neg htype]
    exact ofDigitChars_portStr hs.portFrom_lt

theorem Ports.wp_ask {α : Type} {q : Call} {next : q.Ret → Sys α} {Φ : α → Ports → Prop}
    (h : ∀ r k', k.rule q r k' → (next r).wp Ports.plain Φ k') :
    (Prog.ask q next).wp Ports.plain Φ k :=
  ⟨fun _ _ => trivial, fun r k' ha => h r k' ha.2⟩

theorem connectedOrClose_connected {r : Except Errno Unit} (h : r = .ok () → Connected s (k.binding fd)) :
    (Socket.connectedOrClose fd r).wp Ports.plain
      (fun connected k' => connected = true → Connected s (k'.binding fd)) k := by
  cases r with
  | ok => exact fun _ => h rfl
  | error e => exact Ports.wp_ask fun r k' _ => nofun

theorem tryAddress_connected (hs : Ported cls s) {res : AddrInfo} (hres : Offered s res)
    (hfamily : (k.binding fd).family = s.ipVer.family) :
    (s.tryAddress fd res).wp Ports.plain
      (fun o k' => o = .ok true → Connected s (k'.binding fd)) k := by
  have hport := hres.port
  unfold Socket.tryAddress
  cases htype : s.type with
  | client =>
    rw [if_pos htype] at hport
    simp only [if_neg (hs.not_udp htype)]
    apply Ports.wp_ask
    intro r k₁ hrule
    show (Socket.connectedOrClose fd r >>= _).wp _ _ _
    refine Prog.wp_bind.mpr ((connectedOrClose_connected (s := s) fun hr => ?_).mono ?_)
    · subst hr
      obtain ⟨here, hbinding⟩ := hrule
      rw [hbinding, Function.update_self]
      refine ⟨getInPort here, fun h => absurd (hs.portFrom_client htype) h, hs.ipVer, hfamily, ?_, ?_⟩
      · exact ⟨here, rfl, rfl⟩
      · exact fun _ => ⟨res.addr, rfl, hport.symm⟩
    · intro connected k' h ho
      exact h (Except.ok.inj ho)
  | server =>
    have hserver : s.type ≠ .client := by
      rw [htype]
      nofun
    rw [if_neg hserver] at hport
    apply Ports.wp_ask
    intro r k₁ hrule
    cases r with
    | error e => nofun
    | ok =>
      have hbefore : k₁.binding = k.binding := hrule
      apply Ports.wp_ask
      intro r k₂ hrule
      show (Socket.connectedOrClose fd r >>= _).wp _ _ _
      refine Prog.wp_bind.mpr ((connectedOrClose_connected (s := s) fun hr => ?_).mono ?_)
      · subst hr
        obtain ⟨here, hhere, hbinding⟩ := hrule
        rw [hbinding, Function.update_self, hbefore]
        refine ⟨getInPort here, fun h => ?_, hs.ipVer, hfamily, ⟨here, rfl, rfl⟩,
          fun h => absurd h hserver⟩
        -- a port that was asked for is the one that is got
        have hne : res.addr.port ≠ 0 := by
          intro hzero
          rw [← hport, getInPort, hzero] at h
          exact h rfl
        rw [getInPort, hhere hne]
        exact hport
      · intro connected k₃ h
        split
        · apply Ports.wp_ask
          intro r k₄ hrule
          cases r with
          | error e => nofun
          | ok =>
            have hafter : k₄.binding = k₃.binding := hrule
            intro ho
            rw [hafter]
            exact h (Except.ok.inj ho)
        · intro ho
          exact h (Except.ok.inj ho)

theorem candidateLoop_connected (list : List AddrInfo) (hs : Ported cls s)
    (hlist : ∀ info ∈ list, Offered s info) :
    (Socket.candidateLoop list s).wp Ports.plain
      (fun o k' => ∀ s', o = .ok (true, s') → Connected s' (k'.binding s'.socketHandler)) k := by
  induction list generalizing s k with
  | nil =>
    intro s' h
    cases h
  | cons res next ih =>
    have hon (fd : Int) : ∀ info ∈ next, Offered { s with socketHandler := fd } info := by
      intro info hinfo
      have h := hlist info (List.mem_cons_of_mem _ hinfo)
      exact ⟨h.family, h.port⟩
    have hres : Offered s res := hlist res List.mem_cons_self
    apply Ports.wp_ask
    intro r k₁ hrule
    cases r with
    | error e => exact ih (hs.on (-1)) (hon (-1))
    | ok fd =>
      have hbinding : k₁.binding = Function.update k.binding fd ⟨res.family, none, none⟩ := hrule
      have hfamily : (k₁.binding fd).family = s.ipVer.family := by
        rw [hbinding, Function.update_self]
        exact hres.family
      show (Socket.tryAddress { s with socketHandler := fd } fd res >>= _).wp _ _ _
      refine Prog.wp_bind.mpr ((tryAddress_connected (s := { s with socketHandler := fd })
        (hs.on fd) ⟨hres.family, hres.port⟩ hfamily).mono ?_)
      intro o k₂ h
      rcases o with e | _ | _
      · intro s' ho
        cases ho
      · exact ih (hs.on fd) (hon fd)
      · intro s' ho
        rw [(hs.on fd).toOpens.settleIpVer] at ho
        cases ho
        exact h rfl

theorem connectFirst_placed (list : List AddrInfo) (hs : Ported cls s)
    (hlist : ∀ info ∈ list, Offered s info) :
    (s.connectFirst list).wp Ports.plain
      (fun o k' => ∀ s', o = .ok s' → Placed s' (k'.binding s'.socketHandler)) k := by
  refine Prog.wp_bind.mpr ((candidateLoop_connected list hs hlist).mono ?_)
  intro o k₁ h
  rcases o with e | ⟨_ | _, s₁⟩
  · intro s' ho
    cases ho
  · intro s' ho
    cases ho
  · obtain ⟨port, hport, hplaced⟩ := h s₁ rfl
    simp only
    split
    · apply Ports.wp_ask
      intro r k₂ hrule
      cases r with
      | error e =>
        intro s' ho
        cases ho
      | ok sin =>
        obtain ⟨hbinding, hsin⟩ := hrule
        intro s' ho
        cases ho
        rw [hbinding]
        exact ⟨hplaced.version, hplaced.family, ⟨sin, hsin, rfl⟩, hplaced.portTo⟩
    · rename_i hne
      intro s' ho
      cases ho
      rw [hport hne] at hplaced
      exact hplaced

/-- **Making a socket** places it. -/
theorem initSocket_placed (hs : Ported cls s) :
    s.initSocket.wp Ports.plain
      (fun o k' => ∀ s', o = .ok s' → Placed s' (k'.binding s'.socketHandler)) k := by
  rw [initSocket_eq]
  apply Ports.wp_ask
  intro r k₁ hrule
  cases r with
  | error text =>
    intro s' ho
    cases ho
  | ok list =>
    have hlist : ∀ info ∈ list, Offered s info := by
      intro info hinfo
      obtain ⟨hport, hfamily⟩ := hrule.2 info hinfo
      refine ⟨hfamily ?_, hport.trans hs.service⟩
      show s.ipVer.family ≠ .unspec
      cases hver : s.ipVer with
      | any => exact absurd hver hs.ipVer
      | ip4 => nofun
      | ip6 => nofun
    refine Prog.wp_bind.mpr ((connectFirst_placed list hs hlist).mono ?_)
    intro o k₂ h
    cases headPtr list with
    | none => exact h
    | some p =>
      apply Ports.wp_ask
      intro r k₃ hrule
      have hafter : k₃.binding = k₂.binding := hrule
      intro s' ho
      rw [hafter]
      exact h s' ho

end Making

/-! ## Wrappers -/

/-- A wrapper holds a socket and copies of its fields. -/
structure Copies (w : NetLinkWrapper) (s : Socket) : Prop where
  socket : w.socket = some s
  ipVersion : w.ipVersion = s.ipVer
  portFrom : w.portFrom = UInt16.ofNat s.portFrom
  portTo : w.portTo = UInt16.ofNat s.portTo

theorem copies_ofSocket (s : Socket) : Copies (.ofSocket s) s := ⟨rfl, rfl, rfl, rfl⟩

/-- A wrapper of a socket that is placed. -/
def Truthful (w : NetLinkWrapper) (b : Binding) : Prop := ∃ s, Copies w s ∧ Placed s b

section Wrappers

variable {cls : SocketClass} {w : NetLinkWrapper} {s : Socket} {abi : Abi} {k k' : Ports}

/-- The calls after which every descriptor is bound where it was. -/
def Ports.Settled : Call → Prop
  | .socket .. | .bind .. | .connect .. | .accept _ => False
  | _ => True

theorem Ports.Settled.rule {q : Call} (hq : Ports.Settled q) {r : q.Ret} (h : k.rule q r k') :
    k'.binding = k.binding := by
  cases q with
  | socket | bind | connect | accept => exact hq.elim
  | getaddrinfo host service hints =>
    cases r with
    | error e => exact h
    | ok list => exact h.1
  | getsockname fd =>
    cases r with
    | error e => exact h
    | ok sin => exact h.1
  | nullDeref | badAlloc => exact r.elim
  | _ => exact h

theorem Ports.Settled.of_quiet {fd : Int} {q : Call} (h : Os.QuietOn fd q) : Ports.Settled q := by
  obtain ⟨h, -⟩ := h
  cases q <;> first | exact h.elim | trivial

/-- The same bindings as before. -/
def Ports.Kept (k k' : Ports) : Prop := k'.binding = k.binding

theorem Ports.settled_loop_wp {σ ρ : Type} {P : Call → Prop} {L : SysLoop σ ρ} (hL : L.Asks P)
    (hP : ∀ q, P q → Ports.Settled q) : L.wp Ports.plain (fun _ => k.Kept) k :=
  hL.wp (fun _ _ _ _ _ _ => trivial)
    (fun _ q _ _ hk hq ha => ((hP q hq).rule ha.2).trans hk) rfl

theorem setBlocking_kept (blocking : Bool) :
    (s.setBlocking blocking).wp Ports.plain
      (fun x k' => x.2 = { s with blocking } ∧ k.Kept k') k := by
  unfold Socket.setBlocking
  apply Ports.wp_ask
  intro r k₁ (hrule : k.Kept k₁)
  cases blocking with
  | true =>
    apply Ports.wp_ask
    intro r k₂ hrule'
    cases r <;> exact ⟨rfl, Eq.trans hrule' hrule⟩
  | false =>
    apply Ports.wp_ask
    intro r k₂ hrule'
    cases r <;> exact ⟨rfl, Eq.trans hrule' hrule⟩

/-- **A method but `accept`** leaves every descriptor bound where it was. -/
theorem run_binding (abi : Abi) {m : Method} (hm : m ≠ .accept) (w : NetLinkWrapper) :
    (m.run abi w).wp Ports.plain (fun _ => k.Kept) k := by
  cases hs : w.socket with
  | none =>
    rcases run_destroyed abi m hs with ⟨-, henter⟩ | ⟨-, e, henter⟩
    · exact Loop.wp_leaves henter rfl
    · exact Loop.wp_leaves henter rfl
  | some s =>
    refine Ports.settled_loop_wp (run_asks abi m hs) fun q hq => ?_
    rcases hq.own hm with hquiet | rfl | ⟨⟨flags, rfl⟩, -⟩
    · exact .of_quiet hquiet
    · trivial
    · trivial

/-- What `accept` of a wrapper may do to the bindings: give a new descriptor one, as that of the
    descriptor that listens. -/
structure Accepts (s : Socket) (k : Ports) (r : Except JsError (Option NetLinkWrapper)) (k' : Ports) :
    Prop where
  keeps : ∀ fd ∈ k.os.opened, k'.binding fd = k.binding fd
  placed : ∀ a, r.toOption.join = some a → ∃ s', a = .ofSocket s' ∧ s'.ipVer = s.ipVer ∧
    ∃ here peer : SockAddr,
      k'.binding s'.socketHandler = ⟨(k.binding s.socketHandler).family, some here, some peer⟩ ∧
        s'.portFrom = getInPort here ∧ s'.portTo = getInPort peer ∧ s'.hostTo = peer.host ∧
          ∀ b ∈ (k.binding s.socketHandler).localAddr, here.port = b.port

/-- **`accept`** of a live wrapper. -/
theorem accept_binding (hs : w.socket = some s) :
    w.accept.wp Ports.plain (Accepts s k) k := by
  unfold NetLinkWrapper.accept Socket.accept
  rw [hs]
  have hnothing {k' : Ports} {r : Except JsError (Option NetLinkWrapper)}
      (hk : ∀ fd ∈ k.os.opened, k'.binding fd = k.binding fd) (hr : r.toOption.join = none) :
      Accepts s k r k' := ⟨hk, fun a ha => by cases hr.symm.trans ha⟩
  simp only
  split
  · exact hnothing (fun _ _ => rfl) rfl
  split
  · exact hnothing (fun _ _ => rfl) rfl
  · refine ⟨fun _ _ => trivial, ?_⟩
    intro r k₁ ha
    obtain ⟨⟨hpossible, -⟩, hrule⟩ := ha
    cases r with
    | error e => exact hnothing (fun fd _ => congrFun hrule fd) rfl
    | ok x =>
      obtain ⟨fd, addr⟩ := x
      obtain ⟨here, hport, hbinding⟩ := hrule
      have hfresh : fd ∉ k.os.opened := (hpossible.fresh fd rfl).2
      have hkeeps : ∀ g ∈ k.os.opened, k₁.binding g = k.binding g := by
        intro g hg
        rw [hbinding]
        refine Function.update_of_ne ?_ _ _
        rintro rfl
        exact hfresh hg
      apply Ports.wp_ask
      intro r k₂ hrule
      cases r with
      | error e => exact hnothing (fun g hg => (congrFun hrule g).trans (hkeeps g hg)) rfl
      | ok sin =>
        obtain ⟨hsame, hsin⟩ := hrule
        let a : Socket := ⟨addr.host, [], getInPort addr, getInPort sin, s.protocol, s.ipVer,
          .client, true, 0, fd⟩
        apply Prog.wp_bind.mpr
        show (a.setBlocking s.blocking >>= _).wp _ _ _
        refine Prog.wp_bind.mpr ((setBlocking_kept s.blocking).mono ?_)
        rintro ⟨o, a'⟩ k₃ ⟨(rfl : a' = _), hkept⟩
        have hafter : k₃.binding = k₁.binding := Eq.trans hkept hsame
        cases o with
        | error e =>
          exact hnothing (fun g hg => (congrFun hafter g).trans (hkeeps g hg)) rfl
        | ok =>
          refine ⟨fun g hg => (congrFun hafter g).trans (hkeeps g hg), ?_⟩
          rintro _ ⟨⟩
          have hown : k₁.binding fd = ⟨(k.binding s.socketHandler).family, some here, some addr⟩ := by
            rw [hbinding, Function.update_self]
          obtain rfl : here = sin := by
            rw [hown] at hsin
            exact Option.some.inj hsin
          refine ⟨_, rfl, rfl, here, addr, ?_, rfl, rfl, rfl, hport⟩
          rw [hafter]
          exact hown

/-! ## Constructors and methods -/

theorem opened_next {k : Os} {q : Call} {r : q.Ret} {mode : Bool} {fd : Int}
    (h : fd ∈ k.opened) (hclose : q ≠ .close fd) : fd ∈ (k.next mode q r).opened := by
  rw [Os.next_opened]
  cases q with
  | socket family socktype protocol =>
    cases r with
    | error e => exact h
    | ok fd' => exact Finset.mem_insert_of_mem h
  | accept fd' =>
    cases r with
    | error e => exact h
    | ok x => exact Finset.mem_insert_of_mem h
  | close fd' => exact Finset.mem_erase_of_ne_of_mem (fun heq => hclose (congrArg Call.close heq.symm)) h
  | setfl fd' flags => cases r <;> exact h
  | nullDeref | badAlloc => exact r.elim
  | _ => exact h

/-- A constructor leaves what is open bound where it was. -/
theorem new_keeps {isConstructCall : Bool} {args : List JsValue} {r : Except JsError NetLinkWrapper}
    (h : (cls.new isConstructCall args).Runs Ports.plain k r k') :
    ∀ fd ∈ k.os.opened, k'.binding fd = k.binding fd := by
  intro fd hfd
  have hwp : (cls.new isConstructCall args).wp (Ports.kernel (OnlyNew k.os.opened))
      (fun r k' => Makes cls.Opens false k.os (r.map some) k'.os) k :=
    (new_wp cls isConstructCall args k.os).refined (Ports.kernel_refines _)
  have hrun : (cls.new isConstructCall args).Runs (Ports.kernel (OnlyNew k.os.opened)) k r k' :=
    Ports.runs_of_plain h
  refine (hwp.keeps (I := fun k' => fd ∈ k'.os.opened ∧ k'.binding fd = k.binding fd) ?_
    hrun ⟨hfd, rfl⟩).2
  rintro k₁ q r k₂ hallowed ⟨⟨hpossible, mode, hos⟩, hrule⟩ ⟨hopen, hsame⟩
  have hnot : q.fd? ≠ some fd := fun h => (hallowed fd h).1 hfd
  have hopen' : fd ∈ k₂.os.opened := by
    rw [hos]
    apply opened_next hopen
    rintro rfl
    exact hnot rfl
  refine ⟨hopen', ?_⟩
  rw [Ports.rule_keeps hrule (fun h => (hpossible.fresh fd h).2 hopen) fun _ => hnot, hsame]

theorem new_truthful {isConstructCall : Bool} {args : List JsValue} {fd : Int}
    (h : (cls.new isConstructCall args).Runs Ports.plain k (.ok w) k') (hfd : w.fd? = some fd) :
    Truthful w (k'.binding fd) := by
  have hwp : (cls.new isConstructCall args).wp Ports.plain
      (fun r k' => ∀ w fd, r = .ok w → w.fd? = some fd → Truthful w (k'.binding fd)) k := by
    rw [cls.new_eq]
    unfold construct
    split
    · intro w fd h
      cases h
    split
    · intro w fd h
      cases h
    · refine Prog.wp_bind.mpr ((initSocket_placed (parse_ported cls args)).mono ?_)
      intro o k' h w fd hr hfd
      cases o with
      | error e => cases hr
      | ok s =>
        cases hr
        cases hfd
        exact ⟨s, copies_ofSocket s, h s rfl⟩
  exact hwp.runs h w fd rfl hfd

theorem run_accepts {out : Outcome} (hs : w.socket = some s)
    (h : (Method.accept.run abi w).Returns Ports.plain k out k') :
    ∃ r, out.accepted = r.toOption.join ∧ Accepts s k r k' := by
  obtain ⟨r, k₁, hrun, rfl, rfl⟩ := Prog.runs_bind.mp (Loop.returns_ofProg.mp h)
  exact ⟨r, rfl, (accept_binding hs).runs hrun⟩

/-- A method leaves what is open bound where it was. -/
theorem run_keeps {m : Method} {out : Outcome} (h : (m.run abi w).Returns Ports.plain k out k') :
    ∀ fd ∈ k.os.opened, k'.binding fd = k.binding fd := by
  intro fd hfd
  by_cases hm : m = .accept
  · subst hm
    cases hs : w.socket with
    | none =>
      rcases run_destroyed abi .accept hs with ⟨-, henter⟩ | ⟨-, e, henter⟩
      · exact congrFun ((Loop.wp_leaves (Φ := fun _ => k.Kept) henter rfl).returns h) fd
      · exact congrFun ((Loop.wp_leaves (Φ := fun _ => k.Kept) henter rfl).returns h) fd
    | some s =>
      obtain ⟨r, -, haccepts⟩ := run_accepts hs h
      exact haccepts.keeps fd hfd
  · exact congrFun ((run_binding abi hm w).returns h) fd

/-- What is left of a truthful wrapper is truthful. -/
theorem own_truthful {w' : NetLinkWrapper} {m : Method} {out : Outcome} {os os' : Os} {b : Binding}
    {fd : Int} (h : Effect w os m out os') (hw : Truthful w b) (hw' : out.wrapper = some w')
    (hfd : w'.fd? = some fd) : Truthful w' b := by
  obtain ⟨s, hcopies, hplaced⟩ := hw
  cases h with
  | unchanged =>
    cases hw'
    exact ⟨s, hcopies, hplaced⟩
  | accepted =>
    cases hw'
    exact ⟨s, hcopies, hplaced⟩
  | stranded =>
    cases hw'
    exact ⟨s, hcopies, hplaced⟩
  | @modeSet s' blocking _ _ _ hs =>
    cases hs.symm.trans hcopies.socket
    cases hw'
    exact ⟨{ s with blocking }, ⟨rfl, hcopies.ipVersion, hcopies.portFrom, hcopies.portTo⟩,
      hplaced.version, hplaced.family, hplaced.portFrom, hplaced.portTo⟩
  | @modeFailed s' blocking _ _ _ _ _ hs =>
    cases hs.symm.trans hcopies.socket
    cases hw'
    exact ⟨{ s with blocking }, ⟨rfl, hcopies.ipVersion, hcopies.portFrom, hcopies.portTo⟩,
      hplaced.version, hplaced.family, hplaced.portFrom, hplaced.portTo⟩
  | disconnected =>
    cases hw'
    cases hfd
  | finalised => cases hw'
  | collected => cases hw'

/-- Only `accept` of a live wrapper hands out another one. -/
theorem accepted_from {a : NetLinkWrapper} {m : Method} {out : Outcome} {os os' : Os}
    (h : Effect w os m out os') (ha : out.accepted = some a) :
    ∃ s, w.socket = some s ∧ m = .accept := by
  cases h with
  | accepted hs => exact ⟨_, hs, rfl⟩
  | _ => cases ha

theorem Truthful.accepted {r : Except JsError (Option NetLinkWrapper)} {a : NetLinkWrapper} {fd : Int}
    (hw : Truthful w (k.binding s.socketHandler)) (hs : w.socket = some s) (h : Accepts s k r k')
    (ha : r.toOption.join = some a) (hfd : a.fd? = some fd) : Truthful a (k'.binding fd) := by
  obtain ⟨s', rfl, hver, here, peer, hbinding, hportFrom, hportTo, -, -⟩ := h.placed a ha
  cases hfd
  obtain ⟨s₀, hcopies, hplaced⟩ := hw
  obtain rfl : s₀ = s := Option.some.inj (hcopies.socket.symm.trans hs)
  refine ⟨s', copies_ofSocket s', ?_⟩
  rw [hbinding]
  refine ⟨hver ▸ hplaced.version, hver ▸ hplaced.family, ⟨here, rfl, hportFrom⟩, fun _ => ?_⟩
  exact ⟨peer, rfl, hportTo⟩

end Wrappers

/-! ## Whole runs -/

/-- A process over a kernel that knows who is bound where. -/
structure Site where
  ports : Ports
  wrappers : List (Option NetLinkWrapper)

namespace Site

/-- The same process over a kernel that does not. -/
def process (p : Site) : Process := ⟨p.ports.os, p.wrappers⟩

/-- One step: a constructor or a method runs to its end. -/
inductive Step (abi : Abi) : Site → Action → Site → Prop
  | construct {p : Site} {cls : SocketClass} {isConstructCall : Bool} {args : List JsValue}
      {r : Except JsError NetLinkWrapper} {ports : Ports} :
      (cls.new isConstructCall args).Runs Ports.plain p.ports r ports →
      Step abi p (.construct cls isConstructCall args)
        ⟨ports, p.wrappers ++ (r.toOption.map some).toList⟩
  | call {p : Site} {i : Nat} {w : NetLinkWrapper} {m : Method} {out : Outcome} {ports : Ports} :
      p.process.At i w → (m.run abi w).Returns Ports.plain p.ports out ports →
      Step abi p (.call i m)
        ⟨ports, p.wrappers.set i out.wrapper ++ (out.accepted.map some).toList⟩

abbrev Steps (abi : Abi) : Site → Site → Prop :=
  Relation.ReflTransGen fun p p' => ∃ a, Step abi p a p'

/-- What can be got to from a site that has made no wrapper and no call. -/
def Reachable (abi : Abi) (p : Site) : Prop :=
  ∃ ports : Ports, ports.os.log = [] ∧ Steps abi ⟨ports, []⟩ p

/-- What is done over the one kernel is done over the other. -/
theorem Step.process {abi : Abi} {p p' : Site} {a : Action} (h : Step abi p a p') :
    Process.Step abi p.process a p'.process := by
  cases h with
  | construct hrun => exact .construct (hrun.below Ports.plain_refines)
  | call hi hret => exact .call hi (hret.below Ports.plain_refines)

theorem Reachable.process {abi : Abi} {p : Site} (h : Reachable abi p) :
    Process.Reachable abi p.process := by
  obtain ⟨ports, hlog, hsteps⟩ := h
  refine ⟨ports.os, hlog, hsteps.lift Site.process fun _ _ h => ?_⟩
  obtain ⟨a, hstep⟩ := h
  exact ⟨a, hstep.process⟩

/-- What holds of the live wrappers: what each says of itself is true. -/
def AllTruthful (p : Site) : Prop :=
  ∀ ⦃i w fd⦄, p.process.At i w → w.fd? = some fd → Truthful w (p.ports.binding fd)

theorem AllTruthful.step {abi : Abi} {p p' : Site} {a : Action} (h : AllTruthful p)
    (hinv : p.process.Inv) (hstep : Step abi p a p') : AllTruthful p' := by
  intro j w' fd hj hfd
  cases hstep with
  | @construct cls isConstructCall args r ports hrun =>
    rcases Process.at_append (p := p.process) hj with hold | ⟨-, hr⟩
    · show Truthful w' (ports.binding fd)
      rw [new_keeps hrun fd (hinv.opened hold hfd)]
      exact h hold hfd
    · cases r with
      | error e => cases hr
      | ok w =>
        cases hr
        exact new_truthful hrun hfd
  | @call i w m out ports hi hret =>
    have heffect : Effect w p.ports.os m out ports.os := hinv.effect hi (hret.below Ports.plain_refines)
    rcases Process.at_call (p := p.process) hj with ⟨rfl, hw'⟩ | ⟨-, hold⟩ | ha
    · have hown : w.fd? = some fd ∧ _ :=
        Process.own_opened heffect (fun fd hfd => hinv.opened hi hfd) hw' hfd
      show Truthful w' (ports.binding fd)
      rw [run_keeps hret fd (hinv.opened hi hown.1)]
      exact own_truthful heffect (h hi hown.1) hw' hfd
    · show Truthful w' (ports.binding fd)
      rw [run_keeps hret fd (hinv.opened hold hfd)]
      exact h hold hfd
    · obtain ⟨s, hs, rfl⟩ := accepted_from heffect ha
      obtain ⟨r, hr, haccepts⟩ := run_accepts hs hret
      exact (h hi (fd?_eq hs)).accepted hs haccepts (hr ▸ ha) hfd

theorem Reachable.truthful {abi : Abi} {p : Site} (h : Reachable abi p) : AllTruthful p := by
  obtain ⟨ports, hlog, hsteps⟩ := h
  induction hsteps with
  | refl =>
    intro i w fd hi
    cases hi
  | tail hsteps hstep ih =>
    obtain ⟨a, hstep⟩ := hstep
    exact AllTruthful.step ih (Reachable.process ⟨ports, hlog, hsteps⟩).inv.1 hstep

/-! ## The getters -/

/-- What the getters of a live wrapper show is what the kernel knows of its descriptor. -/
structure Honest (w : NetLinkWrapper) (b : Binding) : Prop where
  version : (b.family = .inet ∧ Accessor.isIPv4.get w = .boolean true ∧
      Accessor.isIPv6.get w = .boolean false) ∨
    (b.family = .inet6 ∧ Accessor.isIPv4.get w = .boolean false ∧
      Accessor.isIPv6.get w = .boolean true)
  portFrom : ∃ here : SockAddr, b.localAddr = some here ∧
    Accessor.portFrom.get w = .number here.port
  portTo : SocketClass.clientTCP.IsLive w → ∃ peer : SockAddr, b.peer = some peer ∧
    Accessor.portTo.get w = .number peer.port

theorem honest_of_truthful {w : NetLinkWrapper} {b : Binding} (h : Truthful w b) : Honest w b := by
  obtain ⟨s, hcopies, hplaced⟩ := h
  refine ⟨?_, ?_, ?_⟩
  · have hfamily := hplaced.family
    have hver := hplaced.version
    simp only [Accessor.get, isIPv4, isIPv6, hcopies.ipVersion]
    cases hip : s.ipVer with
    | ip4 =>
      rw [hip] at hfamily
      exact .inl ⟨hfamily, rfl, rfl⟩
    | ip6 =>
      rw [hip] at hfamily
      exact .inr ⟨hfamily, rfl, rfl⟩
    | any => exact absurd hip hver
  · obtain ⟨here, hhere, hport⟩ := hplaced.portFrom
    refine ⟨here, hhere, congrArg Shown.number ?_⟩
    rw [hcopies.portFrom, hport]
    exact UInt16.ofNat_toNat
  · intro hclient
    obtain ⟨s', hs', -, htype, -⟩ := SocketClass.isLive_iff.mp hclient
    cases hcopies.socket.symm.trans hs'
    obtain ⟨peer, hpeer, hport⟩ := hplaced.portTo htype
    refine ⟨peer, hpeer, congrArg Shown.number ?_⟩
    rw [hcopies.portTo, hport]
    exact UInt16.ofNat_toNat

/-- What getters tell, in a state of a site. -/
structure TellsTruth (abi : Abi) (p : Site) : Prop where
  /-- A live wrapper shows the version and the ports of its descriptor. -/
  honest : ∀ {i w fd}, p.process.At i w → w.fd? = some fd → Honest w (p.ports.binding fd)
  /-- A wrapper that `accept` hands out shows the version and the local port of the one that
      listens, and the address of its peer. -/
  accepted : ∀ {i w a out ports}, p.process.At i w →
    (Method.accept.run abi w).Returns Ports.plain p.ports out ports → out.accepted = some a →
    Accessor.portFrom.get a = Accessor.portFrom.get w ∧
      Accessor.isIPv4.get a = Accessor.isIPv4.get w ∧ ∃ fd peer, a.fd? = some fd ∧
        (ports.binding fd).peer = some peer ∧ Accessor.portTo.get a = .number peer.port ∧
          Accessor.hostTo.get a = .text peer.host

/-- **The getters tell the truth**, whatever has been done to the wrapper or to any other. -/
theorem getters_truthful {abi : Abi} {p : Site} (h : Reachable abi p) : TellsTruth abi p := by
  have htruthful := h.truthful
  refine ⟨fun hi hfd => honest_of_truthful (htruthful hi hfd), ?_⟩
  intro i w a out ports hi hret ha
  have heffect : Effect w p.ports.os .accept out ports.os := h.process.inv.1.effect hi (hret.below Ports.plain_refines)
  obtain ⟨s, hs, -⟩ := accepted_from heffect ha
  obtain ⟨r, hr, haccepts⟩ := run_accepts hs hret
  obtain ⟨s', rfl, hver, here, peer, hbinding, hportFrom, hportTo, hhostTo, hport⟩ :=
    haccepts.placed a (hr ▸ ha)
  obtain ⟨s₀, hcopies, hplaced⟩ := htruthful hi (fd?_eq hs)
  obtain rfl : s₀ = s := Option.some.inj (hcopies.socket.symm.trans hs)
  obtain ⟨b, hb, hlistens⟩ := hplaced.portFrom
  refine ⟨congrArg Shown.number ?_, ?_, s'.socketHandler, peer, rfl, ?_, congrArg Shown.number ?_,
    congrArg Shown.text hhostTo⟩
  · rw [hcopies.portFrom, hlistens, ← show getInPort here = getInPort b from
      congrArg UInt16.toNat (hport b hb), ← hportFrom]
    rfl
  · simp only [Accessor.get, isIPv4, hcopies.ipVersion, ← hver]
    rfl
  · rw [hbinding]
  · show UInt16.ofNat s'.portTo = peer.port
    rw [hportTo]
    exact UInt16.ofNat_toNat

section OneSite

/-- What the resolver has for a local address with port 0. -/
def anyPort : AddrInfo :=
  { AddrInfo.loopback 7 with addr := { (AddrInfo.loopback 7).addr with port := 0 } }

/-- What the kernel knows after `new SocketUDP()` was handed descriptor 3 and port 9000. -/
def onePorts : Ports :=
  let start : Os := ⟨∅, fun _ => false, []⟩
  let os := start.next false (.getaddrinfo none (portStr 0) ⟨true, .inet, .dgram⟩) (.ok [anyPort])
  let os := os.next false (.socket .inet .dgram 17) (.ok 3)
  let os := os.next false (.setsockopt 3) (.ok ())
  let os := os.next false (.bind 3 anyPort.addr) (.ok ())
  let os := os.next false (.getsockname 3) (.ok (AddrInfo.loopback 7).addr)
  let here := some (AddrInfo.loopback 7).addr
  let binding := Function.update (fun _ => ⟨.unspec, none, none⟩) 3 ⟨.inet, none, none⟩
  ⟨os.next false (.freeaddrinfo 7) (),
    Function.update binding 3 { binding 3 with localAddr := here }⟩

def oneSite : Site := ⟨onePorts, [some (SocketUDP.on 3 9000).wrapper]⟩

theorem oneSite_step (abi : Abi) :
    Step abi ⟨⟨⟨∅, fun _ => false, []⟩, fun _ => ⟨.unspec, none, none⟩⟩, []⟩
      (.construct .udp true []) oneSite := by
  have hoffered : ∀ info ∈ [anyPort], info.addr.port.toNat = Nat.ofDigitChars 10 (portStr 0) 0 ∧
      (Family.inet ≠ .unspec → info.family = .inet) := by
    intro info hinfo
    obtain rfl := List.mem_singleton.mp hinfo
    exact ⟨rfl, fun _ => rfl⟩
  have hrun : (SocketClass.udp.new true []).Runs Ports.plain
      ⟨⟨∅, fun _ => false, []⟩, fun _ => ⟨.unspec, none, none⟩⟩
      (.ok (SocketUDP.on 3 9000).wrapper) onePorts := by
    refine ⟨.ok [anyPort], ⟨_, _⟩, ⟨⟨⟨nofun, nofun⟩, false, rfl⟩, rfl, hoffered⟩, ?_⟩
    refine ⟨.ok 3, ⟨_, _⟩,
      ⟨⟨⟨nofun, by rintro _ ⟨⟩; exact ⟨by decide, by decide⟩⟩, false, rfl⟩, rfl⟩, ?_⟩
    refine ⟨.ok (), ⟨_, _⟩, ⟨⟨Os.possible_of_open rfl (by decide) nofun nofun, false, rfl⟩, rfl⟩, ?_⟩
    refine ⟨.ok (), ⟨_, _⟩, ⟨⟨Os.possible_of_open rfl (by decide) nofun nofun, false, rfl⟩,
      (AddrInfo.loopback 7).addr, fun h => absurd rfl h, rfl⟩, ?_⟩
    refine ⟨.ok (AddrInfo.loopback 7).addr, ⟨_, _⟩,
      ⟨⟨Os.possible_of_open rfl (by decide) nofun nofun, false, rfl⟩, rfl, rfl⟩, ?_⟩
    exact ⟨(), ⟨_, _⟩, ⟨⟨⟨nofun, nofun⟩, false, rfl⟩, rfl⟩, rfl, rfl⟩
  exact @Step.construct abi ⟨_, []⟩ .udp true [] _ _ hrun

theorem oneSite_reachable (abi : Abi) : Reachable abi oneSite :=
  ⟨_, rfl, .single ⟨_, oneSite_step abi⟩⟩

theorem getters_truthful_one_site :
    TellsTruth .lp64 oneSite ∧ oneSite.process.At 0 (SocketUDP.on 3 9000).wrapper :=
  ⟨getters_truthful (oneSite_reachable _), rfl⟩

end OneSite

end Site

end NetLink
