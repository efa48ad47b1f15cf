import NetLink.Proof.Chain
import NetLink.Proof.Kinds
import NetLink.Proof.Text

/-!
# What the constructors accept

Each constructor takes a port, a host and an IP version, with some of them optional. `documented`
is that grammar: what is a port, what is a version, what a parameter that was left out stands
for, and the socket that is then to be opened. The code computes it for the arguments with every
string cut before its first U+0000 (`parse_documented`), so it accepts `"IPv4\0"` for a version
and opens a socket to a host that is only the beginning of the one it was given.
`meetsGrammar_iff` says that nothing else is wrong.
-/

namespace NetLink

open Interaction GetValue
open NetLinkWrapper (ofSocket)

/-! ## The documented grammar -/

/-- A port: a number that truncates to one of 1 to 65535. -/
def portOf : JsValue → Option Nat
  | .number (.finite x) =>
    if 1 ≤ truncate x ∧ truncate x ≤ 65535 then some (truncate x).toNat else none
  | _ => none

def hostOf : JsValue → Option StdString
  | .string s => some s.utf8
  | _ => none

def ipVersionOf : JsValue → Option IPVer
  | .string s =>
    if s = .ascii "IPv4" then some .ip4 else if s = .ascii "IPv6" then some .ip6 else none
  | _ => none

/-- A parameter: what is at its place is to be of its type, unless it is optional and left out. -/
def judge {T : Type} (type : JsValue → Option T) (optional : Bool) (omitted : T) :
    Option JsValue → Option T
  | none => if optional then some omitted else none
  | some a => if optional ∧ a = .undefined then some omitted else type a

namespace SocketClass

def portOptional : SocketClass → Bool
  | clientTCP | serverTCP => false
  | udp => true

def hostOptional : SocketClass → Bool
  | clientTCP => false
  | serverTCP | udp => true

/-- The socket to open, a server's host and port being local ones. -/
def socket : SocketClass → Nat → StdString → IPVer → Socket
  | clientTCP, port, host, ipVer =>
    { hostTo := host, hostFrom := [], portTo := port, portFrom := 0, protocol := .tcp, ipVer,
      type := .client, blocking := true, listenQueue := 0, socketHandler := -1 }
  | serverTCP, port, host, ipVer =>
    { hostTo := [], hostFrom := host, portTo := 0, portFrom := port, protocol := .tcp, ipVer,
      type := .server, blocking := true, listenQueue := defaultListenQueue, socketHandler := -1 }
  | udp, port, host, ipVer =>
    { hostTo := [], hostFrom := host, portTo := 0, portFrom := port, protocol := .udp, ipVer,
      type := .server, blocking := true, listenQueue := defaultListenQueue, socketHandler := -1 }

/-- What a constructor is to make of its arguments, if they are in its grammar. -/
def documented (cls : SocketClass) (args : List JsValue) : Option Socket := do
  let port ← judge portOf cls.portOptional 0 args[0]?
  let host ← judge hostOf cls.hostOptional [] args[1]?
  let ipVersion ← judge ipVersionOf true .ip4 args[2]?
  return cls.socket port host ipVersion

end SocketClass

/-- What `new` goes on to do with a socket: open it and wrap it. -/
def opening (s : Socket) : Sys (Except JsError NetLinkWrapper) :=
  s.initSocket >>= fun r => .ret (jsResult (r.map ofSocket))

/-- Called with `new`, the constructor throws a `TypeError` without making any call when the
    arguments are not in its grammar, and otherwise opens the socket they say. -/
def MeetsGrammar (cls : SocketClass) (args : List JsValue) : Prop :=
  match cls.documented args with
  | none => ∃ e, e.cls = .typeError ∧ cls.new true args = .ret (.error e)
  | some s => cls.new true args = opening s

/-! ## What the code reads -/

/-- The value with the text of a string cut before its first U+0000. -/
def JsValue.beforeNul : JsValue → JsValue
  | .string s => .string s.beforeNul
  | v => v

/-- A `get_value` reads the values of a type, seen through `view`, and no others. -/
def Reads {T V : Type} (getValue : T → JsValue → SubType → StdString × T) (view : T → V)
    (type : JsValue → Option V) : Prop :=
  ∀ value a, match type a with
    | none => (getValue value a .none).1 ≠ []
    | some v => (getValue value a .none).1 = [] ∧ view (getValue value a .none).2 = v

/-- Saturating at 64 bits does not bring a number into the range of ports, nor out of it. -/
theorem integerValue_range (x : ℚ) :
    (1 ≤ truncate x ∧ truncate x ≤ 65535 → (JsNumber.finite x).integerValue = truncate x) ∧
      (¬ (1 ≤ truncate x ∧ truncate x ≤ 65535) →
        (JsNumber.finite x).integerValue ≤ 0 ∨ 65535 < (JsNumber.finite x).integerValue) := by
  simp only [JsNumber.integerValue]
  omega

theorem getPort_rejects {x : JsNumber} (h : x.integerValue ≤ 0 ∨ 65535 < x.integerValue)
    (value : UInt16) : (getPort value (.number x) .none).1 ≠ [] := by
  simp only [getPort]
  split
  · exact List.append_ne_nil_of_right_ne_nil _ (by decide)
  split
  · exact List.append_ne_nil_of_right_ne_nil _ (by decide)
  · omega

theorem reads_port : Reads getPort UInt16.toNat fun a => portOf a.beforeNul := by
  intro value a
  cases a with
  | number x =>
    cases x with
    | finite x =>
      simp only [JsValue.beforeNul, portOf]
      by_cases h : 1 ≤ truncate x ∧ truncate x ≤ 65535
      · have hvalue := (integerValue_range x).1 h
        rw [if_pos h]
        simp only [getPort, hvalue]
        rw [if_neg (by omega), if_neg (by omega)]
        exact ⟨rfl, UInt16.toNat_ofNat_of_lt (show (truncate x).toNat < 65536 by omega)⟩
      · rw [if_neg h]
        exact getPort_rejects ((integerValue_range x).2 h) value
    | nan => exact getPort_rejects (.inl (by decide)) value
    | posInfinity => exact getPort_rejects (.inr (by decide)) value
    | negInfinity => exact getPort_rejects (.inl (by decide)) value
  | _ => exact List.append_ne_nil_of_left_ne_nil (by decide) _

theorem reads_host : Reads getString id fun a => hostOf a.beforeNul := by
  intro value a
  cases a with
  | string s => exact ⟨rfl, JsString.ofCString_utf8 s⟩
  | _ => exact List.append_ne_nil_of_left_ne_nil (by decide) _

/-- Comparing the bytes with the two names is comparing the string that was cut. -/
theorem getIpVer_string (value : IPVer) (s : JsString) :
    (s.beforeNul = .ascii "IPv6" → getIpVer value (.string s) .none = ([], .ip6)) ∧
      (s.beforeNul = .ascii "IPv4" → getIpVer value (.string s) .none = ([], .ip4)) ∧
      (s.beforeNul ≠ .ascii "IPv6" → s.beforeNul ≠ .ascii "IPv4" →
        (getIpVer value (.string s) .none).1 ≠ []) := by
  have h6 : s.beforeNul.utf8 = lit "IPv6" ↔ s.beforeNul = .ascii "IPv6" :=
    JsString.utf8_eq_lit rfl
  have h4 : s.beforeNul.utf8 = lit "IPv4" ↔ s.beforeNul = .ascii "IPv4" :=
    JsString.utf8_eq_lit rfl
  simp only [getIpVer, JsString.ofCString_utf8, h6, h4]
  refine ⟨?_, ?_, ?_⟩
  · intro h
    rw [if_pos h]
  · intro h
    rw [h, if_neg (by decide), if_pos rfl]
  · intro hn6 hn4
    rw [if_neg hn6, if_neg hn4]
    exact List.append_ne_nil_of_right_ne_nil _ (by decide)

theorem reads_ipVersion : Reads getIpVer id fun a => ipVersionOf a.beforeNul := by
  intro value a
  cases a with
  | string s =>
    obtain ⟨h6, h4, hother⟩ := getIpVer_string value s
    simp only [JsValue.beforeNul, ipVersionOf]
    by_cases hs4 : s.beforeNul = .ascii "IPv4"
    · rw [if_pos hs4, h4 hs4]
      exact ⟨rfl, rfl⟩
    rw [if_neg hs4]
    by_cases hs6 : s.beforeNul = .ascii "IPv6"
    · rw [if_pos hs6, h6 hs6]
      exact ⟨rfl, rfl⟩
    · rw [if_neg hs6]
      exact hother hs6 hs4
  | _ =>
    refine List.append_ne_nil_of_left_ne_nil (List.append_ne_nil_of_left_ne_nil ?_ _) _
    decide

/-! ## The three parameters -/

theorem judge_beforeNul {T : Type} (type : JsValue → Option T) (optional : Bool) (omitted : T)
    (o : Option JsValue) : judge type optional omitted (o.map .beforeNul) =
      judge (fun a => type a.beforeNul) optional omitted o := by
  cases o with
  | none => rfl
  | some a =>
    have hundefined : a.beforeNul = .undefined ↔ a = .undefined := by
      cases a <;> simp [JsValue.beforeNul]
    simp only [Option.map_some, judge, hundefined]

namespace ArgParser

/-- The parser has raised one `TypeError`, and nothing else. -/
def Refuses (p : ArgParser) : Prop :=
  p.valid = false ∧ ∃ e, e.cls = .typeError ∧ p.thrown = [e]

theorem Refuses.arg {T : Type} {p : ArgParser} (h : p.Refuses)
    (getValue : T → JsValue → SubType → StdString × T) (name : String) (value : T)
    (subType : SubType) : (p.arg getValue name value subType).1.Refuses := by
  unfold ArgParser.arg
  simp only [h.1, Bool.not_false, if_true]
  exact ⟨rfl, h.2⟩

theorem Refuses.withOptional {p : ArgParser} (h : p.Refuses) (optional : Bool) :
    { p with optional }.Refuses := h

theorem Refuses.rejected {p : ArgParser} (h : p.Refuses) :
    ∃ e, e.cls = .typeError ∧ p.rejected = some e := by
  obtain ⟨hvalid, e, hcls, hthrown⟩ := h
  refine ⟨e, hcls, ?_⟩
  simp only [ArgParser.rejected, isInvalid, hvalid, hthrown]
  rfl

theorem refuses_invalidate (p : ArgParser) (name : String) (reason : StdString)
    (h : p.thrown = []) : (p.invalidate name reason).Refuses := by
  let e : JsError :=
    ⟨.typeError, p.namedPosition ++ lit " argument \"" ++ lit name ++ lit "\" " ++ reason⟩
  exact ⟨rfl, e, rfl, congrArg (· ++ [e]) h⟩

/-- **One parameter.** A call judges what is at its position as the grammar does, and goes on or
    refuses. -/
theorem arg_judge {T V : Type} {getValue : T → JsValue → SubType → StdString × T} {view : T → V}
    {type : JsValue → Option V} (hreads : Reads getValue view type) (args : List JsValue) (i : Nat)
    (optional : Bool) (name : String) (value : T) :
    match judge type optional (view value) args[i]? with
    | none => ((before args i optional).arg getValue name value .none).1.Refuses
    | some v => ∃ t, view t = v ∧
        (before args i optional).arg getValue name value .none = (before args (i + 1) optional, t) := by
  cases hget : args[i]? with
  | none =>
    rw [arg_absent hget]
    cases optional with
    | true => exact ⟨value, rfl, rfl⟩
    | false => exact refuses_invalidate _ _ _ rfl
  | some a =>
    rw [arg_present hget]
    by_cases hskip : optional ∧ a = .undefined
    · simp only [judge, if_pos hskip]
      obtain ⟨hopt, rfl⟩ := hskip
      rw [hopt]
      exact ⟨value, rfl, rfl⟩
    · have hcond : (optional && decide (a = .undefined)) = false := by simpa using hskip
      have hread := hreads value a
      simp only [judge, if_neg hskip, hcond, Bool.false_eq_true, if_false]
      cases htype : type a with
      | none =>
        rw [htype] at hread
        rw [if_pos hread]
        exact refuses_invalidate _ _ _ rfl
      | some v =>
        rw [htype] at hread
        rw [if_neg (not_not.mpr hread.1)]
        exact ⟨_, hread.2, rfl⟩

end ArgParser

namespace SocketClass

/-- The name of the first parameter, and of the second. -/
def portName : SocketClass → String
  | clientTCP => "port"
  | serverTCP | udp => "portFrom"

def hostName : SocketClass → String
  | clientTCP => "host"
  | serverTCP | udp => "hostFrom"

/-- The three calls of a constructor, on a parser whose flag is what the call before left. -/
theorem parse_eq (cls : SocketClass) (args : List JsValue) : cls.parse args =
    let (p, port) := (ArgParser.before args 0 cls.portOptional).arg getPort cls.portName 0 .none
    let (p, host) := { p with optional := cls.hostOptional || p.optional }.arg getString cls.hostName
      [] .none
    let (p, ipVer) := { p with optional := true }.arg getIpVer "ipVersion" .ip4 .none
    (p, cls.socket port.toNat host ipVer) := by
  cases cls <;> rfl

/-- **What the code accepts** is the grammar, for the arguments with every string cut. -/
theorem parse_documented (cls : SocketClass) (args : List JsValue) :
    match cls.documented (args.map .beforeNul) with
    | none => (cls.parse args).1.Refuses
    | some s => (cls.parse args).1.rejected = none ∧ (cls.parse args).2 = s := by
  have hport := ArgParser.arg_judge reads_port args 0 cls.portOptional cls.portName 0
  have hhost := ArgParser.arg_judge reads_host args 1 cls.hostOptional cls.hostName []
  have hver := ArgParser.arg_judge reads_ipVersion args 2 true "ipVersion" .ip4
  have hzero : (0 : UInt16).toNat = 0 := rfl
  rw [hzero] at hport
  simp only [id_eq] at hhost hver
  rw [parse_eq]
  simp only [documented, List.getElem?_map, judge_beforeNul]
  cases hp : judge (fun a => portOf a.beforeNul) cls.portOptional 0 args[0]? with
  | none =>
    rw [hp] at hport
    exact ((hport.withOptional _).arg getString _ _ _).withOptional true |>.arg getIpVer _ _ _
  | some port =>
    rw [hp] at hport
    obtain ⟨port, rfl, hport⟩ := hport
    have hflag : (cls.hostOptional || cls.portOptional) = cls.hostOptional := by
      cases cls <;> rfl
    have hafter : { ArgParser.before args 1 cls.portOptional with
        optional := cls.hostOptional || cls.portOptional } =
        ArgParser.before args 1 cls.hostOptional := by
      rw [hflag]
      rfl
    simp only [hport]
    rw [show (ArgParser.before args 1 cls.portOptional).optional = cls.portOptional from rfl, hafter]
    cases hh : judge (fun a => hostOf a.beforeNul) cls.hostOptional [] args[1]? with
    | none =>
      rw [hh] at hhost
      exact (hhost.withOptional true).arg getIpVer _ _ _
    | some host =>
      rw [hh] at hhost
      obtain ⟨host, rfl, hhost⟩ := hhost
      have hafter : { ArgParser.before args 2 cls.hostOptional with optional := true } =
        ArgParser.before args 2 true := rfl
      simp only [hhost, hafter]
      cases hv : judge (fun a => ipVersionOf a.beforeNul) true .ip4 args[2]? with
      | none =>
        rw [hv] at hver
        exact hver
      | some ipVer =>
        rw [hv] at hver
        obtain ⟨ipVer, rfl, hver⟩ := hver
        simp only [hver]
        exact ⟨rfl, rfl⟩

theorem new_documented (cls : SocketClass) (args : List JsValue) :
    match cls.documented (args.map .beforeNul) with
    | none => ∃ e, e.cls = .typeError ∧ cls.new true args = .ret (.error e)
    | some s => cls.new true args = opening s := by
  have hparse := cls.parse_documented args
  rw [new_eq]
  cases hdoc : cls.documented (args.map .beforeNul) with
  | none =>
    rw [hdoc] at hparse
    obtain ⟨e, hcls, hrejected⟩ := hparse.rejected
    refine ⟨e, hcls, ?_⟩
    rw [NetLinkWrapper.construct, hrejected]
    rfl
  | some s =>
    rw [hdoc] at hparse
    obtain ⟨hrejected, hsocket⟩ := hparse
    rw [NetLinkWrapper.construct, hrejected, hsocket]
    rfl

/-- The arguments are in the grammar and say this. -/
structure Accepts (cls : SocketClass) (args : List JsValue) (port : Nat) (host : StdString)
    (ipVer : IPVer) : Prop where
  port : judge portOf cls.portOptional 0 args[0]? = some port
  host : judge hostOf cls.hostOptional [] args[1]? = some host
  ipVersion : judge ipVersionOf true .ip4 args[2]? = some ipVer

theorem documented_eq_some {cls : SocketClass} {args : List JsValue} {s : Socket} :
    cls.documented args = some s ↔
      ∃ port host ipVer, cls.Accepts args port host ipVer ∧ cls.socket port host ipVer = s := by
  simp only [documented, Option.pure_def, Option.bind_eq_bind, Option.bind_eq_some_iff,
    Option.some.injEq]
  constructor
  · intro h
    obtain ⟨port, hport, host, hhost, ipVer, hver, rfl⟩ := h
    exact ⟨port, host, ipVer, ⟨hport, hhost, hver⟩, rfl⟩
  · intro h
    obtain ⟨port, host, ipVer, haccepts, rfl⟩ := h
    exact ⟨port, haccepts.port, host, haccepts.host, ipVer, haccepts.ipVersion, rfl⟩

theorem socket_opens (cls : SocketClass) (port : Nat) (host : StdString) {ipVer : IPVer}
    (h : ipVer ≠ .any) : cls.Opens (cls.socket port host ipVer) := by
  cases cls <;> exact ⟨rfl, rfl, h, rfl⟩

end SocketClass

/-! ## Opening a socket tells its host -/

/-- A kernel that lets every socket be opened. -/
def reachable (_ : Unit) : (q : Call) → Option (q.Ret × Unit)
  | .getaddrinfo .. => some (.ok [.loopback 7], ())
  | .socket .. => some (.ok 3, ())
  | .connect .. | .bind .. | .listen .. | .setsockopt _ => some (.ok (), ())
  | .getsockname _ => some (.ok (AddrInfo.loopback 7).addr, ())
  | .freeaddrinfo _ => some ((), ())
  | _ => none

theorem tryAddress_reachable {cls : SocketClass} {s : Socket} (hs : cls.Opens s) (fd : Int)
    (res : AddrInfo) : (s.tryAddress fd res).Runs (.ofServe reachable) () (.ok true) () := by
  unfold Socket.tryAddress
  rw [hs.type, hs.protocol]
  cases cls with
  | clientTCP => exact ⟨.ok (), (), rfl, rfl, rfl⟩
  | serverTCP => exact ⟨.ok (), (), rfl, .ok (), (), rfl, .ok (), (), rfl, rfl, rfl⟩
  | udp => exact ⟨.ok (), (), rfl, .ok (), (), rfl, rfl, rfl⟩

theorem initSocket_reachable {cls : SocketClass} {s : Socket} (hs : cls.Opens s) :
    ∃ portFrom, s.initSocket.Runs (.ofServe reachable) ()
      (.ok { s with socketHandler := 3, portFrom }) () := by
  have hcandidate : (Socket.candidateLoop [.loopback 7] s).Runs (.ofServe reachable) ()
      (.ok (true, { s with socketHandler := 3 })) () := by
    refine ⟨.ok 3, (), rfl, ?_⟩
    show Prog.Runs _ (Socket.tryAddress { s with socketHandler := 3 } 3 _ >>= _) () _ ()
    refine Prog.runs_bind.mpr ⟨_, (), tryAddress_reachable (hs.on 3) 3 _, ?_⟩
    exact ⟨by rw [(hs.on 3).settleIpVer], rfl⟩
  have hconnect : ∃ portFrom, (s.connectFirst [.loopback 7]).Runs (.ofServe reachable) ()
      (.ok { s with socketHandler := 3, portFrom }) () := by
    by_cases hport : s.portFrom = 0
    · refine ⟨9000, Prog.runs_bind.mpr ⟨_, (), hcandidate, ?_⟩⟩
      simp only [hport, if_true]
      exact ⟨.ok (AddrInfo.loopback 7).addr, (), rfl, rfl, rfl⟩
    · refine ⟨s.portFrom, Prog.runs_bind.mpr ⟨_, (), hcandidate, ?_⟩⟩
      simp only [hport, if_false]
      exact ⟨rfl, rfl⟩
  obtain ⟨portFrom, hconnect⟩ := hconnect
  rw [initSocket_eq]
  exact ⟨portFrom, .ok [.loopback 7], (), rfl,
    Prog.runs_bind.mpr ⟨_, (), hconnect, (), (), rfl, rfl, rfl⟩⟩

theorem opening_inj {cls : SocketClass} {s s' : Socket} (hs : cls.Opens s) (hs' : cls.Opens s')
    (h : opening s = opening s') : s.hostTo = s'.hostTo ∧ s.hostFrom = s'.hostFrom := by
  obtain ⟨portFrom, hrun⟩ := initSocket_reachable hs
  obtain ⟨portFrom', hrun'⟩ := initSocket_reachable hs'
  have hopen : (opening s).Runs (.ofServe reachable) () _ () :=
    Prog.runs_bind.mpr ⟨_, (), hrun, rfl, rfl⟩
  have hopen' : (opening s').Runs (.ofServe reachable) () _ () :=
    Prog.runs_bind.mpr ⟨_, (), hrun', rfl, rfl⟩
  rw [h] at hopen
  have heq := (hopen.unique (Kernel.ofServe_functional _) hopen').1
  have hwrapper := Except.ok.inj heq
  exact ⟨congrArg NetLinkWrapper.hostTo hwrapper, congrArg NetLinkWrapper.hostFrom hwrapper⟩

theorem opening_ne_ret (s : Socket) (r : Except JsError NetLinkWrapper) : opening s ≠ .ret r := by
  unfold opening
  rw [initSocket_eq]
  nofun

/-! ## Where the code departs from the grammar -/

/-- The text of one of the three parameters is cut. -/
def CutsText (args : List JsValue) : Prop :=
  ∃ i < 3, ∃ s, args[i]? = some (.string s) ∧ 0 ∈ s

theorem portOf_beforeNul (a : JsValue) : portOf a.beforeNul = portOf a := by
  cases a <;> rfl

theorem hostOf_beforeNul {a : JsValue} {host : StdString} (h : hostOf a = some host) :
    hostOf a.beforeNul = some (ofCString host) := by
  cases a with
  | string s =>
    obtain rfl := Option.some.inj h
    exact congrArg some (JsString.ofCString_utf8 s).symm
  | _ => cases h

/-- The names of the versions have no U+0000. -/
theorem beforeNul_of_ipVersion {a : JsValue} {ipVer : IPVer} (h : ipVersionOf a = some ipVer) :
    a.beforeNul = a ∧ ∀ s, a = .string s → 0 ∉ s := by
  cases a with
  | string s =>
    have hname : s = .ascii "IPv4" ∨ s = .ascii "IPv6" := by
      simp only [ipVersionOf] at h
      split at h
      · exact .inl ‹_›
      split at h
      · exact .inr ‹_›
      · cases h
    have hs : 0 ∉ s := by
      rcases hname with rfl | rfl
      · decide
      · decide
    refine ⟨congrArg JsValue.string (JsString.beforeNul_eq_self hs), ?_⟩
    intro t ht
    cases ht
    exact hs
  | _ => exact ⟨rfl, nofun⟩

theorem ipVersionOf_ne_any {a : JsValue} : ipVersionOf a ≠ some .any := by
  cases a with
  | string s =>
    simp only [ipVersionOf]
    split
    · nofun
    split <;> nofun
  | _ => nofun

/-- Where no text is cut, the code is given what the caller gave. -/
theorem documented_beforeNul {cls : SocketClass} {args : List JsValue} (h : ¬ CutsText args) :
    cls.documented (args.map .beforeNul) = cls.documented args := by
  have hget (i : Nat) (hi : i < 3) : (args.map JsValue.beforeNul)[i]? = args[i]? := by
    rw [List.getElem?_map]
    cases ha : args[i]? with
    | none => rfl
    | some a =>
      cases a with
      | string s =>
        have hs : 0 ∉ s := fun hmem => h ⟨i, hi, s, ha, hmem⟩
        exact congrArg (fun s => some (JsValue.string s)) (JsString.beforeNul_eq_self hs)
      | _ => rfl
  unfold SocketClass.documented
  rw [hget 0 (by decide), hget 1 (by decide), hget 2 (by decide)]

section Judge

variable {T : Type} {type : JsValue → Option T} {optional : Bool} {omitted v : T}

theorem judge_string (s : JsString) :
    judge type optional omitted (some (.string s)) = type (.string s) :=
  if_neg fun h => nomatch h.2

/-- The parameter is optional, and nothing or `undefined` is given for it. -/
def LeftOut (optional : Bool) (o : Option JsValue) : Prop :=
  optional = true ∧ (o = none ∨ o = some .undefined)

theorem judge_eq_some {o : Option JsValue} : judge type optional omitted o = some v ↔
    LeftOut optional o ∧ omitted = v ∨ ¬ LeftOut optional o ∧ ∃ a, o = some a ∧ type a = some v := by
  cases o with
  | none => by_cases h : optional = true <;> simp [judge, LeftOut, h]
  | some a => by_cases h : optional = true ∧ a = .undefined <;> simp [judge, LeftOut, h]

theorem judge_satisfies {P : T → Prop} {o : Option JsValue} (homitted : P omitted)
    (htype : ∀ a v, type a = some v → P v) (h : judge type optional omitted o = some v) : P v := by
  rcases judge_eq_some.mp h with ⟨-, rfl⟩ | ⟨-, a, -, ha⟩
  · exact homitted
  · exact htype a v ha

/-- A parameter is still accepted when its text is cut, if cutting does `f` to what is read. -/
theorem judge_cut {f : T → T} {o : Option JsValue} (homitted : f omitted = omitted)
    (htype : ∀ a v, type a = some v → type a.beforeNul = some (f v))
    (h : judge type optional omitted o = some v) :
    judge type optional omitted (o.map .beforeNul) = some (f v) := by
  rw [judge_beforeNul, judge_eq_some]
  rcases judge_eq_some.mp h with ⟨hout, rfl⟩ | ⟨hin, a, ho, ha⟩
  · exact .inl ⟨hout, homitted.symm⟩
  · exact .inr ⟨hin, a, ho, htype a v ha⟩

end Judge

namespace SocketClass.Accepts

variable {cls : SocketClass} {args : List JsValue} {port : Nat} {host : StdString} {ipVer : IPVer}

/-- Cutting texts takes nothing out of the grammar, and only the host can come out shorter. -/
theorem cut (h : cls.Accepts args port host ipVer) :
    cls.Accepts (args.map .beforeNul) port (ofCString host) ipVer := by
  refine ⟨?_, ?_, ?_⟩
  · rw [List.getElem?_map]
    exact judge_cut (f := id) rfl (fun a v ha => (portOf_beforeNul a).trans ha) h.port
  · rw [List.getElem?_map]
    exact judge_cut (f := ofCString) rfl (fun a v => hostOf_beforeNul) h.host
  · rw [List.getElem?_map]
    exact judge_cut (f := id) rfl
      (fun a v ha => (congrArg ipVersionOf (beforeNul_of_ipVersion ha).1).trans ha) h.ipVersion

theorem opens (h : cls.Accepts args port host ipVer) (host' : StdString) :
    cls.Opens (cls.socket port host' ipVer) := by
  have hip4 : IPVer.ip4 ≠ .any := by decide
  refine cls.socket_opens port host' (judge_satisfies (P := (· ≠ .any)) hip4 ?_ h.ipVersion)
  rintro a v ha rfl
  exact ipVersionOf_ne_any ha

theorem not_cutsText (h : cls.Accepts args port host ipVer) (hhost : ofCString host = host) :
    ¬ CutsText args := by
  intro hcuts
  obtain ⟨i, hi, s, hs, hmem⟩ := hcuts
  obtain rfl | rfl | rfl : i = 0 ∨ i = 1 ∨ i = 2 := by omega
  · have hport := h.port
    rw [hs, judge_string] at hport
    cases hport
  · have hread := h.host
    rw [hs, judge_string] at hread
    obtain rfl := Option.some.inj hread
    exact JsString.ofCString_utf8_eq_self.mp hhost hmem
  · have hver := h.ipVersion
    rw [hs, judge_string] at hver
    exact (beforeNul_of_ipVersion hver).2 s rfl hmem

/-- If what is opened is what was to be opened, the host was not cut. -/
theorem host_kept (h : cls.Accepts args port host ipVer)
    (hopening : opening (cls.socket port host ipVer) =
      opening (cls.socket port (ofCString host) ipVer)) : ofCString host = host := by
  obtain ⟨hto, hfrom⟩ := opening_inj (h.opens host) (h.opens (ofCString host)) hopening
  cases cls with
  | clientTCP => exact hto.symm
  | serverTCP => exact hfrom.symm
  | udp => exact hfrom.symm

end SocketClass.Accepts

/-- **A constructor meets its grammar** exactly when no text it reads is cut, or what is left is
    not in the grammar either. -/
theorem meetsGrammar_iff (cls : SocketClass) (args : List JsValue) :
    MeetsGrammar cls args ↔
      ¬ (CutsText args ∧ (cls.documented (args.map .beforeNul)).isSome) := by
  have hnew := cls.new_documented args
  unfold MeetsGrammar
  cases hdoc : cls.documented args with
  | none =>
    cases hcut : cls.documented (args.map .beforeNul) with
    | none =>
      rw [hcut] at hnew
      exact iff_of_true hnew fun h => nomatch h.2
    | some s =>
      -- The arguments are accepted for what is left of them.
      rw [hcut] at hnew
      refine iff_of_false ?_ fun h => ?_
      · intro h
        obtain ⟨e, -, hret⟩ := h
        exact opening_ne_ret s _ (hnew.symm.trans hret)
      · refine h ⟨Classical.byContradiction fun hkept => ?_, rfl⟩
        rw [documented_beforeNul hkept, hdoc] at hcut
        cases hcut
  | some s =>
    obtain ⟨port, host, ipVer, haccepts, rfl⟩ := SocketClass.documented_eq_some.mp hdoc
    have hcut := SocketClass.documented_eq_some.mpr ⟨port, _, ipVer, haccepts.cut, rfl⟩
    rw [hcut] at hnew ⊢
    constructor
    · intro h hcuts
      exact haccepts.not_cutsText (haccepts.host_kept (h.symm.trans hnew)) hcuts.1
    · intro h
      have hkept : cls.documented (args.map .beforeNul) = cls.documented args :=
        documented_beforeNul fun hcuts => h ⟨hcuts, rfl⟩
      rw [hcut, hdoc] at hkept
      rw [← Option.some.inj hkept]
      exact hnew

/-- `new SocketUDP(undefined, undefined, "IPv4\0x")` opens a socket for IPv4. -/
theorem new_accepts_cut_version :
    let args : List JsValue := [.undefined, .undefined, .string (JsString.ascii "IPv4" ++ [0, 120])]
    SocketClass.udp.documented args = none ∧
      SocketClass.udp.new true args = opening (SocketClass.udp.socket 0 [] .ip4) ∧
      ¬ MeetsGrammar .udp args := by
  intro args
  have hdoc : SocketClass.udp.documented args = none := rfl
  have hnew : SocketClass.udp.new true args = opening (SocketClass.udp.socket 0 [] .ip4) := rfl
  refine ⟨hdoc, hnew, ?_⟩
  intro h
  unfold MeetsGrammar at h
  rw [hdoc] at h
  obtain ⟨e, -, hret⟩ := h
  exact opening_ne_ret _ _ (hnew.symm.trans hret)

end NetLink
