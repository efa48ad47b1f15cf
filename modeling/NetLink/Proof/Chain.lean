import Mathlib.Data.Nat.Find
import NetLink.Model.ArgParser

/-!
# Chains of `arg` and `opt`

A parser is used by calling `arg` and `opt` on it one after the other, each call declaring the
next position: what the argument there is read into, and whether there need be one. What a chain
is for is to judge every position by its own declaration, stop at the first argument that is not
accepted and leave the targets from there on alone (`DecidesCorrectly`).

The parser has one flag for "optional", which `opt` sets and nothing clears. So a position that
`arg` declares behind one that `opt` has declared is judged as an optional one. And it has names
for ten positions only: an error calls any position after them "Some".
`decidesCorrectly_iff` says that these are the only differences, and when they show: where such a
position is the first that is not accepted.
-/

namespace NetLink

open GetValue

/-- What a target can be. A type without a specialisation of `get_value` is `unknown`. -/
inductive TargetType : Type 1
  | uint16
  | bool
  | ipVer
  | string
  | unknown (T : Type)

namespace TargetType

def Carrier : TargetType → Type
  | uint16 => UInt16
  | bool => Bool
  | ipVer => IPVer
  | string => StdString
  | unknown T => T

def getValue : (t : TargetType) → t.Carrier → JsValue → SubType → StdString × t.Carrier
  | uint16 => getPort
  | bool => getBool
  | ipVer => getIpVer
  | string => getString
  | unknown _ => getUnknown

/-- A target is assigned only when there is no complaint. -/
theorem getValue_keeps (t : TargetType) (value : t.Carrier) (arg : JsValue) (subType : SubType)
    (h : (t.getValue value arg subType).1 ≠ []) : (t.getValue value arg subType).2 = value := by
  cases t with
  | uint16 =>
    cases arg with
    | number x =>
      simp only [getValue, getPort] at h ⊢
      split
      · rfl
      split
      · rfl
      · rename_i hpos hmax
        rw [if_neg hpos, if_neg hmax] at h
        exact absurd rfl h
    | _ => rfl
  | bool =>
    cases arg with
    | boolean b => exact absurd rfl h
    | _ => rfl
  | ipVer =>
    cases arg with
    | string s =>
      simp only [getValue, getIpVer] at h ⊢
      split
      · rename_i h6
        rw [if_pos h6] at h
        exact absurd rfl h
      split
      · rename_i h6 h4
        rw [if_neg h6, if_pos h4] at h
        exact absurd rfl h
      · rfl
    | _ => rfl
  | string =>
    cases arg with
    | string s => exact absurd rfl h
    | uint8Array view =>
      cases subType with
      | none => rfl
      | sendableData => exact absurd rfl h
    | bufferView view =>
      cases subType with
      | none => rfl
      | sendableData => exact absurd rfl h
    | _ => cases subType <;> rfl
  | unknown T => rfl

/-- No type accepts `undefined`. -/
theorem getValue_undefined (t : TargetType) (value : t.Carrier) (subType : SubType) :
    (t.getValue value .undefined subType).1 ≠ [] := by
  cases t with
  | uint16 => exact List.append_ne_nil_of_left_ne_nil (by decide) _
  | bool => exact List.append_ne_nil_of_left_ne_nil (by decide) _
  | ipVer =>
    refine List.append_ne_nil_of_left_ne_nil (List.append_ne_nil_of_left_ne_nil ?_ _) _
    decide
  | string =>
    cases subType with
    | none => exact List.append_ne_nil_of_left_ne_nil (by decide) _
    | sendableData =>
      show lit "must be a string, Buffer, or Uint8Array" ≠ []
      decide
  | unknown T =>
    show lit "Cannot handle unknown type" ≠ []
    decide

end TargetType

/-- A position as a call of `arg` or `opt` declares it, with what its target holds. -/
structure Param where
  type : TargetType
  name : String
  value : type.Carrier
  subType : SubType
  optional : Bool

namespace ArgParser

/-- One call: `opt` where the position is optional, and `arg` where it is not. -/
def declare (p : ArgParser) (param : Param) : ArgParser × Param :=
  let (p, value) :=
    if param.optional then p.opt param.type.getValue param.name param.value param.subType
    else p.arg param.type.getValue param.name param.value param.subType
  (p, { param with value })

/-- A chain of calls: the parser after it, and the targets. -/
def chain : ArgParser → List Param → ArgParser × List Param
  | p, [] => (p, [])
  | p, param :: params =>
    let (p, param) := p.declare param
    let (p, params) := p.chain params
    (p, param :: params)

end ArgParser

/-! ## What a chain is for -/

namespace Param

/-- The declaration does not accept what is at its position. -/
def Rejects (param : Param) : Option JsValue → Prop
  | none => param.optional = false
  | some arg => (param.type.getValue param.value arg param.subType).1 ≠ [] ∧
      ¬ (param.optional = true ∧ arg = .undefined)

/-- The target when the declaration accepts: it holds the parsed value, if one was given. -/
def filled (param : Param) : Option JsValue → Param
  | none => param
  | some arg =>
    if param.optional = true ∧ arg = .undefined then param
    else { param with value := (param.type.getValue param.value arg param.subType).2 }

/-- An `undefined` that is skipped leaves the target as reading it would. -/
theorem filled_some (param : Param) (arg : JsValue) : param.filled (some arg) =
    { param with value := (param.type.getValue param.value arg param.subType).2 } := by
  simp only [filled]
  split
  · rename_i h
    rw [h.2, TargetType.getValue_keeps _ _ _ _ (param.type.getValue_undefined _ _)]
  · rfl

end Param

def BadAt (params : List Param) (args : List JsValue) (i : Nat) : Prop :=
  ∃ param, params[i]? = some param ∧ param.Rejects args[i]?

def FirstBad (params : List Param) (args : List JsValue) (i : Nat) : Prop :=
  BadAt params args i ∧ ∀ j < i, ¬ BadAt params args j

/-- A number in decimal. -/
def numeral (n : Nat) : StdString := (Nat.toDigits 10 n).map fun digit => UInt8.ofNat digit.toNat

/-- What makes a numeral an ordinal: 1st, 2nd, 3rd, 4th, but 11th. -/
def ordinalSuffix (n : Nat) : StdString :=
  if n % 100 / 10 = 1 then lit "th"
  else
    match n % 10 with
    | 1 => lit "st"
    | 2 => lit "nd"
    | 3 => lit "rd"
    | _ => lit "th"

/-- The name of the position `i`: a word up to the tenth, and a numeral after it. -/
def ordinal (i : Nat) : StdString :=
  let words := ["First", "Second", "Third", "Fourth", "Fifth", "Sixth", "Seventh", "Eighth",
    "Ninth", "Tenth"]
  (words[i]?.map lit).getD (numeral (i + 1) ++ ordinalSuffix (i + 1))

example : ordinal 11 = lit "12th" ∧ ordinal 111 = lit "112th" ∧ ordinal 120 = lit "121st" := by
  decide

/-- An error about the parameter of a position that is called `name`. -/
def complaint (name : StdString) (param : Param) (reason : StdString) : JsError :=
  ⟨.typeError, name ++ lit " argument \"" ++ lit param.name ++ lit "\" " ++ reason⟩

/-- Every position is judged by its own declaration. The first that is not accepted makes the
    parser invalid and raises the one error, at its own call and under its own name; the targets
    before it are filled and the others are as they were. -/
structure DecidesCorrectly (params : List Param) (args : List JsValue) : Prop where
  invalid : ((ArgParser.new args).chain params).1.isInvalid = true ↔ ∃ i, BadAt params args i
  raised : ∀ i param, params[i]? = some param → FirstBad params args i → ∃ reason,
    ((ArgParser.new args).chain (params.take i)).1.thrown = [] ∧
    ((ArgParser.new args).chain (params.take (i + 1))).1.thrown =
      [complaint (ordinal i) param reason] ∧
    ((ArgParser.new args).chain params).1.thrown = [complaint (ordinal i) param reason]
  silent : (∀ i, ¬ BadAt params args i) → ((ArgParser.new args).chain params).1.thrown = []
  parsed : ∀ i param, params[i]? = some param → (∀ j ≤ i, ¬ BadAt params args j) →
    ((ArgParser.new args).chain params).2[i]? = some (param.filled args[i]?)
  kept : ∀ i param, params[i]? = some param → (∃ j ≤ i, BadAt params args j) →
    ((ArgParser.new args).chain params).2[i]? = some param

/-! ## Names -/

/-- How the parser calls the position `i`. -/
def calledBy (i : Nat) : StdString :=
  ({ ArgParser.new [] with position := i } : ArgParser).namedPosition

theorem calledBy_of_lt {i : Nat} (h : i < 10) : calledBy i = ordinal i := by
  have hall : ∀ i < 10, calledBy i = ordinal i := by decide
  exact hall i h

theorem calledBy_of_le {i : Nat} (h : 10 ≤ i) : calledBy i = lit "Some" := by
  obtain ⟨j, rfl⟩ := Nat.exists_eq_add_of_le' h
  rfl

/-- A numeral begins with a digit. -/
theorem numeral_head (n : Nat) : ∃ b rest, numeral n = b :: rest ∧ b.toNat ≤ 57 := by
  obtain ⟨digit, digits, hdigits⟩ :=
    List.exists_cons_of_ne_nil (Nat.toDigits_ne_nil (b := 10) (n := n))
  have hdigit : digit.isDigit = true :=
    Nat.isDigit_of_mem_toDigits (by decide) (by decide) (hdigits ▸ List.mem_cons_self)
  have hle : digit.toNat ≤ 57 := by
    simp only [Char.isDigit, Bool.and_eq_true, decide_eq_true_eq] at hdigit
    exact hdigit.2
  refine ⟨_, _, by rw [numeral, hdigits, List.map_cons], ?_⟩
  rw [UInt8.toNat_ofNat']
  exact Nat.le_trans (Nat.mod_le _ _) hle

/-- "Some" is no ordinal, and no error that begins with it names a position. -/
theorem ordinal_append_ne {i : Nat} (h : 10 ≤ i) (x y : StdString) :
    ordinal i ++ x ≠ lit "Some" ++ y := by
  have hordinal : ordinal i = numeral (i + 1) ++ ordinalSuffix (i + 1) := by
    simp only [ordinal]
    rw [List.getElem?_eq_none h]
    rfl
  obtain ⟨b, rest, hnumeral, hle⟩ := numeral_head (i + 1)
  have hsome : lit "Some" = [83, 111, 109, 101] := by decide
  rw [hordinal, hnumeral, hsome]
  intro heq
  obtain ⟨rfl, -⟩ := List.cons.inj heq
  exact absurd hle (by decide)

/-! ## One call -/

namespace ArgParser

/-- The parser when it has come to the position `i` with nothing to complain of, and `optional`
    set or not. -/
def before (args : List JsValue) (i : Nat) (optional : Bool) : ArgParser :=
  ⟨true, (i : Int) - 1, optional, args, []⟩

theorem new_eq_before (args : List JsValue) : new args = before args 0 false := rfl

variable {args : List JsValue} {i : Nat} {optional : Bool} {param : Param}

/-- A call judges by the flag: the position is optional if any so far was declared so. -/
theorem declare_eq (p : ArgParser) (param : Param) : p.declare param =
    ((arg param.type.getValue { p with optional := p.optional || param.optional } param.name
        param.value param.subType).1,
      { param with value := (arg param.type.getValue
        { p with optional := p.optional || param.optional } param.name param.value
        param.subType).2 }) := by
  unfold declare
  cases h : param.optional with
  | true =>
    simp only [Bool.or_true, if_true, opt]
  | false =>
    simp only [Bool.or_false, Bool.false_eq_true, if_false]

section Arg

variable {T : Type} {getValue : T → JsValue → SubType → StdString × T} {name : String} {value : T}
  {subType : SubType} {a : JsValue}

theorem position_before : (before args i optional).position + 1 = i := by
  simp [before]

theorem arg_absent (h : args[i]? = none) :
    (before args i optional).arg getValue name value subType =
      if optional then (before args (i + 1) optional, value)
      else (invalidate { before args i optional with position := i } name
        (lit "is required, but not enough arguments passed (" ++ printed args.length ++ lit ")."),
        value) := by
  have hlen : (args.length : Int) ≤ i := by
    have := List.getElem?_eq_none_iff.mp h
    omega
  unfold arg
  simp only [position_before]
  cases optional with
  | true => simp [before, hlen]
  | false => simp [before, hlen]

theorem arg_present (h : args[i]? = some a) :
    (before args i optional).arg getValue name value subType =
      if optional && a = .undefined then (before args (i + 1) optional, value)
      else if (getValue value a subType).1 ≠ [] then
        (invalidate { before args i optional with position := i } name (getValue value a subType).1,
          (getValue value a subType).2)
      else (before args (i + 1) optional, (getValue value a subType).2) := by
  have hlen : ¬ (args.length : Int) ≤ i := by
    have := (List.getElem?_eq_some_iff.mp h).1
    omega
  unfold arg
  simp only [position_before]
  simp [before, hlen, h, List.length_pos_iff]

end Arg

theorem declare_before (args : List JsValue) (i : Nat) (optional : Bool) (param : Param) :
    (before args i optional).declare param =
      (((before args i (optional || param.optional)).arg param.type.getValue param.name param.value
          param.subType).1,
        { param with value := ((before args i (optional || param.optional)).arg param.type.getValue
          param.name param.value param.subType).2 }) :=
  declare_eq _ _

theorem declare_accepts
    (h : ¬ ({ param with optional := optional || param.optional } : Param).Rejects args[i]?) :
    (before args i optional).declare param =
      (before args (i + 1) (optional || param.optional), param.filled args[i]?) := by
  rw [declare_before]
  cases hget : args[i]? with
  | none =>
    rw [hget] at h
    have hopt : (optional || param.optional) = true := Bool.not_eq_false _ ▸ h
    rw [arg_absent hget, hopt]
    rfl
  | some a =>
    rw [hget] at h
    rw [arg_present hget, Param.filled_some]
    by_cases hskip : (optional || param.optional) = true ∧ a = .undefined
    · obtain ⟨hopt, rfl⟩ := hskip
      rw [hopt, TargetType.getValue_keeps _ _ _ _ (param.type.getValue_undefined _ _)]
      rfl
    · have haccept : (param.type.getValue param.value a param.subType).1 = [] :=
        Decidable.byContradiction fun hreject => h ⟨hreject, hskip⟩
      have hcond : ((optional || param.optional) && decide (a = .undefined)) = false := by
        simpa using hskip
      rw [hcond, haccept]
      rfl

theorem declare_rejects
    (h : ({ param with optional := optional || param.optional } : Param).Rejects args[i]?) :
    ∃ reason, (before args i optional).declare param =
      (⟨false, i, optional || param.optional, args, [complaint (calledBy i) param reason]⟩,
        param) := by
  rw [declare_before]
  cases hget : args[i]? with
  | none =>
    rw [hget] at h
    have hopt : (optional || param.optional) = false := h
    rw [arg_absent hget, hopt]
    exact ⟨_, rfl⟩
  | some a =>
    rw [hget] at h
    obtain ⟨hreject, hskip⟩ := h
    have hcond : ((optional || param.optional) && decide (a = .undefined)) = false := by
      simpa using hskip
    have hreject : (param.type.getValue param.value a param.subType).1 ≠ [] := hreject
    rw [arg_present hget, hcond, TargetType.getValue_keeps _ _ _ _ hreject]
    simp only [Bool.false_eq_true, if_false, if_pos hreject]
    exact ⟨_, rfl⟩

/-! ## Many calls -/

theorem chain_append (p : ArgParser) (xs ys : List Param) : p.chain (xs ++ ys) =
    (((p.chain xs).1.chain ys).1, (p.chain xs).2 ++ ((p.chain xs).1.chain ys).2) := by
  induction xs generalizing p with
  | nil => rfl
  | cons x xs ih =>
    simp only [List.cons_append, chain]
    rw [ih]

/-- A parser that is invalid does nothing but count. -/
theorem declare_invalid {p : ArgParser} (hp : p.valid = false) (param : Param) :
    (p.declare param).1.valid = false ∧ (p.declare param).1.thrown = p.thrown ∧
      (p.declare param).2 = param := by
  rw [declare_eq]
  unfold arg
  simp only [hp, Bool.not_false, if_true]
  exact ⟨trivial, trivial, trivial⟩

theorem chain_invalid {p : ArgParser} (hp : p.valid = false) (params : List Param) :
    (p.chain params).1.valid = false ∧ (p.chain params).1.thrown = p.thrown ∧
      (p.chain params).2 = params := by
  induction params generalizing p with
  | nil => exact ⟨hp, rfl, rfl⟩
  | cons param params ih =>
    obtain ⟨hvalid, hthrown, htarget⟩ := declare_invalid hp param
    obtain ⟨hvalid', hthrown', htargets⟩ := ih hvalid
    exact ⟨hvalid', hthrown'.trans hthrown, congrArg₂ List.cons htarget htargets⟩

end ArgParser

/-- The parser's flag when it comes to the position `i`. -/
def optionalBefore (params : List Param) (i : Nat) : Bool := (params.take i).any Param.optional

/-- The parser does not accept what is at the position `i`. -/
def JudgedBad (params : List Param) (args : List JsValue) (i : Nat) : Prop :=
  ∃ param, params[i]? = some param ∧
    ({ param with optional := optionalBefore params i || param.optional } : Param).Rejects args[i]?

/-- The chain up to a position with no complaint before it. -/
theorem chain_take {params : List Param} {args : List JsValue} {i : Nat} (hi : i ≤ params.length)
    (h : ∀ j < i, ¬ JudgedBad params args j) :
    (ArgParser.new args).chain (params.take i) =
      (ArgParser.before args i (optionalBefore params i),
        (params.take i).mapIdx fun j param => param.filled args[j]?) := by
  induction i with
  | zero => rfl
  | succ i ih =>
    have hlt : i < params.length := hi
    have hget : params[i]? = some params[i] := List.getElem?_eq_getElem hlt
    have haccepts := ArgParser.declare_accepts fun hr => h i (Nat.lt_succ_self i) ⟨_, hget, hr⟩
    have hlen : (params.take i).length = i := List.length_take_of_le (Nat.le_of_lt hlt)
    have hflag : optionalBefore params (i + 1) =
        (optionalBefore params i || (params[i]).optional) := by
      rw [optionalBefore, List.take_succ_eq_append_getElem hlt, List.any_append]
      simp only [List.any_cons, List.any_nil, Bool.or_false, optionalBefore]
    rw [List.take_succ_eq_append_getElem hlt, ArgParser.chain_append,
      ih (Nat.le_of_lt hlt) fun j hj => h j (Nat.lt_succ_of_lt hj), List.mapIdx_concat, hlen, hflag]
    simp only [ArgParser.chain, haccepts]

/-- The chain when the position `i` is the first the parser does not accept. -/
theorem chain_of_judgedBad {params : List Param} {args : List JsValue} {i : Nat} {param : Param}
    (hget : params[i]? = some param) (hbad : JudgedBad params args i)
    (h : ∀ j < i, ¬ JudgedBad params args j) : ∃ reason,
      ((ArgParser.new args).chain (params.take i)).1.thrown = [] ∧
      ((ArgParser.new args).chain (params.take (i + 1))).1.thrown =
        [complaint (calledBy i) param reason] ∧
      ((ArgParser.new args).chain params).1.thrown = [complaint (calledBy i) param reason] ∧
      ((ArgParser.new args).chain params).1.valid = false ∧
      ((ArgParser.new args).chain params).2 =
        ((params.take i).mapIdx fun j param => param.filled args[j]?) ++ params.drop i := by
  obtain ⟨hlt, hparam⟩ := List.getElem?_eq_some_iff.mp hget
  have htake := chain_take (Nat.le_of_lt hlt) h
  obtain ⟨param', hget', hrejects⟩ := hbad
  cases hget.symm.trans hget'
  obtain ⟨reason, hdeclare⟩ := ArgParser.declare_rejects hrejects
  have hsucc := ArgParser.chain_append (ArgParser.new args) (params.take i) [params[i]]
  rw [← List.take_succ_eq_append_getElem hlt, htake, hparam] at hsucc
  simp only [ArgParser.chain, hdeclare] at hsucc
  have hall := ArgParser.chain_append (ArgParser.new args) (params.take (i + 1)) (params.drop (i + 1))
  rw [List.take_append_drop, hsucc] at hall
  obtain ⟨hvalid, hthrown, htargets⟩ := ArgParser.chain_invalid
    (p := (⟨false, i, optionalBefore params i || param.optional, args,
      [complaint (calledBy i) param reason]⟩ : ArgParser)) rfl (params.drop (i + 1))
  refine ⟨reason, ?_, ?_, ?_, ?_, ?_⟩
  · rw [htake]
    rfl
  · rw [hsucc]
  · rw [hall]
    exact hthrown
  · rw [hall]
    exact hvalid
  · rw [hall]
    simp only [htargets]
    rw [List.append_assoc, List.singleton_append, ← hparam, List.drop_eq_getElem_cons hlt]

/-! ## The two judgements -/

/-- The first position that is not accepted is one that `arg` declares behind one that `opt`
    declares, and it has no argument, or `undefined`. -/
def Overlooks (params : List Param) (args : List JsValue) : Prop :=
  ∃ i param, FirstBad params args i ∧ params[i]? = some param ∧ param.optional = false ∧
    optionalBefore params i = true ∧ (args[i]? = none ∨ args[i]? = some .undefined)

theorem badAt_of_judgedBad {params : List Param} {args : List JsValue} {i : Nat}
    (h : JudgedBad params args i) : BadAt params args i := by
  obtain ⟨param, hget, hrejects⟩ := h
  refine ⟨param, hget, ?_⟩
  cases harg : args[i]? with
  | none =>
    rw [harg] at hrejects
    exact (Bool.or_eq_false_iff.mp hrejects).2
  | some arg =>
    rw [harg] at hrejects
    refine ⟨hrejects.1, fun hskip => hrejects.2 ⟨?_, hskip.2⟩⟩
    exact Bool.or_eq_true_iff.mpr (.inr hskip.1)

/-- The parser overlooks a position only where it is behind an `opt`. -/
theorem judgedBad_or_overlooked {params : List Param} {args : List JsValue} {i : Nat}
    (h : FirstBad params args i) : JudgedBad params args i ∨ Overlooks params args := by
  obtain ⟨param, hget, hrejects⟩ := h.1
  cases hflag : optionalBefore params i with
  | false =>
    refine .inl ⟨param, hget, ?_⟩
    rw [hflag]
    exact hrejects
  | true =>
    cases hopt : param.optional with
    | true =>
      refine .inl ⟨param, hget, ?_⟩
      rw [hflag, Bool.true_or, ← hopt]
      exact hrejects
    | false =>
      cases harg : args[i]? with
      | none => exact .inr ⟨i, param, h, hget, hopt, hflag, .inl harg⟩
      | some arg =>
        by_cases hundef : arg = .undefined
        · exact .inr ⟨i, param, h, hget, hopt, hflag, .inr (harg.trans (congrArg some hundef))⟩
        · rw [harg] at hrejects
          refine .inl ⟨param, hget, ?_⟩
          rw [harg]
          exact ⟨hrejects.1, fun hskip => hundef hskip.2⟩

theorem not_judgedBad_of_overlooked {params : List Param} {args : List JsValue} {i : Nat}
    (hflag : optionalBefore params i = true)
    (harg : args[i]? = none ∨ args[i]? = some .undefined) : ¬ JudgedBad params args i := by
  intro h
  obtain ⟨param', hget', hrejects⟩ := h
  rw [hflag, Bool.true_or] at hrejects
  rcases harg with harg | harg
  · rw [harg] at hrejects
    exact absurd hrejects (by simp [Param.Rejects])
  · rw [harg] at hrejects
    exact hrejects.2 ⟨rfl, rfl⟩

theorem exists_firstBad {params : List Param} {args : List JsValue} (h : ∃ i, BadAt params args i) :
    ∃ i, FirstBad params args i := by
  classical
  exact ⟨Nat.find h, Nat.find_spec h, fun j hj => Nat.find_min h hj⟩

theorem FirstBad.le {params : List Param} {args : List JsValue} {i j : Nat}
    (h : FirstBad params args i) (hj : BadAt params args j) : i ≤ j :=
  Nat.le_of_not_lt fun hlt => h.2 j hlt hj

/-- A chain in which no position is overlooked is decided correctly, if it has a name for the
    first that is not accepted. -/
theorem decidesCorrectly_of_not_overlooks {params : List Param} {args : List JsValue}
    (h : ¬ Overlooks params args) (hnamed : ∀ i, FirstBad params args i → i < 10) :
    DecidesCorrectly params args := by
  by_cases hbad : ∃ i, BadAt params args i
  · obtain ⟨i, hfirst⟩ := exists_firstBad hbad
    obtain ⟨param, hget, -⟩ := hfirst.1
    have hjudged := (judgedBad_or_overlooked hfirst).resolve_right h
    obtain ⟨reason, hbefore, hat, hthrown, hvalid, htargets⟩ := chain_of_judgedBad hget hjudged
      fun j hj hjb => hfirst.2 j hj (badAt_of_judgedBad hjb)
    rw [calledBy_of_lt (hnamed i hfirst)] at hat hthrown
    have hlen : ((params.take i).mapIdx fun j param => param.filled args[j]?).length = i := by
      rw [List.length_mapIdx]
      exact List.length_take_of_le (Nat.le_of_lt (List.getElem?_eq_some_iff.mp hget).1)
    refine ⟨?_, ?_, ?_, ?_, ?_⟩
    · exact iff_of_true (by rw [ArgParser.isInvalid, hvalid]; rfl) hbad
    · intro j param' hget' hfirst'
      obtain rfl : i = j := Nat.le_antisymm (hfirst.le hfirst'.1) (hfirst'.le hfirst.1)
      cases hget.symm.trans hget'
      exact ⟨reason, hbefore, hat, hthrown⟩
    · intro hnone
      exact absurd hfirst.1 (hnone i)
    · intro j param' hget' hnone
      have hlt : j < i := Nat.lt_of_not_le fun hle => hnone i hle hfirst.1
      rw [htargets, List.getElem?_append_left (by rw [hlen]; exact hlt), List.getElem?_mapIdx,
        List.getElem?_take_of_lt hlt, hget']
      rfl
    · intro j param' hget' hsome
      obtain ⟨j', hle, hbad'⟩ := hsome
      have hij : i ≤ j := Nat.le_trans (hfirst.le hbad') hle
      rw [htargets, List.getElem?_append_right (by rw [hlen]; exact hij), hlen, List.getElem?_drop,
        Nat.add_sub_cancel' hij, hget']
  · have hnone : ∀ i, ¬ BadAt params args i := fun i hi => hbad ⟨i, hi⟩
    have hchain := chain_take (Nat.le_refl params.length) fun j _ hjb =>
      hnone j (badAt_of_judgedBad hjb)
    rw [List.take_length] at hchain
    refine ⟨?_, ?_, ?_, ?_, ?_⟩
    · rw [hchain]
      exact iff_of_false (by simp [ArgParser.isInvalid, ArgParser.before]) hbad
    · intro i param _ hfirst
      exact absurd hfirst.1 (hnone i)
    · intro _
      rw [hchain]
      rfl
    · intro i param hget _
      rw [hchain, List.getElem?_mapIdx, hget]
      rfl
    · intro i param _ hsome
      obtain ⟨j, -, hj⟩ := hsome
      exact absurd hj (hnone j)

/-- The call that was to raise the error raises nothing. -/
theorem not_decidesCorrectly_of_overlooks {params : List Param} {args : List JsValue}
    (hover : Overlooks params args) : ¬ DecidesCorrectly params args := by
  intro h
  obtain ⟨i, param, hfirst, hget, -, hflag, harg⟩ := hover
  obtain ⟨reason, -, hat, -⟩ := h.raised i param hget hfirst
  have hlt : i < params.length := (List.getElem?_eq_some_iff.mp hget).1
  have hquiet : ∀ j < i + 1, ¬ JudgedBad params args j := by
    intro j hj hjb
    rcases Nat.lt_succ_iff_lt_or_eq.mp hj with hlt | rfl
    · exact hfirst.2 j hlt (badAt_of_judgedBad hjb)
    · exact not_judgedBad_of_overlooked hflag harg hjb
  rw [chain_take hlt hquiet] at hat
  cases hat

/-- No error of a chain names a position after the tenth. -/
theorem not_decidesCorrectly_of_le {params : List Param} {args : List JsValue} {i : Nat}
    (hfirst : FirstBad params args i) (hlate : 10 ≤ i) : ¬ DecidesCorrectly params args := by
  intro h
  obtain ⟨param, hget, -⟩ := hfirst.1
  obtain ⟨reason, -, -, hthrown⟩ := h.raised i param hget hfirst
  rcases judgedBad_or_overlooked hfirst with hjudged | hover
  · obtain ⟨reason', -, -, hthrown', -⟩ := chain_of_judgedBad hget hjudged
      fun j hj hjb => hfirst.2 j hj (badAt_of_judgedBad hjb)
    rw [calledBy_of_le hlate, hthrown] at hthrown'
    have htext := congrArg JsError.message (List.cons.inj hthrown').1
    simp only [complaint, List.append_assoc] at htext
    exact ordinal_append_ne hlate _ _ htext
  · exact not_decidesCorrectly_of_overlooks hover h

/-- **A chain is decided correctly** exactly when its first position that is not accepted is one
    of the first ten, and not one that `arg` declares behind an `opt` and that lacks its
    argument. -/
theorem decidesCorrectly_iff (params : List Param) (args : List JsValue) :
    DecidesCorrectly params args ↔
      ¬ Overlooks params args ∧ ∀ i, FirstBad params args i → i < 10 := by
  constructor
  · intro h
    refine ⟨fun hover => not_decidesCorrectly_of_overlooks hover h, fun i hfirst => ?_⟩
    exact Nat.lt_of_not_le fun hlate => not_decidesCorrectly_of_le hfirst hlate h
  · intro h
    exact decidesCorrectly_of_not_overlooks h.1 h.2

/-- `opt("a")` and then `arg("b")`, with no argument: `b` is required, and the parser is
    satisfied. -/
theorem chain_overlooks_required :
    let params : List Param := [⟨.uint16, "a", (0 : UInt16), .none, true⟩,
      ⟨.string, "b", ([] : StdString), .none, false⟩]
    ((ArgParser.new []).chain params).1.isInvalid = false ∧ BadAt params [] 1 ∧
      ¬ DecidesCorrectly params [] := by
  intro params
  have hinvalid : ((ArgParser.new []).chain params).1.isInvalid = false := rfl
  have hbad : BadAt params [] 1 := ⟨_, rfl, rfl⟩
  refine ⟨hinvalid, hbad, ?_⟩
  intro h
  rw [h.invalid.mpr ⟨1, hbad⟩] at hinvalid
  cases hinvalid

end NetLink
