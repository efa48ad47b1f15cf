import NetLink.Model.Js

/-!
# Reading arguments

`src/get_value.h` and `src/arg_parser.h`. A `get_value` specialisation answers an error text,
empty when there is none, and assigns its target only then; here the target's new content is
returned beside the text.

The parser is the three fields of the source and the errors it has raised so far. `optional` is
set by `opt` and never cleared, as in the source.
-/

namespace NetLink

namespace GetValue

/-- `GetValue::SubType`. -/
inductive SubType
  | none
  | sendableData
  deriving DecidableEq, Repr

/-- `get_typeof_str`. -/
def getTypeofStr (arg : JsValue) : StdString :=
  lit "Got type \"" ++ arg.typeOf ++ lit "\"."

/-- `get_value<T>`, for a type that has no specialisation. -/
def getUnknown {T : Type} (value : T) (_ : JsValue) (_ : SubType) : StdString × T :=
  (lit "Cannot handle unknown type", value)

/-- `get_value<std::uint16_t &>`. -/
def getPort (value : UInt16) : JsValue → SubType → StdString × UInt16
  | .number x, _ =>
    let asNumber := x.integerValue
    if asNumber ≤ 0 then (printed asNumber ++ lit " must be greater than 0.", value)
    else if 65535 < asNumber then
      (printed asNumber ++ lit " beyond max port range of " ++ printed 65535 ++ lit ".", value)
    else ([], UInt16.ofNat asNumber.toNat)
  | arg, _ => (lit "must be a number. " ++ getTypeofStr arg, value)

/-- `get_value<bool &>`. -/
def getBool (value : Bool) : JsValue → SubType → StdString × Bool
  | .boolean b, _ => ([], b)
  | arg, _ => (lit "must be a boolean. " ++ getTypeofStr arg, value)

/-- The opening of both complaints about an IP version. -/
def invalidString : StdString := lit "must be an ip version string either 'IPv4' or 'IPv6'."

/-- `get_value<NL::IPVer &>`. -/
def getIpVer (value : IPVer) : JsValue → SubType → StdString × IPVer
  | .string s, _ =>
    let str := ofCString s.utf8
    if str = lit "IPv6" then ([], .ip6)
    else if str = lit "IPv4" then ([], .ip4)
    else (invalidString ++ lit " Got: '" ++ str ++ lit "'.", value)
  | arg, _ => (invalidString ++ lit " " ++ getTypeofStr arg, value)

/-- `get_value<std::string &>`. -/
def getString (value : StdString) : JsValue → SubType → StdString × StdString
  | .string s, _ => ([], ofCString s.utf8)
  | .uint8Array view, .sendableData => ([], view.contents)
  | .bufferView view, .sendableData => ([], view.contents)
  | _, .sendableData => (lit "must be a string, Buffer, or Uint8Array", value)
  | arg, .none => (lit "must be a string. " ++ getTypeofStr arg, value)

end GetValue

open GetValue

/-- `ArgParser`, with the errors it has thrown. -/
structure ArgParser where
  valid : Bool
  position : Int
  optional : Bool
  args : List JsValue
  thrown : List JsError

namespace ArgParser

def new (args : List JsValue) : ArgParser := ⟨true, -1, false, args, []⟩

/-- `isInvalid()`. -/
def isInvalid (p : ArgParser) : Bool := !p.valid

/-- `named_position()`. -/
def namedPosition (p : ArgParser) : StdString :=
  match p.position with
  | 0 => lit "First"
  | 1 => lit "Second"
  | 2 => lit "Third"
  | 3 => lit "Fourth"
  | 4 => lit "Fifth"
  | 5 => lit "Sixth"
  | 6 => lit "Seventh"
  | 7 => lit "Eighth"
  | 8 => lit "Ninth"
  | 9 => lit "Tenth"
  | _ => lit "Some"

/-- `invalidate(arg_name, reason)`. -/
def invalidate (p : ArgParser) (argName : String) (reason : StdString) : ArgParser :=
  { p with
    valid := false
    thrown := p.thrown ++
      [⟨.typeError, p.namedPosition ++ lit " argument \"" ++ lit argName ++ lit "\" " ++ reason⟩] }

/-- `arg(arg_name, value, sub_type)`, for the `get_value` of the target's type. -/
def arg {T : Type} (getValue : T → JsValue → SubType → StdString × T) (p : ArgParser)
    (argName : String) (value : T) (subType : SubType) : ArgParser × T :=
  let p := { p with position := p.position + 1 }
  if !p.valid then (p, value)
  else if p.args.length ≤ p.position then
    if !p.optional then
      (p.invalidate argName
        (lit "is required, but not enough arguments passed (" ++ printed p.args.length ++ lit ")."),
        value)
    else (p, value)
  else
    let arg := p.args.getD p.position.toNat .undefined
    if p.optional && arg = .undefined then (p, value)
    else
      let (errorMessage, value) := getValue value arg subType
      if 0 < errorMessage.length then (p.invalidate argName errorMessage, value)
      else (p, value)

/-- The exception that is pending when a caller has seen `isInvalid()` and returns. -/
def rejected (p : ArgParser) : Option JsError := if p.isInvalid then p.thrown.head? else none

/-- `opt(arg_name, value, sub_type)`. -/
def opt {T : Type} (getValue : T → JsValue → SubType → StdString × T) (p : ArgParser)
    (argName : String) (value : T) (subType : SubType) : ArgParser × T :=
  arg getValue { p with optional := true } argName value subType

end ArgParser

end NetLink
