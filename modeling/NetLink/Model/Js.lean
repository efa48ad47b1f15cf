import Mathlib.Algebra.Group.Int.Defs
import Mathlib.Data.Rat.Init
import NetLink.Model.Core

/-!
# JavaScript values, as the binding sees them

The part of V8, Node and Nan the binding goes through to read an argument, modelled by what it
documents: `IntegerValue` truncates toward zero and saturates at 64 bits, `Nan::Utf8String` is
the UTF-8 text of the code units with a lone surrogate replaced by U+FFFD, and the typed-array
accessors yield the bytes of the view.
-/

namespace NetLink

/-! ## Numbers -/

/-- A JS number. The sign of a zero is not kept; nothing here looks at it. -/
inductive JsNumber
  | nan
  | posInfinity
  | negInfinity
  | finite (x : ℚ)
  deriving DecidableEq

/-- Truncation toward zero. -/
def truncate (x : ℚ) : Int := if 0 ≤ x then x.floor else x.ceil

/-- `IntegerValue`. -/
def JsNumber.integerValue : JsNumber → Int
  | .nan => 0
  | .posInfinity => 2 ^ 63 - 1
  | .negInfinity => -2 ^ 63
  | .finite x => max (-2 ^ 63) (min (truncate x) (2 ^ 63 - 1))

/-! ## Strings -/

/-- A JS string: its code units. -/
abbrev JsString := List UInt16

namespace JsString

def isHigh (u : UInt16) : Bool := 0xD800 ≤ u && u < 0xDC00

def isLow (u : UInt16) : Bool := 0xDC00 ≤ u && u < 0xE000

/-- A code unit on its own; a surrogate is replaced. -/
def unit (u : UInt16) : Char :=
  if isHigh u || isLow u then Char.ofNat 0xFFFD else Char.ofNat u.toNat

/-- A surrogate pair. -/
def pair (u v : UInt16) : Char :=
  Char.ofNat (0x10000 + (u.toNat - 0xD800) * 0x400 + (v.toNat - 0xDC00))

/-- The characters of a string. -/
def chars : JsString → List Char
  | [] => []
  | [u] => [unit u]
  | u :: v :: rest =>
    if isHigh u && isLow v then pair u v :: chars rest else unit u :: chars (v :: rest)

/-- `Nan::Utf8String`: the bytes of the string, without the terminator. -/
def utf8 (s : JsString) : StdString := s.chars.flatMap String.utf8EncodeChar

end JsString

/-! ## Values -/

/-- A view of a backing store. -/
structure ArrayBufferView where
  buffer : StdString
  byteOffset : Nat
  byteLength : Nat
  in_bounds : byteOffset + byteLength ≤ buffer.length
  deriving DecidableEq

/-- The bytes a view shows. -/
def ArrayBufferView.contents (v : ArrayBufferView) : StdString :=
  (v.buffer.drop v.byteOffset).take v.byteLength

/-- The values the binding has no use for, by their `typeof`. -/
inductive OtherType
  | object
  | function
  | symbol
  | bigint
  deriving DecidableEq, Repr

/-- A JS value. A Node `Buffer` is a `Uint8Array`; `bufferView` is any other view, which
    `node::Buffer::HasInstance` also accepts. -/
inductive JsValue
  | undefined
  | null
  | boolean (b : Bool)
  | number (x : JsNumber)
  | string (s : JsString)
  | uint8Array (view : ArrayBufferView)
  | bufferView (view : ArrayBufferView)
  | other (type : OtherType)
  deriving DecidableEq

/-- `typeof`. -/
def JsValue.typeOf : JsValue → StdString
  | .undefined => lit "undefined"
  | .null => lit "object"
  | .boolean _ => lit "boolean"
  | .number _ => lit "number"
  | .string _ => lit "string"
  | .uint8Array _ => lit "object"
  | .bufferView _ => lit "object"
  | .other .object => lit "object"
  | .other .function => lit "function"
  | .other .symbol => lit "symbol"
  | .other .bigint => lit "bigint"

/-- Which error class is thrown. -/
inductive ErrorClass
  | error
  | typeError
  deriving DecidableEq, Repr

/-- A thrown JS error. -/
structure JsError where
  cls : ErrorClass
  message : StdString
  deriving DecidableEq

end NetLink
