import NetLink.Proof.Chain
import NetLink.Proof.Kinds
import NetLink.Proof.Text

/-!
# The same data as a string and as bytes

`send` and `sendTo` take a string, a `Buffer` or a `Uint8Array`. A view is handed to the socket
as the pointer and the length it has, a string by the C-string constructor. `interchangeable_iff`
says for which strings that makes no difference.
-/

namespace NetLink

open Interaction NetLinkWrapper GetValue
open Socket (SendToVars)

/-- The values that stand for the text `s`: the string, and every view that shows its UTF-8
    bytes, wherever in its backing store they are. -/
inductive Represents (s : JsString) : JsValue → Prop
  | string : Represents s (.string s)
  | uint8Array {view : ArrayBufferView} : view.contents = s.utf8 → Represents s (.uint8Array view)
  | bufferView {view : ArrayBufferView} : view.contents = s.utf8 → Represents s (.bufferView view)

/-- Whatever stands for `s` in a `send` or a `sendTo`, the socket is given all of its UTF-8
    bytes. -/
structure Interchangeable (s : JsString) : Prop where
  send : ∀ (c : SocketClientTCP) stack v rest, Represents s v →
    c.wrapper.send stack (v :: rest) = (c.socket.send stack s.utf8).map jsResult
  sendTo : ∀ (u : SocketUDP) stack host x port v rest, Represents s v →
    getPort 0 (.number x) .none = ([], port) →
    u.wrapper.sendTo stack (.string host :: .number x :: v :: rest) =
      (u.socket.sendTo stack s.utf8 (ofCString host.utf8) port.toNat).map jsResult

/-! ## What is read -/

/-- The bytes that are read from a value that stands for `s`. -/
theorem Represents.read {s : JsString} {v : JsValue} (h : Represents s v) (hs : 0 ∉ s) :
    getString [] v .sendableData = ([], s.utf8) := by
  cases h with
  | string => exact congrArg (Prod.mk []) (JsString.ofCString_utf8_eq_self.mpr hs)
  | uint8Array hview => exact congrArg (Prod.mk []) hview
  | bufferView hview => exact congrArg (Prod.mk []) hview

/-- An argument that is there and is read without complaint. -/
theorem ArgParser.arg_read {T : Type} {getValue : T → JsValue → SubType → StdString × T}
    {args : List JsValue} {i : Nat} {name : String} {value value' : T} {subType : SubType}
    {a : JsValue} (h : args[i]? = some a) (hread : getValue value a subType = ([], value')) :
    (before args i false).arg getValue name value subType = (before args (i + 1) false, value') := by
  rw [arg_present h, hread]
  rfl

theorem send_of_read (c : SocketClientTCP) (stack : Ptr) (rest : List JsValue) {v : JsValue}
    {data : StdString} (h : getString [] v .sendableData = ([], data)) :
    c.wrapper.send stack (v :: rest) = sendTcp c.socket data := by
  have hget : (v :: rest)[0]? = some v := rfl
  have hargs : sendArgs (v :: rest) = (.before (v :: rest) 1 false, data) :=
    ArgParser.arg_read hget h
  rw [c.send_eq, hargs]
  rfl

theorem sendTo_of_read (u : SocketUDP) (stack : Ptr) (host : JsString) {x : JsNumber}
    {port : UInt16} {v : JsValue} (rest : List JsValue) {data : StdString}
    (hport : getPort 0 (.number x) .none = ([], port))
    (h : getString [] v .sendableData = ([], data)) :
    u.wrapper.sendTo stack (.string host :: .number x :: v :: rest) =
      (u.socket.sendTo stack data (ofCString host.utf8) port.toNat).map jsResult := by
  let args : List JsValue := .string host :: .number x :: v :: rest
  have hargs : sendToArgs args = (.before args 3 false, ⟨ofCString host.utf8, port, data⟩) := by
    have hhost : (ArgParser.new args).arg getString "host" [] .none =
        (.before args 1 false, ofCString host.utf8) := ArgParser.arg_read (i := 0) rfl rfl
    have hport : (ArgParser.before args 1 false).arg getPort "port" 0 .none =
        (.before args 2 false, port) := ArgParser.arg_read rfl hport
    have hdata : (ArgParser.before args 2 false).arg getString "data" [] .sendableData =
        (.before args 3 false, data) := ArgParser.arg_read rfl h
    simp only [sendToArgs, hhost, hport, hdata]
  rw [u.sendTo_eq, hargs]
  rfl

/-- The data can be read off the loop: it is what the first `::send` is given. -/
theorem sendTcp_inj {s : Socket} {data data' : StdString} (h : sendTcp s data = sendTcp s data') :
    data = data' := by
  have hbody : (sendTcp s data).body (.inr 0) = (sendTcp s data').body (.inr 0) := by
    rw [h]
  rw [sendTcp_body, sendTcp_body] at hbody
  cases data with
  | nil =>
    cases data' with
    | nil => rfl
    | cons b bytes => cases hbody
  | cons a bytes =>
    cases data' with
    | nil => cases hbody
    | cons b bytes' =>
      simp only [List.length_cons, Nat.succ_pos, if_true] at hbody
      injection hbody with hcall
      injection hcall

/-- **A string and its bytes are interchangeable** exactly when it has no U+0000. -/
theorem interchangeable_iff (s : JsString) : Interchangeable s ↔ 0 ∉ s := by
  constructor
  · intro h
    have hsend := h.send (.on 3 9000) none (.string s) [] .string
    have hread : getString [] (.string s) .sendableData = ([], ofCString s.utf8) := rfl
    rw [SocketClientTCP.sendTcp_eq, send_of_read _ none [] hread] at hsend
    exact JsString.ofCString_utf8_eq_self.mp (sendTcp_inj hsend)
  · intro hs
    refine ⟨?_, ?_⟩
    · intro c stack v rest hv
      rw [c.sendTcp_eq, send_of_read c stack rest (hv.read hs)]
    · intro u stack host x port v rest hv hport
      exact sendTo_of_read u stack host rest hport (hv.read hs)

/-- `send("a\0b")` hands one byte to the socket, `send` of a `Buffer` with the same text three. -/
theorem send_cuts_at_nul :
    let s : JsString := [97, 0, 98]
    let view : ArrayBufferView := ⟨[97, 0, 98], 0, 3, by decide⟩
    let c : SocketClientTCP := .on 3 9000
    s.utf8 = view.contents ∧
      c.wrapper.send none [.string s] = (c.socket.send none [97]).map jsResult ∧
      c.wrapper.send none [.uint8Array view] = (c.socket.send none [97, 0, 98]).map jsResult ∧
      ¬ Interchangeable s := by
  intro s view c
  have hstring : c.wrapper.send none [.string s] = sendTcp c.socket [97] :=
    send_of_read c none [] rfl
  have hview : c.wrapper.send none [.uint8Array view] = sendTcp c.socket [97, 0, 98] :=
    send_of_read c none [] rfl
  have hutf8 : s.utf8 = [97, 0, 98] := by decide
  refine ⟨hutf8, ?_, ?_, fun h => ?_⟩
  · rw [c.sendTcp_eq, hstring]
  · rw [c.sendTcp_eq, hview]
  · have hsend := h.send c none (.string s) [] .string
    rw [c.sendTcp_eq, hstring, hutf8] at hsend
    cases sendTcp_inj hsend

end NetLink
