import Mathlib.Logic.Function.Basic
import NetLink.Lib.Kernel

/-!
# Memory that is asked for

A C heap, for code that asks for blocks, gives them back, and reads and writes them. A `Heap` knows
what each block holds, by the address it begins at; where blocks lie is left open, and so is
whether there is memory left. What code may do is what `Heap.kernel` allows: to give back a block
that is there, and to touch a block inside its bounds.

Ownership is one equation. `Heap.erase h p` is the heap without the block at `p`, and
`h'.erase p' = h.erase p` says of a piece of code that has exchanged the block at `p` for the one
at `p'` that it has not touched any other (`Heap.Exchanged`).
-/

namespace Interaction

/-- What code asks of the heap. `lend` asks nothing: the code hands these cells to someone else,
    who may write them. -/
inductive HeapCall (α : Type)
  | malloc (size : Nat)
  | realloc (p : Option Nat) (size : Nat)
  | free (p : Option Nat)
  | load (p : Option Nat) (offset count : Nat)
  | store (p : Option Nat) (offset : Nat) (cells : List α)
  | lend (p : Option Nat) (offset count : Nat)

/-- What it is answered; a null address when there is no memory. -/
abbrev HeapCall.Ret {α : Type} : HeapCall α → Type
  | malloc _ | realloc .. => Option Nat
  | free _ | store .. | lend .. => Unit
  | load .. => List α

/-- What each block holds, by its address. -/
abbrev Heap (α : Type) := Nat → Option (List α)

namespace Heap

variable {α : Type} {h h' h'' : Heap α} {p p' p'' : Option Nat} {a : Nat} {b cells : List α}
  {offset count : Nat}

def empty : Heap α := fun _ => none

/-- What the block at `p` holds; nothing when there is none. -/
def contents (h : Heap α) (p : Option Nat) : List α := ((p.bind h)).getD []

/-- The heap without the block at `p`. -/
def erase (h : Heap α) : Option Nat → Heap α
  | none => h
  | some a => Function.update h a none

/-- Some cells with others written over them from a place on. -/
def splice (b : List α) (offset : Nat) (cells : List α) : List α :=
  b.take offset ++ cells ++ b.drop (offset + cells.length)

def write (h : Heap α) (p : Option Nat) (offset : Nat) (cells : List α) : Heap α :=
  match p with
  | none => h
  | some a => Function.update h a ((h a).map fun b => splice b offset cells)

/-- The block at `p` is there, or `p` is null. -/
def Valid (h : Heap α) (p : Option Nat) : Prop := ∀ a ∈ p, h a ≠ none

/-- These cells are in the block at `p`. -/
def Within (h : Heap α) (p : Option Nat) (offset count : Nat) : Prop :=
  ∃ a b, p = some a ∧ h a = some b ∧ offset + count ≤ b.length

/-- What code may ask. -/
def allowed (h : Heap α) : HeapCall α → Prop
  | .malloc _ => True
  | .realloc p _ | .free p => h.Valid p
  | .load p offset count | .lend p offset count => h.Within p offset count
  | .store p offset cells => h.Within p offset cells.length

/-- A new block of this size, anywhere. -/
def Fresh (h : Heap α) (size a : Nat) (b : List α) (h' : Heap α) : Prop :=
  h a = none ∧ b.length = size ∧ h' = Function.update h a (some b)

/-- What it may be answered. A `realloc` keeps what fits into the new size; one that asks for no
    memory may give the block back and answer null. -/
def answers (h : Heap α) : (q : HeapCall α) → q.Ret → Heap α → Prop
  | .malloc _, none, h' => h' = h
  | .malloc size, some a, h' => ∃ b, h.Fresh size a b h'
  | .realloc p size, none, h' => h' = h ∨ size = 0 ∧ h' = h.erase p
  | .realloc p size, some a, h' => ∃ b, (h.erase p).Fresh size a b h' ∧
      b.take (h.contents p).length = (h.contents p).take size
  | .free p, _, h' => h' = h.erase p
  | .load p offset count, cells, h' => h' = h ∧ cells = ((h.contents p).drop offset).take count
  | .store p offset cells, _, h' => h' = h.write p offset cells
  | .lend p offset count, _, h' => ∃ cells : List α, cells.length = count ∧ h' = h.write p offset cells

def kernel : Kernel (HeapCall α) HeapCall.Ret (Heap α) where
  allowed := allowed
  answers := answers

/-- The same heap, for code that may ask anything. -/
def unchecked : Kernel (HeapCall α) HeapCall.Ret (Heap α) where
  allowed _ _ := True
  answers := answers

/-! ## Exchanging blocks -/

/-- The block at `p` is now the one at `p'`, and the others are as they were. -/
def Exchanged (h : Heap α) (p : Option Nat) (h' : Heap α) (p' : Option Nat) : Prop :=
  h'.erase p' = h.erase p

@[simp] theorem erase_none (h : Heap α) : h.erase none = h := rfl

theorem erase_self (h : Heap α) (a : Nat) : h.erase (some a) a = none := Function.update_self ..

theorem erase_of_ne (h : Heap α) {x : Nat} (hx : some x ≠ p) : h.erase p x = h x := by
  cases p with
  | none => rfl
  | some a => exact Function.update_of_ne (fun heq => hx (congrArg some heq)) _ _

theorem Exchanged.refl (h : Heap α) (p : Option Nat) : h.Exchanged p h p := rfl

theorem Exchanged.trans (h₁ : h.Exchanged p h' p') (h₂ : h'.Exchanged p' h'' p'') :
    h.Exchanged p h'' p'' := Eq.trans h₂ h₁

/-- What is in another block stays there. -/
theorem Exchanged.other (hex : h.Exchanged p h' p') {x : Nat} (hx : some x ≠ p) (hb : h x ≠ none) :
    h' x = h x ∧ some x ≠ p' := by
  have hsame : h'.erase p' x = h x := by
    rw [hex]
    exact erase_of_ne h hx
  have hne : some x ≠ p' := by
    rintro rfl
    rw [erase_self] at hsame
    exact hb hsame.symm
  rw [erase_of_ne h' hne] at hsame
  exact ⟨hsame, hne⟩

/-- There are no blocks but the new one and those there were. -/
theorem Exchanged.back (hex : h.Exchanged p h' p') {x : Nat} (hb : h' x ≠ none) :
    some x = p' ∨ (h x ≠ none ∧ some x ≠ p) := by
  by_cases hne : some x = p'
  · exact .inl hne
  · right
    have hsame : h.erase p x = h' x := by
      rw [← hex]
      exact erase_of_ne h' hne
    have hp : some x ≠ p := by
      rintro rfl
      rw [erase_self] at hsame
      exact hb hsame.symm
    rw [erase_of_ne h hp] at hsame
    exact ⟨hsame ▸ hb, hp⟩

theorem Fresh.exchanged {size : Nat} (hfresh : (h.erase p).Fresh size a b h') :
    h.Exchanged p h' (some a) := by
  obtain ⟨hnone, -, rfl⟩ := hfresh
  show Function.update (Function.update (h.erase p) a (some b)) a none = h.erase p
  rw [Function.update_idem, ← hnone, Function.update_eq_self]

theorem Fresh.block {size : Nat} (hfresh : h.Fresh size a b h') : h' a = some b := by
  obtain ⟨-, -, rfl⟩ := hfresh
  exact Function.update_self ..

theorem erased_exchanged (h : Heap α) (p : Option Nat) : h.Exchanged p (h.erase p) none := rfl

theorem write_exchanged (h : Heap α) (p : Option Nat) (offset : Nat) (cells : List α) :
    h.Exchanged p (h.write p offset cells) p := by
  cases p with
  | none => rfl
  | some a => exact Function.update_idem ..

/-! ## What blocks hold -/

theorem contents_of_block (hb : h a = some b) : h.contents (some a) = b := by
  show (h a).getD [] = b
  rw [hb]
  rfl

theorem write_block (hb : h a = some b) (offset : Nat) (cells : List α) :
    h.write (some a) offset cells a = some (splice b offset cells) := by
  show Function.update h a _ a = _
  rw [Function.update_self, hb]
  rfl

theorem splice_length (hle : offset + cells.length ≤ b.length) :
    (splice b offset cells).length = b.length := by
  simp only [splice, List.length_append, List.length_take, List.length_drop]
  omega

/-- What was written is behind what was there. -/
theorem splice_take (hle : offset ≤ b.length) :
    (splice b offset cells).take (offset + cells.length) = b.take offset ++ cells := by
  have hlen : (b.take offset ++ cells).length = offset + cells.length := by
    rw [List.length_append, List.length_take, Nat.min_eq_left hle]
  rw [splice, ← hlen, List.take_left]

/-- What is before it stays. -/
theorem splice_take_le {n : Nat} (hn : n ≤ offset) (hle : offset ≤ b.length) :
    (splice b offset cells).take n = b.take n := by
  have hlen : n ≤ (b.take offset).length := by
    rw [List.length_take]
    omega
  rw [splice, List.append_assoc, List.take_append_of_le_length hlen, List.take_take,
    Nat.min_eq_left hn]

end Heap

end Interaction
