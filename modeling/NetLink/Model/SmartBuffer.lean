import NetLink.Lib.Heap
import NetLink.Lib.Signature
import NetLink.Model.Socket

/-!
# `NL::SmartBuffer`

`src/netlink/smart_buffer.cc` and its inline part, with `uMax` of `util`. A buffer owns a block of
memory that is at least as large as what has been read into it, and asks for a larger one when
more is announced than fits.

A `size_t` is a `UInt64` and an `unsigned` a `UInt32`, converted where the source converts. The
growing ratio is a `double`, and it is read in one place only; `grown` is what that place computes
from the size, `(unsigned)(_allocSize * _reallocRatio)`. Reading a socket needs both the socket's
calls and the heap.
-/

namespace NetLink

open Interaction

/-- Code that asks for memory. -/
abbrev Mem := Prog (HeapCall UInt8) HeapCall.Ret

/-- What is answered to code that makes system calls and asks for memory. -/
abbrev BufferRet : Call ⊕ HeapCall UInt8 → Type := SumRet Call.Ret HeapCall.Ret

/-- `NL::SmartBuffer`. -/
structure SmartBuffer where
  buffer : Ptr
  usedSize : UInt64
  allocSize : UInt64
  grown : UInt64 → UInt32

/-- `uMax`. -/
def uMax (a b : UInt32) : UInt32 := if a > b then a else b

namespace SmartBuffer

/-- The constructor. -/
def new (allocSize : UInt64) (grown : UInt64 → UInt32) : Mem (Except Exception SmartBuffer) := do
  match ← Prog.call (HeapCall.malloc allocSize.toNat) with
  | none => return .error ⟨.errorAlloc, lit "SmartBuffer::SmartBuffer: memory alloc error"⟩
  | some buffer => return .ok { buffer := some buffer, usedSize := 0, allocSize, grown }

/-- `memcpy` from one block to another, from the start of both. -/
def memcpy (dest src : Ptr) (count : UInt64) : Mem Unit := do
  let bytes ← Prog.call (HeapCall.load src 0 count.toNat)
  Prog.call (HeapCall.store dest 0 bytes)

/-- The copy constructor. -/
def copy (s : SmartBuffer) : Mem (Except Exception SmartBuffer) := do
  match ← Prog.call (HeapCall.malloc s.allocSize.toNat) with
  | none => return .error ⟨.errorAlloc, lit "SmartBuffer::SmartBuffer: memory alloc error"⟩
  | some buffer =>
    memcpy (some buffer) s.buffer s.usedSize
    return .ok { s with buffer := some buffer }

/-- `~SmartBuffer()`. -/
def destructor (b : SmartBuffer) : Mem Unit :=
  match b.buffer with
  | none => return ()
  | some p => Prog.call (HeapCall.free (some p))

/-- `operator=`, with the buffer as it is left. The ratio is not assigned. -/
def assign (b s : SmartBuffer) : Mem (Except Exception Unit × SmartBuffer) :=
  let b := { b with usedSize := s.usedSize }
  if b.allocSize < s.usedSize then do
    b.destructor
    match ← Prog.call (HeapCall.malloc s.usedSize.toNat) with
    | none =>
      return (.error ⟨.errorAlloc, lit "SmartBuffer::operator=: memory alloc error"⟩,
        { b with buffer := none, allocSize := s.usedSize })
    | some buffer =>
      memcpy (some buffer) s.buffer s.usedSize
      return (.ok (), { b with buffer := some buffer, allocSize := s.usedSize })
  else do
    memcpy b.buffer s.buffer s.usedSize
    return (.ok (), b)

/-- `operator[]`: the address of a byte, as the block and the place in it. -/
def get (b : SmartBuffer) (index : UInt64) : Except Exception (Ptr × UInt64) :=
  if b.usedSize ≤ index then
    .error ⟨.outOfRange, lit "SmartBuffer::operator[]: index out of range"⟩
  else .ok (b.buffer, index)

def size (b : SmartBuffer) : UInt64 := b.usedSize

def clear (b : SmartBuffer) : SmartBuffer := { b with usedSize := 0 }

/-- The part of a round of `read` that makes room: the buffer, and how many bytes are free in it. -/
def reserve (b : SmartBuffer) (incomingBytes : UInt64) :
    Mem (Except Exception (SmartBuffer × UInt64)) := do
  let freeBytes := b.allocSize - b.usedSize
  if freeBytes < incomingBytes ∨ freeBytes = 0 then
    let newAllocSize :=
      (uMax (b.grown b.allocSize) (b.usedSize + incomingBytes).toUInt32).toUInt64
    match ← Prog.call (HeapCall.realloc b.buffer newAllocSize.toNat) with
    | none => return .error ⟨.errorAlloc, lit "SmartBuffer::Read: memory alloc error"⟩
    | some newBuffer =>
      return .ok ({ b with buffer := some newBuffer, allocSize := newAllocSize },
        newAllocSize - b.usedSize)
  else return .ok (b, freeBytes)

/-- `read`: a `do … while`, with the buffer and `incomingBytes` as its variables. What `Socket::read`
    is given is lent for the time of the call; the bytes it has placed are then stored. -/
def read (abi : Abi) (socket : Socket) (b : SmartBuffer) :
    Loop (Call ⊕ HeapCall UInt8) BufferRet (SmartBuffer × UInt64)
      (Except Exception Unit × SmartBuffer) where
  enter := do
    match ← (socket.nextReadSize abi).inl with
    | .error e => return .inr (.error e, b)
    | .ok size => return .inl (b, UInt64.ofInt size)
  body v := do
    match ← (v.1.reserve v.2).inr with
    | .error e => return .inr (.error e, v.1)
    | .ok (b, freeBytes) =>
      Prog.call (Sum.inr (HeapCall.lend b.buffer b.usedSize.toNat freeBytes.toNat))
      match ← (socket.read freeBytes.toNat).inl with
      | .error e => return .inr (.error e, b)
      | .ok r =>
        Prog.call (Sum.inr (HeapCall.store b.buffer b.usedSize.toNat r.buffer))
        let b := { b with usedSize := b.usedSize + UInt64.ofInt r.status }
        match ← (socket.nextReadSize abi).inl with
        | .error e => return .inr (.error e, b)
        | .ok size =>
          if size = 0 then return .inr (.ok (), b) else return .inl (b, UInt64.ofInt size)

end SmartBuffer

end NetLink
