import Mathlib.Logic.ExistsUnique
import NetLink.Proof.SmartBuffer

/-!
# A program with many buffers

Any number of smart buffers over one heap, made, copied, read into, assigned, cleared and destroyed
in any order. To its program a buffer is some bytes (`Value`), and what an operation makes of them
is said without the heap (`Op.effect`). `Run.sound` is that every run of the code is one of these:
each object holds its bytes in a block of its own, and no block is left without an object.
-/

namespace NetLink

open Interaction

namespace SmartBuffer

variable {b s : SmartBuffer} {bytes : StdString} {heap heap' : Heap UInt8} {feed : Feed}

/-- What a buffer is to the program that has it: some bytes, or nothing that can be used, when there
    was no memory for an assignment to it. -/
inductive Value
  | holds (bytes : StdString)
  | spent

def Value.content : Value → StdString
  | holds bytes => bytes
  | spent => []

/-- What a program does with buffers, which it knows by number. While it reads the buffer holds no
    more than `room` bytes. -/
inductive Op
  | construct (i : Nat) (allocSize : UInt64) (grown : UInt64 → UInt32)
  | copy (i j : Nat)
  | destroy (i : Nat)
  | assign (i j : Nat)
  | clear (i : Nat)
  | read (i : Nat) (abi : Abi) (socket : Socket) (room : Nat)

/-- The buffers there are, and the heap. -/
structure World where
  heap : Heap UInt8
  objects : Nat → Option SmartBuffer

/-- Whether it has thrown, and the object there is afterwards. -/
abbrev Outcome := Except Exception Unit × Option SmartBuffer

abbrev OpLoop := Loop (Call ⊕ HeapCall UInt8) BufferRet (SmartBuffer × UInt64) Outcome

/-- A constructor that throws makes no object. -/
def made : Except Exception SmartBuffer → Outcome
  | .error e => (.error e, none)
  | .ok b => (.ok (), some b)

namespace Op

/-- The object it is about. -/
def target : Op → Nat
  | construct i .. | copy i _ | destroy i | assign i _ | clear i | read i .. => i

/-- The code that runs; none without the objects it needs. -/
def code (objects : Nat → Option SmartBuffer) : Op → Option OpLoop
  | construct _ allocSize grown => some ((Loop.ofProg (new allocSize grown).inr).map made)
  | copy _ j => do
    let s ← objects j
    return (Loop.ofProg s.copy.inr).map made
  | destroy i => do
    let b ← objects i
    return (Loop.ofProg b.destructor.inr).map fun _ => (.ok (), none)
  | assign i j => do
    let b ← objects i
    let s ← objects j
    return (Loop.ofProg (b.assign s).inr).map fun o => (o.1, some o.2)
  | clear i => do
    let b ← objects i
    return .done (.ok (), some b.clear)
  | read i abi socket _ => do
    let b ← objects i
    return (SmartBuffer.read abi socket b).map fun o => (o.1, some o.2)

def kernel : Op → Kernel (Call ⊕ HeapCall UInt8) BufferRet (Feed × Heap UInt8)
  | read _ _ _ room => (Feed.steady room).both Heap.kernel
  | _ => (Feed.steady 0).both Heap.kernel

/-- What the program may do. A buffer is not assigned to itself, since `memcpy` is not for blocks
    that overlap, and one that is spent can only be destroyed. -/
def Legal (values : Nat → Option Value) : Op → Prop
  | construct i allocSize _ => values i = none ∧ 0 < allocSize.toNat
  | copy i j => values i = none ∧ ∃ bytes, values j = some (.holds bytes)
  | destroy i => values i ≠ none
  | assign i j => i ≠ j ∧ (∃ bytes, values i = some (.holds bytes)) ∧
      ∃ bytes, values j = some (.holds bytes)
  | clear i => ∃ bytes, values i = some (.holds bytes)
  | read i abi _ room => abi.Counts ∧ room < 2 ^ 31 ∧
      ∃ bytes, values i = some (.holds bytes) ∧ bytes.length ≤ room

/-- The bytes in the buffer before. -/
def before (values : Nat → Option Value) (op : Op) : StdString :=
  ((values op.target).map Value.content).getD []

/-- What the buffer is to the program afterwards; `held` is what a reader of the socket holds. -/
def effect (values : Nat → Option Value) (held : StdString) (threw : Bool) : Op → Option Value
  | construct .. => if threw then none else some (.holds [])
  | copy _ j => if threw then none else values j
  | destroy _ => none
  | assign _ j => if threw then some .spent else values j
  | clear _ => some (.holds [])
  | read .. => some (.holds held)

end Op

def threw : Except Exception Unit → Bool
  | .error _ => true
  | .ok _ => false

/-- What a program with buffers can have come to, with what it takes its buffers to be. -/
inductive Run : World → (Nat → Option Value) → Prop
  | start : Run ⟨.empty, fun _ => none⟩ fun _ => none
  | step {w : World} {values : Nat → Option Value} (op : Op) {L : OpLoop} {o : Outcome}
      {feed : Feed} {heap' : Heap UInt8} :
      Run w values → op.Legal values → op.code w.objects = some L →
      L.Returns op.kernel (.start (op.before values), w.heap) o (feed, heap') →
      Run ⟨heap', Function.update w.objects op.target o.2⟩
        (Function.update values op.target (op.effect values feed.held (threw o.1)))

/-- An object is what the program takes it to be. -/
inductive Shows (heap : Heap UInt8) : Option SmartBuffer → Option Value → Prop
  | none : Shows heap none none
  | holds {b : SmartBuffer} {bytes : StdString} :
      Owns heap b bytes → Shows heap (some b) (some (.holds bytes))
  | spent {b : SmartBuffer} : b.buffer = .none → Shows heap (some b) (some .spent)

/-- The block an object has. -/
def ptr (object : Option SmartBuffer) : Ptr := object.bind SmartBuffer.buffer

/-- Every object is what the program takes it to be, no two have one block, and no block is
    nobody's. -/
structure Sound (w : World) (values : Nat → Option Value) : Prop where
  shows : ∀ i, Shows w.heap (w.objects i) (values i)
  distinct : ∀ i j a, ptr (w.objects i) = some a → ptr (w.objects j) = some a → i = j
  covered : ∀ a, w.heap a ≠ none → ∃ i, ptr (w.objects i) = some a

/-! ## One operation -/

variable {w : World} {values : Nat → Option Value} {object : Option SmartBuffer}
  {value : Option Value} {op : Op} {L : OpLoop}

theorem Shows.present (h : Shows heap object value) {a : Nat} (ha : ptr object = some a) :
    heap a ≠ .none := by
  cases h with
  | none => cases ha
  | holds howns =>
    obtain ⟨a', block, hp, hb, -⟩ := howns.block
    obtain rfl : a' = a := Option.some.inj (hp.symm.trans ha)
    exact hb ▸ Option.some_ne_none block
  | spent hnone => cases hnone.symm.trans ha

theorem Shows.isSome (h : Shows heap object value) : object.isSome = value.isSome := by
  cases h <;> rfl

theorem Shows.valid (h : Shows heap object value) : heap.Valid (ptr object) :=
  fun _ ha => h.present ha

theorem Shows.other {p p' : Ptr} (h : Shows heap object value) (hex : heap.Exchanged p heap' p')
    (hne : ∀ a, ptr object = some a → ptr object ≠ p) : Shows heap' object value := by
  cases h with
  | none => exact .none
  | holds howns =>
    obtain ⟨a, -, hp, -⟩ := howns.block
    exact .holds (howns.other hex (hne a hp)).1
  | spent hnone => exact .spent hnone

theorem Shows.owns (h : Shows heap object value) {bytes : StdString}
    (hvalue : value = some (.holds bytes)) : ∃ b, object = some b ∧ Owns heap b bytes := by
  cases h with
  | holds howns =>
    cases hvalue
    exact ⟨_, rfl, howns⟩
  | none => cases hvalue
  | spent => cases hvalue

/-- One object is replaced, with its block. -/
theorem Sound.update (h : Sound w values) {i : Nat}
    (hex : w.heap.Exchanged (ptr (w.objects i)) heap' (ptr object)) (hshows : Shows heap' object value) :
    Sound ⟨heap', Function.update w.objects i object⟩ (Function.update values i value) where
  shows j := by
    by_cases hj : j = i
    · subst hj
      simpa only [Function.update_self] using hshows
    · simp only [Function.update_of_ne hj]
      exact (h.shows j).other hex fun a ha heq => hj (h.distinct j i a ha (heq ▸ ha))
  distinct j l a hja hla := by
    -- A block that another object has is not the new one.
    have hother {m : Nat} (hm : m ≠ i) (ha : ptr (w.objects m) = some a) : some a ≠ ptr object :=
      (hex.other (fun heq => hm (h.distinct m i a ha heq.symm)) ((h.shows m).present ha)).2
    by_cases hj : j = i <;> by_cases hl : l = i
    · exact hj.trans hl.symm
    · subst hj
      simp only [Function.update_self, Function.update_of_ne hl] at hja hla
      exact absurd hja.symm (hother hl hla)
    · subst hl
      simp only [Function.update_self, Function.update_of_ne hj] at hja hla
      exact absurd hla.symm (hother hj hja)
    · simp only [Function.update_of_ne hj, Function.update_of_ne hl] at hja hla
      exact h.distinct j l a hja hla
  covered a ha := by
    rcases hex.back ha with hnew | ⟨hold, hne⟩
    · exact ⟨i, by simpa only [Function.update_self] using hnew.symm⟩
    · obtain ⟨j, hj⟩ := h.covered a hold
      have hji : j ≠ i := fun heq => hne (heq ▸ hj.symm)
      exact ⟨j, by simpa only [Function.update_of_ne hji] using hj⟩

/-- What an operation leaves is what the program takes it to be. -/
def Leaves (w : World) (values : Nat → Option Value) (op : Op) (o : Outcome)
    (k : Feed × Heap UInt8) : Prop :=
  w.heap.Exchanged (ptr (w.objects op.target)) k.2 (ptr o.2) ∧
    Shows k.2 o.2 (op.effect values k.1.held (threw o.1))

theorem mem_wp {ρ : Type} {feed : Feed} {ker : Kernel Call Call.Ret Feed} {t : Mem ρ} {f : ρ → Outcome}
    {Φ : Outcome → Feed × Heap UInt8 → Prop}
    (h : t.wp Heap.kernel (fun r heap' => Φ (f r) (feed, heap')) heap) :
    ((Loop.ofProg t.inr).map f : OpLoop).wp (ker.both Heap.kernel) Φ (feed, heap) :=
  Loop.wp_map (Loop.wp_ofProg (Prog.wp_inr h))

/-- A constructor begins without a block. -/
theorem leaves_made {bytes : StdString} {r : Except Exception SmartBuffer}
    (hfree : Shows w.heap (w.objects op.target) none) (hmade : Made w.heap bytes heap' r)
    (heffect : ∀ held threw, op.effect values held threw =
      if threw then none else some (.holds bytes)) :
    Leaves w values op (made r) (feed, heap') := by
  have hnone : w.objects op.target = none := by
    cases hobject : w.objects op.target with
    | none => rfl
    | some b => rw [hobject] at hfree; cases hfree
  unfold Leaves
  rw [hnone, heffect]
  cases r with
  | error e =>
    obtain rfl : heap' = w.heap := hmade
    exact ⟨.refl _ _, .none⟩
  | ok b => exact ⟨hmade.2, .holds hmade.1⟩

/-- **One operation.** It asks the heap only for what it may, and leaves what the program takes it to
    leave. -/
theorem Sound.op_wp (h : Sound w values) (hlegal : op.Legal values)
    (hcode : op.code w.objects = some L) :
    L.wp op.kernel (Leaves w values op) (.start (op.before values), w.heap) := by
  cases op with
  | construct i allocSize grown =>
    obtain ⟨hfree, hpos⟩ := hlegal
    cases hcode
    refine mem_wp ((new_wp hpos grown w.heap).mono fun r heap' hmade => ?_)
    exact leaves_made (hfree ▸ h.shows i) hmade fun _ _ => rfl
  | copy i j =>
    obtain ⟨hfree, bytes, hj⟩ := hlegal
    obtain ⟨s, hs, hsowns⟩ := (h.shows j).owns hj
    simp only [Op.code, hs] at hcode
    cases hcode
    refine mem_wp ((copy_wp hsowns).mono fun r heap' hmade => ?_)
    refine leaves_made (hfree ▸ h.shows i) hmade fun _ _ => ?_
    simp only [Op.effect, hj]
  | destroy i =>
    cases hb : w.objects i with
    | none => simp only [Op.code, hb] at hcode; cases hcode
    | some b =>
      simp only [Op.code, hb] at hcode
      cases hcode
      have hvalid : w.heap.Valid b.buffer := by
        have hvalid := (h.shows i).valid
        rw [hb] at hvalid
        exact hvalid
      refine mem_wp ((destructor_wp hvalid).mono fun _ heap' hex => ⟨?_, .none⟩)
      show w.heap.Exchanged (ptr (w.objects i)) heap' none
      rw [hb]
      exact hex
  | assign i j =>
    obtain ⟨hij, ⟨old, hi⟩, bytes, hj⟩ := hlegal
    obtain ⟨b, hb, hbowns⟩ := (h.shows i).owns hi
    obtain ⟨s, hs, hsowns⟩ := (h.shows j).owns hj
    simp only [Op.code, hb, hs] at hcode
    cases hcode
    have hne : s.buffer ≠ b.buffer := by
      intro heq
      obtain ⟨a, -, hp, -⟩ := hbowns.block
      exact hij (h.distinct i j a (by rw [hb]; exact hp) (by rw [hs]; exact heq.trans hp))
    refine mem_wp ((assign_wp hbowns hsowns hne).mono ?_)
    rintro ⟨r, b'⟩ heap' ⟨hex, hassigned⟩
    refine ⟨?_, ?_⟩
    · show w.heap.Exchanged (ptr (w.objects i)) heap' b'.buffer
      rw [hb]
      exact hex
    · cases r with
      | error e => exact .spent hassigned
      | ok u =>
        show Shows heap' (some b') (values j)
        rw [hj]
        exact .holds hassigned
  | clear i =>
    obtain ⟨bytes, hi⟩ := hlegal
    obtain ⟨b, hb, hbowns⟩ := (h.shows i).owns hi
    simp only [Op.code, hb] at hcode
    cases hcode
    refine Loop.wp_done ⟨?_, .holds hbowns.clear⟩
    show w.heap.Exchanged (ptr (w.objects i)) w.heap b.buffer
    rw [hb]
    exact .refl w.heap b.buffer
  | read i abi socket room =>
    obtain ⟨habi, hroom, bytes, hi, hsmall⟩ := hlegal
    obtain ⟨b, hb, hbowns⟩ := (h.shows i).owns hi
    simp only [Op.code, hb] at hcode
    cases hcode
    have hbefore : Op.before values (.read i abi socket room) = bytes := by
      show ((values i).map Value.content).getD [] = bytes
      rw [hi]
      rfl
    rw [hbefore]
    refine Loop.wp_map ((read_wp habi hroom hbowns hsmall).mono ?_)
    rintro ⟨r, b'⟩ k ⟨howns, hex, -⟩
    refine ⟨?_, ?_⟩
    · show w.heap.Exchanged (ptr (w.objects i)) k.2 b'.buffer
      rw [hb]
      exact hex
    · exact .holds howns

/-- **The invariant.** It holds in every run. -/
theorem Run.sound (h : Run w values) : Sound w values := by
  induction h with
  | start =>
    exact ⟨fun _ => .none, fun _ _ _ ha => (Option.some_ne_none _ ha.symm).elim,
      fun _ ha => absurd rfl ha⟩
  | step op _ hlegal hcode hreturns ih =>
    obtain ⟨hex, hshows⟩ := (ih.op_wp hlegal hcode).returns hreturns
    exact ih.update hex hshows

/-- **Memory safety.** A program may make, copy, read into, assign, clear and destroy as many buffers
    as it likes, in any order; wherever an operation it may do is, whatever the heap and the socket
    have answered so far, what it asks the heap next it may ask: it touches a block inside its
    bounds, or gives back a block that is there. -/
theorem Run.memory_safe (h : Run w values) (hlegal : op.Legal values)
    (hcode : op.code w.objects = some L) {k : Feed × Heap UInt8} {v : Option (SmartBuffer × UInt64)}
    {q : HeapCall UInt8} {next}
    (hr : L.Reaches op.kernel ((.start (op.before values), w.heap), L.start) (k, ⟨v, .ask (.inr q) next⟩)) :
    Heap.allowed k.2 q := by
  have hallowed := (h.sound.op_wp hlegal hcode).allowed hr
  cases op <;> exact hallowed

/-- What a program sees of a buffer: its size, and the bytes at the addresses it is given. -/
structure Readable (heap : Heap UInt8) (b : SmartBuffer) (bytes : StdString) : Prop where
  size : b.size.toNat = bytes.length
  get : ∀ n : UInt64, n.toNat < bytes.length → ∃ p offset, b.get n = .ok (p, offset) ∧
    (heap.contents p)[offset.toNat]? = bytes[n.toNat]?
  outOfRange : ∀ n : UInt64, bytes.length ≤ n.toNat → ∃ msg, b.get n = .error ⟨.outOfRange, msg⟩

theorem Owns.readable (h : Owns heap b bytes) : Readable heap b bytes where
  size := h.used
  get n hn := by
    have hin : ¬ b.usedSize ≤ n := by
      rw [UInt64.le_iff_toNat_le, h.used]
      omega
    refine ⟨b.buffer, n, by rw [SmartBuffer.get, if_neg hin], ?_⟩
    rw [← h.contents_take, List.getElem?_take_of_lt hn]
  outOfRange n hn := by
    have hout : b.usedSize ≤ n := by
      rw [UInt64.le_iff_toNat_le, h.used]
      exact hn
    exact ⟨_, by rw [SmartBuffer.get, if_pos hout]⟩

/-- **What buffers keep.** In every run there is an object wherever the program has one, every buffer
    that holds bytes shows exactly these, and every block in the heap belongs to exactly one
    object. -/
theorem Run.keeps_bytes (h : Run w values) :
    (∀ i, (w.objects i).isSome = (values i).isSome) ∧
    (∀ i bytes, values i = some (.holds bytes) →
      ∃ b, w.objects i = some b ∧ Readable w.heap b bytes) ∧
    ∀ a, w.heap a ≠ none ↔ ∃! i, ptr (w.objects i) = some a := by
  obtain ⟨hshows, hdistinct, hcovered⟩ := h.sound
  refine ⟨?_, ?_, ?_⟩
  · exact fun i => (hshows i).isSome
  · intro i bytes hi
    obtain ⟨b, hb, howns⟩ := (hshows i).owns hi
    exact ⟨b, hb, howns.readable⟩
  · intro a
    constructor
    · intro ha
      obtain ⟨i, hi⟩ := hcovered a ha
      exact ⟨i, hi, fun j hj => hdistinct j i a hj hi⟩
    · rintro ⟨i, hi, -⟩
      exact (hshows i).present hi

/-! ## A run -/

/-- A buffer of one byte in a heap of its own. -/
def oneWorld : World := ⟨oneBlock, Function.update (fun _ => none) 0 (some oneByte)⟩

def oneEmpty : Nat → Option Value := Function.update (fun _ => none) 0 (some (.holds []))

theorem run_oneWorld : Run oneWorld oneEmpty := by
  have hreturns : ((Loop.ofProg (new 1 fun _ => 0).inr).map made : OpLoop).Returns
      ((Feed.steady 0).both Heap.kernel) (.start [], Heap.empty)
      (.ok (), some oneByte) (.start [], oneBlock) :=
    Loop.returnsFrom_ask.mpr
      ⟨some (0 : Nat), (.start [], oneBlock), ⟨⟨[0], rfl, rfl, rfl⟩, rfl⟩,
        Loop.returnsFrom_done.mpr ⟨rfl, rfl⟩⟩
  exact .step (.construct 0 1 fun _ => 0) .start ⟨rfl, by decide⟩ rfl hreturns

theorem peer_announces (room : Nat) {n : BitVec 32} (hn : n.toNat < 2 ^ 31) (heap : Heap UInt8) :
    ((Feed.steady room).both Heap.kernel).answers (.start [], heap) (.inl (.ioctl 3)) (.ok n)
      (.start [], heap) :=
  ⟨⟨⟨hn, rfl⟩, fun h => absurd rfl h, Nat.zero_le room⟩, rfl⟩

/-- The code that reads into it. -/
def reading : OpLoop := (read .lp64 (peer true) oneByte).map fun o => (o.1, some o.2)

def announced : SmartBuffer × UInt64 := (oneByte, UInt64.ofInt (Abi.lp64.reported 3))

/-- Three bytes are announced, and room for them is asked for. -/
theorem reading_grows : ∃ next, reading.Reaches ((Feed.steady 3).both Heap.kernel)
    ((.start [], oneBlock), reading.start)
    ((.start [], oneBlock), ⟨some announced, .ask (.inr (.realloc (some 0) 3)) next⟩) := by
  have henter : Loop.Step ((Feed.steady 3).both Heap.kernel) reading
      ((.start [], oneBlock), reading.start)
      ((.start [], oneBlock), ⟨none, .ret (.inl announced)⟩) :=
    .answer _ (peer_announces 3 (show (3 : BitVec 32).toNat < 2 ^ 31 by decide) oneBlock)
  have hround : ∃ next, reading.body announced = .ask (.inr (.realloc (some 0) 3)) next := ⟨_, rfl⟩
  obtain ⟨next, hround⟩ := hround
  exact ⟨next, .head henter (hround ▸ .single .again)⟩

theorem Run.memory_safe_growing : Heap.allowed oneBlock (.realloc (some 0) 3) := by
  have hlegal : (Op.read 0 .lp64 (peer true) 3).Legal oneEmpty :=
    ⟨Abi.counts_lp64, by decide, [], rfl, by decide⟩
  obtain ⟨next, hreaches⟩ := reading_grows
  exact run_oneWorld.memory_safe hlegal rfl hreaches

/-- The heap with a block of three bytes in place of the one. -/
def grownHeap : Heap UInt8 := Function.update (oneBlock.erase (some 0)) 1 (some [0, 0, 0])

/-- They are delivered, and held. -/
theorem reading_returns : reading.Returns ((Feed.steady 3).both Heap.kernel)
    (.start [], oneBlock) (.ok (), some ⟨some 1, 3, 3, fun _ => 0⟩)
    ((Feed.start []).deliver [1, 2, 3],
      (grownHeap.write (some 1) 0 [0, 0, 0]).write (some 1) 0 [1, 2, 3]) := by
  refine Loop.returnsFrom_ask.mpr ⟨_, _, peer_announces 3
    (show (3 : BitVec 32).toNat < 2 ^ 31 by decide) oneBlock, Loop.returnsFrom_again.mpr ?_⟩
  refine Loop.returnsFrom_ask.mpr ⟨some (1 : Nat), (.start [], grownHeap),
    ⟨⟨[0, 0, 0], ⟨rfl, rfl, rfl⟩, rfl⟩, rfl⟩, ?_⟩
  refine Loop.returnsFrom_ask.mpr ⟨(), (.start [], grownHeap.write (some 1) 0 [0, 0, 0]),
    ⟨⟨[0, 0, 0], rfl, rfl⟩, rfl⟩, ?_⟩
  refine Loop.returnsFrom_ask.mpr ⟨Except.ok [1, 2, 3], ((Feed.start []).deliver [1, 2, 3], _),
    ⟨⟨⟨by decide, by decide, rfl⟩, fun h => absurd rfl h, by decide⟩, rfl⟩, ?_⟩
  refine Loop.returnsFrom_ask.mpr ⟨(), ((Feed.start []).deliver [1, 2, 3], _), ⟨rfl, rfl⟩, ?_⟩
  refine Loop.returnsFrom_ask.mpr ⟨Except.ok (0 : BitVec 32), ((Feed.start []).deliver [1, 2, 3], _),
    ⟨⟨⟨by decide, rfl⟩, fun h => absurd rfl h, by decide⟩, rfl⟩, ?_⟩
  exact Loop.returnsFrom_done.mpr ⟨rfl, rfl⟩

theorem Run.keeps_bytes_grown : ∃ w, Run w (Function.update oneEmpty 0 (some (.holds [1, 2, 3]))) ∧
    ∃ b, w.objects 0 = some b ∧ Readable w.heap b [1, 2, 3] := by
  have hlegal : (Op.read 0 .lp64 (peer true) 3).Legal oneEmpty :=
    ⟨Abi.counts_lp64, by decide, [], rfl, by decide⟩
  have hrun := run_oneWorld.step _ hlegal rfl reading_returns
  have hvalues : Function.update oneEmpty 0 (some (Value.holds [1, 2, 3])) 0 = some (.holds [1, 2, 3]) :=
    Function.update_self ..
  exact ⟨_, hrun, hrun.keeps_bytes.2.1 0 [1, 2, 3] hvalues⟩

end SmartBuffer

end NetLink
