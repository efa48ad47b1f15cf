import NetLink.Kernel.Feed
import NetLink.Model.SmartBuffer
import NetLink.Proof.PendingCount

/-!
# Smart buffers

A smart buffer owns a block of the heap and keeps what it has read at the start of it
(`SmartBuffer.Owns`). `reserve`, one round of `read` and each of the other methods are given a
guarantee in these terms: what they leave owned, and that they exchange their own block for another
and touch no block besides (`Heap.Exchanged`).

Sizes are the delicate part. They are `size_t`, but `uMax` takes `unsigned`, so that all of it is
about buffers that stay below two gigabytes.
-/

namespace NetLink

open Interaction

variable {b s : SmartBuffer} {bytes : StdString} {heap heap' : Heap UInt8}

namespace SmartBuffer

/-- The buffer has a block of its size, with these bytes at the start of it and in use. -/
structure Owns (heap : Heap UInt8) (b : SmartBuffer) (bytes : StdString) : Prop where
  pos : 0 < b.allocSize.toNat
  used : b.usedSize.toNat = bytes.length
  fits : bytes.length ≤ b.allocSize.toNat
  block : ∃ a block, b.buffer = some a ∧ heap a = some block ∧ block.length = b.allocSize.toNat ∧
    block.take bytes.length = bytes

namespace Owns

theorem valid (h : Owns heap b bytes) : heap.Valid b.buffer := by
  obtain ⟨a, block, hp, hb, -⟩ := h.block
  intro a' ha'
  obtain rfl : a = a' := Option.some.inj (hp.symm.trans ha')
  rw [hb]
  exact Option.some_ne_none block

theorem within (h : Owns heap b bytes) {offset count : Nat}
    (hle : offset + count ≤ b.allocSize.toNat) : heap.Within b.buffer offset count := by
  obtain ⟨a, block, hp, hb, hlen, -⟩ := h.block
  exact ⟨a, block, hp, hb, hlen ▸ hle⟩

/-- What is read back from the start of the block. -/
theorem contents_take (h : Owns heap b bytes) :
    (heap.contents b.buffer).take bytes.length = bytes := by
  obtain ⟨a, block, hp, hb, -, htake⟩ := h.block
  rw [hp, Heap.contents_of_block hb]
  exact htake

/-- Writing behind the bytes does not change them. -/
theorem write_behind (h : Owns heap b bytes) {cells : List UInt8} {offset : Nat}
    (hoff : bytes.length ≤ offset) (hle : offset + cells.length ≤ b.allocSize.toNat) :
    Owns (heap.write b.buffer offset cells) b bytes := by
  obtain ⟨a, block, hp, hb, hlen, htake⟩ := h.block
  refine ⟨h.pos, h.used, h.fits, a, Heap.splice block offset cells, hp, ?_, ?_, ?_⟩
  · rw [hp]
    exact Heap.write_block hb offset cells
  · rw [Heap.splice_length (hlen ▸ hle), hlen]
  · rw [Heap.splice_take_le hoff (by omega), htake]

end Owns

/-- What happens to other blocks does not concern the buffer. -/
theorem Owns.other {p p' : Ptr} (h : Owns heap b bytes) (hex : heap.Exchanged p heap' p')
    (hne : b.buffer ≠ p) : Owns heap' b bytes ∧ b.buffer ≠ p' := by
  obtain ⟨a, block, hp, hb, hlen, htake⟩ := h.block
  obtain ⟨hsame, hne'⟩ := hex.other (hp ▸ hne) (hb ▸ Option.some_ne_none block)
  exact ⟨⟨h.pos, h.used, h.fits, a, block, hp, hsame.trans hb, hlen, htake⟩, hp ▸ hne'⟩

/-- The block that is asked for holds the bytes in use and the announced ones. -/
theorem newAllocSize_toNat (grown : UInt32) {total : UInt64} (htotal : total.toNat < 2 ^ 32) :
    (uMax grown total.toUInt32).toUInt64.toNat = max grown.toNat total.toNat := by
  have hlow : total.toUInt32.toNat = total.toNat := by
    rw [UInt64.toNat_toUInt32, Nat.mod_eq_of_lt htotal]
  rw [UInt32.toNat_toUInt64, uMax]
  split
  · next hlt =>
    have hlt : total.toUInt32.toNat < grown.toNat := hlt
    omega
  · next hle =>
    have hle : ¬ total.toUInt32.toNat < grown.toNat := hle
    omega

/-- What making room leaves: as it was when there is no memory for it, else the same bytes in a
    block with room behind them. -/
structure Reserved (heap : Heap UInt8) (b : SmartBuffer) (bytes : StdString) (heap' : Heap UInt8)
    (b' : SmartBuffer) (freeBytes : UInt64) : Prop where
  owns : Owns heap' b' bytes
  exchanged : heap.Exchanged b.buffer heap' b'.buffer
  free : bytes.length + freeBytes.toNat = b'.allocSize.toNat

theorem reserve_wp {incoming : UInt64} (h : Owns heap b bytes)
    (hsum : bytes.length + incoming.toNat < 2 ^ 32) :
    (b.reserve incoming).wp Heap.kernel (fun r heap' => match r with
      | .error _ => heap' = heap
      | .ok (b', freeBytes) => Reserved heap b bytes heap' b' freeBytes) heap := by
  have hused := h.used
  have hfits := h.fits
  have hfree : (b.allocSize - b.usedSize).toNat = b.allocSize.toNat - b.usedSize.toNat :=
    UInt64.toNat_sub_of_le _ _ (UInt64.le_iff_toNat_le.mpr (by omega))
  unfold reserve
  by_cases hroom : b.allocSize - b.usedSize < incoming ∨ b.allocSize - b.usedSize = 0
  · rw [if_pos hroom]
    simp only [Prog.call_bind]
    have htotal : (b.usedSize + incoming).toNat = bytes.length + incoming.toNat := by
      rw [UInt64.toNat_add, hused, Nat.mod_eq_of_lt (by omega)]
    have hnew := newAllocSize_toNat (b.grown b.allocSize)
      (show (b.usedSize + incoming).toNat < 2 ^ 32 by omega)
    rw [htotal] at hnew
    generalize (uMax (b.grown b.allocSize) (b.usedSize + incoming).toUInt32).toUInt64 = size at hnew ⊢
    -- Nothing is in use only when something is announced, so that memory is asked for.
    have hpos : 0 < size.toNat := by
      have := h.pos
      rcases hroom with hlt | hzero
      · have hlt := UInt64.lt_iff_toNat_lt.mp hlt
        omega
      · have hzero : (b.allocSize - b.usedSize).toNat = 0 := congrArg UInt64.toNat hzero
        omega
    have hholds : bytes.length ≤ size.toNat := by omega
    have hroomy : bytes.length + (size - b.usedSize).toNat = size.toNat := by
      rw [UInt64.toNat_sub_of_le _ _ (UInt64.le_iff_toNat_le.mpr (hused ▸ hholds)), hused]
      omega
    refine ⟨h.valid, ?_⟩
    rintro (_ | a) heap' ha
    · exact ha.resolve_right fun hz => absurd hz.1 (by omega)
    · obtain ⟨block, hfresh, hkept⟩ := ha
      refine ⟨⟨hpos, hused, hholds, a, block, rfl, hfresh.block, hfresh.2.1, ?_⟩,
        hfresh.exchanged, hroomy⟩
      have hcontents : (heap.contents b.buffer).length = b.allocSize.toNat := by
        obtain ⟨a, block, hp, hb, hlen, -⟩ := h.block
        rw [hp, Heap.contents_of_block hb, hlen]
      -- The bytes are in what the new block has of the old one.
      calc block.take bytes.length
          = (block.take (heap.contents b.buffer).length).take bytes.length := by
            rw [List.take_take, hcontents, Nat.min_eq_left hfits]
        _ = (heap.contents b.buffer).take bytes.length := by
            rw [hkept, List.take_take, Nat.min_eq_left (by omega)]
        _ = bytes := h.contents_take
  · rw [if_neg hroom]
    exact ⟨h, .refl heap b.buffer, by omega⟩

/-! ## Reading -/

theorem ofInt_natCast (n : Nat) : UInt64.ofInt n = UInt64.ofNat n := by
  have hmod : ((n : Int) % 2 ^ 64).toNat = n % 2 ^ 64 := by omega
  apply UInt64.toNat_inj.mp
  rw [UInt64.ofInt, hmod, UInt64.toNat_ofNat', UInt64.toNat_ofNat', Nat.mod_mod]

theorem toNat_ofInt {n : Nat} (hn : n < 2 ^ 64) : (UInt64.ofInt n).toNat = n := by
  rw [ofInt_natCast, UInt64.toNat_ofNat', Nat.mod_eq_of_lt hn]

/-- What a round of `read` starts from, and what it ends with however it ends. -/
structure Holding (heap : Heap UInt8) (b : SmartBuffer) (room : Nat) (b' : SmartBuffer) (feed : Feed)
    (heap' : Heap UInt8) : Prop where
  owns : Owns heap' b' feed.held
  exchanged : heap.Exchanged b.buffer heap' b'.buffer
  small : feed.held.length ≤ room

variable {abi : Abi} {socket : Socket} {room : Nat} {b' : SmartBuffer} {feed : Feed}

/-- The count that is announced is not negative. -/
theorem nextReadSize_wp (habi : abi.Counts) (feed : Feed) :
    (socket.nextReadSize abi).wp (Feed.steady room) (fun r feed' => feed' = feed ∧
      ∀ n ∈ r.toOption, ∃ m : Nat, n = m ∧ m < 2 ^ 31) feed := by
  rw [Socket.nextReadSize_eq]
  refine ⟨trivial, ?_⟩
  rintro (e | n) feed' ⟨ha, -⟩
  · exact ⟨ha, fun n hn => by cases hn⟩
  · obtain ⟨hn, rfl⟩ := ha
    refine ⟨rfl, fun m hm => ?_⟩
    obtain rfl : abi.reported n = m := Option.some.inj hm
    refine ⟨n.toNat, ?_, hn⟩
    rw [habi n, BitVec.toInt_eq_toNat_of_lt (by omega)]

/-- Storing what was read behind what is there. -/
theorem Owns.append {more : StdString} (h : Owns heap b bytes)
    (hle : bytes.length + more.length ≤ b.allocSize.toNat) :
    Owns (heap.write b.buffer b.usedSize.toNat more)
      { b with usedSize := b.usedSize + UInt64.ofInt more.length } (bytes ++ more) := by
  obtain ⟨a, block, hp, hb, hlen, htake⟩ := h.block
  have halloc : b.allocSize.toNat < 2 ^ 64 := b.allocSize.toNat_lt
  refine ⟨h.pos, ?_, ?_, a, Heap.splice block b.usedSize.toNat more, hp, ?_, ?_, ?_⟩
  · rw [UInt64.toNat_add, h.used, toNat_ofInt (by omega), List.length_append,
      Nat.mod_eq_of_lt (by omega)]
  · rw [List.length_append]
    exact hle
  · rw [hp]
    exact Heap.write_block hb _ more
  · rw [h.used, Heap.splice_length (hlen ▸ hle), hlen]
  · rw [h.used, List.length_append, Heap.splice_take (by omega), htake]

/-- A byte less in use. -/
theorem Owns.dropLast (h : Owns heap b bytes) (hne : bytes ≠ []) :
    Owns heap { b with usedSize := b.usedSize + UInt64.ofInt (-1) } bytes.dropLast := by
  obtain ⟨a, block, hp, hb, hlen, htake⟩ := h.block
  have hused := h.used
  have hpos : 0 < bytes.length := List.length_pos_iff.mpr hne
  have hdrop : bytes.dropLast.length = bytes.length - 1 := List.length_dropLast
  have hless : b.usedSize + UInt64.ofInt (-1) = b.usedSize - 1 := by
    rw [UInt64.ofInt_neg_one, ← UInt64.sub_eq_add_neg]
  refine ⟨h.pos, ?_, ?_, a, block, hp, hb, hlen, ?_⟩
  · show (b.usedSize + UInt64.ofInt (-1)).toNat = bytes.dropLast.length
    rw [hless, UInt64.toNat_sub_of_le _ _ (UInt64.le_iff_toNat_le.mpr (hused ▸ hpos)), hused, hdrop]
    rfl
  · have := h.fits
    show bytes.dropLast.length ≤ b.allocSize.toNat
    omega
  · calc block.take bytes.dropLast.length
        = (block.take bytes.length).take bytes.dropLast.length := by
          rw [List.take_take, Nat.min_eq_left (by omega)]
      _ = bytes.dropLast := by rw [htake, hdrop, List.dropLast_eq_take]

/-- The socket is read into the room there is, or the read would have blocked. -/
theorem socketRead_wp {cap : Nat} (feed : Feed) :
    (socket.read cap).wp (Feed.steady room) (fun r feed' => match r with
      | .error _ => feed' = feed
      | .ok r => feed'.held.length ≤ room ∧
        (r.status = r.buffer.length ∧ r.buffer.length ≤ cap ∧ feed' = feed.deliver r.buffer ∨
          r = ⟨-1, []⟩ ∧ feed.held ≠ [] ∧ feed' = feed.stall)) feed := by
  unfold Socket.read
  simp only [Prog.call_bind]
  refine ⟨trivial, ?_⟩
  rintro (e | more) feed' ⟨ha, hstalls, hroom⟩
  · obtain rfl : feed' = cond e.wouldBlock feed.stall feed := ha
    cases hwould : e.wouldBlock with
    | true =>
      rw [hwould] at hstalls hroom
      simp only [checkReadError, hwould]
      exact ⟨hroom, .inr ⟨rfl, hstalls (Nat.succ_ne_self _), rfl⟩⟩
    | false =>
      simp only [checkReadError, hwould]
      exact Eq.refl feed
  · obtain ⟨hcap, -, rfl⟩ := ha
    exact ⟨hroom, .inl ⟨rfl, hcap, rfl⟩⟩

theorem round_wp (habi : abi.Counts) (hroom : room < 2 ^ 31) {incoming : UInt64}
    (h : Holding heap b room b' feed heap') (hincoming : incoming.toNat < 2 ^ 31) :
    ((read abi socket b).body (b', incoming)).wp ((Feed.steady room).both Heap.kernel)
      (Sum.elim (fun v k => Holding heap b room v.1 k.1 k.2 ∧ v.2.toNat < 2 ^ 31)
        fun o k => Holding heap b room o.2 k.1 k.2) (feed, heap') := by
  obtain ⟨howns, hex, hsmall⟩ := h
  have hreserve : (b'.reserve incoming).inr.wp ((Feed.steady room).both Heap.kernel)
      (fun r k => k.1 = feed ∧ match r with
        | .error _ => k.2 = heap'
        | .ok (b₁, freeBytes) => Reserved heap' b' feed.held k.2 b₁ freeBytes)
      (feed, heap') :=
    Prog.wp_inr ((reserve_wp howns (by omega)).mono fun _ _ h => ⟨rfl, h⟩)
  show ((b'.reserve incoming).inr >>= _).wp _ _ _
  refine Prog.wp_bind.mpr (hreserve.mono ?_)
  rintro (e | ⟨b₁, freeBytes⟩) ⟨feed₁, heap₁⟩ ⟨hfeed, hres⟩
  · obtain rfl : heap₁ = heap' := hres
    obtain rfl : feed₁ = feed := hfeed
    exact ⟨howns, hex, hsmall⟩
  · obtain rfl : feed₁ = feed := hfeed
    have hres : Reserved heap' b' feed₁.held heap₁ b₁ freeBytes := hres
    have hused := hres.owns.used
    have hfree := hres.free
    refine ⟨hres.owns.within (by omega), ?_⟩
    rintro _ ⟨feed₂, heap₂⟩ ⟨⟨cells, hcells, hheap⟩, hfeed⟩
    obtain rfl : heap₂ = heap₁.write b₁.buffer b₁.usedSize.toNat cells := hheap
    obtain rfl : feed₂ = feed₁ := hfeed
    -- Whatever the call leaves in the room it was lent, the bytes in front stay.
    have hlent := hres.owns.write_behind (Nat.le_of_eq hused.symm)
      (show b₁.usedSize.toNat + cells.length ≤ b₁.allocSize.toNat by omega)
    have hexlent := hex.trans (hres.exchanged.trans
      (Heap.write_exchanged heap₁ b₁.buffer b₁.usedSize.toNat cells))
    show ((socket.read freeBytes.toNat).inl >>= _).wp _ _ _
    refine Prog.wp_bind.mpr (Prog.wp_inl ((socketRead_wp feed₂).mono ?_))
    rintro (e | r) feed₃ hread
    · obtain rfl : feed₃ = feed₂ := hread
      exact ⟨hlent, hexlent, hsmall⟩
    · obtain ⟨hsmall₃, hcases⟩ := hread
      have hlen : r.buffer.length ≤ freeBytes.toNat := by
        rcases hcases with ⟨-, hcap, -⟩ | ⟨rfl, -, -⟩
        · exact hcap
        · exact Nat.zero_le _
      refine ⟨hlent.within (show b₁.usedSize.toNat + r.buffer.length ≤ _ by omega), ?_⟩
      rintro _ ⟨feed₄, heap₄⟩ ⟨hheap, hfeed₄⟩
      obtain rfl : feed₄ = feed₃ := hfeed₄
      have hheap : heap₄ = (heap₁.write b₁.buffer b₁.usedSize.toNat cells).write b₁.buffer
          b₁.usedSize.toNat r.buffer := hheap
      have hholding : Holding heap b room
          { b₁ with usedSize := b₁.usedSize + UInt64.ofInt r.status } feed₄ heap₄ := by
        rw [hheap]
        refine ⟨?_, hexlent.trans (Heap.write_exchanged ..), hsmall₃⟩
        rcases hcases with ⟨hstatus, -, rfl⟩ | ⟨rfl, hne, rfl⟩
        · rw [hstatus]
          exact hlent.append (by omega)
        · exact (hlent.write_behind (Nat.le_of_eq hused.symm) (by omega)).dropLast hne
      show ((socket.nextReadSize abi).inl >>= _).wp _ _ _
      refine Prog.wp_bind.mpr (Prog.wp_inl ((nextReadSize_wp habi feed₄).mono ?_))
      rintro (e | size) feed₅ ⟨rfl, hsize⟩
      · exact hholding
      · obtain ⟨n, rfl, hn⟩ := hsize size rfl
        show (if (n : Int) = 0 then _ else _ : Prog _ _ _).wp _ _ _
        split
        · exact hholding
        · exact ⟨hholding, by rw [toNat_ofInt (by omega)]; exact hn⟩

/-- **Reading.** Nothing outside the block is touched, and however the reading ends the buffer holds
    what it held with what was delivered behind it, less the last byte for each time a read would
    have blocked. -/
theorem read_wp (habi : abi.Counts) (hroom : room < 2 ^ 31) (h : Owns heap b bytes)
    (hsmall : bytes.length ≤ room) :
    (read abi socket b).wp ((Feed.steady room).both Heap.kernel)
      (fun o k => Holding heap b room o.2 k.1 k.2) (.start bytes, heap) := by
  have hholding : Holding heap b room b (.start bytes) heap := ⟨h, .refl heap b.buffer, hsmall⟩
  refine ⟨fun v k => Holding heap b room v.1 k.1 k.2 ∧ v.2.toNat < 2 ^ 31, ?_, ?_⟩
  · show ((socket.nextReadSize abi).inl >>= _).wp _ _ _
    refine Prog.wp_bind.mpr (Prog.wp_inl ((nextReadSize_wp habi (.start bytes)).mono ?_))
    rintro (e | size) feed ⟨rfl, hsize⟩
    · exact hholding
    · obtain ⟨n, rfl, hn⟩ := hsize size rfl
      exact ⟨hholding, by rw [toNat_ofInt (by omega)]; exact hn⟩
  · rintro ⟨b', incoming⟩ ⟨feed, heap'⟩ ⟨hheld, hincoming⟩
    exact round_wp habi hroom hheld hincoming

/-! ## What is counted -/

theorem reserve_usedSize (b : SmartBuffer) (incoming : UInt64) (heap : Heap UInt8) :
    (b.reserve incoming).wp Heap.unchecked
      (fun r _ => ∀ p ∈ r.toOption, p.1.usedSize = b.usedSize) heap := by
  unfold reserve
  by_cases hroom : b.allocSize - b.usedSize < incoming ∨ b.allocSize - b.usedSize = 0
  · rw [if_pos hroom]
    simp only [Prog.call_bind]
    refine ⟨trivial, ?_⟩
    rintro (_ | a) heap' -
    · intro p hp
      cases hp
    · intro p hp
      cases hp
      rfl
  · rw [if_neg hroom]
    intro p hp
    cases hp
    rfl

/-- The bytes in use are counted by what calls of `recv` have returned. -/
def Counted (b b' : SmartBuffer) (feed : Feed) : Prop :=
  b'.usedSize = b.usedSize + UInt64.ofNat feed.received.length - UInt64.ofNat feed.stalls

theorem Counted.deliver (h : Counted b b' feed) (more : StdString) :
    Counted b { b' with usedSize := b'.usedSize + UInt64.ofInt more.length } (feed.deliver more) := by
  unfold Counted at h ⊢
  simp only [Feed.deliver, List.length_append, UInt64.ofNat_add, ofInt_natCast, h]
  grind

theorem Counted.stall (h : Counted b b' feed) :
    Counted b { b' with usedSize := b'.usedSize + UInt64.ofInt (-1) } feed.stall := by
  unfold Counted at h ⊢
  simp only [Feed.stall, UInt64.ofNat_add, UInt64.ofInt_neg_one, h]
  grind

theorem socketRead_counted (h : Counted b b' feed) (cap : Nat) :
    (socket.read cap).wp Feed.kernel (fun r feed' => match r with
      | .error _ => Counted b b' feed'
      | .ok r => Counted b { b' with usedSize := b'.usedSize + UInt64.ofInt r.status } feed') feed := by
  unfold Socket.read
  simp only [Prog.call_bind]
  refine ⟨trivial, ?_⟩
  rintro (e | more) feed' ha
  · obtain rfl : feed' = cond e.wouldBlock feed.stall feed := ha
    cases hwould : e.wouldBlock with
    | true =>
      simp only [checkReadError, hwould]
      exact h.stall
    | false =>
      simp only [checkReadError, hwould]
      exact h
  · obtain ⟨-, -, rfl⟩ := ha
    exact h.deliver more

theorem nextReadSize_counted (feed : Feed) :
    (socket.nextReadSize abi).wp Feed.kernel (fun _ feed' => feed' = feed) feed := by
  rw [Socket.nextReadSize_eq]
  refine ⟨trivial, ?_⟩
  rintro (e | n) feed' ha
  · exact ha
  · exact ha.2

theorem round_counted {b₁ : SmartBuffer} {incoming : UInt64} (h : Counted b b₁ feed) (heap : Heap UInt8) :
    ((read abi socket b).body (b₁, incoming)).wp (Feed.kernel.both Heap.unchecked)
      (Sum.elim (fun v k => Counted b v.1 k.1) fun o k => Counted b o.2 k.1) (feed, heap) := by
  have hreserve : (b₁.reserve incoming).inr.wp (Feed.kernel.both Heap.unchecked)
      (fun r k => k.1 = feed ∧ ∀ p ∈ r.toOption, p.1.usedSize = b₁.usedSize) (feed, heap) :=
    Prog.wp_inr ((reserve_usedSize b₁ incoming heap).mono fun _ _ h => ⟨rfl, h⟩)
  show ((b₁.reserve incoming).inr >>= _).wp _ _ _
  refine Prog.wp_bind.mpr (hreserve.mono ?_)
  rintro (e | ⟨b₂, freeBytes⟩) ⟨feed₁, heap₁⟩ ⟨hfeed, hsame⟩
  · obtain rfl : feed₁ = feed := hfeed
    exact h
  · obtain rfl : feed₁ = feed := hfeed
    have hsame : b₂.usedSize = b₁.usedSize := hsame _ rfl
    have h₂ : Counted b b₂ feed₁ := hsame.trans h
    refine ⟨trivial, ?_⟩
    rintro _ ⟨feed₂, heap₂⟩ ⟨-, hfeed⟩
    obtain rfl : feed₂ = feed₁ := hfeed
    show ((socket.read freeBytes.toNat).inl >>= _).wp _ _ _
    refine Prog.wp_bind.mpr (Prog.wp_inl ((socketRead_counted h₂ _).mono ?_))
    rintro (e | r) feed₃ hread
    · exact hread
    · refine ⟨trivial, ?_⟩
      rintro _ ⟨feed₄, heap₄⟩ ⟨-, hfeed⟩
      obtain rfl : feed₄ = feed₃ := hfeed
      show ((socket.nextReadSize abi).inl >>= _).wp _ _ _
      refine Prog.wp_bind.mpr (Prog.wp_inl ((nextReadSize_counted feed₄).mono ?_))
      rintro (e | size) feed₅ rfl
      · exact hread
      · show (if size = 0 then _ else _ : Prog _ _ _).wp _ _ _
        split <;> exact hread

theorem read_counted (b : SmartBuffer) (bytes : StdString) (heap : Heap UInt8) :
    (read abi socket b).wp (Feed.kernel.both Heap.unchecked) (fun o k => Counted b o.2 k.1)
      (.start bytes, heap) := by
  refine ⟨fun v k => Counted b v.1 k.1, ?_, ?_⟩
  · have hstart : Counted b b (.start bytes) := by
      simp [Counted, Feed.start]
    show ((socket.nextReadSize abi).inl >>= _).wp _ _ _
    refine Prog.wp_bind.mpr (Prog.wp_inl ((nextReadSize_counted (.start bytes)).mono ?_))
    rintro (e | size) feed rfl
    · exact hstart
    · exact hstart
  · rintro ⟨b₁, incoming⟩ ⟨feed₁, heap₁⟩ hcounted
    exact round_counted hcounted heap₁

/-- **What `size()` says after `read`**, whatever the socket and the heap have answered: the bytes
    that were there and those that were delivered, less one for each time a read would have blocked,
    as a `size_t`. -/
theorem read_size {o : Except Exception Unit × SmartBuffer}
    (hr : (read abi socket b).Returns (Feed.kernel.both Heap.kernel) (.start bytes, heap) o
      (feed, heap')) :
    o.2.size = b.size + UInt64.ofNat feed.received.length - UInt64.ofNat feed.stalls := by
  -- What it may ask does not matter to what it does.
  have hanswers : (Heap.kernel : Kernel (HeapCall UInt8) _ _).answers = Heap.unchecked.answers := rfl
  obtain ⟨v, hr⟩ := hr
  have hr := Loop.Reaches.congr (Feed.kernel.both_congr hanswers) hr
  have hcounted := (read_counted b bytes heap).returns ⟨v, hr⟩
  exact hcounted

/-- A heap of one byte, and the buffer that has it. -/
def oneBlock : Heap UInt8 := Function.update Heap.empty 0 (some [0])

def oneByte : SmartBuffer := ⟨some 0, 0, 1, fun _ => 0⟩

def peer (blocking : Bool) : Socket := ⟨[], [], 0, 0, .tcp, .any, .client, blocking, 0, 3⟩

/-- A socket that has nothing to read, read into an empty buffer. -/
theorem read_size_nothing : ∃ o heap', (read .lp64 (peer false) oneByte).Returns
    (Feed.kernel.both Heap.kernel) (.start [], oneBlock) o ((Feed.start []).stall, heap') ∧
    o.2.size = 18446744073709551615 := by
  have hreturns : (read .lp64 (peer false) oneByte).Returns (Feed.kernel.both Heap.kernel)
      (.start [], oneBlock) (.ok (), { oneByte with usedSize := 0 + UInt64.ofInt (-1) })
      ((Feed.start []).stall, (oneBlock.write (some 0) 0 [0]).write (some 0) 0 []) := by
    refine Loop.returnsFrom_ask.mpr ⟨Except.ok (0 : BitVec 32), (.start [], oneBlock),
      ⟨⟨by decide, rfl⟩, rfl⟩, Loop.returnsFrom_again.mpr ?_⟩
    refine Loop.returnsFrom_ask.mpr ⟨(), (.start [], oneBlock.write (some 0) 0 [0]),
      ⟨⟨[0], rfl, rfl⟩, rfl⟩, ?_⟩
    refine Loop.returnsFrom_ask.mpr ⟨Except.error .eagain, ((Feed.start []).stall, _),
      ⟨rfl, rfl⟩, ?_⟩
    refine Loop.returnsFrom_ask.mpr ⟨(), ((Feed.start []).stall, _), ⟨rfl, rfl⟩, ?_⟩
    refine Loop.returnsFrom_ask.mpr ⟨Except.ok (0 : BitVec 32), ((Feed.start []).stall, _),
      ⟨⟨by decide, rfl⟩, rfl⟩, ?_⟩
    exact Loop.returnsFrom_done.mpr ⟨rfl, rfl⟩
  exact ⟨_, _, hreturns, read_size hreturns⟩

/-! ## The other methods -/

/-- What a constructor leaves: a block of its own, or nothing. -/
def Made (heap : Heap UInt8) (bytes : StdString) (heap' : Heap UInt8) :
    Except Exception SmartBuffer → Prop
  | .error _ => heap' = heap
  | .ok b => Owns heap' b bytes ∧ heap.Exchanged none heap' b.buffer

theorem new_wp {allocSize : UInt64} (hpos : 0 < allocSize.toNat) (grown : UInt64 → UInt32)
    (heap : Heap UInt8) :
    (new allocSize grown).wp Heap.kernel (fun r heap' => Made heap [] heap' r) heap := by
  unfold new
  simp only [Prog.call_bind]
  refine ⟨trivial, ?_⟩
  rintro (_ | a) heap' ha
  · exact ha
  · obtain ⟨block, hfresh⟩ := ha
    exact ⟨⟨hpos, rfl, Nat.zero_le _, a, block, rfl, hfresh.block, hfresh.2.1, rfl⟩,
      Heap.Fresh.exchanged (p := none) hfresh⟩

/-- The bytes of one block at the start of another. -/
theorem memcpy_wp {a : Nat} {block : List UInt8} (hs : Owns heap s bytes) (ha : heap a = some block)
    (hle : bytes.length ≤ block.length) :
    (memcpy (some a) s.buffer s.usedSize).wp Heap.kernel (fun _ heap' =>
      heap.Exchanged (some a) heap' (some a) ∧ ∃ block', heap' a = some block' ∧
        block'.length = block.length ∧ block'.take bytes.length = bytes) heap := by
  have hzero : 0 + bytes.length ≤ block.length := by omega
  unfold memcpy
  simp only [Prog.call_bind]
  refine ⟨hs.within (by rw [hs.used, Nat.zero_add]; exact hs.fits), ?_⟩
  rintro cells heap' ⟨rfl, hcells⟩
  have hcells : cells = bytes := by
    rw [hcells, List.drop_zero, hs.used]
    exact hs.contents_take
  subst hcells
  refine ⟨⟨a, block, rfl, ha, hzero⟩, ?_⟩
  rintro _ heap'' rfl
  refine ⟨Heap.write_exchanged _ _ _ _, _, Heap.write_block ha 0 cells, Heap.splice_length hzero, ?_⟩
  have htake : (Heap.splice block 0 cells).take (0 + cells.length) = block.take 0 ++ cells :=
    Heap.splice_take (Nat.zero_le block.length)
  rw [Nat.zero_add] at htake
  exact htake

theorem copy_wp (hs : Owns heap s bytes) :
    s.copy.wp Heap.kernel (fun r heap' => Made heap bytes heap' r) heap := by
  have hfits := hs.fits
  unfold copy
  simp only [Prog.call_bind]
  refine ⟨trivial, ?_⟩
  rintro (_ | a) heap₁ ha
  · exact ha
  · obtain ⟨block, hfresh⟩ := ha
    have hex : heap.Exchanged none heap₁ (some a) := Heap.Fresh.exchanged (p := none) hfresh
    have hsource : Owns heap₁ s bytes := by
      obtain ⟨a', -, hp, -⟩ := hs.block
      exact (hs.other hex (hp ▸ Option.some_ne_none a')).1
    show (memcpy (some a) s.buffer s.usedSize >>= _).wp _ _ _
    refine Prog.wp_bind.mpr ((memcpy_wp hsource hfresh.block (hfresh.2.1 ▸ hfits)).mono ?_)
    rintro _ heap₂ ⟨hcopied, block', hb, hlen, htake⟩
    exact ⟨⟨hs.pos, hs.used, hfits, a, block', rfl, hb, hlen.trans hfresh.2.1, htake⟩,
      hex.trans hcopied⟩

theorem destructor_wp (hvalid : heap.Valid b.buffer) :
    b.destructor.wp Heap.kernel (fun _ heap' => heap.Exchanged b.buffer heap' none) heap := by
  unfold destructor
  cases hp : b.buffer with
  | none => exact .refl heap none
  | some a =>
    refine ⟨hp ▸ hvalid, ?_⟩
    rintro _ heap' rfl
    exact Heap.erased_exchanged heap (some a)

/-- What `operator=` leaves: the bytes of the other buffer, or no block. -/
def Assigned (heap' : Heap UInt8) (bytes : StdString) : Except Exception Unit × SmartBuffer → Prop
  | (.ok (), b) => Owns heap' b bytes
  | (.error _, b) => b.buffer = none

theorem assign_wp {old : StdString} (h : Owns heap b old) (hs : Owns heap s bytes)
    (hne : s.buffer ≠ b.buffer) :
    (b.assign s).wp Heap.kernel (fun o heap' =>
      heap.Exchanged b.buffer heap' o.2.buffer ∧ Assigned heap' bytes o) heap := by
  have hused := hs.used
  unfold assign
  by_cases hsmall : b.allocSize < s.usedSize
  · have hlt := UInt64.lt_iff_toNat_lt.mp hsmall
    simp only [if_pos hsmall]
    show (destructor { b with usedSize := s.usedSize } >>= _).wp _ _ _
    refine Prog.wp_bind.mpr ((destructor_wp h.valid).mono ?_)
    rintro _ heap₁ hfreed
    obtain ⟨hs₁, hne₁⟩ := hs.other hfreed hne
    refine ⟨trivial, ?_⟩
    rintro (_ | a) heap₂ ha
    · obtain rfl : heap₂ = heap₁ := ha
      exact ⟨hfreed, rfl⟩
    · obtain ⟨block, hfresh⟩ := ha
      have hex : heap₁.Exchanged none heap₂ (some a) := Heap.Fresh.exchanged (p := none) hfresh
      have hs₂ := (hs₁.other hex hne₁).1
      have hlen : block.length = bytes.length := hfresh.2.1.trans hused
      show (memcpy (some a) s.buffer s.usedSize >>= _).wp _ _ _
      refine Prog.wp_bind.mpr ((memcpy_wp hs₂ hfresh.block (by omega)).mono ?_)
      rintro _ heap₃ ⟨hcopied, block', hb, hlen', htake⟩
      exact ⟨hfreed.trans (hex.trans hcopied), by show 0 < s.usedSize.toNat; omega, hused,
        by show _ ≤ s.usedSize.toNat; omega, a, block', rfl, hb, hlen'.trans hfresh.2.1, htake⟩
  · have hle : bytes.length ≤ b.allocSize.toNat := by
      have hle := mt UInt64.lt_iff_toNat_lt.mpr hsmall
      omega
    obtain ⟨a, block, hp, hb, hlen, -⟩ := h.block
    simp only [if_neg hsmall, hp]
    refine Prog.wp_bind.mpr ((memcpy_wp hs hb (hlen ▸ hle)).mono ?_)
    rintro _ heap' ⟨hcopied, block', hb', hlen', htake⟩
    exact ⟨hcopied, h.pos, hused, hle, a, block', rfl, hb', hlen'.trans hlen, htake⟩

theorem Owns.clear (h : Owns heap b bytes) : Owns heap b.clear [] := by
  obtain ⟨a, block, hp, hb, hlen, -⟩ := h.block
  exact ⟨h.pos, rfl, Nat.zero_le _, a, block, hp, hb, hlen, rfl⟩

end SmartBuffer

end NetLink
