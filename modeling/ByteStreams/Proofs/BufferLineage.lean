import ByteStreams.Proofs.Input.Outcome
import Mathlib.Data.List.Chain

/-!
# Buffers and the buffers they were cut from

Every buffer comes from one over the whole of a memory, by cutting slices, by cloning, and by going
back to the buffer that a slice was cut from.  The ranges that it has been cut from nest: each lies
within the next one, and the last one is the whole memory (`Extent.Nests`).  This is kept on every
way from buffer to buffer, and all promises of buffers follow from it (`derived_is_sound`).

A clone is the same buffer, with the same memory, so that it is as good as the original.
-/

namespace ByteStreams

/-! ### Nested ranges -/

namespace Extent

/-- The range lies within another one of the same memory. -/
def Within (inner outer : Extent) : Prop :=
  outer.offset ≤ inner.offset ∧ inner.offset + inner.length ≤ outer.offset + outer.length

/-- The range lies within the first of the others, each of these within the next one, and the last
one is the whole of a memory with so many bytes. -/
def Nests (total : Nat) : Extent → List Extent → Prop
  | inner, [] => inner = ⟨0, total⟩
  | inner, outer :: others => inner.Within outer ∧ Nests total outer others

/-- Nested ranges lie within the memory. -/
lemma Nests.le_total {total : Nat} {inner : Extent} {others : List Extent}
    (h : Nests total inner others) : inner.offset + inner.length ≤ total := by
  induction others generalizing inner with
  | nil =>
    cases h
    exact Nat.le_of_eq (Nat.zero_add total)
  | cons outer others ih =>
    obtain ⟨within, nests⟩ := h
    exact Nat.le_trans within.2 (ih nests)

end Extent

namespace Buffer

/-! ### From buffer to buffer -/

/-- A way to get a buffer from another one. -/
inductive Way where
  | slice (offset length : Nat)
  | clone
  | parent
  deriving DecidableEq, Repr

/-- The buffer that a way leads to, if it leads to one. -/
def Way.from? : Way → Buffer → Option Buffer
  | slice offset length, b => b.slice? offset length
  | clone, b => some b
  | parent, b => b.parent?

/-- The buffer that one way after the other leads to. -/
def follow? : List Way → Buffer → Option Buffer
  | [], b => some b
  | way :: ways, b => (way.from? b).bind (follow? ways)

variable {b c piece part : Buffer} {offset length : Nat}

/-- Slices are cut within the buffer. -/
lemma slice?_eq_some_iff :
    b.slice? offset length = some piece ↔
      cappedAdd offset length ≤ b.length ∧ piece = b.slice offset length := by
  unfold slice?
  split
  · next fits => simp [fits, eq_comm]
  · next beyond => simp [beyond]

/-- The ranges of a buffer nest, and its memory is not too long to have positions. -/
structure Nested (b : Buffer) : Prop where
  nests : Extent.Nests b.memory.bytes.length b.extent b.cutFrom
  short : (b.memory.bytes.length : Int) ≤ maxPosition

namespace Nested

/-- A buffer over the whole of a new memory. -/
lemma whole (tag : Tag) {bytes : Bytes} (short : (bytes.length : Int) ≤ maxPosition) :
    Nested (ofBytes tag bytes) :=
  ⟨rfl, short⟩

/-- The range of a buffer ends within its memory. -/
lemma le_memory (h : b.Nested) : b.extent.offset + b.extent.length ≤ b.memory.bytes.length :=
  h.nests.le_total

/-- A buffer is not too long to have positions. -/
lemma length_le (h : b.Nested) : (b.length : Int) ≤ maxPosition := by
  have within := h.le_memory
  have short := h.short
  unfold Buffer.length
  omega

/-- The sum of two counts is cut off above all lengths, so that it never seems to fit. -/
lemma cappedAdd_le_iff (h : b.Nested) (offset length : Nat) :
    cappedAdd offset length ≤ b.length ↔ offset + length ≤ b.length := by
  have short := h.length_le
  unfold cappedAdd maxCount
  unfold maxPosition at short
  omega

/-- A slice of a buffer lies within it. -/
lemma slice (h : b.Nested) (fits : offset + length ≤ b.length) :
    (b.slice offset length).Nested := by
  refine ⟨⟨⟨Nat.le_add_right .., ?_⟩, h.nests⟩, h.short⟩
  unfold Buffer.length at fits
  simp only [Buffer.slice]
  omega

/-- The buffer that one was cut from has the other ranges. -/
lemma parent (h : b.Nested) (cut : b.parent? = some c) : c.Nested := by
  obtain ⟨memory, extent, cutFrom⟩ := b
  cases cutFrom with
  | nil => cases cut
  | cons outer others =>
    cases cut
    exact ⟨h.nests.2, h.short⟩

/-- **Every way** from a buffer leads to one whose ranges nest. -/
lemma step (h : b.Nested) {way : Way} (leads : way.from? b = some c) : c.Nested := by
  cases way with
  | slice offset length =>
    obtain ⟨fits, rfl⟩ := slice?_eq_some_iff.mp leads
    exact h.slice ((h.cappedAdd_le_iff offset length).mp fits)
  | clone =>
    cases leads
    exact h
  | parent => exact h.parent leads

/-- So do all ways, one after the other. -/
lemma follow (h : b.Nested) {ways : List Way} (leads : follow? ways b = some c) : c.Nested := by
  induction ways generalizing b with
  | nil =>
    cases leads
    exact h
  | cons way ways ih =>
    obtain ⟨next, first, rest⟩ := Option.bind_eq_some_iff.mp leads
    exact ih (h.step first) rest

end Nested

/-! ### Reading and going back -/

/-- The bytes of a buffer as they are read from its memory: those from its offset on, and of these
as many as it has.  Both must be there. -/
def read? (b : Buffer) : Option Bytes :=
  if b.extent.offset ≤ b.memory.bytes.length then
    let rest := b.memory.bytes.drop b.extent.offset
    if b.extent.length ≤ rest.length then some (rest.take b.extent.length) else none
  else none

/-- The buffers that one comes to by going back, from the buffer itself to one that was not cut from
any other. -/
inductive Lineage : Buffer → List Buffer → Prop where
  | uncut {b : Buffer} (first : b.parent? = none) : Lineage b [b]
  | cut {b parent : Buffer} {line : List Buffer} (back : b.parent? = some parent)
      (further : Lineage parent line) : Lineage b (b :: line)

/-- The buffers that a buffer was cut from lead to the whole of its memory. -/
structure ComesFromWhole (b : Buffer) (line : List Buffer) : Prop where
  lineage : Lineage b line
  shared : ∀ ancestor ∈ line, ancestor.memory = b.memory
  within : line.IsChain fun piece parent => piece.extent.Within parent.extent
  whole : ∃ first, line.getLast? = some first ∧ first.isSlice = false ∧
    first.extent = ⟨0, b.memory.bytes.length⟩

/-- A lineage begins with the buffer itself. -/
lemma Lineage.head? {line : List Buffer} (h : Lineage b line) : line.head? = some b := by
  cases h <;> rfl

namespace Nested

/-- Reading finds all bytes. -/
lemma read (h : b.Nested) : b.read? = some b.content := by
  have within := h.le_memory
  have rest : b.extent.length ≤ (b.memory.bytes.drop b.extent.offset).length := by
    rw [List.length_drop]
    omega
  rw [read?, if_pos (by omega)]
  exact if_pos rest

/-- There are as many bytes as the buffer promises. -/
lemma whole_content (h : b.Nested) : b.Whole := by
  have within := h.le_memory
  rw [Whole, content, Bytes.length_window, Buffer.length]
  omega

/-- Going back comes to an end, at the whole memory. -/
lemma exists_lineage (h : b.Nested) : ∃ line, b.ComesFromWhole line := by
  obtain ⟨memory, extent, cutFrom⟩ := b
  obtain ⟨nests, short⟩ := h
  simp only at nests short
  induction cutFrom generalizing extent with
  | nil =>
    refine ⟨[⟨memory, extent, []⟩], .uncut rfl, ?_, .singleton _, _, rfl, rfl, nests⟩
    intro ancestor member
    rw [List.mem_singleton.mp member]
  | cons outer others ih =>
    obtain ⟨line, older⟩ := ih outer nests.2
    obtain ⟨first, last, uncut, all⟩ := older.whole
    refine ⟨⟨memory, extent, outer :: others⟩ :: line, .cut rfl older.lineage, ?_, ?_, first, ?_,
      uncut, all⟩
    · intro ancestor member
      rcases List.mem_cons.mp member with rfl | member
      · rfl
      · exact older.shared ancestor member
    · refine List.isChain_cons.mpr ⟨fun parent head => ?_, older.within⟩
      rw [older.lineage.head?] at head
      cases head
      exact nests.1
    · rw [List.getLast?_cons, last, Option.getD_some]

end Nested

/-! ### What buffers promise -/

/-- What can be relied on with a buffer. -/
structure Sound (b : Buffer) : Prop where
  /-- Its range lies within its memory. -/
  within : b.extent.offset + b.extent.length ≤ b.memory.bytes.length
  /-- Reading it does not fail, and finds as many bytes as it has. -/
  read : b.read? = some b.content ∧ b.content.length = b.length
  /-- Going back from it comes to an end, at a buffer over the whole of the same memory. -/
  lineage : ∃ line, b.ComesFromWhole line
  /-- A slice is refused exactly if it goes beyond the end of the buffer, however great its offset
  and its length are. -/
  refuses : ∀ offset length, b.slice? offset length = none ↔ b.length < offset + length
  /-- A slice has the bytes that it is asked for, and this buffer as its parent. -/
  cuts : ∀ offset length piece, b.slice? offset length = some piece →
    piece.content = b.content.window offset length ∧ piece.content.length = length ∧
      piece.parent? = some b
  /-- A slice of a slice is also a slice of the buffer itself. -/
  composes : ∀ offset length further shorter piece part, b.slice? offset length = some piece →
    piece.slice? further shorter = some part →
      ∃ direct, b.slice? (offset + further) shorter = some direct ∧
        direct.content = part.content ∧ direct.memory = part.memory ∧
          direct.extent.offset = part.extent.offset

namespace Nested

/-- A slice that does not go beyond the end is cut. -/
lemma slice?_eq_some_iff (h : b.Nested) :
    b.slice? offset length = some piece ↔
      offset + length ≤ b.length ∧ piece = b.slice offset length := by
  rw [Buffer.slice?_eq_some_iff, h.cappedAdd_le_iff]

/-- A slice that goes beyond the end is refused. -/
lemma slice?_eq_none_iff (h : b.Nested) (offset length : Nat) :
    b.slice? offset length = none ↔ b.length < offset + length := by
  rw [slice?, ite_eq_right_iff, h.cappedAdd_le_iff, ← Nat.not_le]
  constructor
  · intro refused fits
    exact Option.some_ne_none _ (refused fits)
  · intro beyond fits
    exact absurd fits beyond

/-- The bytes of a slice. -/
lemma content_of_slice? (h : b.Nested) (cut : b.slice? offset length = some piece) :
    piece.content = b.content.window offset length ∧ piece.content.length = length ∧
      piece.parent? = some b := by
  obtain ⟨fits, rfl⟩ := h.slice?_eq_some_iff.mp cut
  exact ⟨content_slice (by omega), (h.slice fits).whole_content, rfl⟩

/-- A slice of a slice has the same range as a slice of the buffer. -/
lemma slice?_slice? (h : b.Nested) {further shorter : Nat}
    (first : b.slice? offset length = some piece)
    (second : piece.slice? further shorter = some part) :
    ∃ direct, b.slice? (offset + further) shorter = some direct ∧
      direct.memory = part.memory ∧ direct.extent = part.extent := by
  obtain ⟨fits, rfl⟩ := h.slice?_eq_some_iff.mp first
  obtain ⟨inside, rfl⟩ := (h.slice fits).slice?_eq_some_iff.mp second
  rw [length_slice] at inside
  refine ⟨b.slice (offset + further) shorter, h.slice?_eq_some_iff.mpr ⟨by omega, rfl⟩, rfl, ?_⟩
  simp only [Buffer.slice, Nat.add_assoc]

/-- A buffer whose ranges nest can be relied on. -/
lemma sound (h : b.Nested) : b.Sound where
  within := h.le_memory
  read := ⟨h.read, h.whole_content⟩
  lineage := h.exists_lineage
  refuses := h.slice?_eq_none_iff
  cuts _ _ _ := h.content_of_slice?
  composes _ _ _ _ _ _ first second := by
    obtain ⟨direct, cut, memory, extent⟩ := h.slice?_slice? first second
    refine ⟨direct, cut, ?_, memory, congrArg Extent.offset extent⟩
    rw [content, content, memory, extent]

end Nested

/-- **Buffers can be relied on.**  Take a buffer over the whole of a new memory with less than
`2 ^ 63` bytes, and any ways from buffer to buffer.  Whatever buffer they lead to is sound. -/
theorem derived_is_sound {tag : Tag} {bytes : Bytes} (short : (bytes.length : Int) ≤ maxPosition)
    {ways : List Way} {b : Buffer} (leads : follow? ways (ofBytes tag bytes) = some b) :
    b.Sound :=
  ((Nested.whole tag short).follow leads).sound

/-- Ten bytes. -/
def tenBytes : Bytes := [100, 97, 116, 97, 49, 50, 51, 52, 53, 54]

/-- Six of ten bytes from the third one on, three of these from the second one on, back to the six,
and a clone of their last three. -/
def nestedWays : List Way := [.slice 2 6, .slice 1 3, .parent, .slice 3 3, .clone]

/-- That is a sound buffer of three bytes, cut from six, which were cut from ten. -/
theorem nestedWays_lead_to_sound :
    (tenBytes.length : Int) ≤ maxPosition ∧
      ∃ b, follow? nestedWays (ofBytes ⟨0, 0⟩ tenBytes) = some b ∧ b.content = [50, 51, 52] ∧
        b.cutFrom = [⟨2, 6⟩, ⟨0, 10⟩] ∧ b.Sound := by
  have short : (tenBytes.length : Int) ≤ maxPosition := by decide
  have leads : follow? nestedWays (ofBytes ⟨0, 0⟩ tenBytes) =
      some ⟨⟨⟨0, 0⟩, tenBytes⟩, ⟨5, 3⟩, [⟨2, 6⟩, ⟨0, 10⟩]⟩ := rfl
  exact ⟨short, _, leads, rfl, rfl, derived_is_sound short leads⟩

end Buffer

end ByteStreams
