import ByteStreams.Channel.Read
import ByteStreams.Proofs.Input.Outcome
import Mathlib.Tactic.Lemma

/-!
# Seeking a place in a reader

A channel seeks a place that is told from the start, from the end or from the cursor.  The place
means an integer (`Reader.target`), which may be negative, lie past the end, or be no position at
all.  An open reader goes there exactly if the integer lies within its data.  Otherwise it refuses
and stays as it is, and so does a closed one in any case.

Seeking is carried out in words of 64 bits (`Reader.seekWords`).  Lengths and cursors are unsigned
words and positions are signed ones; casting a word to the other kind may change its number, and so
may adding words.  If the length and the cursor are positions, no cast and no sum that is used
changes a number, and the words come to what the integers come to (`seeks_exactly`).
-/

namespace ByteStreams

/-! ### Words of 64 bits -/

namespace Word

/-- The word itself, unless there is none. -/
def orOverflow : Option Int64 → Except ChannelError Int64
  | some word => .ok word
  | none => .error .seekOverflow

/-- The number as a signed word, if it is one. -/
def signed? (n : UInt64) : Option Int64 :=
  if n.toInt64.toInt = n.toNat then some n.toInt64 else none

/-- The sum of two signed words, if it is one. -/
def sum? (a b : Int64) : Option Int64 :=
  if (a + b).toInt = a.toInt + b.toInt then some (a + b) else none

/-- A cast to a signed word keeps the number exactly if it is a position. -/
lemma toInt_toInt64_eq_iff (n : UInt64) :
    n.toInt64.toInt = n.toNat ↔ (n.toNat : Int) ≤ maxPosition := by
  have most := n.toNat_lt
  unfold maxPosition
  rw [← Int64.toInt_toBitVec, UInt64.toBitVec_toInt64, BitVec.toInt_eq_toNat_cond,
    UInt64.toNat_toBitVec]
  split <;> omega

/-- A cast of a signed word keeps the number if it is not negative. -/
lemma toNat_toUInt64 {word : Int64} (low : 0 ≤ word.toInt) : word.toUInt64.toNat = word.toInt := by
  have nonnegative : (0 : Int64) ≤ word := Int64.le_iff_toInt_le.mpr low
  rw [Int64.toNat_toUInt64_of_le nonnegative]
  exact Int.toNat_of_nonneg low

/-- A sum of signed words is the sum of their numbers exactly if that is a position. -/
lemma toInt_add_eq_iff (a b : Int64) :
    (a + b).toInt = a.toInt + b.toInt ↔ isPosition (a.toInt + b.toInt) = true := by
  have low := (a + b).le_toInt
  have high := (a + b).toInt_lt
  rw [isPosition_iff]
  unfold maxPosition
  constructor
  · intro same
    omega
  · rintro ⟨above, below⟩
    rw [Int64.toInt_add]
    exact Int.bmod_eq_of_le (by omega) (by omega)

/-- A number that is no signed word is no position either. -/
lemma map_signed? (n : UInt64) :
    (orOverflow (signed? n)).map Int64.toInt = Reader.checkedPosition n.toNat := by
  have position : isPosition n.toNat = true ↔ (n.toNat : Int) ≤ maxPosition := by
    rw [isPosition_iff]
    unfold maxPosition
    omega
  unfold signed? Reader.checkedPosition
  simp only [toInt_toInt64_eq_iff, position]
  split
  · next fits => exact congrArg Except.ok ((toInt_toInt64_eq_iff n).mpr fits)
  · rfl

/-- A sum that is no signed word is no position either. -/
lemma map_sum? (a b : Int64) :
    (orOverflow (sum? a b)).map Int64.toInt = Reader.checkedPosition (a.toInt + b.toInt) := by
  unfold sum? Reader.checkedPosition
  simp only [toInt_add_eq_iff]
  split
  · next fits => exact congrArg Except.ok ((toInt_add_eq_iff a b).mpr fits)
  · rfl

end Word

namespace Reader

/-! ### Seeking in words -/

/-- A place to seek, told in words. -/
inductive Spot where
  | start (offset : UInt64)
  | fromEnd (offset : Int64)
  | fromCursor (offset : Int64)
  deriving DecidableEq, Repr

/-- The place that the words tell. -/
def Spot.place : Spot → Place
  | .start offset => .start offset.toNat
  | .fromEnd offset => .fromEnd offset.toInt
  | .fromCursor offset => .fromCursor offset.toInt

/-- The length of the buffer, cast to a signed word. -/
def lengthWord (r : Reader) : Int64 := (UInt64.ofNat r.buffer.length).toInt64

/-- The cursor, cast to a signed word. -/
def cursorWord (r : Reader) : Int64 := (UInt64.ofNat r.position).toInt64

/-- The position of a spot, as a word. -/
def wordOf (r : Reader) : Spot → Except ChannelError Int64
  | .start offset => Word.orOverflow (Word.signed? offset)
  | .fromEnd offset => Word.orOverflow (Word.sum? r.lengthWord offset)
  | .fromCursor offset =>
    if r.closed then .error (.stream (.closed .tell))
    else Word.orOverflow (Word.sum? r.cursorWord offset)

/-- Seeks a spot in words, and tells its position as an unsigned one. -/
def seekWords (r : Reader) (spot : Spot) : Except ChannelError UInt64 × Reader :=
  match r.wordOf spot with
  | .error e => (.error e, r)
  | .ok word =>
    if r.closed then (.error (.stream (.closed .seek)), r)
    else if 0 ≤ word ∧ word ≤ r.lengthWord then
      (.ok word.toUInt64, { r with position := word.toUInt64.toNat })
    else (.error (.stream ⟨.seek, .outOfBounds word.toInt r.lengthWord.toInt⟩), r)

/-- The integer that a place means. -/
def target (r : Reader) : Place → Int
  | .start offset => offset
  | .fromEnd offset => r.buffer.length + offset
  | .fromCursor offset => r.position + offset

variable {r : Reader} {place : Place} {position : Int}

/-! ### Seeking in integers -/

/-- An open reader looks for a place at the integer that it means, if that is a position. -/
lemma positionOf_of_open (isOpen : r.closed = false) (place : Place) :
    r.positionOf place = checkedPosition (r.target place) := by
  cases place with
  | start offset | fromEnd offset => rfl
  | fromCursor offset =>
    simp only [positionOf, channelCall, call, isOpen, Bool.false_eq_true, if_false]
    rfl

/-- An open reader goes to a position within its data. -/
lemma call_seek_of_mem (isOpen : r.closed = false) (low : 0 ≤ position)
    (high : position ≤ r.buffer.length) :
    r.call (.seek position) = (.ok (), { r with position := position.toNat }) := by
  have inside : checkPosition .seek position r.buffer.length = .ok () :=
    checkPosition_eq_ok_iff.mpr ⟨low, high⟩
  simp only [call, isOpen, Bool.false_eq_true, if_false, callOpen, inside]

/-- An open reader refuses any other position. -/
lemma call_seek_refused (isOpen : r.closed = false)
    (outside : ¬(0 ≤ position ∧ position ≤ r.buffer.length)) :
    r.call (.seek position) = (.error ⟨.seek, .outOfBounds position r.buffer.length⟩, r) := by
  simp only [call, isOpen, Bool.false_eq_true, if_false, callOpen, checkPosition_outside outside]

/-- If a place has a position, that is what the place means. -/
lemma eq_target_of_positionOf (found : r.positionOf place = .ok position) :
    position = r.target place := by
  have checked {n : Int} (passed : checkedPosition n = .ok position) : position = n := by
    unfold checkedPosition at passed
    split at passed <;> cases passed
    rfl
  cases place with
  | start offset | fromEnd offset => exact checked found
  | fromCursor offset =>
    cases closed : r.closed with
    | true =>
      simp only [positionOf, channelCall, call, closed] at found
      cases found
    | false =>
      rw [positionOf_of_open closed] at found
      exact checked found

/-- Once a place has a position, it is sought there. -/
lemma channelSeek_of_positionOf (found : r.positionOf place = .ok position) :
    r.channelSeek place =
      ((onChannel (r.call (.seek position)).1).map fun _ => position,
        (r.call (.seek position)).2) := by
  simp only [channelSeek, channelCall, found]
  rcases r.call (.seek position) with ⟨_ | _, s⟩ <;> rfl

/-- **An open reader finds what lies within its data.** -/
theorem channelSeek_of_mem (short : (r.buffer.length : Int) ≤ maxPosition)
    (isOpen : r.closed = false) (low : 0 ≤ r.target place)
    (high : r.target place ≤ r.buffer.length) :
    r.channelSeek place =
      (.ok (r.target place), { r with position := (r.target place).toNat }) := by
  have counted : isPosition (r.target place) = true := by
    rw [isPosition_iff]
    unfold maxPosition at short ⊢
    omega
  have found : r.positionOf place = .ok (r.target place) := by
    rw [positionOf_of_open isOpen, checkedPosition, if_pos counted]
  rw [channelSeek_of_positionOf found, call_seek_of_mem isOpen low high]
  rfl

/-- An open reader refuses what does not lie within its data as a bad argument. -/
lemma channelSeek_refused (isOpen : r.closed = false)
    (outside : ¬(0 ≤ r.target place ∧ r.target place ≤ r.buffer.length)) :
    ∃ e, r.channelSeek place = (.error e, r) ∧ e.kind = .invalidInput := by
  have position := positionOf_of_open isOpen place
  unfold checkedPosition at position
  split at position
  · refine ⟨.stream ⟨.seek, .outOfBounds (r.target place) r.buffer.length⟩, ?_, rfl⟩
    rw [channelSeek_of_positionOf position, call_seek_refused isOpen outside]
    rfl
  · refine ⟨.seekOverflow, ?_, rfl⟩
    rw [channelSeek, position]

/-- A closed reader refuses every place. -/
lemma channelSeek_of_closed (isClosed : r.closed = true) (place : Place) :
    ∃ e, r.channelSeek place = (.error e, r) := by
  cases found : r.positionOf place with
  | error e => exact ⟨e, by rw [channelSeek, found]⟩
  | ok position =>
    refine ⟨.stream (.closed .seek), ?_⟩
    rw [channelSeek_of_positionOf found, call_closed isClosed]
    rfl

/-! ### Words and integers -/

/-- The number of a count cast to a signed word, if it is a position. -/
lemma toInt_cast {count : Nat} (short : (count : Int) ≤ maxPosition) :
    (UInt64.ofNat count).toInt64.toInt = count := by
  have same : (UInt64.ofNat count).toNat = count := by
    unfold maxPosition at short
    rw [UInt64.toNat_ofNat']
    exact Nat.mod_eq_of_lt (by omega)
  have kept := (Word.toInt_toInt64_eq_iff (UInt64.ofNat count)).mpr
  rw [same] at kept
  exact kept short

/-- The length as a word is the length. -/
lemma toInt_lengthWord (short : (r.buffer.length : Int) ≤ maxPosition) :
    r.lengthWord.toInt = r.buffer.length :=
  toInt_cast short

/-- The cursor as a word is the cursor. -/
lemma toInt_cursorWord (counted : (r.position : Int) ≤ maxPosition) :
    r.cursorWord.toInt = r.position :=
  toInt_cast counted

/-- The position of a spot as a word is its position. -/
lemma map_wordOf (short : (r.buffer.length : Int) ≤ maxPosition)
    (counted : (r.position : Int) ≤ maxPosition) (spot : Spot) :
    (r.wordOf spot).map Int64.toInt = r.positionOf spot.place := by
  cases spot with
  | start offset => exact Word.map_signed? offset
  | fromEnd offset =>
    have sum := Word.map_sum? r.lengthWord offset
    rwa [toInt_lengthWord short] at sum
  | fromCursor offset =>
    have sum := Word.map_sum? r.cursorWord offset
    rw [toInt_cursorWord counted] at sum
    cases closed : r.closed with
    | true =>
      simp only [wordOf, closed, if_true, Spot.place, positionOf, channelCall, call_closed closed]
      rfl
    | false =>
      rw [Spot.place, positionOf_of_open closed, wordOf, closed]
      exact sum

/-- **Words come to the same** as integers. -/
theorem map_seekWords (short : (r.buffer.length : Int) ≤ maxPosition)
    (counted : (r.position : Int) ≤ maxPosition) (spot : Spot) :
    ((r.seekWords spot).1.map fun word => (word.toNat : Int), (r.seekWords spot).2) =
      r.channelSeek spot.place := by
  have position := map_wordOf short counted spot
  have length := toInt_lengthWord short
  unfold seekWords
  cases found : r.wordOf spot with
  | error e =>
    rw [found] at position
    rw [channelSeek, ← position]
    rfl
  | ok word =>
    rw [found] at position
    rw [channelSeek_of_positionOf position.symm]
    cases closed : r.closed with
    | true =>
      rw [call_closed closed]
      rfl
    | false =>
      have bounds : (0 ≤ word ∧ word ≤ r.lengthWord) ↔
          (0 ≤ word.toInt ∧ word.toInt ≤ r.buffer.length) := by
        rw [Int64.le_iff_toInt_le, Int64.le_iff_toInt_le, length]
        rfl
      simp only [Bool.false_eq_true, if_false, bounds]
      split
      · next within =>
        have count := Word.toNat_toUInt64 within.1
        rw [call_seek_of_mem closed within.1 within.2, ← count, Int.toNat_natCast, ← closed]
        rfl
      · next outside =>
        rw [call_seek_refused closed outside, length]
        rfl

/-- The word that is sought is the integer that the place means. -/
lemma toInt_of_wordOf (short : (r.buffer.length : Int) ≤ maxPosition)
    (counted : (r.position : Int) ≤ maxPosition) {spot : Spot} {word : Int64}
    (found : r.wordOf spot = .ok word) : word.toInt = r.target spot.place := by
  have position := map_wordOf short counted spot
  rw [found] at position
  exact eq_target_of_positionOf position.symm

/-! ### Exact seeking -/

/-- What seeking a spot comes to. -/
structure SeeksExactly (r : Reader) (spot : Spot) : Prop where
  /-- An open reader goes to any place within its data, the end included, and tells where it is. -/
  found : r.closed = false → 0 ≤ r.target spot.place → r.target spot.place ≤ r.buffer.length →
    r.channelSeek spot.place =
      (.ok (r.target spot.place), { r with position := (r.target spot.place).toNat })
  /-- It refuses any other place as a bad argument and stays as it is. -/
  missed : r.closed = false →
    ¬(0 ≤ r.target spot.place ∧ r.target spot.place ≤ r.buffer.length) →
      ∃ e, r.channelSeek spot.place = (.error e, r) ∧ e.kind = .invalidInput
  /-- A closed reader refuses every place and stays as it is. -/
  shut : r.closed = true → ∃ e, r.channelSeek spot.place = (.error e, r)
  /-- The length and the cursor keep their numbers as signed words. -/
  casts : r.lengthWord.toInt = r.buffer.length ∧ r.cursorWord.toInt = r.position
  /-- The word that is sought has the number that the place means, so that no sum has wrapped. -/
  sums : ∀ word, r.wordOf spot = .ok word → word.toInt = r.target spot.place
  /-- Words lead to the same answer and the same reader as integers. -/
  words : ((r.seekWords spot).1.map fun word => (word.toNat : Int), (r.seekWords spot).2) =
    r.channelSeek spot.place

/-- **Seeking is exact.**  Whatever the data and wherever the cursor is, if length and cursor
are positions: a place that is told in words is found exactly if the integer that it means lies
within the data, whatever the words are, and none of the words wraps on the way. -/
theorem seeks_exactly (short : (r.buffer.length : Int) ≤ maxPosition)
    (counted : (r.position : Int) ≤ maxPosition) (spot : Spot) : SeeksExactly r spot where
  found := channelSeek_of_mem short
  missed := channelSeek_refused
  shut isClosed := channelSeek_of_closed isClosed spot.place
  casts := ⟨toInt_lengthWord short, toInt_cursorWord counted⟩
  sums _ := toInt_of_wordOf short counted
  words := map_seekWords short counted spot

/-- A reader of ten bytes, with four of them behind the cursor. -/
def tenBytes : Reader where
  buffer := .ofBytes ⟨0, 0⟩ [100, 97, 116, 97, 49, 50, 51, 52, 53, 54]
  position := 4

/-- Three bytes back from the cursor is the second byte.  The greatest distance from the cursor is
no position, and neither is the greatest one from the start. -/
theorem tenBytes_seeks_exactly :
    (tenBytes.buffer.length : Int) ≤ maxPosition ∧ (tenBytes.position : Int) ≤ maxPosition ∧
      tenBytes.channelSeek (.fromCursor (-3)) = (.ok 1, { tenBytes with position := 1 }) ∧
      (∃ e, tenBytes.channelSeek (.fromCursor 9223372036854775807) = (.error e, tenBytes) ∧
        e.kind = .invalidInput) ∧
      ∃ e, tenBytes.channelSeek (.start 18446744073709551615) = (.error e, tenBytes) ∧
        e.kind = .invalidInput := by
  have short : (tenBytes.buffer.length : Int) ≤ maxPosition := by decide
  have counted : (tenBytes.position : Int) ≤ maxPosition := by decide
  have all (spot : Spot) : SeeksExactly tenBytes spot := seeks_exactly short counted spot
  exact ⟨short, counted, (all (.fromCursor (-3))).found rfl (by decide) (by decide),
    (all (.fromCursor Int64.maxValue)).missed rfl (by decide),
    (all (.start 18446744073709551615)).missed rfl (by decide)⟩

end Reader

end ByteStreams
