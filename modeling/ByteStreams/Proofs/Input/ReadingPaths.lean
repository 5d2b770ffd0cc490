import ByteStreams.Channel.Read
import ByteStreams.Proofs.Input.Outcome
import ByteStreams.Proofs.Run

/-!
# All ways of reading a reader

A reader can be read as a stream and as a channel: into a buffer or a target, by skipping, by
looking ahead, and by position.  All of these go by one cursor.  `Reader.past` is the reader with
its cursor moved on, and `Reader.ahead` the bytes in between; `ReadingPathsAgree` puts every way of
reading in terms of the two.

A run mixes them in any order (`Reader.Use`).  What it delivers and skips is told by
`Reader.taking`, where skipped bytes are those that looking ahead would have shown.  As long as the
cursor is not moved by seeking, these pieces make up the stretch of data that it has passed over.
-/

namespace ByteStreams

/-- The bytes read stand at the start of the target, and the rest of it stays. -/
lemma Filled.ofOverlay_eq (target data : Bytes) :
    ofOverlay target data = ⟨data.length, data ++ target.drop data.length⟩ := by
  rw [ofOverlay, Bytes.overlay, List.take_zero, List.nil_append, Nat.zero_add]

/-- A slice within a buffer with all its bytes has all its bytes. -/
lemma Buffer.Whole.slice {b : Buffer} (whole : b.Whole) {offset length : Nat}
    (within : offset + length ≤ b.length) : (b.slice offset length).Whole := by
  have total : b.content.length = b.length := whole
  have short : length ≤ b.length - offset := by omega
  unfold Whole
  rw [Buffer.content_slice short, Bytes.length_window, Buffer.length_slice]
  omega

namespace Reader

/-! ### Uses of an open reader -/

/-- What can be done with a reader without closing it. -/
inductive Use : Type 1 where
  | call {α : Type} (c : InputCall α) (stays : c.isClose = false)
  | channelRead (target : Bytes)
  | fillBuffer
  | consume (count : Nat)
  | channelSeek (place : Place)

/-- What a use answers, as it is seen, and the reader after it. -/
def Use.machine : Machine Use (Except ChannelError Seen) Reader
  | .call c _, r => ((onChannel (r.call c).1).map c.seen, (r.call c).2)
  | .channelRead target, r => ((r.channelRead target).1.map .filled, (r.channelRead target).2)
  | .fillBuffer, r => (r.fillBuffer.1.map .ofBytes, r.fillBuffer.2)
  | .consume count, r => (.ok .done, r.consume count)
  | .channelSeek place, r => ((r.channelSeek place).1.map .number, (r.channelSeek place).2)

/-- A use that has moved the cursor to a place that was asked for. -/
def Use.repositions : Use × Except ChannelError Seen → Bool
  | (.call (.seek _) _, reply) | (.channelSeek _, reply) => reply.isOk
  | (.call _ _, _) | (.channelRead _, _) | (.fillBuffer, _) | (.consume _, _) => false

/-- The bytes that looking ahead shows. -/
def peeked (r : Reader) (count : Nat) : Bytes :=
  match (r.call (.peek count)).1 with
  | .ok bytes => bytes
  | .error _ => []

/-- The bytes at the start of a target that have been read into it. -/
def filledIn {ε : Type} : Except ε Filled → Bytes
  | .ok f => f.target.take f.count
  | .error _ => []

/-- The bytes that a use delivers from the cursor on, or skips. -/
def Use.taken : Use → Reader → Bytes
  | .call (.read count) _, r =>
    match (r.call (.read count)).1 with
    | .ok b => b.content
    | .error _ => []
  | .call (.readInto target) _, r => filledIn (r.call (.readInto target)).1
  | .channelRead target, r => filledIn (r.channelRead target).1
  | .call (.advance count) _, r | .consume count, r => r.peeked count
  | .call _ _, _ | .fillBuffer, _ | .channelSeek _, _ => []

/-- What the uses of a run deliver or skip, one after the other. -/
def taking : List Use → Reader → List Bytes
  | [], _ => []
  | use :: uses, r => use.taken r :: taking uses (Use.machine use r).2

/-- The reader with its cursor behind at most so many bytes. -/
def past (r : Reader) (count : Nat) : Reader :=
  { r with position := min (r.position + count) r.buffer.length }

/-- At most so many bytes from the cursor on. -/
def ahead (r : Reader) (count : Nat) : Bytes :=
  r.buffer.content.between r.position (r.past count).position

/-! ### One cursor -/

/-- The reader is open, reads the whole buffer, and has its cursor within it. -/
structure Reads (b : Buffer) (r : Reader) : Prop where
  buffer : r.buffer = b
  whole : b.Whole
  isOpen : r.closed = false
  inside : r.position ≤ b.length

variable {b : Buffer} {r : Reader} {α : Type}

/-- What comes next is a window of the content. -/
lemma Reads.ahead_eq (h : Reads b r) (count : Nat) :
    r.ahead count = b.content.window r.position count := by
  have total : b.content.length = b.length := h.whole
  have inside := h.inside
  have low : (0 : Int) ≤ r.position := Int.natCast_nonneg _
  have start := Bytes.window_eq_between b.content low (clampRead r.position b.length count)
  have ends : (r.position : Int) + (clampRead r.position b.length count : Nat) =
      min (r.position + count) b.length := by
    unfold clampRead
    omega
  rw [ends, Int.toNat_natCast, ← total, Bytes.window_clamp, total] at start
  rw [ahead, past, h.buffer, start]

/-- The cursor comes to stand behind what comes next. -/
lemma Reads.position_past (h : Reads b r) (count : Nat) :
    (r.past count).position = r.position + (r.ahead count).length := by
  have total : b.content.length = b.length := h.whole
  have inside := h.inside
  rw [h.ahead_eq, Bytes.length_window, past, h.buffer]
  simp only
  omega

/-- A call answers as over the content, and moves the cursor alone. -/
lemma Reads.call (h : Reads b r) {c : InputCall α} (stays : c.isClose = false) :
    (r.call c).1.map c.seen = c.outcome b.content r.position ∧
      (r.call c).2 = { r with position := c.cursor b.content r.position } := by
  have whole : r.buffer.Whole := h.buffer ▸ h.whole
  obtain ⟨answer, state⟩ := call_open whole h.isOpen c
  rw [h.buffer] at answer state
  refine ⟨answer, ?_⟩
  rw [state, stays, ← h.isOpen, ← h.buffer]

/-- The cursor is a position that can be read from. -/
lemma Reads.check (h : Reads b r) :
    checkPosition .read r.position b.content.length = .ok () := by
  have total : b.content.length = b.length := h.whole
  have inside := h.inside
  rw [checkPosition_eq_ok_iff]
  omega

/-- A reader that moves on stays as it should be. -/
lemma Reads.past (h : Reads b r) (count : Nat) : Reads b (r.past count) where
  buffer := h.buffer
  whole := h.whole
  isOpen := h.isOpen
  inside := by
    rw [Reader.past, h.buffer]
    exact Nat.min_le_right ..

/-- A call that moves the cursor over what it gets. -/
lemma Reads.past_eq (h : Reads b r) (count : Nat) :
    { r with position := r.position + (b.content.window r.position count).length } =
      r.past count := by
  have place := h.position_past count
  rw [h.ahead_eq] at place
  rw [← place]
  rfl

/-! ### The ways of reading -/

/-- Reading into a buffer. -/
lemma Reads.call_read (h : Reads b r) (count : Nat) :
    ∃ piece, r.call (.read count) = (.ok piece, r.past count) ∧
      piece.content = r.ahead count ∧ piece.length = (r.ahead count).length := by
  obtain ⟨answer, state⟩ := h.call (c := .read count) rfl
  obtain ⟨piece, answered, seen⟩ := ok_of_map_eq_ok answer
  obtain ⟨length, content⟩ := Seen.buffer.inj seen
  have moved : (r.call (.read count)).2 = r.past count := state.trans (h.past_eq count)
  rw [h.ahead_eq]
  exact ⟨piece, Prod.ext answered moved, content, length⟩

/-- Reading by position, at the cursor. -/
lemma Reads.call_readAt (h : Reads b r) (count : Nat) :
    ∃ piece, r.call (.readAt r.position count) = (.ok piece, r) ∧
      piece.content = r.ahead count ∧ piece.length = (r.ahead count).length := by
  obtain ⟨answer, state⟩ := h.call (c := .readAt r.position count) rfl
  have passed := h.check
  rw [InputCall.outcome, passed] at answer
  obtain ⟨piece, answered, seen⟩ := ok_of_map_eq_ok answer
  obtain ⟨length, content⟩ := Seen.buffer.inj seen
  rw [h.ahead_eq]
  exact ⟨piece, Prod.ext answered state, content, length⟩

/-- Reading into a target. -/
lemma Reads.call_readInto (h : Reads b r) (target : Bytes) :
    r.call (.readInto target) = (.ok ⟨(r.ahead target.length).length, r.ahead target.length ++
      target.drop (r.ahead target.length).length⟩, r.past target.length) := by
  obtain ⟨answer, state⟩ := h.call (c := .readInto target) rfl
  obtain ⟨f, answered, seen⟩ := ok_of_map_eq_ok answer
  have moved : (r.call (.readInto target)).2 = r.past target.length :=
    state.trans (h.past_eq target.length)
  rw [Seen.filled.inj seen, ← h.ahead_eq, Filled.ofOverlay_eq] at answered
  exact Prod.ext answered moved

/-- Skipping. -/
lemma Reads.call_advance (h : Reads b r) (count : Nat) :
    r.call (.advance count) = (.ok (r.ahead count).length, r.past count) := by
  obtain ⟨answer, state⟩ := h.call (c := .advance count) rfl
  obtain ⟨n, answered, seen⟩ := ok_of_map_eq_ok answer
  have moved : (r.call (.advance count)).2 = r.past count := state.trans (h.past_eq count)
  rw [Int.ofNat.inj (Seen.number.inj seen), ← h.ahead_eq] at answered
  exact Prod.ext answered moved

/-- Looking ahead. -/
lemma Reads.call_peek (h : Reads b r) (count : Nat) :
    r.call (.peek count) = (.ok (r.ahead count), r) := by
  obtain ⟨answer, state⟩ := h.call (c := .peek count) rfl
  obtain ⟨bytes, answered, seen⟩ := ok_of_map_eq_ok answer
  rw [(Seen.buffer.inj seen).2, ← h.ahead_eq] at answered
  exact Prod.ext answered state

/-- Reading by position, at the cursor, into a target. -/
lemma Reads.call_readAtInto (h : Reads b r) (target : Bytes) :
    r.call (.readAtInto r.position target) = (.ok ⟨(r.ahead target.length).length,
      r.ahead target.length ++ target.drop (r.ahead target.length).length⟩, r) := by
  obtain ⟨answer, state⟩ := h.call (c := .readAtInto r.position target) rfl
  rw [InputCall.outcome, h.check] at answer
  obtain ⟨f, answered, seen⟩ := ok_of_map_eq_ok answer
  have filled : Filled.ofOverlay target (b.content.window r.position target.length) = f :=
    (Seen.filled.inj seen).symm
  rw [← filled, ← h.ahead_eq, Filled.ofOverlay_eq] at answered
  exact Prod.ext answered state

/-- Reading as a channel is reading into a target. -/
lemma Reads.channelRead (h : Reads b r) (target : Bytes) :
    r.channelRead target = (.ok ⟨(r.ahead target.length).length, r.ahead target.length ++
      target.drop (r.ahead target.length).length⟩, r.past target.length) := by
  rw [Reader.channelRead, channelCall, h.call_readInto]
  rfl

/-- Consuming is skipping. -/
lemma Reads.consume (h : Reads b r) (count : Nat) : r.consume count = r.past count := by
  rw [Reader.consume, h.call_advance]

/-- The buffer of a channel shows as much as can be asked for. -/
lemma Reads.fillBuffer (h : Reads b r) : r.fillBuffer = (.ok (r.ahead maxCount), r) := by
  rw [Reader.fillBuffer, channelCall, h.call_peek]
  rfl

/-- Whoever looks ahead far enough sees all that is left. -/
lemma Reads.ahead_of_le (h : Reads b r) {count : Nat} (all : b.length ≤ count) :
    r.ahead count = b.content.drop r.position := by
  have total : b.content.length = b.length := h.whole
  refine h.ahead_eq count ▸ List.take_of_length_le ?_
  rw [List.length_drop]
  omega

/-- Looking ahead shows what comes next. -/
lemma Reads.peeked (h : Reads b r) (count : Nat) : r.peeked count = r.ahead count := by
  rw [Reader.peeked, h.call_peek]

/-- A reader whose cursor is moved within the content stays as it should be. -/
lemma Reads.moved (h : Reads b r) {position : Nat} (inside : position ≤ b.length) :
    Reads b { r with position } :=
  ⟨h.buffer, h.whole, h.isOpen, inside⟩

/-- Seeking moves the cursor within the content, or fails and changes nothing. -/
lemma Reads.call_seek (h : Reads b r) (position : Int) :
    (∃ e, r.call (.seek position) = (.error e, r)) ∨
      0 ≤ position ∧ position ≤ b.length ∧
        r.call (.seek position) = (.ok (), { r with position := position.toNat }) := by
  obtain ⟨answer, state⟩ := h.call (c := .seek position) rfl
  have total : b.content.length = b.length := h.whole
  rw [InputCall.outcome, total] at answer
  rw [InputCall.cursor, total] at state
  rcases checkPosition_cases .seek position b.length with
    ⟨⟨low, high⟩, passed⟩ | ⟨outside, e, failed⟩
  · rw [passed] at answer
    rw [if_pos ⟨low, high⟩] at state
    obtain ⟨_, answered, _⟩ := ok_of_map_eq_ok answer
    exact .inr ⟨low, high, Prod.ext answered state⟩
  · rw [failed] at answer
    rw [if_neg outside] at state
    exact .inl ⟨e, Prod.ext (error_of_map_eq_error answer) state⟩

/-- Seeking as a channel is seeking, unless there is no such position. -/
lemma Reads.channelSeek (h : Reads b r) (place : Place) :
    (∃ e, r.channelSeek place = (.error e, r)) ∨
      ∃ position : Int, 0 ≤ position ∧ position ≤ b.length ∧
        r.channelSeek place = (.ok position, { r with position := position.toNat }) := by
  unfold Reader.channelSeek
  cases r.positionOf place with
  | error e => exact .inl ⟨e, rfl⟩
  | ok position =>
    rcases h.call_seek position with ⟨e, failed⟩ | ⟨low, high, moved⟩
    · refine .inl ⟨.stream e, ?_⟩
      simp only [channelCall, failed, onChannel]
    · refine .inr ⟨position, low, high, ?_⟩
      simp only [channelCall, moved, onChannel]

/-! ### Runs -/

/-- What a use does to an open reader: the cursor stays within the content, and unless it has been
moved by seeking, it passes over exactly what the use takes. -/
structure Takes (b : Buffer) (use : Use) (r : Reader) : Prop where
  reads : Reads b (Use.machine use r).2
  passes : Use.repositions (use, (Use.machine use r).1) = false →
    r.position ≤ (Use.machine use r).2.position ∧
      use.taken r = b.content.between r.position (Use.machine use r).2.position

/-- A use that moves the cursor on takes what comes next. -/
lemma Takes.of_past (h : Reads b r) {use : Use} {count : Nat}
    (state : (Use.machine use r).2 = r.past count) (taken : use.taken r = r.ahead count) :
    Takes b use r where
  reads := by
    rw [state]
    exact h.past count
  passes _ := by
    rw [state, taken, h.position_past]
    refine ⟨Nat.le_add_right .., ?_⟩
    rw [← h.position_past, ← h.buffer]
    rfl

/-- A use that leaves the reader as it is takes nothing. -/
lemma Takes.of_quiet (h : Reads b r) {use : Use} (state : (Use.machine use r).2 = r)
    (taken : use.taken r = []) : Takes b use r where
  reads := by rwa [state]
  passes _ := by
    rw [state, taken, Bytes.between_self]
    exact ⟨Nat.le_refl _, rfl⟩

/-- A use that has moved the cursor by seeking has not passed over anything. -/
lemma Takes.of_sought (h : Reads b r) {use : Use} {position : Nat} (inside : position ≤ b.length)
    (state : (Use.machine use r).2 = { r with position })
    (sought : Use.repositions (use, (Use.machine use r).1) = true) : Takes b use r where
  reads := by
    rw [state]
    exact h.moved inside
  passes unmoved := by
    rw [sought] at unmoved
    cases unmoved

/-- The bytes at the start of a filled target. -/
lemma filledIn_ok {ε : Type} (data rest : Bytes) :
    filledIn (.ok ⟨data.length, data ++ rest⟩ : Except ε Filled) = data :=
  List.take_left' rfl

/-- **One use** takes what the cursor passes over. -/
lemma Reads.takes (h : Reads b r) (use : Use) : Takes b use r := by
  cases use with
  | call c stays =>
    cases c with
    | read count =>
      obtain ⟨piece, answered, content, _⟩ := h.call_read count
      refine .of_past h (congrArg Prod.snd answered) ?_
      simp only [Use.taken, answered, content]
    | readInto target =>
      refine .of_past h (congrArg Prod.snd (h.call_readInto target)) ?_
      simp only [Use.taken, h.call_readInto, filledIn_ok]
    | advance count =>
      exact .of_past h (congrArg Prod.snd (h.call_advance count)) (h.peeked count)
    | seek position =>
      rcases h.call_seek position with ⟨e, failed⟩ | ⟨low, high, moved⟩
      · exact .of_quiet h (congrArg Prod.snd failed) rfl
      · have inside : position.toNat ≤ b.length := by omega
        refine .of_sought h inside (congrArg Prod.snd moved) ?_
        simp only [Use.repositions, Use.machine, moved]
        rfl
    | peek _ | tell | zeroCopy | size | readAt _ _ | readAtInto _ _ | isClosed | checkOpen _ =>
      exact .of_quiet h (h.call rfl).2 rfl
    | close => cases stays
  | channelRead target =>
    refine .of_past h (congrArg Prod.snd (h.channelRead target)) ?_
    simp only [Use.taken, h.channelRead, filledIn_ok]
  | fillBuffer =>
    refine .of_quiet h ?_ rfl
    exact congrArg Prod.snd (h.call_peek maxCount)
  | consume count => exact .of_past h (h.consume count) (h.peeked count)
  | channelSeek place =>
    rcases h.channelSeek place with ⟨e, failed⟩ | ⟨position, low, high, moved⟩
    · exact .of_quiet h (congrArg Prod.snd failed) rfl
    · have inside : position.toNat ≤ b.length := by omega
      refine .of_sought h inside (congrArg Prod.snd moved) ?_
      simp only [Use.repositions, Use.machine, moved]
      rfl

/-- As long as the cursor is not moved by seeking, all that is taken is what it passes over. -/
lemma Reads.taking_flatten (h : Reads b r) (uses : List Use)
    (unmoved : ∀ e ∈ Use.machine.transcript uses r, Use.repositions e = false) :
    r.position ≤ (Use.machine.final uses r).position ∧ (taking uses r).flatten =
      b.content.between r.position (Use.machine.final uses r).position := by
  induction uses generalizing r with
  | nil =>
    refine ⟨Nat.le_refl _, ?_⟩
    rw [Machine.final, Bytes.between_self]
    rfl
  | cons use uses ih =>
    obtain ⟨reads, passes⟩ := h.takes use
    obtain ⟨first, taken⟩ := passes (unmoved _ List.mem_cons_self)
    obtain ⟨later, rest⟩ := ih reads fun e member => unmoved e (List.mem_cons_of_mem _ member)
    refine ⟨Nat.le_trans first later, ?_⟩
    rw [taking, List.flatten_cons, taken, rest, Machine.final]
    exact Bytes.between_append b.content (Int.ofNat_le.mpr first) (Int.ofNat_le.mpr later)

/-- Every use of a run leaves the reader as it should be. -/
lemma Reads.final (h : Reads b r) (uses : List Use) : Reads b (Use.machine.final uses r) :=
  Use.machine.run_induction (motive := fun _ s => Reads b s) h
    (fun _ _ use now => (now.takes use).reads) uses

/-- What is read is what comes next, whichever way it is read. -/
structure ReadingPathsAgree (b : Buffer) (r : Reader) : Prop where
  /-- The reader is open, and its cursor within the content. -/
  reads : Reads b r
  read : ∀ count, ∃ piece, r.call (.read count) = (.ok piece, r.past count) ∧
    piece.content = r.ahead count ∧ piece.length = (r.ahead count).length
  /-- The rest of a target stays as it is. -/
  readInto : ∀ target, r.call (.readInto target) = (.ok ⟨(r.ahead target.length).length,
    r.ahead target.length ++ target.drop (r.ahead target.length).length⟩, r.past target.length)
  channelRead : ∀ target, r.channelRead target = (.ok ⟨(r.ahead target.length).length,
    r.ahead target.length ++ target.drop (r.ahead target.length).length⟩, r.past target.length)
  advance : ∀ count, r.call (.advance count) = (.ok (r.ahead count).length, r.past count)
  consume : ∀ count, r.consume count = r.past count
  peek : ∀ count, r.call (.peek count) = (.ok (r.ahead count), r)
  readAt : ∀ count, ∃ piece, r.call (.readAt r.position count) = (.ok piece, r) ∧
    piece.content = r.ahead count ∧ piece.length = (r.ahead count).length
  readAtInto : ∀ target, r.call (.readAtInto r.position target) =
    (.ok ⟨(r.ahead target.length).length,
      r.ahead target.length ++ target.drop (r.ahead target.length).length⟩, r)
  /-- The buffer of a channel shows as much as can be asked for. -/
  fillBuffer : r.fillBuffer = (.ok (r.ahead maxCount), r)
  /-- Looking ahead by the length of the buffer or further shows all that is left. -/
  all : ∀ count, b.length ≤ count → r.ahead count = b.content.drop r.position
  /-- Until the cursor is moved by seeking, all that is delivered and skipped is the stretch of the
  content that the cursor passes over. -/
  lossless : ∀ uses, (∀ e ∈ Use.machine.transcript uses r, Use.repositions e = false) →
    (taking uses r).flatten =
      b.content.between r.position (Use.machine.final uses r).position

/-- **All ways of reading agree and lose nothing**, after any run of them over any buffer. -/
theorem reading_paths_agree (whole : b.Whole) (uses : List Use) :
    ReadingPathsAgree b (Use.machine.final uses { buffer := b }) := by
  have start : Reads b { buffer := b } := ⟨rfl, whole, rfl, Nat.zero_le _⟩
  have reads := start.final uses
  exact {
    reads
    read := reads.call_read
    readInto := reads.call_readInto
    channelRead := reads.channelRead
    advance := reads.call_advance
    consume := reads.consume
    peek := reads.call_peek
    readAt := reads.call_readAt
    readAtInto := reads.call_readAtInto
    fillBuffer := reads.fillBuffer
    all := fun _ => reads.ahead_of_le
    lossless := fun later unmoved => (reads.taking_flatten later unmoved).2 }

/-- Six bytes in the middle of a memory of ten. -/
def middle : Buffer := (Buffer.ofBytes ⟨0, 0⟩ [10, 11, 12, 13, 14, 15, 16, 17, 18, 19]).slice 2 6

/-- Reading two bytes, going back by one, skipping one, looking at the rest, and reading two. -/
def mixedUses : List Use :=
  [.call (.read 2) rfl, .channelSeek (.fromCursor (-1)), .consume 1, .fillBuffer,
    .channelRead [0, 0]]

/-- After that the last two bytes are left, and what has been taken since the seeking is the stretch
from the second byte to the fourth. -/
theorem mixedUses_agree :
    middle.Whole ∧
      (Use.machine.final mixedUses { buffer := middle }).call (.peek 9) =
        (.ok [16, 17], Use.machine.final mixedUses { buffer := middle }) ∧
      (taking (mixedUses.drop 2)
          (Use.machine.final (mixedUses.take 2) { buffer := middle })).flatten =
        middle.content.between 1 4 := by
  have whole : middle.Whole := (Buffer.whole_ofBytes _ _).slice (by decide)
  have last := reading_paths_agree whole mixedUses
  have sought := reading_paths_agree whole (mixedUses.take 2)
  exact ⟨whole, last.peek 9, sought.lossless (mixedUses.drop 2) (by decide)⟩

end Reader

end ByteStreams
