import ByteStreams.Proofs.Copy
import ByteStreams.Proofs.Input.ChainReading
import ByteStreams.Proofs.Input.Iteration

/-!
# Cutting what is left into chunks

Upon an open reader there may be slow streams, and views whose windows lie within what is beneath
them.  Each of these streams denotes a stretch of the bytes of the reader (`Streams.Denotes`).  To
read it in chunks is to cut the bytes that are left behind its cursor into pieces, which all have
the block size but for the last one, and that has at least one byte (`Partition`).

`Chunks.Drains` says which pieces a sequence of chunks hands out until it is done.  By induction on
the number of bytes left the pieces are a partition of them (`Streams.Denotes.drains`), and from
this follows what any number of askings are answered (`denoted_cut_into_chunks`).
-/

namespace ByteStreams

/-- A window of a stretch is a stretch. -/
lemma Bytes.window_between (data : Bytes) {first : Int} (low : 0 ≤ first) (behind : Int)
    (offset count : Nat) :
    (data.between first behind).window offset count =
      data.between (first + offset) (min (first + offset + count) behind) := by
  have start : (first + offset).toNat = first.toNat + offset := by omega
  have stop : (min (first + offset + count) behind).toNat =
      min (first.toNat + offset + count) behind.toNat := by omega
  rw [window, between, between, start, stop, List.drop_drop, List.take_drop, List.take_take]

/-! ### Windows within windows -/

namespace Window

variable {size : Int} {windows : List Window}

/-- The end of the nearest window, or else of what is beneath. -/
def finish (size : Int) : List Window → Int
  | [] => size
  | w :: _ => w.behind

/-- Each window lies within the next one, and the last within what is beneath them. -/
def Inside (size : Int) : List Window → Prop
  | [] => True
  | w :: windows => origin windows ≤ w.first ∧ w.first ≤ w.behind ∧
      w.behind ≤ finish size windows ∧ Inside size windows

/-- What is denoted through windows: each denotes its part of what is denoted beneath it. -/
def denoted (content : Bytes) : List Window → Bytes
  | [] => content
  | w :: windows =>
    (denoted content windows).window (w.first - origin windows).toNat (w.behind - w.first).toNat

/-- Of windows within each other the nearest ends first. -/
lemma Inside.limit_eq (h : Inside size windows) : limit size windows = finish size windows := by
  induction windows with
  | nil => rfl
  | cons w windows ih =>
    obtain ⟨_, _, ends, inside⟩ := h
    rw [limit, ih inside, finish, Int.min_eq_left ends]

/-- The nearest window starts where the file starts, or behind it. -/
lemma Inside.origin_nonneg (h : Inside size windows) : 0 ≤ origin windows := by
  induction windows with
  | nil => exact Int.le_refl 0
  | cons w windows ih => exact Int.le_trans (ih h.2.2.2) h.1

/-- The nearest window ends where the file ends, or before it. -/
lemma Inside.finish_le (h : Inside size windows) : finish size windows ≤ size := by
  rw [← h.limit_eq]
  exact limit_le windows size

/-- The nearest window does not end before it starts. -/
lemma Inside.origin_le (h : Inside size windows) (counted : 0 ≤ size) :
    origin windows ≤ finish size windows := by
  cases windows with
  | nil => exact counted
  | cons w windows => exact h.2.1

/-- The nearest window has its length from its start on. -/
lemma origin_add_extent (size : Int) (windows : List Window) :
    origin windows + extent size windows = finish size windows := by
  cases windows with
  | nil => exact Int.zero_add size
  | cons w windows =>
    simp only [origin, extent, finish]
    omega

/-- What is denoted through windows within each other is the stretch that the nearest shows. -/
lemma Inside.denoted_eq {b : Buffer} (h : Inside b.length windows) (whole : b.Whole) :
    denoted b.content windows =
      b.content.between (origin windows) (finish b.length windows) := by
  induction windows with
  | nil =>
    have all : b.content.length ≤ b.length := Nat.le_of_eq whole
    simp [denoted, origin, finish, Bytes.between, List.take_of_length_le all]
  | cons w windows ih =>
    obtain ⟨starts, forward, ends, inside⟩ := h
    have first : origin windows + ((w.first - origin windows).toNat : Int) = w.first := by omega
    have behind : min (w.first + ((w.behind - w.first).toNat : Int))
        (finish b.length windows) = w.behind := by omega
    rw [denoted, ih inside, Bytes.window_between _ inside.origin_nonneg, first, behind]
    rfl

/-- As many bytes are denoted as the nearest window is long. -/
lemma Inside.length_denoted {b : Buffer} (h : Inside b.length windows) (whole : b.Whole) :
    ((denoted b.content windows).length : Int) = extent b.length windows := by
  have total : b.content.length = b.length := whole
  have forward := h.origin_le (Int.natCast_nonneg _)
  have nearest := origin_add_extent b.length windows
  rw [h.denoted_eq whole, Bytes.length_between h.origin_nonneg (total ▸ h.finish_le)]
  omega

end Window

namespace Streams

/-! ### Streams that denote bytes -/

/-- The name stands for an open stream upon a reader, by way of slow streams and of views, each with
its window inside what is beneath it.  It denotes the data, and its cursor is at the position. -/
def Denotes (streams : Streams) (name : Nat) (data : Bytes) (cursor : Nat) : Prop :=
  ∃ (b : Buffer) (windows : List Window), Chain b streams name windows cursor ∧
    Window.Inside b.length windows ∧ data = Window.denoted b.content windows

variable {streams : Streams} {name cursor : Nat} {data : Bytes}

namespace Denotes

/-- A stream that denotes data is open. -/
lemma isClosed (h : Denotes streams name data cursor) : streams.isClosed name = false := by
  obtain ⟨b, windows, chain, _⟩ := h
  exact chain.isClosed

/-- It tells where its cursor is. -/
lemma tells (h : Denotes streams name data cursor) :
    (streams.call name .tell).result = .ok (cursor : Int) := by
  obtain ⟨b, windows, chain, _⟩ := h
  exact (chain.follows (c := .tell) rfl).result

/-- The cursor is within the data. -/
lemma cursor_le (h : Denotes streams name data cursor) : cursor ≤ data.length := by
  obtain ⟨b, windows, chain, inside, rfl⟩ := h
  have high := chain.cursor_inside.2
  rw [← inside.length_denoted chain.whole] at high
  exact Int.ofNat_le.mp high

/-- **One read** gets the bytes from the cursor on, up to the end of the data. -/
lemma read (h : Denotes streams name data cursor) (count : Nat) :
    ∃ b : Buffer, (streams.call name (.read count)).result = .ok b ∧ b.Whole ∧
      b.content = data.window cursor count ∧
      Denotes (streams.call name (.read count)).streams name data (cursor + b.length) := by
  obtain ⟨b, windows, chain, inside, rfl⟩ := h
  have visible : Window.origin windows + (cursor : Int) ≤ Window.limit b.length windows := by
    have high := chain.cursor_inside.2
    rw [inside.limit_eq, ← Window.origin_add_extent]
    omega
  obtain ⟨bytes, got, answered, stands⟩ :=
    chain.call_visible (c := .read count) rfl (Int.natCast_nonneg cursor) visible
  obtain ⟨piece, result, seen⟩ := ok_of_map_eq_ok answered
  obtain ⟨length, content⟩ := Seen.buffer.inj seen
  have cut : bytes = (Window.denoted b.content windows).window cursor count := by
    rw [got, inside.denoted_eq chain.whole, Bytes.window_between _ inside.origin_nonneg,
      inside.limit_eq]
  refine ⟨piece, result, ?_, content.trans cut, b, windows, ?_, inside, rfl⟩
  · rw [Buffer.Whole, content, length]
  · rw [length, Int.natCast_add]
    exact stands

end Denotes

/-- Beneath what can be read there are as many bytes as the supply says. -/
lemma Chain.length_le_supply {b : Buffer} {windows : List Window} {place : Int}
    (h : Chain b streams name windows place) : b.length ≤ Chunks.supply streams := by
  induction h with
  | reader _ _ => exact Nat.le_add_right ..
  | shared _ ih | slow _ ih | view _ _ _ ih => exact ih
  | @other _ _ _ node _ _ _ _ ih =>
    cases node with
    | reader _ | scripted _ => exact Nat.le_trans ih (Nat.le_add_left ..)
    | shared _ _ | slow _ _ | view _ => exact ih

/-- The supply is enough for all bytes of the data. -/
lemma Denotes.length_le_supply (h : Denotes streams name data cursor) :
    data.length ≤ Chunks.supply streams := by
  obtain ⟨b, windows, chain, inside, rfl⟩ := h
  have enough := chain.length_le_supply
  have total := inside.length_denoted chain.whole
  have nearest := Window.origin_add_extent b.length windows
  have first := inside.origin_nonneg
  have last := inside.finish_le
  omega

end Streams

/-- A tower that has just been built denotes its bytes, with its cursor at the start. -/
lemma Tower.denotes {streams : Streams} {name : Nat} {data : Bytes}
    (h : Tower streams name data) : streams.Denotes name data 0 := by
  induction h with
  | @reader rest name buffer whole => exact ⟨buffer, [], .new whole rest name, trivial, rfl⟩
  | @view streams opened name inner data shared offset length beneath start size within opens ih =>
    obtain ⟨b, windows, chain, inside, rfl⟩ := ih
    have file : Streams.Chain b ((shared, .shared inner 0) :: streams) shared windows 0 :=
      .shared chain
    have total := inside.length_denoted chain.whole
    have nearest := Window.origin_add_extent b.length windows
    have first : (Window.origin windows + offset - Window.origin windows).toNat =
        offset.toNat := by omega
    have count : (Window.origin windows + offset + length -
        (Window.origin windows + offset)).toNat = length.toNat := by omega
    have starts : Window.origin windows ≤ Window.origin windows + offset := by omega
    have forward : Window.origin windows + offset ≤
        Window.origin windows + offset + length := by omega
    have ends : Window.origin windows + offset + length ≤ Window.finish b.length windows := by
      omega
    refine ⟨b, _, file.openView name offset length opens, ⟨starts, forward, ends, inside⟩, ?_⟩
    rw [Window.denoted, first, count]
  | slow beneath ih =>
    obtain ⟨b, windows, chain, denotes⟩ := ih
    exact ⟨b, windows, .slow chain, denotes⟩
  | other beneath different ih =>
    obtain ⟨b, windows, chain, denotes⟩ := ih
    exact ⟨b, windows, .other chain different, denotes⟩

/-! ### Pieces -/

/-- One piece more is needed for bytes to start with. -/
lemma ceilDiv_eq_add_one {a b : Nat} (some : 0 < a) (positive : 0 < b) :
    ceilDiv a b = ceilDiv (a - min b a) b + 1 := by
  unfold ceilDiv
  by_cases whole : b ≤ a
  · have split : a + (b - 1) = a - min b a + (b - 1) + b := by omega
    rw [split, Nat.add_div_right _ positive]
  · have rest : a - min b a = 0 := by omega
    rw [rest, Nat.zero_add, Nat.div_eq_of_lt (show b - 1 < b by omega)]
    exact Nat.div_eq_of_lt_le (by omega) (by omega)

/-- Buffers that the data is cut into: each has the size, but the last one may be shorter. -/
structure Partition (size : Nat) (data : Bytes) (pieces : List Buffer) : Prop where
  /-- There are as many as the data needs. -/
  count : pieces.length = ceilDiv data.length size
  /-- Put together they are the data. -/
  joined : (pieces.map Buffer.content).flatten = data
  whole : ∀ b ∈ pieces, b.Whole
  nonempty : ∀ b ∈ pieces, 0 < b.length
  le_size : ∀ b ∈ pieces, b.length ≤ size
  full : ∀ b ∈ pieces.dropLast, b.length = size

namespace Partition

variable {size : Nat} {data : Bytes} {pieces : List Buffer} {b : Buffer}

/-- Nothing is cut into no pieces. -/
lemma nil (positive : 0 < size) : Partition size [] [] where
  count := (Nat.div_eq_of_lt (by simpa using Nat.sub_lt positive Nat.one_pos)).symm
  joined := rfl
  whole _ member := absurd member List.not_mem_nil
  nonempty _ member := absurd member List.not_mem_nil
  le_size _ member := absurd member List.not_mem_nil
  full _ member := absurd member List.not_mem_nil

/-- **One piece more.**  As much as possible is cut off first. -/
lemma cons (positive : 0 < size) (some : data ≠ []) (whole : b.Whole)
    (first : b.content = data.take size) (h : Partition size (data.drop b.length) pieces) :
    Partition size data (b :: pieces) := by
  have length : b.length = min size data.length := by
    rw [← whole, first, List.length_take]
  have counted : 0 < data.length := List.length_pos_iff.mpr some
  refine ⟨?_, ?_, ?_, ?_, ?_, ?_⟩
  · rw [List.length_cons, h.count, List.length_drop, length, ceilDiv_eq_add_one counted positive]
  · have same : data.take size = data.take b.length := by
      rw [length, List.take_eq_take_iff]
      omega
    rw [List.map_cons, List.flatten_cons, h.joined, first, same, List.take_append_drop]
  · exact List.forall_mem_cons.mpr ⟨whole, h.whole⟩
  · exact List.forall_mem_cons.mpr ⟨by omega, h.nonempty⟩
  · exact List.forall_mem_cons.mpr ⟨by omega, h.le_size⟩
  · -- A piece that is followed by another one leaves some bytes, so that it is not cut short.
    cases pieces with
    | nil => exact fun _ member => absurd member List.not_mem_nil
    | cons next pieces =>
      have others : data.drop b.length ≠ [] := by
        intro none
        have count := h.count
        rw [none, List.length_cons] at count
        have nothing := Copy.ceilDiv_le 0 positive
        simp only [List.length_nil] at count
        omega
      have left := List.length_pos_iff.mpr others
      rw [List.length_drop] at left
      rw [List.dropLast_cons_cons]
      exact List.forall_mem_cons.mpr ⟨by omega, h.full⟩

end Partition

/-! ### Sequences that come to their end -/

namespace Chunks

/-- A sequence of chunks hands out the pieces, one after the other, and then answers with the end;
this leads to these streams and this sequence. -/
inductive Drains : Streams × Chunks → List Buffer → Streams × Chunks → Prop where
  | last {streams after : Streams} {c done : Chunks} {draws : List Nat}
      (next : c.next streams = (⟨.ok none, after, draws⟩, done)) :
      Drains (streams, c) [] (after, done)
  | more {streams after : Streams} {c rest : Chunks} {draws : List Nat} {b : Buffer}
      {pieces : List Buffer} {final : Streams × Chunks}
      (next : c.next streams = (⟨.ok (some b), after, draws⟩, rest))
      (later : Drains (after, rest) pieces final) : Drains (streams, c) (b :: pieces) final

variable {name size : Nat} {pieces : List Buffer} {s final : Streams × Chunks}

/-- A sequence that is done answers with the end from then on, and nothing changes any more. -/
lemma run_done (name size : Nat) (streams : Streams) (forms : List Form) :
    (machine.transcript (forms.map .ask) (streams, standing name size true)).map Prod.snd =
        forms.mapIdx (fun _ form => some (form.reply (.ok none))) ∧
      machine.final (forms.map .ask) (streams, standing name size true) =
        (streams, standing name size true) := by
  induction forms with
  | nil => exact ⟨rfl, rfl⟩
  | cons form forms ih =>
    obtain ⟨replies, last⟩ := ih
    have now : machine (.ask form) (streams, standing name size true) =
        (some (form.reply (.ok none)), streams, standing name size true) := machine_ask ..
    simp only [List.map_cons, Machine.transcript, Machine.final, now, List.mapIdx_cons]
    exact ⟨congrArg _ replies, last⟩

/-- **The pieces, and then the end**, whichever way each of them is asked for.  The asking after the
last piece finds the end. -/
theorem Drains.run (h : Drains s pieces final) (done : final.2 = standing name size true)
    (forms : List Form) :
    (machine.transcript (forms.map .ask) s).map Prod.snd =
        forms.mapIdx (fun i form => some (form.reply (.ok pieces[i]?))) ∧
      (pieces.length < forms.length → machine.final (forms.map .ask) s = final) := by
  induction h generalizing forms with
  | @last streams after c spent draws next =>
    cases forms with
    | nil => exact ⟨rfl, fun asked => absurd asked (Nat.not_lt_zero _)⟩
    | cons form forms =>
      have spent : spent = standing name size true := done
      obtain ⟨replies, last⟩ := run_done name size after forms
      have now := machine_ask form streams c
      rw [next, spent] at now
      simp only [List.map_cons, Machine.transcript, Machine.final, now, List.mapIdx_cons, spent]
      exact ⟨congrArg _ replies, fun _ => last⟩
  | @more streams after c rest draws b pieces final next later ih =>
    cases forms with
    | nil => exact ⟨rfl, fun asked => absurd asked (Nat.not_lt_zero _)⟩
    | cons form forms =>
      obtain ⟨replies, last⟩ := ih done forms
      have now := machine_ask form streams c
      rw [next] at now
      simp only [List.map_cons, Machine.transcript, Machine.final, now, List.mapIdx_cons]
      exact ⟨congrArg _ replies, fun asked => last (Nat.lt_of_succ_lt_succ asked)⟩

/-- All pieces at once. -/
lemma Drains.take (h : Drains s pieces final) (limit : Nat) (enough : pieces.length < limit) :
    (s.2.take limit s.1).1.result = .ok pieces ∧ (s.2.take limit s.1).1.streams = final.1 ∧
      (s.2.take limit s.1).2 = final.2 := by
  induction h generalizing limit with
  | last next =>
    obtain ⟨limit, rfl⟩ := Nat.exists_eq_add_one_of_ne_zero (Nat.ne_of_gt enough)
    simp only [Chunks.take, next]
    exact ⟨trivial, trivial, trivial⟩
  | @more streams after c rest draws b pieces final next later ih =>
    obtain ⟨limit, rfl⟩ := Nat.exists_eq_add_one_of_ne_zero (Nat.ne_zero_of_lt enough)
    obtain ⟨result, left, stands⟩ := ih limit (Nat.lt_of_succ_lt_succ enough)
    simp only [Chunks.take, next]
    exact ⟨congrArg (Except.map (b :: ·)) result, left, stands⟩

end Chunks

open Chunks

variable {streams : Streams} {name size cursor : Nat} {data : Bytes}

/-- **All bytes that are left** are cut into chunks. -/
theorem Streams.Denotes.drains (h : streams.Denotes name data cursor) (positive : 0 < size) :
    ∃ pieces after, Drains (streams, standing name size false) pieces
        (after, standing name size true) ∧
      Partition size (data.drop cursor) pieces ∧ after.Denotes name data data.length := by
  induction left : data.length - cursor using Nat.strongRecOn generalizing streams cursor with
  | _ n ih =>
    have within := h.cursor_le
    obtain ⟨b, answered, whole, content, next⟩ := h.read size
    have length : b.length = min size (data.length - cursor) := by
      rw [← whole, content, Bytes.length_window]
    rcases Nat.eq_zero_or_pos b.length with empty | some
    · have atEnd : cursor = data.length := by omega
      refine ⟨[], _, .last (next_last h.isClosed answered empty), ?_, ?_⟩
      · rw [atEnd, List.drop_length]
        exact .nil positive
      · rwa [empty, Nat.add_zero, atEnd] at next
    · obtain ⟨pieces, after, drains, partition, ends⟩ :=
        ih (data.length - (cursor + b.length)) (by omega) next rfl
      have more : data.drop cursor ≠ [] := by
        rw [← List.length_pos_iff, List.length_drop]
        omega
      rw [← List.drop_drop] at partition
      exact ⟨b :: pieces, after, .more (next_chunk h.isClosed answered some) drains,
        .cons positive more whole content partition, ends⟩

/-- A sequence of chunks that is read to its end in one go has all pieces. -/
theorem rest_of_denotes (h : streams.Denotes name data cursor) (positive : 0 < size) :
    ∃ pieces, Partition size (data.drop cursor) pieces ∧
      ((standing name size false).rest streams).1.result = .ok pieces ∧
      ((standing name size false).rest streams).2 = standing name size true ∧
      ((standing name size false).rest streams).1.streams.Denotes name data data.length := by
  obtain ⟨pieces, after, drains, partition, ends⟩ := h.drains positive
  have few : pieces.length ≤ data.length := by
    have count := Copy.ceilDiv_le (data.drop cursor).length positive
    rw [← partition.count, List.length_drop] at count
    omega
  have supplied := h.length_le_supply
  obtain ⟨result, left, stands⟩ := drains.take (supply streams + 1) (by omega)
  refine ⟨pieces, partition, result, stands, ?_⟩
  exact left ▸ ends

/-- **Reading in chunks is cutting.**  A stream that denotes data can be read in chunks of any size,
wherever its cursor is.  However each chunk is asked for, the answers are the pieces that the data
behind the cursor is cut into, in order, and the end from then on; the stream is left open, with its
cursor at its end. -/
theorem denoted_cut_into_chunks (h : streams.Denotes name data cursor) (positive : 0 < size) :
    ofStream streams name size = .ok ⟨some name, size⟩ ∧
      ∃ (pieces : List Buffer) (after : Streams),
        pieces.length = ceilDiv (data.length - cursor) size ∧
        Partition size (data.drop cursor) pieces ∧
        (∀ forms : List Form,
          (machine.transcript (forms.map .ask) (streams, ⟨some name, size⟩)).map Prod.snd =
              forms.mapIdx (fun i form => some (form.reply (.ok pieces[i]?))) ∧
            (pieces.length < forms.length →
              machine.final (forms.map .ask) (streams, ⟨some name, size⟩) =
                (after, ⟨none, size⟩))) ∧
        after.isClosed name = false ∧ (after.call name .tell).result = .ok (data.length : Int) ∧
        after.Denotes name data data.length := by
  obtain ⟨pieces, after, drains, partition, ends⟩ := h.drains positive
  have count := partition.count
  rw [List.length_drop] at count
  exact ⟨ofStream_eq_ok_iff.mpr ⟨h.isClosed, positive, rfl⟩, pieces, after, count, partition,
    fun forms => drains.run rfl forms, ends.isClosed, ends.tells, ends⟩

/-- The slow stream inside the nested tower shows four bytes: a chunk of three, another one, and the
end from then on. -/
theorem nestedTower_cut_into_chunks :
    nestedTower.Denotes 3 [11, 12, 13, 14] 0 ∧ 0 < 3 ∧
      ofStream nestedTower 3 3 = .ok ⟨some 3, 3⟩ ∧
      ∃ first second : Buffer, first.length = 3 ∧
        first.content ++ second.content = [11, 12, 13, 14] ∧
        (machine.transcript [.ask .chunk, .ask .item, .ask .chunk, .ask .item]
            (nestedTower, ⟨some 3, 3⟩)).map Prod.snd =
          [some (.chunk (.ok (some first))), some (.item (some (.ok second))),
            some (.chunk (.ok none)), some (.item none)] := by
  have reader : Tower [(0, .reader { buffer := .ofBytes ⟨0, 0⟩ [10, 11, 12, 13, 14, 15] })] 0
      [10, 11, 12, 13, 14, 15] := .reader (Buffer.whole_ofBytes _ _)
  have lower : Tower _ 2 [11, 12, 13, 14] :=
    .view 1 1 4 reader (by decide) (by decide) (by decide) rfl
  have tower : Tower nestedTower 3 [11, 12, 13, 14] :=
    .other (.other (.slow lower) (by decide)) (by decide)
  obtain ⟨made, pieces, after, count, partition, answers, _⟩ :=
    denoted_cut_into_chunks tower.denotes (show 0 < 3 by decide)
  obtain ⟨first, second, rfl⟩ := List.length_eq_two.mp count
  have joined : first.content ++ (second.content ++ []) = [11, 12, 13, 14] := partition.joined
  rw [List.append_nil] at joined
  exact ⟨tower.denotes, by decide, made, first, second,
    partition.full first List.mem_cons_self, joined, (answers [.chunk, .item, .chunk, .item]).1⟩

end ByteStreams
