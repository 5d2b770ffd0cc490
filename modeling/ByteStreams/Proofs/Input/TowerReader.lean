import ByteStreams.Proofs.Input.Tower
import ByteStreams.Proofs.Run

/-!
# A tower is a reader

`Tower` says which streams are towers that have just been built, and which bytes they denote: a
reader denotes what it reads, a view the window that it was opened for, and a slow stream what is
beneath it.  A run of plain calls on a tower has the transcript of the same run on a reader over
these bytes (`tower_is_reader`), whatever the order of the calls and also once the tower has been
closed.
-/

namespace ByteStreams

/-! ### Building towers -/

/-- The name stands for a new tower that denotes the bytes. -/
inductive Tower : Streams → Nat → Bytes → Prop where
  /-- A new reader over a buffer. -/
  | reader {rest : Streams} {name : Nat} {buffer : Buffer} (whole : buffer.Whole) :
      Tower ((name, .reader { buffer }) :: rest) name buffer.content
  /-- A view of a tower, as the only handle on it.  It denotes a part of the bytes. -/
  | view {streams opened : Streams} {name inner : Nat} {bytes : Bytes} (shared : Nat)
      (offset length : Int) (beneath : Tower streams inner bytes) (start : 0 ≤ offset)
      (size : 0 ≤ length) (within : offset + length ≤ bytes.length)
      (opens : Streams.openView ((shared, .shared inner 0) :: streams) name shared offset length =
        .ok opened) :
      Tower opened name (bytes.window offset.toNat length.toNat)
  /-- A tower whose reads wait for a clock. -/
  | slow {streams : Streams} {name inner clock : Nat} {bytes : Bytes}
      (beneath : Tower streams inner bytes) :
      Tower ((name, .slow inner clock) :: streams) name bytes
  /-- Streams of other names make no difference. -/
  | other {streams : Streams} {key name : Nat} {node : Node} {bytes : Bytes}
      (beneath : Tower streams name bytes) (different : key ≠ name) :
      Tower ((key, node) :: streams) name bytes

/-- The windows that are valid. -/
lemma checkWindow_eq_ok_iff {offset length : Int} :
    View.checkWindow offset length = .ok () ↔
      0 ≤ offset ∧ 0 ≤ length ∧ offset + length ≤ maxPosition := by
  unfold View.checkWindow
  split
  · simp
    omega
  · split
    · simp
      omega
    · split
      · simp
        omega
      · simp
        omega

/-- The streams after a view has been opened, which is the case exactly if its window is valid. -/
lemma openView_eq_ok_iff {streams opened : Streams} {name file : Nat} {offset length : Int} :
    streams.openView name file offset length = .ok opened ↔
      (0 ≤ offset ∧ 0 ≤ length ∧ offset + length ≤ maxPosition) ∧
        opened = (name, .view ⟨some file, offset, length, 0⟩) :: streams.retain file := by
  rw [← checkWindow_eq_ok_iff]
  unfold Streams.openView
  cases View.checkWindow offset length with
  | error e => simp
  | ok done => simp [eq_comm]

variable {streams : Streams} {name : Nat} {bytes : Bytes}

/-- A view of any window of a tower can be opened, and is a tower, if the number of bytes is a
position. -/
theorem Tower.exists_view {inner : Nat} (h : Tower streams inner bytes)
    (short : (bytes.length : Int) ≤ maxPosition) {offset length : Int} (start : 0 ≤ offset)
    (size : 0 ≤ length) (within : offset + length ≤ bytes.length) (name shared : Nat) :
    ∃ opened, Streams.openView ((shared, .shared inner 0) :: streams) name shared offset length =
      .ok opened ∧ Tower opened name (bytes.window offset.toNat length.toNat) := by
  have valid : 0 ≤ offset ∧ 0 ≤ length ∧ offset + length ≤ maxPosition :=
    ⟨start, size, Int.le_trans within short⟩
  have opens : Streams.openView ((shared, .shared inner 0) :: streams) name shared offset length =
      .ok _ := openView_eq_ok_iff.mpr ⟨valid, rfl⟩
  exact ⟨_, opens, .view shared offset length h start size within opens⟩

/-- A new tower is open, with its cursor at the start. -/
lemma Tower.stands (h : Tower streams name bytes) : streams.Stands name bytes 0 := by
  induction h with
  | @reader rest name buffer whole =>
    exact .reader (r := { buffer }) whole rfl
  | @view streams opened name inner bytes shared offset length beneath start size within opens ih =>
    obtain ⟨⟨_, _, short⟩, rfl⟩ := openView_eq_ok_iff.mp opens
    obtain ⟨offset, rfl⟩ := Int.eq_ofNat_of_zero_le start
    obtain ⟨length, rfl⟩ := Int.eq_ofNat_of_zero_le size
    have counted : Streams.retain ((shared, .shared inner 0) :: streams) shared =
        (shared, .shared inner 1) :: streams := by
      simp [Streams.retain, Streams.setHandles]
    rw [counted]
    exact .view ih (by omega) short (Nat.zero_le _)
  | slow beneath ih => exact .slow ih
  | other beneath different ih => exact .other ih different

/-! ### Runs -/

/-- A call, with the type of its answer. -/
abbrev AnyCall := Σ α : Type, InputCall α

/-- A stream as a machine; what it answers is what is seen of it. -/
def Streams.machine (name : Nat) : Machine AnyCall (Except Fault Seen) Streams :=
  fun c streams =>
    let served := streams.call name c.2
    (served.result.map c.2.seen, served.streams)

/-- A reader as a machine. -/
def Reader.machine : Machine AnyCall (Except Fault Seen) Reader :=
  fun c r =>
    let answered := r.call c.2
    ((answered.1.map c.2.seen).mapError .error, answered.2)

/-- A tower and a reader over the bytes that the tower denotes: both are open, with their cursors at
the same place, or both are closed. -/
inductive Alike (name : Nat) (tag : Tag) (bytes : Bytes) : Streams → Reader → Prop where
  | standing {streams : Streams} {position : Nat} (h : streams.Stands name bytes position) :
      Alike name tag bytes streams ⟨.ofBytes tag bytes, position, false⟩
  | shut {streams : Streams} {r : Reader} (h : streams.Shut name) (isClosed : r.closed = true) :
      Alike name tag bytes streams r

/-- A plain call has the same answer of both, and leaves them alike. -/
lemma Alike.step {tag : Tag} {r : Reader} (h : Alike name tag bytes streams r) {c : AnyCall}
    (plain : c.2.isPlain = true) :
    (Streams.machine name c streams).1 = (Reader.machine c r).1 ∧
      Alike name tag bytes (Streams.machine name c streams).2 (Reader.machine c r).2 := by
  cases h with
  | @standing position h =>
    have tower := h.follows plain
    obtain ⟨answer, next⟩ := Reader.call_open
      (r := ⟨.ofBytes tag bytes, position, false⟩) (Buffer.whole_ofBytes tag bytes) rfl c.2
    rw [Buffer.content_ofBytes] at answer next
    simp only [Streams.machine, Reader.machine, answer, next]
    refine ⟨tower.result, ?_⟩
    cases closes : c.2.isClose with
    | false => exact .standing (tower.opened closes)
    | true => exact .shut (tower.shut closes) rfl
  | shut h isClosed =>
    obtain ⟨answer, next⟩ := h.follows plain
    have reader := Reader.call_closed isClosed c.2
    simp only [Streams.machine, Reader.machine, answer, reader]
    refine ⟨?_, .shut next isClosed⟩
    cases c.2.whenClosed true <;> rfl

/-- **A tower is a reader.**  Every run of plain calls on a tower has the transcript that it has on
a reader over the bytes that the tower denotes. -/
theorem tower_is_reader (h : Tower streams name bytes) (tag : Tag) {calls : List AnyCall}
    (plain : ∀ c ∈ calls, c.2.isPlain = true) :
    (Streams.machine name).transcript calls streams =
      Reader.machine.transcript calls { buffer := .ofBytes tag bytes } := by
  have start : Alike name tag bytes streams { buffer := .ofBytes tag bytes } := .standing h.stands
  have run := Machine.run_simulation (m := Streams.machine name) (n := Reader.machine)
    (fun c s r plain alike => Alike.step alike plain) plain start
  exact run.1

/-- A view of a slow view of a reader. -/
def nestedTower : Streams :=
  [(5, .view ⟨some 4, 1, 2, 0⟩), (4, .shared 3 1), (3, .slow 2 9), (2, .view ⟨some 1, 1, 4, 0⟩),
    (1, .shared 0 1), (0, .reader { buffer := .ofBytes ⟨0, 0⟩ [10, 11, 12, 13, 14, 15] })]

/-- Calls that read, read past the end, miss, skip and close. -/
def nestedCalls : List AnyCall :=
  [⟨_, .read 1⟩, ⟨_, .seek 3⟩, ⟨_, .readAtInto 0 [0, 0, 0]⟩, ⟨_, .advance 7⟩, ⟨_, .tell⟩,
    ⟨_, .close⟩, ⟨_, .size⟩]

/-- The nested tower is a reader over two bytes. -/
theorem nestedTower_is_reader :
    Tower nestedTower 5 [12, 13] ∧ (∀ c ∈ nestedCalls, c.2.isPlain = true) ∧
      ((Streams.machine 5).transcript nestedCalls nestedTower).map Prod.snd =
        [.ok (.buffer 1 [12]), .error (.error ⟨.seek, .outOfBounds 3 2⟩),
          .ok (.filled ⟨2, [12, 13, 0]⟩), .ok (.number 1), .ok (.number 2), .ok .done,
          .error (.error ⟨.size, .closed⟩)] := by
  have reader : Tower [(0, .reader { buffer := .ofBytes ⟨0, 0⟩ [10, 11, 12, 13, 14, 15] })] 0
      [10, 11, 12, 13, 14, 15] := .reader (Buffer.whole_ofBytes _ _)
  have lower : Tower _ 2 [11, 12, 13, 14] :=
    .view 1 1 4 reader (by decide) (by decide) (by decide) rfl
  have upper : Tower nestedTower 5 [12, 13] :=
    .view 4 1 2 (.slow lower) (by decide) (by decide) (by decide) rfl
  have plain : ∀ c ∈ nestedCalls, c.2.isPlain = true := by simp [nestedCalls, InputCall.isPlain]
  refine ⟨upper, plain, ?_⟩
  rw [tower_is_reader upper ⟨0, 0⟩ plain]
  rfl

end ByteStreams
