import ByteStreams.Proofs.Output.FixedOverlay

/-!
# Failing operations of writers of fixed capacity

An operation that fails changes nothing of a writer, except perhaps where its cursor is: it has
sought its position by then (`Does.eq_of_failed`).  Only a write at a position both seeks and fails
afterwards.  So a failing operation leaves a writer as it was exactly if it is no write at another
place of the target than the cursor (`Strays`); the data that does not fit there leaves the cursor
where it was to be written.
-/

namespace ByteStreams.FixedWriter

/-- Two writers of which the same can be seen: whether they are closed, what they tell, and the
bytes of their targets. -/
structure LooksLike (v w : FixedWriter) : Prop where
  closed : v.closed = w.closed
  tell : (v.call .tell).1 = (w.call .tell).1
  bytes : v.target = w.target

/-- A write at a place of an open writer that is not the cursor. -/
def Strays (w : FixedWriter) : Operation → Prop
  | .writeAt position _ =>
    w.closed = false ∧ 0 ≤ position ∧ position ≤ w.capacity ∧ position ≠ w.position
  | .call _ | .channelWrite _ | .seek _ | .setOptions _ | .change _ => False

variable {w : FixedWriter} {operation : Operation}

/-- A writer looks like itself. -/
lemma LooksLike.refl (w : FixedWriter) : LooksLike w w := ⟨rfl, rfl, rfl⟩

/-- Open writers that look alike have their cursors at the same place. -/
lemma LooksLike.position_eq {v : FixedWriter} (same : LooksLike v w) (isOpen : w.closed = false) :
    v.position = w.position := by
  have told := same.tell
  simp only [call, whenOpen, same.closed, isOpen, Bool.false_eq_true, if_false] at told
  exact Int.ofNat.inj (Except.ok.inj told)

/-! ### What a failing operation leaves -/

/-- Changing the options always succeeds. -/
lemma isSetting_of_failed (failed : (machine operation w).1.succeeded = false) :
    operation.isSetting = false := by
  cases operation with
  | setOptions options => cases failed
  | change setting => cases failed
  | call c => rfl
  | channelWrite data => rfl
  | writeAt position data => rfl
  | seek position => rfl

/-- Closing always succeeds. -/
lemma closes_of_failed (failed : (machine operation w).1.succeeded = false) :
    operation.closes = false := by
  cases operation with
  | call c =>
    cases c with
    | close => cases failed
    | _ => rfl
  | _ => rfl

/-- An operation that fails has no place at which its data is accepted. -/
lemma Does.not_accepts (h : Does w operation)
    (failed : (machine operation w).1.succeeded = false) (place : Int × Bytes)
    (writes : w.placing operation = some place) : ¬ w.Accepts place := by
  intro accepted
  have succeeded := (h.succeeds place writes).mpr accepted
  rw [failed] at succeeded
  cases succeeded

/-- An operation that fails leaves the writer as it was, with the cursor where it has been
sought. -/
lemma Does.eq_of_failed (h : Does w operation)
    (failed : (machine operation w).1.succeeded = false) :
    (machine operation w).2 = { w with position := w.cursorSought operation } := by
  have target : (machine operation w).2.target = w.target := h.keeps (h.not_accepts failed)
  have position : (machine operation w).2.position = w.cursorSought operation := by
    rw [h.cursor, cursorAfter]
    split
    · next place writes => exact if_neg (h.not_accepts failed place writes)
    · rfl
  have closed : (machine operation w).2.closed = w.closed := by
    rw [h.closed, closes_of_failed failed, Bool.or_false]
  have options : (machine operation w).2.options = w.options := by
    have same := machine_options w w.options (isSetting_of_failed failed)
    exact congrArg (fun answered => answered.2.options) same
  rw [← target, ← position, ← closed, ← options]

/-- An operation that fails has not moved the cursor, unless it strays. -/
lemma cursorSought_of_failed (failed : (machine operation w).1.succeeded = false)
    (stays : ¬ w.Strays operation) : w.cursorSought operation = w.position := by
  cases operation with
  | writeAt position data =>
    unfold cursorSought
    simp only [Operation.sought]
    split
    · next inside =>
      have here : position = w.position := Decidable.byContradiction fun elsewhere =>
        stays ⟨inside.1, inside.2.1, inside.2.2, elsewhere⟩
      rw [here, Int.toNat_natCast]
    · rfl
  | seek position =>
    refine if_neg fun inside => ?_
    simp [machine, seek_of_mem inside.1 inside.2, Reply.ofResult, Reply.succeeded] at failed
  | call c => rfl
  | channelWrite data => rfl
  | setOptions options => rfl
  | change setting => rfl

/-- An operation that strays moves the cursor to its place. -/
lemma Strays.exists_writeAt (strays : w.Strays operation) :
    ∃ position data, operation = .writeAt position data ∧ w.closed = false ∧
      w.cursorSought operation = position.toNat ∧ position.toNat ≠ w.position := by
  cases operation with
  | writeAt position data =>
    obtain ⟨isOpen, low, high, elsewhere⟩ := strays
    refine ⟨position, data, rfl, isOpen, if_pos ⟨isOpen, low, high⟩, fun same => elsewhere ?_⟩
    rw [← same, Int.toNat_of_nonneg low]
  | _ => cases strays

/-- **When a failing operation is atomic.**  After any operations on a writer over any target, an
operation that fails changes no byte of the target, no option and not whether the writer is closed.
It leaves the writer looking as it did exactly if it is no write at another place than the cursor;
such a write leaves the cursor at its place. -/
theorem failed_keeps_iff (target : Bytes) (options : CopyOptions) (operations : List Operation)
    (operation : Operation)
    (failed :
      (machine operation (machine.final operations (start target options))).1.succeeded = false) :
    (LooksLike (machine operation (machine.final operations (start target options))).2
        (machine.final operations (start target options)) ↔
      ¬ (machine.final operations (start target options)).Strays operation) ∧
    (¬ (machine.final operations (start target options)).Strays operation →
      (machine operation (machine.final operations (start target options))).2 =
        machine.final operations (start target options)) ∧
    ((machine.final operations (start target options)).Strays operation →
      ∃ position data, operation = .writeAt position data ∧
        (machine operation (machine.final operations (start target options))).2 =
          { machine.final operations (start target options) with position := position.toNat }) := by
  have inside := (overlaysOf_start target options operations).inside
  generalize machine.final operations (start target options) = w at failed inside ⊢
  have left := (does inside operation).eq_of_failed failed
  have kept (stays : ¬ w.Strays operation) : (machine operation w).2 = w := by
    rw [left, cursorSought_of_failed failed stays]
  refine ⟨⟨fun same strays => ?_, fun stays => ?_⟩, kept, fun strays => ?_⟩
  · obtain ⟨_, _, _, isOpen, sought, elsewhere⟩ := strays.exists_writeAt
    have unmoved := same.position_eq isOpen
    rw [left] at unmoved
    exact elsewhere (sought.symm.trans unmoved)
  · rw [kept stays]
    exact .refl w
  · obtain ⟨position, data, writes, _, sought, _⟩ := strays.exists_writeAt
    exact ⟨position, data, writes, by rw [left, sought]⟩

/-- A write that does not fit at the cursor, after a byte and a search of the end, leaves the writer
as it is. -/
theorem failed_write_keeps :
    (machine (.call (.write [1])) (machine.final [.call (.write [7]), .seek 2]
        (start [0, 0] {}))).1.succeeded = false ∧
      LooksLike
        (machine (.call (.write [1])) (machine.final [.call (.write [7]), .seek 2]
          (start [0, 0] {}))).2
        (machine.final [.call (.write [7]), .seek 2] (start [0, 0] {})) := by
  have failed : (machine (.call (.write [1])) (machine.final [.call (.write [7]), .seek 2]
      (start [0, 0] {}))).1.succeeded = false := by decide
  exact ⟨failed, (failed_keeps_iff [0, 0] {} _ _ failed).1.mpr id⟩

/-- A write at a place where the data does not fit moves the cursor: one byte is written to a target
of four, and three bytes at the place of the last one are refused. -/
theorem refused_writeAt_moves_cursor :
    (machine (.writeAt 3 [120, 121, 122])
        (machine.final [.call (.write [97])] (start [46, 46, 46, 46] {}))).1 =
        .failed ⟨.write, .capacity 3 1⟩ ∧
      ¬ LooksLike
        (machine (.writeAt 3 [120, 121, 122])
          (machine.final [.call (.write [97])] (start [46, 46, 46, 46] {}))).2
        (machine.final [.call (.write [97])] (start [46, 46, 46, 46] {})) := by
  refine ⟨by decide, fun same => ?_⟩
  have unmoved := same.position_eq rfl
  revert unmoved
  decide

end ByteStreams.FixedWriter
