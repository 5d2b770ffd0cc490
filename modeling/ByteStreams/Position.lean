import ByteStreams.Bytes
import ByteStreams.Error

/-!
# Positions

Positions are signed numbers of 64 bits (`isPosition`). Two checks are shared by all streams with a
cursor: how many bytes can be read from a position on (`clampRead`), and whether a position lies
within a stream (`checkPosition`).
-/

namespace ByteStreams

/-- A number that a position can be. -/
def isPosition (n : Int) : Bool := -maxPosition - 1 ≤ n && n ≤ maxPosition

/-- Of `count` bytes from `position` on, those that lie before the end. -/
def clampRead (position length : Int) (count : Nat) : Nat :=
  min count (length - position).toNat

/-- A position must lie between zero and the length, both included. -/
def checkPosition (context : Context) (position length : Int) : Except Error Unit :=
  if 0 ≤ position ∧ position ≤ length then .ok ()
  else .error ⟨context, .outOfBounds position length⟩

theorem isPosition_iff {n : Int} :
    isPosition n = true ↔ -maxPosition - 1 ≤ n ∧ n ≤ maxPosition := by
  rw [isPosition, Bool.and_eq_true]
  exact and_congr decide_eq_true_iff decide_eq_true_iff

theorem checkPosition_eq_ok_iff {context : Context} {position length : Int} :
    checkPosition context position length = .ok () ↔ 0 ≤ position ∧ position ≤ length := by
  unfold checkPosition
  split <;> simp_all

theorem checkPosition_outside {context : Context} {position length : Int}
    (outside : ¬(0 ≤ position ∧ position ≤ length)) :
    checkPosition context position length = .error ⟨context, .outOfBounds position length⟩ :=
  if_neg outside

theorem clampRead_le (position length : Int) (count : Nat) :
    clampRead position length count ≤ count := Nat.min_le_left ..

end ByteStreams
