/-!
# Cutting and joining texts

A text is cut at every occurrence of a separator, so that joining the pieces gives it back.
-/

namespace Timetabling.Text

variable {α : Type}

/-- The pieces between the separators: one more piece than there are separators. -/
def pieces [DecidableEq α] (separator : α) : List α → List (List α)
  | [] => [[]]
  | c :: cs =>
    if c = separator then [] :: pieces separator cs
    else
      match pieces separator cs with
      | [] => [[c]]
      | p :: ps => (c :: p) :: ps

def joined (separator : α) : List (List α) → List α
  | [] => []
  | [p] => p
  | p :: q :: ps => p ++ separator :: joined separator (q :: ps)

theorem pieces_ne_nil [DecidableEq α] (separator : α) (cs : List α) : pieces separator cs ≠ [] := by
  cases cs with
  | nil => simp [pieces]
  | cons c cs =>
    unfold pieces
    split
    · simp
    · split <;> simp

theorem joined_pieces [DecidableEq α] (separator : α) (cs : List α) :
    joined separator (pieces separator cs) = cs := by
  induction cs with
  | nil => rfl
  | cons c cs ih =>
    unfold pieces
    split
    next h =>
      cases hp : pieces separator cs with
      | nil => exact absurd hp (pieces_ne_nil separator cs)
      | cons p ps => rw [hp] at ih; simp [joined, ih, h]
    next h =>
      split
      next hp => exact absurd hp (pieces_ne_nil separator cs)
      next p ps hp =>
        rw [hp] at ih
        cases ps with
        | nil => simpa [joined] using ih
        | cons q ps => simpa [joined] using ih

def listed (separator : String) (texts : List String) : String :=
  separator.intercalate texts

end Timetabling.Text
