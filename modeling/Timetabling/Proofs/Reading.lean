import Mathlib.Data.List.Forall2
import Timetabling.Request.Slot

/-!
# What readers accept

For each reader the values that it accepts and what it makes of them. The readers of records are
taken apart into the readers of their entries by `field_eq_valid_iff` and `fieldOr_eq_valid_iff`.
-/

namespace Timetabling

namespace Validated

variable {α β : Type}

@[simp] theorem refuse_ne_valid {cause : Cause} {a : α} : refuse cause ≠ valid a := by
  simp [refuse]

theorem fmap_eq_valid_iff {f : α → β} {x : Validated α} {b : β} :
    f <$> x = valid b ↔ ∃ a, x = valid a ∧ f a = b :=
  map_eq_valid_iff

theorem seq_eq_valid_iff {f : Validated (α → β)} {x : Validated α} {b : β} :
    f <*> x = valid b ↔ ∃ g, f = valid g ∧ ∃ a, x = valid a ∧ g a = b := by
  change f.apply x = valid b ↔ _
  simp only [apply_eq_valid_iff, exists_and_left]

theorem ite_refuse_eq_valid_iff {broken : Prop} [Decidable broken] {cause : Cause}
    {x : Validated α} {a : α} :
    (if broken then refuse cause else x) = valid a ↔ ¬ broken ∧ x = valid a := by
  by_cases holds : broken <;> simp [holds]

theorem ite_eq_valid_iff {passed : Prop} [Decidable passed] {cause : Cause}
    {x : Validated α} {a : α} :
    (if passed then x else refuse cause) = valid a ↔ passed ∧ x = valid a := by
  by_cases holds : passed <;> simp [holds]

end Validated

theorem forall_mem_of_forall₂ {α β : Type} {related : α → β → Prop} {property : β → Prop}
    {given : List α} {read : List β} (each : ∀ a b, related a b → property b)
    (items : List.Forall₂ related given read) : ∀ b ∈ read, property b := by
  induction items with
  | nil => simp
  | cons first _ ih => exact List.forall_mem_cons.mpr ⟨each _ _ first, ih⟩

namespace Reader

open Validated

variable {α : Type} {reader : Reader α} {v : Value} {a : α} {s name : String}
  {entries : List (String × Value)}

/-! ### Entries -/

theorem field_eq_valid_iff :
    field name reader entries = .valid a ↔
      ∃ v, Entries.get? name entries = some v ∧ reader v = .valid a := by
  unfold field
  cases Entries.get? name entries <;> simp

theorem fieldOr_eq_valid_iff {default : α} :
    fieldOr name default reader entries = .valid a ↔
      (Entries.get? name entries = none ∧ default = a) ∨
        ∃ v, Entries.get? name entries = some v ∧ reader v = .valid a := by
  unfold fieldOr
  cases Entries.get? name entries <;> simp

/-- What holds of the default and of all that is read holds of an entry. -/
theorem fieldOr_property {default : α} {property : α → Prop}
    (read : fieldOr name default reader entries = .valid a) (ofDefault : property default)
    (ofReader : ∀ v a, reader v = .valid a → property a) : property a := by
  rcases fieldOr_eq_valid_iff.mp read with ⟨-, rfl⟩ | ⟨v, -, accepted⟩
  · exact ofDefault
  · exact ofReader v a accepted

theorem record_eq_valid_iff {expected : String}
    {readEntries : List (String × Value) → Validated α} :
    record expected readEntries v = .valid a ↔
      ∃ entries, v = .record entries ∧ readEntries entries = .valid a := by
  cases v <;> simp [record]

/-! ### Lists -/

theorem allFrom_eq_valid_iff {vs : List Value} {xs : List α} {i : Nat} :
    allFrom reader i vs = .valid xs ↔ List.Forall₂ (fun v x => reader v = .valid x) vs xs := by
  induction vs generalizing i xs with
  | nil => cases xs <;> simp [allFrom]
  | cons v vs ih =>
    simp only [allFrom, apply_eq_valid_iff, map_eq_valid_iff, under_eq_valid_iff, ih]
    constructor
    · rintro ⟨_, xs, ⟨x, first, rfl⟩, rest, rfl⟩
      exact .cons first rest
    · intro accepted
      cases accepted with
      | cons first rest => exact ⟨_, _, ⟨_, first, rfl⟩, rest, rfl⟩

theorem items_eq_valid_iff {vs : List Value} : items v = .valid vs ↔ v = .list vs := by
  cases v <;> simp [items]

theorem listUpTo_eq_valid_iff {greatest : Nat} {xs : List α} :
    listUpTo greatest reader v = .valid xs ↔
      ∃ vs, v = .list vs ∧ vs.length ≤ greatest ∧
        List.Forall₂ (fun v x => reader v = .valid x) vs xs := by
  simp only [listUpTo, andThen_eq_valid_iff, items_eq_valid_iff, ite_refuse_eq_valid_iff,
    Nat.not_lt, allFrom_eq_valid_iff]

theorem listUpTo_of_nonemptyUpTo {greatest : Nat} {xs : List α}
    (read : nonemptyUpTo greatest reader v = .valid xs) :
    listUpTo greatest reader v = .valid xs := by
  obtain ⟨ys, accepted, checked⟩ := andThen_eq_valid_iff.mp read
  obtain ⟨-, same⟩ := ite_refuse_eq_valid_iff.mp checked
  cases same
  exact accepted

theorem exists_reading_of_mem {greatest : Nat} {xs : List α} {x : α}
    (read : listUpTo greatest reader v = .valid xs) (membership : x ∈ xs) :
    ∃ u, reader u = .valid x := by
  obtain ⟨vs, -, -, accepted⟩ := listUpTo_eq_valid_iff.mp read
  have each (u : Value) (y : α) (first : reader u = .valid y) : ∃ u, reader u = .valid y :=
    ⟨u, first⟩
  exact forall_mem_of_forall₂ each accepted x membership

theorem length_le_of_listUpTo {greatest : Nat} {xs : List α}
    (read : listUpTo greatest reader v = .valid xs) : xs.length ≤ greatest := by
  obtain ⟨vs, -, bounded, accepted⟩ := listUpTo_eq_valid_iff.mp read
  rw [← accepted.length_eq]
  exact bounded

/-! ### Texts -/

theorem text_eq_valid_iff : text v = .valid s ↔ v = .text s := by
  cases v <;> simp [text]

theorem identifier_eq_valid_iff :
    identifier v = .valid s ↔
      v = .text s ∧ s.length ≠ 0 ∧ s.length ≤ longestIdentifier := by
  simp only [identifier, andThen_eq_valid_iff, text_eq_valid_iff, ite_refuse_eq_valid_iff,
    Nat.not_lt, valid.injEq]
  constructor
  · rintro ⟨t, given, nonempty, short, rfl⟩
    exact ⟨given, nonempty, short⟩
  · rintro ⟨given, nonempty, short⟩
    exact ⟨s, given, nonempty, short, rfl⟩

theorem dayName_eq_valid_iff :
    dayName v = .valid s ↔ ∃ t day, v = .text t ∧ Day.ofText? t = some day ∧ day.name = s := by
  simp only [dayName, andThen_eq_valid_iff, text_eq_valid_iff]
  constructor
  · rintro ⟨t, given, accepted⟩
    cases named : Day.ofText? t with
    | none => simp [Day.read, named] at accepted
    | some day =>
      simp only [Day.read, named, valid.injEq] at accepted
      exact ⟨t, day, given, named, accepted⟩
  · rintro ⟨t, day, given, named, rfl⟩
    exact ⟨t, given, by simp only [Day.read, named]⟩

theorem time_eq_valid_iff :
    time v = .valid s ↔ v = .text s ∧ Clock.isWritten s.toList = true := by
  simp only [time, andThen_eq_valid_iff, text_eq_valid_iff, ite_eq_valid_iff, valid.injEq]
  constructor
  · rintro ⟨t, given, written, rfl⟩
    exact ⟨given, written⟩
  · rintro ⟨given, written⟩
    exact ⟨s, given, written, rfl⟩

end Reader

end Timetabling
