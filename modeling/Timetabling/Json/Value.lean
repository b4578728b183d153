import Timetabling.Number.Binary64

/-!
# Structured values

The values of the JSON data model. Whole numbers and fractional numbers are different values, and a
record keeps its entries in the order in which their keys were first given.
-/

namespace Timetabling

inductive Value where
  | null
  | bool (b : Bool)
  | int (i : Int)
  | float (x : Binary64)
  | text (s : String)
  | list (items : List Value)
  | record (entries : List (String × Value))
deriving Repr, Inhabited

namespace Value

mutual

/-- Whether every number in a value is finite, so that the value has a JSON text. -/
def isFinite : Value → Bool
  | float x => x.isFinite
  | list items => areFinite items
  | record entries => haveFinite entries
  | _ => true

def areFinite : List Value → Bool
  | [] => true
  | v :: vs => v.isFinite && areFinite vs

def haveFinite : List (String × Value) → Bool
  | [] => true
  | (_, v) :: rest => v.isFinite && haveFinite rest

end

theorem areFinite_iff {items : List Value} :
    areFinite items = true ↔ ∀ v ∈ items, v.isFinite = true := by
  induction items with
  | nil => simp [areFinite]
  | cons v rest ih => simp [areFinite, ih]

theorem haveFinite_iff {entries : List (String × Value)} :
    haveFinite entries = true ↔ ∀ entry ∈ entries, entry.2.isFinite = true := by
  induction entries with
  | nil => simp [haveFinite]
  | cons entry rest ih => simp [haveFinite, ih]

end Value

/-- Entries in the order in which their keys were first given, each with the value given last. -/
def Entries.insert {κ α : Type} [DecidableEq κ] (key : κ) (value : α) :
    List (κ × α) → List (κ × α)
  | [] => [(key, value)]
  | (k, v) :: rest => if k = key then (key, value) :: rest else (k, v) :: insert key value rest

theorem Entries.mem_keys_insert {κ α : Type} [DecidableEq κ] {key k : κ} {value : α}
    {entries : List (κ × α)} :
    k ∈ (insert key value entries).map Prod.fst ↔ k = key ∨ k ∈ entries.map Prod.fst := by
  induction entries with
  | nil => simp [insert]
  | cons entry rest ih =>
    obtain ⟨k', v'⟩ := entry
    rw [insert]
    split
    next h => simp [h]
    next h =>
      simp only [List.map_cons, List.mem_cons, ih]
      constructor
      · rintro (h | h | h) <;> simp [h]
      · rintro (h | h | h) <;> simp [h]

theorem Entries.nodup_keys_insert {κ α : Type} [DecidableEq κ] {key : κ} {value : α}
    {entries : List (κ × α)} (h : (entries.map Prod.fst).Nodup) :
    ((insert key value entries).map Prod.fst).Nodup := by
  induction entries with
  | nil => simp [insert]
  | cons entry rest ih =>
    obtain ⟨k', v'⟩ := entry
    simp only [List.map_cons, List.nodup_cons] at h
    rw [insert]
    split
    next hk => simpa [hk] using h
    next hk =>
      simp only [List.map_cons, List.nodup_cons, mem_keys_insert, not_or]
      exact ⟨⟨hk, h.1⟩, ih h.2⟩

def Entries.collect {κ α : Type} [DecidableEq κ] (given : List (κ × α)) : List (κ × α) :=
  given.foldl (fun entries entry => insert entry.1 entry.2 entries) []

theorem Entries.nodup_keys_collect {κ α : Type} [DecidableEq κ] (given : List (κ × α)) :
    ((collect given).map Prod.fst).Nodup := by
  have h : ∀ (given entries : List (κ × α)), (entries.map Prod.fst).Nodup →
      ((given.foldl (fun entries entry => insert entry.1 entry.2 entries) entries).map
        Prod.fst).Nodup := by
    intro given
    induction given with
    | nil => intro entries hnd; exact hnd
    | cons entry rest ih => intro entries hnd; exact ih _ (nodup_keys_insert hnd)
  exact h given [] List.nodup_nil

def Entries.get? {κ α : Type} [DecidableEq κ] (key : κ) (entries : List (κ × α)) : Option α :=
  (entries.find? fun entry => entry.1 == key).map Prod.snd

theorem Entries.get?_insert {κ α : Type} [DecidableEq κ] {key k : κ} {value : α}
    {entries : List (κ × α)} :
    get? k (insert key value entries) = if key = k then some value else get? k entries := by
  induction entries with
  | nil => by_cases h : key = k <;> simp [insert, get?, h]
  | cons entry rest ih =>
    obtain ⟨k', v'⟩ := entry
    rw [insert]
    split
    next hk =>
      subst hk
      by_cases h : k' = k <;> simp [get?, h]
    next hk =>
      by_cases h : k' = k
      · subst h
        simp [get?, Ne.symm hk]
      · simpa [get?, h] using ih

end Timetabling
