import Timetabling.Json.Value
import Timetabling.Text.Numeral
import Timetabling.Validation.Validated

/-!
# Readers

Readers for the parts of a value. They are lenient where a value has only one sensible meaning: a
numeral in a text stands for its number, a whole number given as a fraction for the integer, one and
zero for the truth values.
-/

namespace Timetabling

abbrev Reader (α : Type) := Value → Validated α

namespace Reader

variable {α : Type}

/-! ### Integers -/

def wordLimit : Int := 9223372036854775808

/-- The whole number that a fractional number equals, strictly within the range of 64-bit integers.
-/
def wholeNumber (x : Binary64) : Validated Int :=
  if !x.isFinite then .refuse .notFinite
  else
    match x.toInt? with
    | none => .refuse .integerFractional
    | some i =>
      if -wordLimit < i ∧ i < wordLimit then .valid i else .refuse .integerTooLong

def integerOfText (s : String) : Validated Int :=
  match Text.integer s.toList with
  | .ok i => .valid i
  | .error .unreadable => .refuse .integerUnreadable
  | .error .tooLong => .refuse .integerTooLong

def integer : Reader Int
  | .int i => .valid i
  | .bool b => .valid (if b then 1 else 0)
  | .float x => wholeNumber x
  | .text s => integerOfText s
  | _ => .refuse .notInteger

structure Bounds where
  least : Int
  greatest : Int

def Bounds.check (b : Bounds) (i : Int) : Validated Int :=
  if b.greatest < i then .refuse (.above b.greatest)
  else if i < b.least then .refuse (.below b.least)
  else .valid i

def integerIn (least greatest : Int) : Reader Int := fun v =>
  (integer v).andThen (Bounds.check ⟨least, greatest⟩)

def naturalIn (least greatest : Nat) : Reader Nat := fun v =>
  (integerIn least greatest v).map Int.toNat

/-! ### Numbers -/

/-- An integer as a number, unless it is beyond the largest finite one. -/
def numberOfInt (i : Int) : Validated Binary64 :=
  let x := Binary64.ofInt i
  if x.isFinite then .valid x else .refuse .notNumber

def number : Reader Binary64
  | .float x => .valid x
  | .int i => numberOfInt i
  | .bool b => .valid (.ofInt (if b then 1 else 0))
  | .text s =>
    match Text.number? s.toList with
    | some x => .valid x
    | none => .refuse .numberUnreadable
  | _ => .refuse .notNumber

def rate : Reader Binary64 := fun v =>
  (number v).andThen fun x =>
    if !x.le (.ofInt 1) then .refuse (.above 1)
    else if !(Binary64.zero false).le x then .refuse (.below 0)
    else .valid x

def positiveUpTo (greatest : Int) : Reader Binary64 := fun v =>
  (number v).andThen fun x =>
    if !x.le (.ofInt greatest) then .refuse (.above greatest)
    else if !(Binary64.zero false).lt x then .refuse (.notAbove 0)
    else .valid x

/-! ### Truth values -/

def truthOfInt (i : Int) : Validated Bool :=
  if i = 0 then .valid false else if i = 1 then .valid true else .refuse .booleanUnreadable

def isWordSized (i : Int) : Bool :=
  decide (-wordLimit ≤ i ∧ i < wordLimit)

def truthOfText (s : String) : Validated Bool :=
  let word := String.ofList (s.toList.map Char.toLower)
  if ["0", "off", "f", "false", "n", "no"].contains word then .valid false
  else if ["1", "on", "t", "true", "y", "yes"].contains word then .valid true
  else .refuse .booleanUnreadable

def boolean : Reader Bool
  | .bool b => .valid b
  | .int i => if isWordSized i then truthOfInt i else .refuse .notBoolean
  | .float x =>
    match wholeNumber x with
    | .valid i => truthOfInt i
    | .invalid _ => .refuse .notBoolean
  | .text s => truthOfText s
  | _ => .refuse .notBoolean

/-! ### Texts -/

def text : Reader String
  | .text s => .valid s
  | _ => .refuse .notText

def longestIdentifier : Nat := 64

def identifier : Reader String := fun v =>
  (text v).andThen fun s =>
    if s.length = 0 then .refuse .textTooShort
    else if longestIdentifier < s.length then .refuse (.textTooLong longestIdentifier)
    else .valid s

/-! ### Composite values -/

def items : Value → Validated (List Value)
  | .list vs => .valid vs
  | _ => .refuse .notList

/-- Readings of the items of a list, whose positions start from the given one. -/
def allFrom (reader : Reader α) : Nat → List Value → Validated (List α)
  | _, [] => .valid []
  | i, v :: vs => (((reader v).under (.index i)).map List.cons).apply (allFrom reader (i + 1) vs)

def listOf (reader : Reader α) : Reader (List α) := fun v =>
  (items v).andThen (allFrom reader 0)

/-- A list with a limited number of items, which are looked at only if there are not too many. -/
def listUpTo (greatest : Nat) (reader : Reader α) : Reader (List α) := fun v =>
  (items v).andThen fun vs =>
    if greatest < vs.length then .refuse (.listTooLong greatest vs.length) else allFrom reader 0 vs

def nonemptyUpTo (greatest : Nat) (reader : Reader α) : Reader (List α) := fun v =>
  (listUpTo greatest reader v).andThen fun xs =>
    if xs.isEmpty then .refuse .listTooShort else .valid xs

def allEntries (reader : Reader α) : List (String × Value) → Validated (List (String × α))
  | [] => .valid []
  | (k, v) :: rest =>
    (((reader v).under (.key k)).map fun a others => (k, a) :: others).apply
      (allEntries reader rest)

def mapOf (reader : Reader α) : Reader (List (String × α))
  | .record entries => allEntries reader entries
  | _ => .refuse .notMap

def nullable (reader : Reader α) : Reader (Option α)
  | .null => .valid none
  | v => (reader v).map some

def record (expected : String) (readEntries : List (String × Value) → Validated α) : Reader α
  | .record entries => readEntries entries
  | _ => .refuse (.notRecord expected)

def field (name : String) (reader : Reader α) (entries : List (String × Value)) : Validated α :=
  ((Entries.get? name entries).elim (.refuse .missing) reader).under (.key name)

/-- An entry with a default. -/
def fieldOr (name : String) (default : α) (reader : Reader α) (entries : List (String × Value)) :
    Validated α :=
  match Entries.get? name entries with
  | none => .valid default
  | some v => (reader v).under (.key name)

end Reader

end Timetabling
