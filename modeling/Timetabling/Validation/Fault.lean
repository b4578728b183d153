import Timetabling.Calendar.SlotKey
import Timetabling.Text.Numeral

/-!
# Faults

Why a given value is refused. A fault names the place of the refused value by the path that leads to
it, and its cause. `Cause.kind` and `Cause.message` say how a cause is reported; only a value that
should have been a record is reported differently by the library and by the service.
-/

namespace Timetabling

/-- A step from a value to a part of it. -/
inductive PathStep where
  | key (name : String)
  | index (i : Nat)
deriving DecidableEq, Repr

inductive Rule where
  | calendar (fault : CalendarFault)
  | endNotAfterStart
  | tooManyElites
  | tournamentTooLarge
  | repeatedIds (what : String) (ids : List String)
  | unknownSections (ids : List String)
  | numeralTooLong (digits : Nat)
deriving DecidableEq, Repr

def Rule.message : Rule → String
  | calendar fault => fault.message
  | endNotAfterStart => "end_time must be after start_time"
  | tooManyElites => "elite_count must be less than population_size"
  | tournamentTooLarge => "tournament_size cannot exceed population_size"
  | repeatedIds what ids => "Duplicate " ++ what ++ " id(s): " ++ Text.listed ", " ids
  | unknownSections ids =>
    "student_enrollments reference unknown section(s): " ++ Text.listed ", " ids
  | numeralTooLong digits =>
    "Exceeds the limit (" ++ toString Text.longestNumeral ++
      " digits) for integer string conversion: value has " ++ toString digits ++
      " digits; use sys.set_int_max_str_digits() to increase the limit"

inductive Boundary where
  | library
  | request
deriving DecidableEq, Repr

inductive Cause where
  | missing
  | unexpected
  | notRecord (expected : String)
  | notList
  | notMap
  | notText
  | notInteger
  | integerUnreadable
  | integerTooLong
  | integerFractional
  | notFinite
  | notNumber
  | numberUnreadable
  | notBoolean
  | booleanUnreadable
  | textTooShort
  | textTooLong (greatest : Nat)
  | listTooShort
  | listTooLong (greatest actual : Nat)
  | below (least : Int)
  | above (greatest : Int)
  | notAbove (bound : Int)
  | rule (broken : Rule)
deriving DecidableEq, Repr

namespace Cause

def kind : Boundary → Cause → String
  | _, missing => "missing"
  | _, unexpected => "extra_forbidden"
  | .library, notRecord _ => "model_type"
  | .request, notRecord _ => "model_attributes_type"
  | _, notList => "list_type"
  | _, notMap => "dict_type"
  | _, notText => "string_type"
  | _, notInteger => "int_type"
  | _, integerUnreadable => "int_parsing"
  | _, integerTooLong => "int_parsing_size"
  | _, integerFractional => "int_from_float"
  | _, notFinite => "finite_number"
  | _, notNumber => "float_type"
  | _, numberUnreadable => "float_parsing"
  | _, notBoolean => "bool_type"
  | _, booleanUnreadable => "bool_parsing"
  | _, textTooShort => "string_too_short"
  | _, textTooLong _ => "string_too_long"
  | _, listTooShort => "too_short"
  | _, listTooLong .. => "too_long"
  | _, below _ => "greater_than_equal"
  | _, above _ => "less_than_equal"
  | _, notAbove _ => "greater_than"
  | _, rule _ => "value_error"

def message : Boundary → Cause → String
  | _, missing => "Field required"
  | _, unexpected => "Extra inputs are not permitted"
  | .library, notRecord expected => "Input should be a valid dictionary or instance of " ++ expected
  | .request, notRecord _ =>
    "Input should be a valid dictionary or object to extract fields from"
  | _, notList => "Input should be a valid list"
  | _, notMap => "Input should be a valid dictionary"
  | _, notText => "Input should be a valid string"
  | _, notInteger => "Input should be a valid integer"
  | _, integerUnreadable => "Input should be a valid integer, unable to parse string as an integer"
  | _, integerTooLong =>
    "Unable to parse input string as an integer, exceeded maximum size"
  | _, integerFractional =>
    "Input should be a valid integer, got a number with a fractional part"
  | _, notFinite => "Input should be a finite number"
  | _, notNumber => "Input should be a valid number"
  | _, numberUnreadable => "Input should be a valid number, unable to parse string as a number"
  | _, notBoolean => "Input should be a valid boolean"
  | _, booleanUnreadable => "Input should be a valid boolean, unable to interpret input"
  | _, textTooShort => "String should have at least 1 character"
  | _, textTooLong greatest => "String should have at most " ++ toString greatest ++ " characters"
  | _, listTooShort => "List should have at least 1 item after validation, not 0"
  | _, listTooLong greatest actual =>
    "List should have at most " ++ toString greatest ++ " items after validation, not " ++
      toString actual
  | _, below least => "Input should be greater than or equal to " ++ toString least
  | _, above greatest => "Input should be less than or equal to " ++ toString greatest
  | _, notAbove bound => "Input should be greater than " ++ toString bound
  | _, rule broken => "Value error, " ++ broken.message

end Cause

structure Fault where
  path : List PathStep
  cause : Cause
deriving DecidableEq, Repr

end Timetabling
