import Timetabling.Text.Blank
import Timetabling.Text.Case

/-!
# Days of the week

A day is read from its English name or the first three letters of it, in any case and between
blanks, and is always written by its full name.
-/

namespace Timetabling

inductive Day where
  | monday
  | tuesday
  | wednesday
  | thursday
  | friday
  | saturday
  | sunday
deriving DecidableEq, Repr

namespace Day

def all : List Day :=
  [monday, tuesday, wednesday, thursday, friday, saturday, sunday]

def name : Day → String
  | monday => "Monday"
  | tuesday => "Tuesday"
  | wednesday => "Wednesday"
  | thursday => "Thursday"
  | friday => "Friday"
  | saturday => "Saturday"
  | sunday => "Sunday"

def abbreviation : Day → String
  | monday => "mon"
  | tuesday => "tue"
  | wednesday => "wed"
  | thursday => "thu"
  | friday => "fri"
  | saturday => "sat"
  | sunday => "sun"

/-- The day that a text names. -/
def ofText? (text : String) : Option Day :=
  let word := Text.lowered (Text.trim text)
  all.find? fun day => word == day.abbreviation || word == Text.lowered day.name

end Day

end Timetabling
