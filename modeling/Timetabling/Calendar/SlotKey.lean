import Timetabling.Calendar.Clock
import Timetabling.Calendar.Day

/-!
# Slot keys

A slot is identified by its key: day, start and end with underscores between them. A key given by
hand is normalised so that it equals the key of the slot it means: the blanks around it are dropped
and the day is written by its full name, while the two times stay as they were written.
-/

namespace Timetabling

inductive CalendarFault where
  | unknownDay
  | malformedTime
  | malformedKey
  | keyOutOfOrder
deriving DecidableEq, Repr

namespace CalendarFault

def message : CalendarFault → String
  | unknownDay => "Invalid day value"
  | malformedTime => "Time must be in HH:MM 24-hour format"
  | malformedKey => "Slot key must look like Monday_09:00_10:30"
  | keyOutOfOrder => "Slot key end time must be after its start time"

end CalendarFault

def Day.read (text : String) : Except CalendarFault Day :=
  match ofText? text with
  | some day => .ok day
  | none => .error .unknownDay

def Clock.read (time : String) : Except CalendarFault Nat :=
  match minutes? time with
  | some m => .ok m
  | none => .error .malformedTime

namespace SlotKey

/-- The key of a slot. -/
def of (day start finish : String) : String :=
  day ++ "_" ++ start ++ "_" ++ finish

/-- The key that a key given by hand means. The times are looked at before the day. -/
def normalize (text : String) : Except CalendarFault String :=
  match Text.pieces '_' (Text.trimmed text.toList) with
  | [day, start, finish] => do
    let e ← Clock.read (String.ofList finish)
    let s ← Clock.read (String.ofList start)
    if e ≤ s then throw .keyOutOfOrder
    let d ← Day.read (String.ofList day)
    return of d.name (String.ofList start) (String.ofList finish)
  | _ => .error .malformedKey

end SlotKey

end Timetabling
