import Timetabling.Problem.Basic
import Timetabling.Validation.Reader

/-!
# Slots and assignments as values

Reads slots and assignments from records and writes them back. A day is replaced by its full name,
the times stay as they are, and a slot has to end after it starts.
-/

namespace Timetabling

namespace Reader

def dayName : Reader String := fun v =>
  (text v).andThen fun s =>
    match Day.read s with
    | .ok day => .valid day.name
    | .error fault => .refuse (.rule (.calendar fault))

def time : Reader String := fun v =>
  (text v).andThen fun s =>
    if Clock.isWritten s.toList then .valid s else .refuse (.rule (.calendar .malformedTime))

end Reader

namespace TimeSlot

open Reader

def ofEntries (entries : List (String × Value)) : Validated TimeSlot :=
  mk <$> field "day_of_week" dayName entries
    <*> field "start_time" time entries
    <*> field "end_time" time entries

def isProper (slot : TimeSlot) : Bool :=
  Clock.isAfter slot.finish slot.start

def ofValue : Reader TimeSlot :=
  record "TimeSlotIn" fun entries =>
    (ofEntries entries).andThen fun slot =>
      if slot.isProper then .valid slot else .refuse (.rule .endNotAfterStart)

def entries (slot : TimeSlot) : List (String × Value) :=
  [("day_of_week", .text slot.day), ("start_time", .text slot.start),
    ("end_time", .text slot.finish)]

def toValue (slot : TimeSlot) : Value :=
  .record slot.entries

end TimeSlot

namespace Assignment

open Reader

def ofValue : Reader Assignment :=
  record "AssignmentIn" fun entries =>
    (mk <$> field "section_id" identifier entries
      <*> field "classroom_id" identifier entries
      <*> TimeSlot.ofEntries entries).andThen fun a =>
        if a.slot.isProper then .valid a else .refuse (.rule .endNotAfterStart)

def toValue (a : Assignment) : Value :=
  .record (("section_id", .text a.sectionId) :: ("classroom_id", .text a.classroomId) ::
    a.slot.entries)

end Assignment

end Timetabling
