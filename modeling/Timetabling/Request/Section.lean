import Timetabling.Request.Slot

/-!
# Sections, classrooms and preferences as values

Reads what a problem consists of from records and writes it back.
-/

namespace Timetabling

/-- What an instructor prefers: slots named by their keys, and slots in full. -/
structure Preference where
  keys : List String := []
  slots : List TimeSlot := []
deriving DecidableEq, Repr

def greatestCapacity : Int := 10000

namespace Section

open Reader

def ofValue : Reader Section :=
  record "SectionIn" fun entries =>
    mk <$> field "id" identifier entries
      <*> field "instructor_id" identifier entries
      <*> field "capacity" (integerIn 1 greatestCapacity) entries
      <*> fieldOr "is_required" false boolean entries

def toValue (sec : Section) : Value :=
  .record [("id", .text sec.id), ("instructor_id", .text sec.instructor),
    ("capacity", .int sec.capacity), ("is_required", .bool sec.required)]

end Section

namespace Classroom

open Reader

def ofValue : Reader Classroom :=
  record "ClassroomIn" fun entries =>
    mk <$> field "id" identifier entries
      <*> field "capacity" (integerIn 1 greatestCapacity) entries
      <*> fieldOr "features" [] (listUpTo 50 text) entries

def toValue (room : Classroom) : Value :=
  .record [("id", .text room.id), ("capacity", .int room.capacity),
    ("features", .list (room.features.map .text))]

end Classroom

namespace Preference

open Reader

/-- The normal forms of slot keys, or the fault of the first key that has none. -/
def normalKeys : List String → Except CalendarFault (List String)
  | [] => .ok []
  | key :: rest => do
    let normal ← SlotKey.normalize key
    let others ← normalKeys rest
    return normal :: others

def readKeys : Reader (List String) := fun v =>
  (listOf text v).andThen fun keys =>
    match normalKeys keys with
    | .ok normal => .valid normal
    | .error fault => .refuse (.rule (.calendar fault))

def ofValue : Reader Preference :=
  record "InstructorPreferenceIn" fun entries =>
    mk <$> fieldOr "preferred_slot_keys" [] readKeys entries
      <*> fieldOr "preferred_slots" [] (listOf TimeSlot.ofValue) entries

def toValue (p : Preference) : Value :=
  .record [("preferred_slot_keys", .list (p.keys.map .text)),
    ("preferred_slots", .list (p.slots.map TimeSlot.toValue))]

def slotKeys (p : Preference) : List String :=
  (p.keys ++ p.slots.map TimeSlot.key).eraseDups

end Preference

end Timetabling
