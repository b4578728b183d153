import Timetabling.Problem.Validity
import Timetabling.Request.Section
import Timetabling.Request.Settings

/-!
# Requests

The two requests that the service takes: to make a timetable, and to audit one. Identifiers are
unique within a request, and a request for a timetable only names sections that it lists.
-/

namespace Timetabling

structure GenerateRequest where
  sections : List Section
  classrooms : List Classroom
  slots : List TimeSlot
  preferences : List (String × Preference) := []
  enrollments : List (String × List String) := []
  settings : Option Settings := none
deriving DecidableEq, Repr

structure ValidateRequest where
  sections : List Section
  classrooms : List Classroom
  enrollments : List (String × List String) := []
  assignments : List Assignment
deriving DecidableEq, Repr

/-- The texts that equal an earlier one or one of those already seen. -/
def laterOccurrences (seen : List String) : List String → List String
  | [] => []
  | id :: rest =>
    if seen.contains id then id :: laterOccurrences seen rest
    else laterOccurrences (id :: seen) rest

/-- The texts that are repeated, in the order in which the repetitions begin. -/
def repeatedIds (ids : List String) : List String :=
  (laterOccurrences [] ids).eraseDups

def checkUnique (what : String) (ids : List String) : Validated Unit :=
  let repeated := repeatedIds ids
  if repeated.isEmpty then .valid () else .refuse (.rule (.repeatedIds what repeated))

def enrollmentsValue (enrollments : List (String × List String)) : Value :=
  .record (enrollments.map fun (id, ids) => (id, .list (ids.map .text)))

namespace GenerateRequest

open Reader

def ofEntries (entries : List (String × Value)) : Validated GenerateRequest :=
  mk <$> field "sections" (listUpTo 2000 Section.ofValue) entries
    <*> field "classrooms" (nonemptyUpTo 1000 Classroom.ofValue) entries
    <*> field "time_slots" (nonemptyUpTo 500 TimeSlot.ofValue) entries
    <*> fieldOr "instructor_preferences" [] (mapOf Preference.ofValue) entries
    <*> fieldOr "student_enrollments" [] (mapOf (listOf text)) entries
    <*> fieldOr "settings_override" none (nullable Settings.ofValue) entries

def checkReferences (r : GenerateRequest) : Validated GenerateRequest :=
  (checkUnique "section" (r.sections.map Section.id)).andThen fun _ =>
    (checkUnique "classroom" (r.classrooms.map Classroom.id)).andThen fun _ =>
      let unknown := unknownIds (r.sections.map Section.id) r.enrollments
      if unknown.isEmpty then .valid r else .refuse (.rule (.unknownSections unknown))

def ofValue : Reader GenerateRequest :=
  record "GenerateScheduleRequest" fun entries => (ofEntries entries).andThen checkReferences

def toValue (r : GenerateRequest) : Value :=
  .record [
    ("sections", .list (r.sections.map Section.toValue)),
    ("classrooms", .list (r.classrooms.map Classroom.toValue)),
    ("time_slots", .list (r.slots.map TimeSlot.toValue)),
    ("instructor_preferences", .record (r.preferences.map fun (id, p) => (id, p.toValue))),
    ("student_enrollments", enrollmentsValue r.enrollments),
    ("settings_override", Value.ofOption Settings.toValue r.settings)]

def problem (r : GenerateRequest) : Problem :=
  .build r.sections r.classrooms r.slots (r.preferences.map fun (id, p) => (id, p.slotKeys))
    r.enrollments

end GenerateRequest

namespace ValidateRequest

open Reader

def ofEntries (entries : List (String × Value)) : Validated ValidateRequest :=
  mk <$> field "sections" (listUpTo 2000 Section.ofValue) entries
    <*> field "classrooms" (listUpTo 1000 Classroom.ofValue) entries
    <*> fieldOr "student_enrollments" [] (mapOf (listOf text)) entries
    <*> field "assignments" (listUpTo 5000 Assignment.ofValue) entries

def checkIds (r : ValidateRequest) : Validated ValidateRequest :=
  (checkUnique "section" (r.sections.map Section.id)).andThen fun _ =>
    (checkUnique "classroom" (r.classrooms.map Classroom.id)).andThen fun _ => .valid r

def ofValue : Reader ValidateRequest :=
  record "ValidateScheduleRequest" fun entries => (ofEntries entries).andThen checkIds

def toValue (r : ValidateRequest) : Value :=
  .record [
    ("sections", .list (r.sections.map Section.toValue)),
    ("classrooms", .list (r.classrooms.map Classroom.toValue)),
    ("student_enrollments", enrollmentsValue r.enrollments),
    ("assignments", .list (r.assignments.map Assignment.toValue))]

/-- The problem that the assignments are checked against; it has no slots of its own. -/
def problem (r : ValidateRequest) : Problem :=
  .build r.sections r.classrooms [] [] r.enrollments

end ValidateRequest

end Timetabling
