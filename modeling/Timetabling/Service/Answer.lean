import Timetabling.Failure
import Timetabling.Problem.Audit
import Timetabling.Problem.Statistics
import Timetabling.Request.Settings
import Timetabling.Validation.Report

/-!
# Answers

What the service answers, as values. Times and durations measured by a clock are not part of an
answer here.
-/

namespace Timetabling

structure Response where
  status : Int
  body : Value

namespace Answer

def detail (status : Int) (text : String) : Response :=
  ⟨status, .record [("detail", .text text)]⟩

def notFound : Response :=
  detail 404 "Not Found"

def methodNotAllowed : Response :=
  detail 405 "Method Not Allowed"

def refused (faults : List Fault) : Response :=
  ⟨422, .record [("detail", .list (faults.map fun fault => fault.ofBody.toValue .request))]⟩

def failed (failure : Failure) : Response :=
  ⟨failure.status,
    .record [("message", .text failure.message), ("details", .record failure.details)]⟩

/-- A number without a finite value has no place in an answer and is replaced by null. -/
def finiteOrNull : Value → Value
  | .float x => if x.isFinite then .float x else .null
  | v => v

def settings (s : Settings) : Value :=
  .record (s.entries.map fun (name, v) => (name, finiteOrNull v))

def assignment (a : Assignment) : Value :=
  .record [("sectionId", .text a.sectionId), ("classroomId", .text a.classroomId),
    ("dayOfWeek", .text a.slot.day), ("startTime", .text a.slot.start),
    ("endTime", .text a.slot.finish)]

def statistics (s : Statistics) : Value :=
  .record [
    ("totalSections", .int s.total),
    ("assignedSections", .int s.assigned),
    ("unassignedSections", .int s.unassigned),
    ("averageClassroomUsage", .float s.usage),
    ("algorithm", .text s.method.name),
    ("generations", Value.ofOption .int s.generations),
    ("fitness", Value.ofOption .float s.fitness),
    ("steps", Value.ofOption .int s.steps)]

def timetable (t : Timetable) (used : Settings) : Value :=
  .record [("assignments", .list (t.assignments.map assignment)),
    ("stats", statistics t.statistics),
    ("settings_used", settings used)]

def violation (v : Violation) : Value :=
  .record [("kind", .text v.kind), ("description", .text v.description),
    ("section_ids", .list (v.sectionIds.map .text)),
    ("resource_id", Value.ofOption .text v.resourceId?),
    ("slot_key", .text v.slotKey)]

def audit (violations : List Violation) (unassigned : List Section) : Value :=
  .record [("valid", .bool (violations.isEmpty && unassigned.isEmpty)),
    ("violations", .list (violations.map violation)),
    ("unassigned_section_ids", .list (unassigned.map fun sec => .text sec.id))]

/-- Whether the service is ready to solve: the settings it would use, or what is wrong with them. -/
def readiness (result : Except Failure Settings) : Response :=
  match result with
  | .ok s =>
    ⟨200, .record [("status", .text "ok"),
      ("scheduler", .record [("ok", .bool true), ("error", .null),
        ("heuristic_section_threshold", .int s.heuristicThreshold),
        ("seeded", .bool s.randomSeed.isSome),
        ("time_budget_seconds", Value.ofOption .float s.timeBudget)])]⟩
  | .error failure =>
    ⟨503, .record [("status", .text "degraded"),
      ("scheduler", .record [("ok", .bool false), ("error", .text failure.message),
        ("heuristic_section_threshold", .null), ("seeded", .bool false),
        ("time_budget_seconds", .null)])]⟩

end Answer

end Timetabling
