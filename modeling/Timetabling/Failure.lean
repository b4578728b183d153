import Timetabling.Json.Value

/-!
# Failures

What is reported when a request cannot be served: a kind, a message, the status of the answer and a
record of details. The kinds form a tree with one general kind at its root.
-/

namespace Timetabling

inductive Failure.Kind where
  | general
  | scheduling
  | infeasible
  | budgetExceeded
  | invalidInput
  | configuration
deriving DecidableEq, Repr

namespace Failure.Kind

def parent? : Kind → Option Kind
  | general => none
  | scheduling => some general
  | infeasible => some scheduling
  | budgetExceeded => some scheduling
  | invalidInput => some general
  | configuration => some general

def depth : Kind → Nat
  | general => 0
  | scheduling => 1
  | infeasible => 2
  | budgetExceeded => 2
  | invalidInput => 1
  | configuration => 1

theorem depth_parent {kind parent : Kind} (h : kind.parent? = some parent) :
    parent.depth < kind.depth := by
  cases kind <;> cases parent <;> simp_all [parent?, depth]

/-- A kind and all those it is a special case of. -/
def ancestors (kind : Kind) : List Kind :=
  match _h : kind.parent? with
  | none => [kind]
  | some parent => kind :: parent.ancestors
termination_by kind.depth
decreasing_by exact depth_parent _h

def status : Kind → Int
  | general => 500
  | scheduling => 400
  | infeasible => 400
  | budgetExceeded => 400
  | invalidInput => 422
  | configuration => 500

def defaultMessage : Kind → String
  | infeasible => "No feasible schedule could be generated. Try relaxing the constraints."
  | budgetExceeded =>
    "Schedule search stopped before completion because its step or time budget ran out. " ++
      "Increase max_backtrack_steps or time_budget_seconds."
  | _ => ""

end Failure.Kind

structure Failure where
  kind : Failure.Kind
  message : String
  status : Int
  details : List (String × Value) := []
deriving Repr

namespace Failure

/-- A failure with the status of its kind, and its default message in place of an empty one. -/
def of (kind : Kind) (message : String) (details : List (String × Value)) : Failure where
  kind := kind
  message := if message.isEmpty then kind.defaultMessage else message
  status := kind.status
  details := details

end Failure

end Timetabling
