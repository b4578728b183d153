import Timetabling.Json.Value
import Timetabling.Validation.Fault

/-!
# Reports of faults

How faults are reported: each as a record of its kind, the path to the refused value and a message.
-/

namespace Timetabling

def PathStep.toValue : PathStep → Value
  | key name => .text name
  | index i => .int i

def Fault.toValue (boundary : Boundary) (fault : Fault) : Value :=
  .record [("type", .text (fault.cause.kind boundary)),
    ("loc", .list (fault.path.map PathStep.toValue)),
    ("msg", .text (fault.cause.message boundary))]

def Fault.ofBody (fault : Fault) : Fault :=
  { fault with path := .key "body" :: fault.path }

end Timetabling
