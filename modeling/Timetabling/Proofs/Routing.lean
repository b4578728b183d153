import Timetabling.Service.Routes

/-!
# How an operation is reached

A request that names an operation by its method and its path is answered by the operation, provided
its body can be written.
-/

namespace Timetabling

namespace Operation

/-- The target of the path of an operation, which is on the host at the root. -/
def target (operation : Operation) : Target :=
  ⟨"http", none, operation.path.toList, []⟩

variable (operation : Operation)

theorem ofText?_path : Target.ofText? operation.path = some operation.target := by
  cases operation <;> decide +kernel

theorem at?_target : at? operation.target = some operation := by
  cases operation <;> decide +kernel

theorem isSentAgain_target : Service.isSentAgain operation.target = false := by
  cases operation <;> decide +kernel

theorem uppered_method : Text.uppered operation.method = operation.method := by
  cases operation <;> decide +kernel

theorem method_ne_head : (operation.method == "HEAD") = false := by
  cases operation <;> rfl

end Operation

namespace Service

variable (host : Host) (operation : Operation) (body : Option Value)

theorem serve_operation :
    serve host operation.method operation.target body =
      (perform host operation body).map .response := by
  unfold serve
  rw [operation.method_ne_head, operation.at?_target]
  simp only [Bool.false_eq_true, if_false, BEq.rfl, if_true]
  cases perform host operation body <;> rfl

theorem lastReply_operation :
    lastReply host operation.method operation.target body =
      (perform host operation body).map .response := by
  unfold lastReply
  rw [operation.isSentAgain_target, serve_operation]
  cases perform host operation body <;> rfl

/-- A request that names an operation is answered by it, unless its body cannot be written. -/
theorem respond_operation :
    respond host ⟨operation.method, operation.path, body⟩ =
      if body.all Value.isFinite then perform host operation body else .error .unwritable := by
  unfold respond
  simp only [operation.ofText?_path, operation.uppered_method, lastReply_operation,
    ServiceRequest.isWritable]
  cases body.all Value.isFinite with
  | false => rfl
  | true => cases perform host operation body <;> rfl

end Service

end Timetabling
