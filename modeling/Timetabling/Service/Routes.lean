import Timetabling.Configuration.Basic
import Timetabling.Request.Body
import Timetabling.Service.Answer
import Timetabling.Service.Target
import Timetabling.Solve
import Timetabling.Text.Case

/-!
# The service

Answers requests by method and path. A body is checked before anything else is looked at. What is
wrong with a request or with the solver settings is answered. Some requests have no answer: those
without a proper target, scheme or body never arrive, others need a configuration that cannot be
read or a quotient that does not exist, and what is replied is not always a value. A target with
slashes at its end is replied with the target without them, to which the request is sent again.
-/

namespace Timetabling

/-- What the service runs on: an environment, a seed for settings without one, and clocks. -/
structure Host where
  environment : List (String × String) := []
  seed : Nat := 0
  deadlines : Settings → Deadlines := Settings.deadlines

/-- Why a request has no answer. -/
inductive Escape where
  /-- The target of the request is no reference. -/
  | invalidTarget
  /-- The body of the request has no JSON text. -/
  | unwritable
  /-- The host of the target cannot be sent to. -/
  | unreachable (fault : HostName.Fault)
  /-- The request asks for a conversation in place of an answer. -/
  | upgrade
  | unknownScheme
  /-- The host that a reply is from cannot be read. -/
  | unreadableHost (fault : HostName.BracketFault)
  /-- The request is to be sent again to a target that is no reference. -/
  | misdirected
  | configuration (fault : ConfigurationFault)
  | arithmetic (fault : ArithmeticFault)
  /-- The answer is a page. -/
  | page
  /-- The answer has no body. -/
  | bodiless

inductive Reply where
  | response (response : Response)
  /-- A page, which is no value. -/
  | page
  | bodiless

def Escape.unwritableMessage : String :=
  "Out of range float values are not JSON compliant"

def Escape.unexpectedMessage (line column position : Nat) : String :=
  s!"Expecting value: line {line} column {column} (char {position})"

inductive Operation where
  | health
  | live
  | ready
  | settings
  | generate
  | validate
deriving DecidableEq, Repr

namespace Operation

def all : List Operation :=
  [health, live, ready, settings, generate, validate]

def path : Operation → String
  | health => "/api/health"
  | live => "/api/health/live"
  | ready => "/api/health/ready"
  | settings => "/api/scheduling/settings"
  | generate => "/api/scheduling/generate"
  | validate => "/api/scheduling/validate"

def method : Operation → String
  | generate => "POST"
  | validate => "POST"
  | _ => "GET"

def at? (target : Target) : Option Operation :=
  all.find? fun operation => target.leadsTo operation.path

end Operation

structure ServiceRequest where
  method : String
  target : String
  body : Option Value := none

/-- Whether a request can be sent: JSON has no text for a number that is not finite. -/
def ServiceRequest.isWritable (request : ServiceRequest) : Bool :=
  request.body.all Value.isFinite

namespace Service

/-- A body, read as a request. A missing body and null are the same. -/
def readBody {α : Type} (reader : Reader α) (body : Option Value) : Validated α :=
  match body with
  | none => .refuse .missing
  | some .null => .refuse .missing
  | some v => reader v

def defaultSettings (host : Host) : Except Escape (Except Failure Settings) :=
  match Settings.ofEnvironment host.environment with
  | .ok s => .ok (.ok s)
  | .error (.unsuitable failure) => .ok (.error failure)
  | .error (.unconfigured fault) => .error (.configuration fault)

def generateWith (host : Host) (r : GenerateRequest) (s : Settings) : Except Escape Response :=
  match r.problem.solve s (s.generator host.seed) (host.deadlines s) with
  | .ok t => .ok ⟨201, Answer.timetable t s⟩
  | .error fault =>
    match fault.failure with
    | .ok failure => .ok (Answer.failed failure)
    | .error fault => .error (.arithmetic fault)

def generate (host : Host) (r : GenerateRequest) : Except Escape Response := do
  let chosen ← match r.settings with
    | some s => .ok (.ok s)
    | none => defaultSettings host
  match chosen with
  | .ok s => generateWith host r s
  | .error failure => return Answer.failed failure

def validate (r : ValidateRequest) : Response :=
  let p := r.problem
  ⟨200, Answer.audit (p.violations r.assignments) (p.unassigned r.assignments)⟩

def perform (host : Host) (operation : Operation) (body : Option Value) : Except Escape Response :=
  match operation with
  | .health => .ok ⟨200, .record [("status", .text "ok")]⟩
  | .live => .ok ⟨200, .record [("status", .text "ok")]⟩
  | .ready => do return Answer.readiness (← defaultSettings host)
  | .settings => do
    match ← defaultSettings host with
    | .ok s => return ⟨200, Answer.settings s⟩
    | .error failure => return Answer.failed failure
  | .generate =>
    match readBody GenerateRequest.ofValue body with
    | .valid r => generate host r
    | .invalid faults => .ok (Answer.refused faults)
  | .validate =>
    match readBody ValidateRequest.ofValue body with
    | .valid r => .ok (validate r)
    | .invalid faults => .ok (Answer.refused faults)

def documentation : List String :=
  ["/docs", "/docs/oauth2-redirect", "/openapi.json", "/redoc"]

/-- The reply to a request that is for no operation. Pages can only be got. -/
def unserved (method : String) (target : Target) : Reply :=
  if documentation.any target.leadsTo then
    if method == "GET" then .page else .response Answer.methodNotAllowed
  else .response Answer.notFound

def serve (host : Host) (method : String) (target : Target) (body : Option Value) :
    Except Escape Reply :=
  if method == "HEAD" then .ok .bodiless
  else
    match Operation.at? target with
    | none => .ok (unserved method target)
    | some operation =>
      if method == operation.method then return .response (← perform host operation body)
      else .ok (.response Answer.methodNotAllowed)

def isSentAgain (target : Target) : Bool :=
  target.endsInSlash && ((Operation.at? target).isSome || documentation.any target.leadsTo)

/-- A reply is kept under its host, which therefore has to be read. -/
def checkHost (target : Target) : Except Escape Unit :=
  match target.bracketFault? with
  | some fault => .error (.unreadableHost fault)
  | none => .ok ()

/-- The target that a reply names has the fragment of the first one, and has to be a reference too.
-/
def checkNext (target : Target) : Except Escape Unit :=
  if !target.isNameable then .error .misdirected
  else if !target.isAttachable then .error .invalidTarget
  else .ok ()

def lastReply (host : Host) (method : String) (target : Target) (body : Option Value) :
    Except Escape Reply := do
  if isSentAgain target then
    checkHost target
    checkNext target
    serve host method target body
  else
    let reply ← serve host method target body
    checkHost target
    return reply

def readReply : Reply → Except Escape Response
  | .response response => .ok response
  | .page => .error .page
  | .bodiless => .error .bodiless

def respond (host : Host) (request : ServiceRequest) : Except Escape Response :=
  match Target.ofText? request.target with
  | none => .error .invalidTarget
  | some target =>
    if !request.isWritable then .error .unwritable
    else
      match target.hostFault? with
      | some fault => .error (.unreachable fault)
      | none =>
        if ["http", "https"].contains target.scheme then
          do readReply (← lastReply host (Text.uppered request.method) target request.body)
        else if ["ws", "wss"].contains target.scheme then .error .upgrade
        else .error .unknownScheme

end Service

end Timetabling
