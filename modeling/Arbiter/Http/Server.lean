import Arbiter.Desk.Service
import Arbiter.Http.Message
import Arbiter.Http.Resource
import Arbiter.Token.Verify
import Arbiter.Wire.Request

/-!
# Answering requests

A preflight request is answered at once. Of any other, first the declared length is checked, then
the path, then the token where one is wanted, then the method, and last the parameters and the body.
What is asked for is then done at the desk.
-/

namespace Arbiter.Server

def version : String := "0.1.0"

/-- Does desk work, and answers with its result or its failure. -/
def answer {α : Type} (work : Desk α) (response : α → Response) :
    Program DeskInterface Response := do
  match ← work.run with
  | .ok a => return response a
  | .error f => return .failure f

/-- Does desk work that needs a part of the request, unless that part is refused. -/
def answerWith {α β : Type} (part : Except Refusal α) (work : α → Desk β)
    (response : β → Response) : Program DeskInterface Response :=
  match part with
  | .error r => return r.response
  | .ok a => answer (work a) response

/-- Breaks off where a result is a failure. -/
def orFail {α : Type} (r : Except Failure α) : Desk α := ExceptT.mk (pure r)

def ok (data : Json) : Response := .success 200 "success" data

def pageJson (p : Page View) : Json :=
  .obj
    [("records", .arr (p.records.map View.json)), ("total", .ofInt64 p.total),
      ("page", .ofUInt32 p.page), ("pageSize", .ofUInt32 p.pageSize), ("pages", .ofInt64 p.pages)]

/-- Answers an allowed request to a resource for a caller. -/
def serve (c : Caller) (r : Request) : Resource → Program DeskInterface Response
  | .health =>
    return .json 200 (.obj [("status", .str "healthy"), ("version", .str version)])
  | .submissions =>
    answerWith (r.jsonBody SubmitRequest.decoder)
      (fun b => do
        orFail b.lengthFaults.check
        Desk.submit c b.problemId b.language b.code)
      fun id =>
        .success 202 "Submission received and queued for judging"
          (.obj [("submissionId", .ofInt64 id)])
  | .submissionList =>
    answerWith (r.jsonBody ListRequest.decoder)
      (fun b => do
        orFail b.lengthFaults.check
        Desk.list c (← orFail b.filter))
      fun p => ok (pageJson p)
  | .bestSubmission =>
    answerWith (r.queryNumber "problemId") (Desk.best c c.userId) fun v =>
      ok (.ofOption View.json v)
  | .standing =>
    answerWith (r.queryNumber "problemId")
      (fun problem => do return (problem, ← Desk.standing c.userId problem))
      fun (problem, s) =>
        ok (.obj [("problemId", .ofInt64 problem), ("status", .str s.name)])
  | .submission id => answerWith (Request.pathNumber id) (Desk.view c) fun v => ok v.json
  | .userStats id => answerWith (Request.pathNumber id) Desk.stats fun s => ok s.json

/-- The caller whom a request's token names at the time `now`. -/
def authenticate (secret : String) (now : Instant) (r : Request) : Except Failure Caller :=
  match r.bearer? with
  | none => .error .unauthorized
  | some token => Token.caller secret now token

/-- Answers a request that is allowed by method, or with `none` for one that is not. -/
def serveAllowed (c : Caller) (r : Request) (resource : Resource) :
    Program DeskInterface Response :=
  if resource.allows r.method then serve c r resource else return .empty 405

/-- Answers a request whose path is known. -/
def serveResource (secret : String) (now : Instant) (r : Request) (resource : Resource) :
    Program DeskInterface Response :=
  if resource.isOpen then serveAllowed default r resource
  else
    match authenticate secret now r with
    | .error f => return .failure f
    | .ok c => serveAllowed c r resource

/-- What every response lets other origins do. -/
def shared (r : Response) : Response := r.withHeader "access-control-allow-origin" "*"

def preflight : Response :=
  ((shared (.empty 200)).withHeader "access-control-allow-methods" "*").withHeader
    "access-control-allow-headers" "*"

/-- Answers a request whose path is known or not, before the headers that all responses share. -/
def respondAt (secret : String) (now : Instant) (r : Request) :
    Option Resource → Program DeskInterface Response
  | resource =>
    if r.declaresTooMuch then return .text 413 "length limit exceeded"
    else
      match resource with
      | none => return .empty 404
      | some resource => serveResource secret now r resource

/-- Names the methods that are allowed, in the response to one that is not. -/
def listAllowed (method : String) (resource : Option Resource) (r : Response) : Response :=
  match resource with
  | some resource =>
    if resource.allows method then r else r.withHeader "allow" resource.allow
  | none => r

/-- Answers a request at the time `now`. -/
def respond (secret : String) (now : Instant) (r : Request) : Program DeskInterface Response := do
  let resource := Resource.ofPath? r.path
  let response ←
    if r.method = "OPTIONS" then pure preflight
    else shared <$> respondAt secret now r resource
  let response :=
    if r.method = "HEAD" && resource.isSome then response.withoutBody else response
  return listAllowed r.method resource response

end Arbiter.Server
