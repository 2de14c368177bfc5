import SolverHub.Catalogue.Hall
import SolverHub.Http.Route
import SolverHub.Session.Basic

/-! A reply answers a request at once, or upgrades it to a session over a socket. -/

namespace SolverHub

/-- A request to the server. -/
structure Request where
  /-- The method, in capitals. -/
  method : String
  /-- The path with its query. -/
  target : String
  /-- The messages that the client sends after an upgrade, if it asks for one. -/
  socket : Option (List ClientMessage)

/-- The body of a reply. -/
inductive Body
  | none
  | text (content : String)
  | json (value : Json)

/-- The answer to a request. -/
inductive Reply
  /-- A plain answer with its status. -/
  | plain (status : Nat) (body : Body)
  /-- A session, with the updates that it sent and whether the client saw its end. -/
  | upgraded (updates : List Update) (ended : Bool)

namespace Reply

/-- The answer to a method that a route does not have. -/
def wrongMethod : Reply := .plain 405 .none

/-- The answer to a request without a route. -/
def notFound : Reply := .plain 404 .none

/-- The answer to a request that cannot be understood. -/
def badRequest : Reply := .plain 400 .none

/-- A body that is left out where the method asks for the head of the answer alone. -/
def bodyFor (method : String) (body : Body) : Body :=
  if method = "HEAD" then .text "" else body

/-- The transport of a client that sends some messages and then takes all updates. -/
def socketTransport (messages : List ClientMessage) : Transport :=
  ⟨ClientMessage.inputOf messages, fun _ _ => .ok (), .ok ()⟩

/-- The session of a client with a problem. -/
def session (id : Identifier) (problem : Problem) (messages : List ClientMessage) :
    Logged Reply := do
  let transcript ← Session.run (socketTransport messages) id problem 0
  return .upgraded transcript.sent (ClientMessage.staysOpen messages)

/-- The answer to a request for a session. -/
def solve (registry : Registry) (id : Identifier) (messages : List ClientMessage) : Logged Reply :=
  match id.validate with
  | .error error => .quiet (.plain 400 (.text error.message))
  | .ok () =>
    match registry.get? id with
    | some listed => session id listed.problem messages
    | none => do
      .entry .debug .server "no such problem" [("id", id.render)]
      return .plain 404 (.text ("No problem registered at " ++ id.render))

/-- The answer to a request for all problems. -/
def problems (hall : Hall) (registry : Registry) (method : String) : Logged Reply :=
  match registry.validSnapshot hall with
  | .ok snapshot => .quiet (.plain 200 (bodyFor method (.json snapshot.toJson)))
  | .error error => do
    .entry .error .server "problem metadata failed validation" [("error", error.message)]
    return .plain 500 (bodyFor method (.text error.message))

/-- The answer to a request. -/
def answer (hall : Hall) (registry : Registry) (request : Request) : Logged Reply :=
  match Route.ofTarget? request.target with
  | none => .quiet notFound
  | some route =>
    if request.method ≠ "GET" ∧ request.method ≠ "HEAD" then .quiet wrongMethod
    else match route with
      | .health =>
        .quiet (.plain 200 (bodyFor request.method (.json (.object [("status", .text "ok")]))))
      | .problems => problems hall registry request.method
      | .solve source year author setName problemName =>
        if request.method ≠ "GET" then .quiet wrongMethod
        else match request.socket with
          | none => .quiet badRequest
          | some messages =>
            match Route.identifier? source year author setName problemName with
            | none => .quiet badRequest
            | some id => solve registry id messages

end Reply

end SolverHub
