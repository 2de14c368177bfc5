import SolverHub.Update.Basic

/-! A transport brings the input of a session and takes its updates until it breaks. -/

namespace SolverHub

/-- The ways in which a transport fails. -/
inductive TransportError
  /-- The client left before its input came. -/
  | closed
  /-- The input is no text. -/
  | invalidInput
  /-- The connection broke. -/
  | broken (message : String)
  /-- An update has no encoding. -/
  | encoding (message : String)
deriving DecidableEq, Repr

/-- The wording of a transport error. -/
def TransportError.message : TransportError → String
  | .closed => "Transport closed before input was received"
  | .invalidInput => "Input is not valid UTF-8"
  | .broken message => "Transport error: " ++ message
  | .encoding message => "Failed to encode update: " ++ message

/-- The behaviour of a transport. -/
structure Transport where
  /-- The input that the client sends. -/
  input : Except TransportError String
  /-- Whether an update arrives, given those that arrived before it. -/
  accepts : List Update → Update → Except TransportError Unit
  /-- Whether closing succeeds. -/
  close : Except TransportError Unit

/-- A message from a client. -/
inductive ClientMessage
  | text (content : String)
  | binary (bytes : List UInt8)
  | ping
  | pong
  | close
  /-- The client leaves without a word. -/
  | vanish

namespace ClientMessage

/-- The input among the messages of a client, which is its first text. -/
def inputOf : List ClientMessage → Except TransportError String
  | [] => .error .closed
  | text content :: _ => .ok content
  | binary bytes :: _ =>
    match String.fromUTF8? ⟨bytes.toArray⟩ with
    | some content => .ok content
    | none => .error .invalidInput
  | close :: _ | vanish :: _ => .error .closed
  | ping :: rest | pong :: rest => inputOf rest

/-- The client is still there to see the server close the connection. -/
def staysOpen : List ClientMessage → Bool
  | [] => true
  | text _ :: _ | binary _ :: _ => true
  | close :: _ | vanish :: _ => false
  | ping :: rest | pong :: rest => staysOpen rest

end ClientMessage

end SolverHub
