/-
The bound on a request body.  The middleware stands between the server and an application
that may do anything: it counts what the application receives, and it answers for the
application when the bound is passed.
-/
import Mathlib.Algebra.BigOperators.Group.List.Basic
import ShemaPlatform.DigitText

namespace ShemaPlatform

/-- A byte string, one code point for a byte. -/
abbrev Bytes := String

namespace PyBytes

/-- White space, as `int` knows it in a byte string. -/
def isSpace (c : Char) : Bool := c = ' ' || (9 ≤ c.toNat && c.toNat ≤ 13)

/-- Groups of digits with one underscore between two of them, 4300 digits at most. -/
def digits (text : List Char) : Option ℕ :=
  let groups := text.splitOn '_'
  if groups.all (fun group => !group.isEmpty && group.all Char.isDigit) &&
      groups.flatten.length ≤ 4300 then
    some (DigitText.value 10 groups.flatten)
  else none

/-- `int(value)` of a byte string; none where it raises a `ValueError`. -/
def int (value : Bytes) : Option ℤ :=
  let text := ((value.toList.dropWhile isSpace).reverse.dropWhile isSpace).reverse
  match text with
  | '-' :: rest => (digits rest).map fun n => -(n : ℤ)
  | '+' :: rest => (digits rest).map fun n => (n : ℤ)
  | rest => (digits rest).map fun n => (n : ℤ)

end PyBytes

/-- The part of an ASGI scope that the middleware reads. -/
structure Scope where
  type : Option String
  headers : List (Bytes × Bytes)
deriving DecidableEq

/-- A message that the server hands to the application. -/
structure RequestMessage where
  type : Option String
  body : Option Bytes
  moreBody : Bool
deriving DecidableEq

/-- A message that is sent downstream. -/
structure ResponseMessage where
  type : Option String
  status : Option ℤ := none
  headers : List (Bytes × Bytes) := []
  body : Option Bytes := none
deriving DecidableEq

/-- What a call of `receive` ends with. -/
inductive Received where
  | message (message : RequestMessage)
  | tooLarge
deriving DecidableEq

/-- What an application does next; an exception that leaves it is a
`RequestBodyTooLarge` or another one. -/
inductive AppAction (S : Type) where
  | receive (next : Received → S)
  | send (message : ResponseMessage) (next : S)
  | returned
  | raised (tooLarge : Bool)

/-- An application by its states, of which there may be infinitely many. -/
structure App (S : Type) where
  call : Scope → S
  act : S → AppAction S

inductive AppPhase (S : Type) where
  | running (state : S)
  | ended

/-- A request in progress: what the application has received and sent of itself, what the
server still has for it, and whether the middleware has answered in its place. -/
structure Connection (S : Type) where
  phase : AppPhase S
  total : ℕ
  inbox : List RequestMessage
  received : List RequestMessage
  sent : List ResponseMessage
  refused : Bool

structure RequestBodySizeLimitMiddleware where
  maxBodyBytes : ℕ
  maxBodyBytes_valid : 1024 ≤ maxBodyBytes

namespace RequestBodySizeLimitMiddleware

/-- `_send_too_large`, with the id it draws. -/
def tooLarge (correlationId : String) : List ResponseMessage :=
  [{ type := some "http.response.start"
     status := some 413
     headers := [("content-type", "application/json"), ("x-correlation-id", correlationId)] },
    { type := some "http.response.body"
      body := some ("\x7b\"code\":\"request_body_too_large\"," ++
        "\"message\":\"request body exceeds security limit\"\x7d") }]

variable (middleware : RequestBodySizeLimitMiddleware)

/-- The header that counts is the last one of its name. -/
def declaredTooLarge (scope : Scope) : Bool :=
  match (scope.headers.map fun header => (header.1.map Char.toLower, header.2)).reverse.lookup
      "content-length" with
  | some rawLength =>
      decide (middleware.maxBodyBytes <
        (PyBytes.int rawLength).getD (middleware.maxBodyBytes + 1))
  | none => false

/-- The bytes of the body that a message carries. -/
def bodyBytes (message : RequestMessage) : ℕ :=
  if message.type = some "http.request" then (message.body.getD "").length else 0

/-- `limited_receive` of a message of the server, after so many bytes; a scope of another
type has no limit. -/
def limitedReceive (limit : Option ℕ) (total : ℕ) (message : RequestMessage) : ℕ × Received :=
  match limit with
  | none => (total, .message message)
  | some bound =>
      if message.type = some "http.request" then
        if bound < total + bodyBytes message then (total + bodyBytes message, .tooLarge)
        else (total + bodyBytes message, .message message)
      else (total, .message message)

def limit (scope : Scope) : Option ℕ :=
  if scope.type = some "http" then some middleware.maxBodyBytes else none

variable {S : Type} (app : App S) (scope : Scope)

/-- A request that declares too long a body does not reach the application. -/
def begin (messages : List RequestMessage) : Connection S :=
  let refused := scope.type == some "http" && middleware.declaredTooLarge scope
  { phase := if refused then .ended else .running (app.call scope)
    total := 0
    inbox := messages
    received := []
    sent := []
    refused := refused }

/-- What `receive` of the application makes of a connection; without a message it waits. -/
def receive (connection : Connection S) (next : Received → S) : Connection S :=
  match connection.inbox with
  | [] => connection
  | message :: inbox =>
      let (total, answer) := limitedReceive (middleware.limit scope) connection.total message
      { connection with
        phase := .running (next answer)
        total := total
        inbox := inbox
        received :=
          if answer = .tooLarge then connection.received
          else connection.received ++ [message] }

/-- One step of the application, and what the middleware makes of it. -/
def step (connection : Connection S) : Connection S :=
  match connection.phase with
  | .ended => connection
  | .running state =>
      match app.act state with
      | .receive next => middleware.receive scope connection next
      | .send message next =>
          { connection with
            phase := .running next
            sent := connection.sent ++ [message] }
      | .returned => { connection with phase := .ended }
      | .raised tooLarge =>
          { connection with
            phase := .ended
            refused := tooLarge && scope.type == some "http" }

/-- The connection after so many steps. -/
def after (messages : List RequestMessage) (steps : ℕ) : Connection S :=
  (middleware.step app scope)^[steps] (middleware.begin app scope messages)

end RequestBodySizeLimitMiddleware

/-- All that is sent for the request; the middleware answers last. -/
def Connection.downstream {S : Type} (connection : Connection S) (correlationId : String) :
    List ResponseMessage :=
  connection.sent ++
    if connection.refused then RequestBodySizeLimitMiddleware.tooLarge correlationId else []

/-- How often a response is started. -/
def responseStarts (messages : List ResponseMessage) : ℕ :=
  messages.countP fun message => message.type == some "http.response.start"

end ShemaPlatform
