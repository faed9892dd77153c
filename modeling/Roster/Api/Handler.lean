import Roster.Api.Notification
import Roster.Encoding.Form
import Roster.Enrolment
import Roster.Http.MediaType
import Roster.Http.Message
import Roster.Listing.Query

namespace Roster.Api

open Http (Request Response)

def Notification.response (n : Notification) : Response :=
  .json n.responseStatus n.toJson

def faultResponse (f : Fault) : Response :=
  (Notification.ofFault f).response

/-- What a request leads to: a response, and the attempt to write a membership if there was one. -/
structure Reply where
  response : Response
  attempt : Option Enrolment.Attempt := none

/-- A computation over the store that may settle on a response before its end. -/
abbrev Handler (α : Type) := ExceptT Response (Dialogue Store.interface) α

namespace Handler

variable {α : Type}

def take (e : Except Response α) : Handler α :=
  ExceptT.mk (.done e)

def ofErrand (e : Errand α) : Handler α :=
  ExceptT.mk (e.run.bind fun r ↦ .done (r.mapError faultResponse))

def showing (e : Errand α) (view : α → Json) : Handler Reply := do
  return ⟨.json 200 (view (← ofErrand e)), none⟩

def telling (e : Errand α) (message : String) : Handler Reply := do
  let _ ← ofErrand e
  return ⟨(Notification.success message).response, none⟩

def enrolling (operation : Enrolment.Operation α) (message : String) : Handler Reply :=
  ExceptT.mk (operation.bind fun o ↦ .done (.ok ⟨match o.result with
    | .ok _ => (Notification.success message).response
    | .error f => faultResponse f, o.attempt⟩))

def reply (h : Handler Reply) : Dialogue Store.interface Reply :=
  h.run.bind fun
    | .ok r => .done r
    | .error response => .done ⟨response, none⟩

end Handler

namespace Input

variable {α : Type}

def identifier (segment : String) : Except Response String :=
  match Bytes.toText? (Form.percentDecode (Bytes.ofText segment)) with
  | some s => .ok s
  | none => .error (.plain 400 "Invalid URL: Invalid UTF-8 in `id`")

def listing (r : Request) : Except Response Listing :=
  match Listing.ofQuery? (r.uri.query.getD "") with
  | some l => .ok l
  | none => .error (.plain 400 "Failed to deserialize query string")

def maxBody : Nat := 2097152

def badBody (message : String) : Response :=
  Notification.response ⟨message, 400, none⟩

def misfitMessage : Json.Misfit → String
  | .notJson => "Failed to decode request: Failed to parse the request body as JSON"
  | .wrongShape =>
    "Failed to decode request: Failed to deserialize the JSON body into the target type"

/-- The value in the body. Its type is looked at first, then its size. -/
def body (shape : Json.Shape α) (r : Request) : Except Response α :=
  if !r.headers.announceJson then
    .error (badBody "Failed to decode request: expected 'application/json' content type")
  else if maxBody < r.body.length then
    .error (badBody
      "Failed to read request body: Failed to buffer the request body: length limit exceeded")
  else (Json.decodeText shape.decode r.body).mapError fun m ↦ badBody (misfitMessage m)

end Input

end Roster.Api
