import Roster.Fault
import Roster.Http.Status
import Roster.Json.Decoder

namespace Roster

def FieldError.toJson (e : FieldError) : Json :=
  .object [("field", .text e.field), ("message", .text e.message)]

def FieldErrors.toJson (errors : FieldErrors) : Json :=
  .array (errors.map FieldError.toJson)

namespace Api

open Http (Status)

structure Notification where
  message : String
  status : Nat
  errors : Option FieldErrors := none
  deriving DecidableEq, Repr

namespace Notification

def success (message : String) : Notification :=
  ⟨message, 200, none⟩

/-- The status of the response that carries the notification; one that is no status counts as 200. -/
def responseStatus (n : Notification) : Status :=
  if 100 ≤ n.status && n.status ≤ 999 then n.status else 200

def toJson (n : Notification) : Json :=
  .record [("message", some (.text n.message)), ("status", some (.nat n.status)),
    ("errors", n.errors.map FieldErrors.toJson)]

def errorShape : Json.Shape FieldError :=
  FieldError.mk <$> .required "field" .string <*> .required "message" .string

def shape : Json.Shape Notification :=
  Notification.mk <$> .required "message" .string <*> .required "status" (.natural 16) <*>
    .optionalAtEnd "errors" (.list errorShape.decode)

def text (n : Notification) : String :=
  Http.Status.text n.status ++ ": " ++ n.message

/-- How a cause of failure is told to a client. Internal causes are kept back. -/
def ofFault (f : Fault) : Notification :=
  match f.cls with
  | .notFound => ⟨f.message, 404, none⟩
  | .conflict | .precondition => ⟨f.message, 412, none⟩
  | .validation =>
    match f with
    | .invalid errors => ⟨"Failed to validate request", 422, some errors⟩
    | f => ⟨f.message, 422, none⟩
  | .unauthorized | .expired | .unsound => ⟨f.message, 401, none⟩
  | .forbidden => ⟨f.message, 403, none⟩
  | .internal => ⟨"Internal server error", 500, none⟩

end Notification

end Api

end Roster
