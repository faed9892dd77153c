import Roster.Http.Header
import Roster.Http.Status
import Roster.Http.Uri
import Roster.Json

namespace Roster.Http

structure Request where
  method : Method
  uri : Uri
  headers : Headers
  body : Bytes

inductive Body where
  | empty
  | json (j : Json)
  | text (s : String)
  deriving Repr

structure Response where
  status : Status
  contentType : Option String
  body : Body
  allow : Option String := none
  deriving Repr

namespace Response

def jsonType : String := "application/json"

def plainType : String := "text/plain; charset=utf-8"

def bare (s : Status) : Response :=
  ⟨s, none, .empty, none⟩

def json (s : Status) (j : Json) : Response :=
  ⟨s, some jsonType, .json j, none⟩

def plain (s : Status) (message : String) : Response :=
  ⟨s, some plainType, .text message, none⟩

def head (r : Response) : Response :=
  { r with body := .empty }

end Response

end Roster.Http
