import Roster.Http.Message

namespace Roster.Api

open Http (Header Headers Request)

structure LogEntry where
  isWarning : Bool
  message : String
  method : String
  path : String
  requestId : String
  headers : Option String := none
  status : Option Nat := none
  deriving DecidableEq, Repr

namespace RequestLog

def logged : List String :=
  ["content-type", "content-length", "accept", "user-agent", "x-request-id", "x-forwarded-for",
   "x-real-ip", "authorization", "cookie"]

def secret : List String :=
  ["authorization", "proxy-authorization", "cookie", "set-cookie", "x-auth-token"]

def valueText (h : Header) : String :=
  if secret.contains h.name then "[REDACTED]" else h.text?.getD "[invalid]"

def headersText (headers : Headers) : String :=
  ", ".intercalate ((headers.filter fun h ↦ logged.contains h.name).map fun h ↦
    h.name ++ "=" ++ valueText h)

def idField : String := "x-request-id"

def idText (headers : Headers) : String :=
  ((headers.get? idField).bind Header.text?).getD "-"

/-- The headers with an identifier of the request, if they have none. -/
def identify (id : String) (headers : Headers) : Headers :=
  if (headers.get? idField).isSome then headers
  else headers ++ [⟨idField, Bytes.ofText id⟩]

def incoming (path : String) (r : Request) : LogEntry :=
  { isWarning := false, message := "Incoming request", method := r.method.name, path := path,
    requestId := idText r.headers, headers := some (headersText r.headers) }

def outcome (path : String) (r : Request) (status : Http.Status) : LogEntry :=
  let failed := 500 ≤ status && status < 600
  { isWarning := failed, message := if failed then "Request failed" else "Request completed",
    method := r.method.name, path := path, requestId := idText r.headers, status := some status }

end RequestLog

end Roster.Api
