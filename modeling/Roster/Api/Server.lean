import Roster.Api.Endpoint
import Roster.Api.RequestLog

namespace Roster.Api

open Http (Request Response)

structure Exchange where
  response : Response
  requestId : Bytes
  log : List LogEntry
  method : String
  path : String
  attempt : Option Enrolment.Attempt

def Exchange.count (e : Exchange) (registry : Metrics.Registry) : Metrics.Registry :=
  let registry := match e.attempt with
    | some a => registry.attempt a
    | none => registry
  registry.request e.method e.path e.response.status

def patternOf (path : String) : String :=
  ((Resource.ofPath? path).map Resource.pattern).getD path

namespace Service

variable (s : Service)

def respond (counted : Option Metrics.Registry) (f : Fresh) (r : Request) :
    Dialogue Store.interface Reply :=
  match Resource.ofPath? r.uri.path with
  | none => .done ⟨.bare 404, none⟩
  | some resource =>
    match (Verb.ofMethod? r.method).filter resource.verbs.contains with
    | none => .done ⟨{ Response.bare 405 with allow := some resource.allowed }, none⟩
    | some verb => (s.handle f r counted resource verb).reply.bind fun reply ↦
        .done (if r.method.name = "HEAD" then { reply with response := reply.response.head }
          else reply)

/-- Answers a request and keeps a record of it. The limit on the time that an answer may take is left
out: past it the client is sent 408 with an empty body, whatever comes of the request. -/
def exchange (counted : Option Metrics.Registry) (f : Fresh) (newId : String) (r : Request) :
    Dialogue Store.interface Exchange :=
  let r := { r with headers := RequestLog.identify newId r.headers }
  let path := patternOf r.uri.path
  (s.respond counted f r).bind fun reply ↦ .done
    { response := reply.response
      requestId := ((r.headers.get? RequestLog.idField).map (·.value)).getD []
      log := [RequestLog.incoming path r, RequestLog.outcome path r reply.response.status]
      method := r.method.name
      path := path
      attempt := reply.attempt }

end Service

end Roster.Api
