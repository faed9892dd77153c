import Roster.Enrolment
import Roster.Metrics.PathLabel

namespace Roster.Metrics

/-- One counter: a name with labels. -/
structure Series where
  name : String
  labels : List (String × String)
  deriving DecidableEq, Repr

/-- The counters, in the order in which they were first used. -/
structure Registry where
  counts : List (Series × Nat)

namespace Registry

def empty : Registry := ⟨[]⟩

def bump (r : Registry) (s : Series) : Registry :=
  if (r.counts.lookup s).isSome then
    ⟨r.counts.map fun e ↦ if e.1 = s then (e.1, e.2 + 1) else e⟩
  else ⟨r.counts ++ [(s, 1)]⟩

def request (r : Registry) (method path : String) (status : Nat) : Registry :=
  let labels := [("method", method), ("path", pathLabel path), ("status", toString status)]
  let r := (r.bump ⟨"http_requests_total", labels⟩).bump ⟨"http_request_duration_seconds_count", labels⟩
  if 500 ≤ status then r.bump ⟨"http_server_errors_total", labels⟩ else r

def attempt (r : Registry) (a : Enrolment.Attempt) : Registry :=
  r.bump ⟨"membership_operations_total",
    [("kind", a.kind.name), ("action", a.action.name),
     ("outcome", if a.isSuccess then "success" else "error")]⟩

end Registry

def escapeLabel (s : String) : String :=
  String.ofList (s.toList.flatMap fun c ↦
    if c = '\\' then ['\\', '\\'] else if c = '"' then ['\\', '"']
    else if c = '\n' then ['\\', 'n'] else [c])

def Series.text (s : Series) : String :=
  s.name ++ "\x7b" ++ ",".intercalate (s.labels.map fun l ↦ l.1 ++ "=\"" ++ escapeLabel l.2 ++ "\"") ++
    "\x7d"

def Registry.lines (r : Registry) : List String :=
  r.counts.map fun e ↦ e.1.text ++ " " ++ toString e.2

def Registry.text (r : Registry) : String :=
  String.join (r.lines.map (· ++ "\n"))

def handleText : String := "PrometheusMetrics \x7b .. \x7d"

end Roster.Metrics
