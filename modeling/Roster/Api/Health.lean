import Roster.Json.Decoder

namespace Roster.Api

inductive Condition where
  | healthy
  | unhealthy
  deriving DecidableEq, Repr

def Condition.name : Condition → String
  | healthy => "healthy"
  | unhealthy => "unhealthy"

def Condition.decoder : Json.Decoder Condition :=
  .oneOf [("healthy", .healthy), ("unhealthy", .unhealthy)]

structure Check where
  name : String
  condition : Condition
  message : Option String
  latency : Option Nat
  deriving DecidableEq, Repr

structure Health where
  condition : Condition
  version : String
  checks : Option (List Check)
  latency : Option Nat
  deriving DecidableEq, Repr

def serviceVersion : String := "0.1.0"

def Check.toJson (c : Check) : Json :=
  .record [("name", some (.text c.name)), ("status", some (.text c.condition.name)),
    ("message", c.message.map .text), ("latency_ms", c.latency.map .nat)]

def Check.shape : Json.Shape Check :=
  Check.mk <$> .required "name" .string <*> .required "status" Condition.decoder <*>
    .optionalAtEnd "message" .string <*> .optionalAtEnd "latency_ms" (.natural 64)

namespace Health

def toJson (h : Health) : Json :=
  .record [("status", some (.text h.condition.name)), ("version", some (.text h.version)),
    ("checks", h.checks.map fun cs ↦ .array (cs.map Check.toJson)),
    ("latency_ms", h.latency.map .nat)]

def shape : Json.Shape Health :=
  Health.mk <$> .required "status" Condition.decoder <*> .required "version" .string <*>
    .optionalAtEnd "checks" (.list Check.shape.decode) <*> .optionalAtEnd "latency_ms" (.natural 64)

def alive : Health :=
  ⟨.healthy, serviceVersion, none, none⟩

/-- The service answers, and its store does if counting the users fails with no fault. -/
def ready (failure : Option String) (latency : Nat) : Health :=
  let condition := if failure.isNone then .healthy else .unhealthy
  ⟨condition, serviceVersion, some [⟨"storage", condition, failure, some latency⟩], some latency⟩

end Health

end Roster.Api
