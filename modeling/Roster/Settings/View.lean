import Roster.Json
import Roster.Settings

namespace Roster.Settings

def Server.toJson (s : Server) : Json :=
  .object [("host", .text s.host), ("port", .nat s.port),
    ("request_timeout_secs", .nat s.requestTimeout)]

def Logging.toJson (s : Logging) : Json :=
  .object [("level", .text s.level), ("format", .text s.format.name)]

def Database.toJson (s : Database) : Json :=
  .object [("url", .text s.url), ("max_connections", .nat s.maxConnections)]

def Token.toJson (s : Token) : Json :=
  .object [("secret", .text s.secret), ("session_expire_secs", .nat s.sessionLife)]

def Admin.toJson (s : Admin) : Json :=
  .object [("create", .bool s.create), ("username", .text s.username),
    ("password", .text s.password), ("email", .text s.email)]

def Metrics.toJson (s : Metrics) : Json :=
  .object [("enabled", .bool s.enabled)]

def toJson (s : Settings) : Json :=
  .object [("server", s.server.toJson), ("logging", s.logging.toJson),
    ("database", s.database.toJson), ("token", s.token.toJson), ("admin", s.admin.toJson),
    ("metrics", s.metrics.toJson)]

end Roster.Settings
