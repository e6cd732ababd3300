/-
The configuration that the command line shows: the settings of a service with a database.
-/
import EnvSettings.Schema.Basic
import EnvSettings.Registry
import EnvSettings.Sample.Plain
import EnvSettings.Text.Pretty

namespace EnvSettings.Cli

open EnvSettings.Number EnvSettings.Text

/-- What the name of every variable of the service starts with. -/
def serviceStem : String := "DEMO_"

/-- The policy with a default and a description. -/
def described (default? : Option String) (doc : String) : FieldRule := ⟨false, default?, doc⟩

/-- The type of the size of the connection pool. -/
def poolType : IntType := ⟨false, .bits32⟩

/-- The settings of the database. -/
def databaseSchema : Schema Empty :=
  .value "url" (.scalar .string) false ⟨true, none, "Postgres connection string"⟩ <|
  .value "max_connections" (.scalar (.int poolType)) false
    (described (some "10") "Connection pool size") <|
  .value "statement_timeout" (.scalar .duration) false
    (described (some "30s") "Per statement timeout") .done

/-- The settings of the service. -/
def serviceSchema : Schema Empty :=
  .value "bind_addr" (.option (.scalar .socket)) false
    (described (some "127.0.0.1:8080") "Address the HTTP listener binds to") <|
  .value "log_level" (.scalar .string) false
    (described (some "info") "Log filter directive") <|
  .value "upload_limit" (.scalar .byteSize) false
    (described (some "16MiB") "Largest accepted request body") <|
  .value "allowed_origins" (.list (.scalar .string)) false
    (described none "Origins allowed by CORS, comma separated") <|
  .group "database" .plain databaseSchema .done

/-- The converters for the settings of the service. -/
def serviceRegistry : Registry Empty := .builtins

/-- The settings of the database as a reader sees them. -/
def showDatabase : databaseSchema.Config → Pretty
  | (url, maxConnections, statementTimeout, ()) =>
    .record "DatabaseConfig"
      [("url", .quoted url),
        ("max_connections", .atom (toString (show IntType.Value poolType from maxConnections).1)),
        ("statement_timeout", .atom (show Time.Duration from statementTimeout).text)]

/-- The settings of the service as a reader sees them. -/
def showService : serviceSchema.Config → Pretty
  | (bindAddr, logLevel, uploadLimit, allowedOrigins, database, ()) =>
    .record "ServiceConfig"
      [("bind_addr",
          .optional ((show Option Address.Socket from bindAddr).map fun s => .atom s.text)),
        ("log_level", .quoted logLevel),
        ("upload_limit",
          .wrapped "ByteSize" (.atom (toString (show ByteSize from uploadLimit).bytes))),
        ("allowed_origins", .list ((show List String from allowedOrigins).map .quoted)),
        ("database", showDatabase database)]

end EnvSettings.Cli
