import RecordStore.Config.TimeZone

/-!
The configuration of a database connection. It is read from settings by name; all faults are
reported together, in the order of the fields.
-/

namespace RecordStore

structure Config where
  adapter : Adapter
  host : String
  port : Option Int
  username : Option String
  password : Option String
  database : String
  timeZone : String
  /-- The seconds after which a pooled connection is replaced; zero for never. -/
  maxLifetime : Nat
  idleConnections : Nat
  openConnections : Nat
  ssl : Option String
  logMode : Bool
  deriving Repr

/-- A value, or all that is wrong with its parts. -/
abbrev Checked (α : Type) : Type := Except (List Issue) α

namespace Checked

def apply {α β : Type} (function : Checked (α → β)) (part : Checked α) : Checked β :=
  match function, part with
  | .ok function, .ok part => .ok (function part)
  | .ok _, .error issues => .error issues
  | .error issues, .ok _ => .error issues
  | .error issues, .error more => .error (issues ++ more)

end Checked

namespace Config

def setting {α : Type} (settings : List (String × Value)) (name : String) (fallback : α)
    (read : Value → Except Fault α) : Checked α :=
  match settings.lookup name with
  | none => .ok fallback
  | some value => (read value).mapError fun fault => [⟨name, fault⟩]

def ofSettings (settings : List (String × Value)) : Checked Config :=
  let text := Reading.text
  let optionalText := Reading.optional Reading.text
  (((((((((((Checked.apply (.ok Config.mk) (setting settings "adapter" .postgres Reading.adapter))
    |>.apply (setting settings "host" "localhost" text))
    |>.apply (setting settings "port" none (Reading.optional Reading.integer)))
    |>.apply (setting settings "username" none optionalText))
    |>.apply (setting settings "password" none optionalText))
    |>.apply (setting settings "database" "" text))
    |>.apply (setting settings "timezone" "UTC" TimeZone.read))
    |>.apply (setting settings "max_lifetime" 0 Reading.natural))
    |>.apply (setting settings "idle_connections" 5 Reading.natural))
    |>.apply (setting settings "open_connections" 10 Reading.natural))
    |>.apply (setting settings "ssl" none optionalText))
    |>.apply (setting settings "log_mode" false Reading.truth)

def optionalText (text : Option String) : Value := (text.map Value.text).getD .null

def fields (config : Config) : List (String × Value) := [
  ("adapter", .text config.adapter.name), ("host", .text config.host),
  ("port", (config.port.map Value.integer).getD .null),
  ("username", optionalText config.username), ("password", optionalText config.password),
  ("database", .text config.database), ("timezone", .text config.timeZone),
  ("max_lifetime", .integer config.maxLifetime),
  ("idle_connections", .integer config.idleConnections),
  ("open_connections", .integer config.openConnections),
  ("ssl", optionalText config.ssl), ("log_mode", .boolean config.logMode)]

def describeField (config : Config) (field : String × Value) : String :=
  field.1 ++ "=" ++ (if field.1 = "adapter" then
    "<Adapter." ++ config.adapter.constant ++ ": '" ++ config.adapter.name ++ "'>"
  else field.2.literal)

def describe (config : Config) : String :=
  let shown := config.fields.filter fun field => field.1 != "password"
  "DBConfig(" ++ Value.commaSeparated (shown.map config.describeField) ++ ")"

def timeZoneStatement? (config : Config) : Option String :=
  TimeZone.statement? config.adapter config.timeZone

end Config
end RecordStore
