import Weblog.Json.Members
import Weblog.Text.Blank

/-!
# Weblog.Config.Basic

What the application is configured with.

* `DbConfig`, `SessionConfig`, `ServerConfig`, `AppConfig`: the settings and their defaults.
* `ConfigError`: why there is no configuration.
* `AppConfig.validate`: the conditions between settings.
* `AppConfig.ofLookup`: the defaults with the settings found under their names in place.
-/

namespace Weblog

/-- Why there is no configuration. The reason why a file cannot be read is not shown. -/
inductive ConfigError where
  | load
  | invalidValue (key value : String)
  | validation (text : String)
  deriving DecidableEq, Repr

def ConfigError.message : ConfigError → String
  | .load => "config load: *"
  | .invalidValue key value => "invalid value for " ++ key ++ ": " ++ value
  | .validation text => "validation: " ++ text

/-- The database and its pool of connections. -/
structure DbConfig where
  host : String := "localhost"
  port : Int := 5432
  user : String := "www-data"
  password : String := "www-data"
  database : String := "awesome"
  charset : String := "utf8"
  autocommit : Bool := true
  maxSize : Int := 10
  minSize : Int := 1
  deriving DecidableEq, Repr

/-- The session cookie; its lifetime is in seconds. -/
structure SessionConfig where
  cookieName : String := "awesession"
  secret : String := "Awesome"
  maxAge : Int := 86400
  deriving DecidableEq, Repr

/-- The server. -/
structure ServerConfig where
  bind : String := "127.0.0.1:9000"
  templateDir : String := "templates"
  staticDir : String := "static"
  deriving DecidableEq, Repr

/-- All settings. -/
structure AppConfig where
  db : DbConfig := {}
  session : SessionConfig := {}
  server : ServerConfig := {}
  deriving DecidableEq, Repr

/-- Checks that the pool can hold a connection, that its bounds are in order and that there is a
secret. -/
def AppConfig.validate (c : AppConfig) : Except ConfigError Unit :=
  if c.db.maxSize = 0 then .error (.validation "db max_size must be at least 1")
  else if c.db.maxSize < c.db.minSize then
    .error (.validation ("db min_size " ++ Text.ofInt c.db.minSize ++ " exceeds max_size " ++
      Text.ofInt c.db.maxSize))
  else if c.session.secret.isEmpty then
    .error (.validation "session secret must not be empty")
  else .ok ()

namespace Config

def readTruth (s : String) : Option Bool :=
  if s = "true" then some true else if s = "false" then some false else none

def textSetting (lookup : String → Option String) (key default : String) : String :=
  (lookup key).getD default

/-- A setting that is read from the trimmed text found; the error holds the whole text. -/
def readSetting {α : Type} (lookup : String → Option String) (key : String)
    (read : String → Option α) (default : α) : Except ConfigError α :=
  match lookup key with
  | none => .ok default
  | some text =>
    match read (Text.trim text) with
    | some v => .ok v
    | none => .error (.invalidValue key text)

end Config

/-- The configuration with the settings found under their names in place of the defaults. -/
def AppConfig.ofLookup (lookup : String → Option String) : Except ConfigError AppConfig := do
  let initial : AppConfig := {}
  let text := Config.textSetting lookup
  let integer (key : String) (r : Text.IntRange) (default : Int) :=
    Config.readSetting lookup key (Text.ranged? r) default
  let port ← integer "BLOG_DB_PORT" .u16 initial.db.port
  let autocommit ←
    Config.readSetting lookup "BLOG_DB_AUTOCOMMIT" Config.readTruth initial.db.autocommit
  let maxSize ← integer "BLOG_DB_MAX_SIZE" .u32 initial.db.maxSize
  let minSize ← integer "BLOG_DB_MIN_SIZE" .u32 initial.db.minSize
  let maxAge ← integer "BLOG_SESSION_MAX_AGE" .i64 initial.session.maxAge
  let config : AppConfig :=
    { db :=
        { host := text "BLOG_DB_HOST" initial.db.host
          port := port
          user := text "BLOG_DB_USER" initial.db.user
          password := text "BLOG_DB_PASSWORD" initial.db.password
          database := text "BLOG_DB_NAME" initial.db.database
          charset := text "BLOG_DB_CHARSET" initial.db.charset
          autocommit := autocommit
          maxSize := maxSize
          minSize := minSize }
      session :=
        { cookieName := text "BLOG_SESSION_COOKIE" initial.session.cookieName
          secret := text "BLOG_SESSION_SECRET" initial.session.secret
          maxAge := maxAge }
      server :=
        { bind := text "BLOG_BIND" initial.server.bind
          templateDir := text "BLOG_TEMPLATE_DIR" initial.server.templateDir
          staticDir := text "BLOG_STATIC_DIR" initial.server.staticDir } }
  config.validate
  return config

/-- Reads the settings of the database from a JSON value; user, password and database have no
default here. -/
def DbConfig.ofJson? (v : Json) : Option DbConfig := do
  let m ← v.members? ["host", "port", "user", "password", "database", "charset", "autocommit",
    "max_size", "min_size"]
  let initial : DbConfig := {}
  return {
    host := ← Json.orElse Json.readText initial.host m "host"
    port := ← Json.orElse (Json.readInt .u16) initial.port m "port"
    user := ← Json.required Json.readText m "user"
    password := ← Json.required Json.readText m "password"
    database := ← Json.required Json.readText m "database"
    charset := ← Json.orElse Json.readText initial.charset m "charset"
    autocommit := ← Json.orElse Json.readBool initial.autocommit m "autocommit"
    maxSize := ← Json.orElse (Json.readInt .u32) initial.maxSize m "max_size"
    minSize := ← Json.orElse (Json.readInt .u32) initial.minSize m "min_size" }

def SessionConfig.ofJson? (v : Json) : Option SessionConfig := do
  let m ← v.members? ["cookie_name", "secret", "max_age"]
  return {
    cookieName := ← Json.required Json.readText m "cookie_name"
    secret := ← Json.required Json.readText m "secret"
    maxAge := ← Json.required (Json.readInt .i64) m "max_age" }

def ServerConfig.ofJson? (v : Json) : Option ServerConfig := do
  let m ← v.members? ["bind", "template_dir", "static_dir"]
  return {
    bind := ← Json.required Json.readText m "bind"
    templateDir := ← Json.required Json.readText m "template_dir"
    staticDir := ← Json.required Json.readText m "static_dir" }

/-- Reads all settings from a JSON value. -/
def AppConfig.ofJson? (v : Json) : Option AppConfig := do
  let m ← v.members? ["db", "session", "server"]
  return {
    db := ← Json.required DbConfig.ofJson? m "db"
    session := ← Json.required SessionConfig.ofJson? m "session"
    server := ← Json.required ServerConfig.ofJson? m "server" }

/-- The settings of the database as a JSON object. -/
def DbConfig.toJson (c : DbConfig) : Json :=
  .ofFields [("host", .string c.host), ("port", .ofInt c.port), ("user", .string c.user),
    ("password", .string c.password), ("database", .string c.database),
    ("charset", .string c.charset), ("autocommit", .bool c.autocommit),
    ("max_size", .ofInt c.maxSize), ("min_size", .ofInt c.minSize)]

/-- The value of an option as it is presented: a backslash before each blank and each backslash. -/
def optionChars (cs : List Char) : List Char :=
  cs.flatMap fun c => if c = ' ' ∨ c = '\\' then ['\\', c] else [c]

/-- The options that a connection presents: the encoding of its texts. -/
def DbConfig.loginOptions (c : DbConfig) : String :=
  "-c client_encoding=" ++ String.ofList (optionChars c.charset.toList)

/-- All settings as a JSON object. -/
def AppConfig.toJson (c : AppConfig) : Json :=
  .ofFields [("db", c.db.toJson),
    ("session", .ofFields [("cookie_name", .string c.session.cookieName),
      ("secret", .string c.session.secret), ("max_age", .ofInt c.session.maxAge)]),
    ("server", .ofFields [("bind", .string c.server.bind),
      ("template_dir", .string c.server.templateDir),
      ("static_dir", .string c.server.staticDir)])]

end Weblog
