import MapExport.Settings.Choices
import MapExport.Text.Blank
import MapExport.Text.Number

/-!
# Settings

All that an operator can set, read from the variables of the environment. Most settings have a default;
a setting that is given has to make sense. The variables are looked at in a fixed order, and the first
that is wrong is reported; what the settings have to fulfil together is checked after all have been read.
-/

set_option autoImplicit false

namespace MapExport

/-- The variables of the environment. Of two with one name the first counts. -/
abbrev Environment := List (String × String)

/-- **The settings** of the service. -/
structure Settings where
  runMode : String
  host : String
  port : Nat
  workers : Nat
  logLevel : String
  logFormat : String
  backend : Backend
  databaseUrl : Option String
  maxConnections : Nat
  redisUrl : Option String
  queuePrefix : String
  siteUrl : String
  defaultSender : String
  mailProvider : String
  smtpHost : Option String
  smtpPort : Option Nat
  smtpUsername : Option String
  smtpPassword : Option String
  smtpTls : Bool
  counterUrl : String
  disableTlsCheck : Bool
  geocodingUrl : Option String
  uploadRoot : String
  presetPolicy : PresetPolicy
  sweepInterval : Nat
  averageInterval : Nat
  deriving DecidableEq, Repr

/-- A variable of the environment. -/
def Environment.get? (env : Environment) (key : String) : Option String :=
  (env.find? (·.1 == key)).map (·.2)

/-- A variable, or what stands for it. -/
def Environment.text (env : Environment) (key fallback : String) : String :=
  (env.get? key).getD fallback

/-- A variable that may be left out; a blank one is. -/
def Environment.optional? (env : Environment) (key : String) : Option String :=
  (env.get? key).filter fun v => !Text.isBlankText v

/-- A variable that has to make sense, or what stands for it. -/
def Environment.parsed {α : Type} (env : Environment) (key fallback : String)
    (parse : String → Option α) : Except Failure α :=
  match parse (env.text key fallback) with
  | some a => .ok a
  | none => .error (.configuration (key ++ " has an invalid value"))

/-- A truth value, spelt exactly. -/
def Text.bool? : String → Option Bool
  | "true" => some true
  | "false" => some false
  | _ => none

/-- A port that may be left out. -/
def Environment.optionalPort (env : Environment) (key : String) : Except Failure (Option Nat) :=
  match env.optional? key with
  | none => .ok none
  | some v =>
    match Text.number? (Text.maxBits 16) v with
    | some n => .ok (some n)
    | none => .error (.configuration (key ++ " must be a number"))

/-- An address on the web. -/
def checkUrl (url : String) : Except Failure Unit :=
  if url.startsWith "http://" || url.startsWith "https://" then .ok ()
  else .error (.configuration ("Invalid URL: " ++ url))

namespace Settings

/-- The variables that keeping data in a database asks for. -/
def checkRequired (backend : Backend) (databaseUrl redisUrl : Option String) :
    Except Failure Unit :=
  let missing (key : String) : Failure :=
    .configuration ("Variable d'environnement requise manquante: " ++ key)
  if backend = .postgres then
    if databaseUrl.isNone then .error (missing "DATABASE_URL")
    else if redisUrl.isNone then .error (missing "REDIS_URL")
    else .ok ()
  else .ok ()

/-- **What settings have to fulfil.** -/
def check (s : Settings) : Except Failure Unit := do
  if s.port = 0 then .error (.configuration "SERVER_PORT must be greater than 0")
  if s.workers = 0 then .error (.configuration "WORKERS must be greater than 0")
  checkUrl s.siteUrl
  checkUrl s.counterUrl
  match s.geocodingUrl with
  | some url => checkUrl url
  | none => .ok ()
  if s.mailProvider = "smtp" ∧ s.smtpHost = none then
    .error (.configuration "SMTP_HOST is required when EMAIL_PROVIDER=smtp")
  if s.sweepInterval = 0 ∨ s.averageInterval = 0 then
    .error (.configuration "Sweep intervals must be greater than 0")

/-- The settings that the variables spell, each for itself. -/
def read (env : Environment) : Except Failure Settings := do
  let word := Text.number? (Text.maxBits 64)
  let backend ← env.parsed "STORE_BACKEND" "postgres" fun v => (Backend.ofName v).toOption
  let databaseUrl := env.optional? "DATABASE_URL"
  let redisUrl := env.optional? "REDIS_URL"
  checkRequired backend databaseUrl redisUrl
  let port ← env.parsed "SERVER_PORT" "8080" (Text.number? (Text.maxBits 16))
  let workers ← env.parsed "WORKERS" "4" word
  let maxConnections ←
    env.parsed "DATABASE_MAX_CONNECTIONS" "20" (Text.number? (Text.maxBits 32))
  let smtpPort ← env.optionalPort "SMTP_PORT"
  let smtpTls ← env.parsed "SMTP_TLS" "true" Text.bool?
  let disableTlsCheck ← env.parsed "DISABLE_SSL_VERIFICATION" "false" Text.bool?
  let presetPolicy ← env.parsed "PRESET_FAILURE_POLICY" "reject" fun v =>
    (PresetPolicy.ofName v).toOption
  let sweepInterval ← env.parsed "EXPIRATION_SWEEP_INTERVAL_SECONDS" "3600" word
  let averageInterval ← env.parsed "SIZE_AVERAGE_INTERVAL_SECONDS" "86400" word
  .ok
    { runMode := env.text "RUN_MODE" "development"
      host := env.text "SERVER_HOST" "0.0.0.0"
      port, workers
      logLevel := env.text "LOG_LEVEL" "info"
      logFormat := env.text "LOG_FORMAT" "json"
      backend, databaseUrl, maxConnections, redisUrl
      queuePrefix := env.text "REDIS_QUEUE_PREFIX" "eventkit:"
      siteUrl := env.text "SITE_URL" "http://localhost"
      defaultSender := env.text "DEFAULT_FROM_EMAIL" "Eventkit Team <eventkit.team@gmail.com>"
      mailProvider := env.text "EMAIL_PROVIDER" "log"
      smtpHost := env.optional? "SMTP_HOST"
      smtpPort
      smtpUsername := env.optional? "SMTP_USERNAME"
      smtpPassword := env.optional? "SMTP_PASSWORD"
      smtpTls
      counterUrl := env.text "OVERPASS_API_URL" "https://overpass-api.de/api/interpreter"
      disableTlsCheck
      geocodingUrl := env.optional? "GEOCODING_AUTH_URL"
      uploadRoot := env.text "UPLOAD_ROOT" "./uploads"
      presetPolicy, sweepInterval, averageInterval }

/-- The variables that settings are read from. -/
def variableNames : List String :=
  [ "STORE_BACKEND", "DATABASE_URL", "REDIS_URL", "RUN_MODE", "SERVER_HOST", "SERVER_PORT", "WORKERS",
    "LOG_LEVEL", "LOG_FORMAT", "DATABASE_MAX_CONNECTIONS", "REDIS_QUEUE_PREFIX", "SITE_URL",
    "DEFAULT_FROM_EMAIL", "EMAIL_PROVIDER", "SMTP_HOST", "SMTP_PORT", "SMTP_USERNAME",
    "SMTP_PASSWORD", "SMTP_TLS", "OVERPASS_API_URL", "DISABLE_SSL_VERIFICATION",
    "GEOCODING_AUTH_URL", "UPLOAD_ROOT", "PRESET_FAILURE_POLICY",
    "EXPIRATION_SWEEP_INTERVAL_SECONDS", "SIZE_AVERAGE_INTERVAL_SECONDS" ]

/-- **The settings of an environment.** -/
def ofEnvironment (env : Environment) : Except Failure Settings := do
  let s ← read env
  s.check
  .ok s

/-- Whether the service runs for real. -/
def isProduction (s : Settings) : Bool := s.runMode == "production"

/-- The address of the database, which the database backend needs. -/
def requireDatabaseUrl (s : Settings) : Except Failure String :=
  match s.databaseUrl with
  | some url => .ok url
  | none => .error (.configuration "DATABASE_URL is not set")

end Settings

end MapExport
