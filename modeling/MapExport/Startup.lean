import MapExport.Database.Location
import MapExport.Database.Migration
import MapExport.Mail.Delivery
import MapExport.Queue.Broker
import MapExport.Web.Routes

/-!
# Starting up

The service starts in a fixed order: the settings are read, the store is opened, then the queue, then the
mailer, and then the service listens. Each step is logged, and the first one that fails ends it all. How
much is logged is a setting too.
-/

set_option autoImplicit false

namespace MapExport

/-- **How important** a line of the log is. -/
inductive LogLevel where
  | trace
  | debug
  | info
  | warn
  | error
  deriving DecidableEq, Repr

namespace LogLevel

/-- The levels by name, from the most important one. -/
def names : List (String × LogLevel) :=
  [("ERROR", .error), ("WARN", .warn), ("INFO", .info), ("DEBUG", .debug), ("TRACE", .trace)]

/-- The name of a level. -/
def name : LogLevel → String
  | trace => "TRACE"
  | debug => "DEBUG"
  | info => "INFO"
  | warn => "WARN"
  | error => "ERROR"

/-- How important a level is, as a number; one is the most important. -/
def rank : LogLevel → Nat
  | error => 1
  | warn => 2
  | info => 3
  | debug => 4
  | trace => 5

/-- **A level by name,** in any case, or by its number. What is neither counts as `info`. -/
def ofText (s : String) : LogLevel :=
  let upper := s.map Char.toUpper
  let found := names.find? fun (n, l) => n == upper || Text.number? 5 s == some l.rank
  (found.map (·.2)).getD info

/-- Whether a line of a level is logged when that much is wanted. -/
def isLogged (line wanted : LogLevel) : Bool := line.rank ≤ wanted.rank

end LogLevel

/-- **What starting up asks for.** -/
inductive StartupCall where
  | log (level : LogLevel) (line : String)
  | openDatabase (url : String) (connections : Nat)
  | openQueue (url : String)
  | listen (host : String) (port workers : Nat)

/-- What a call is answered; to listen may fail for reasons of the system. -/
def StartupCall.Reply : StartupCall → Type
  | log _ _ => Unit
  | openDatabase _ _ => Except Failure Unit
  | openQueue _ => Except Failure Unit
  | listen _ _ _ => Except String Unit

/-- A start, which fails with a text. -/
abbrev StartupFlow := ExceptT String (Workflow StartupCall StartupCall.Reply)

namespace Startup

/-- The name of the service. -/
def serviceName : String := "EventKit Backend"

/-- Logs a line, if that much is wanted. -/
def log (s : Settings) (level : LogLevel) (line : String) : StartupFlow Unit :=
  if level.isLogged (.ofText s.logLevel) then
    ExceptT.mk (.call (.log level line) fun _ => .done (.ok ()))
  else pure ()

/-- A step of the start; its failure is told in words. -/
def orFail {α : Type} (r : Except Failure α) : StartupFlow α :=
  ExceptT.mk (pure (r.mapError Failure.message))

/-- Opens the store. -/
def openStore (s : Settings) : StartupFlow Unit :=
  match s.backend with
  | .postgres => do
    let url ← orFail s.requireDatabaseUrl
    ExceptT.mk (.call (.openDatabase url s.maxConnections) fun reply =>
      .done ((reply : Except Failure Unit).mapError Failure.message))
  | .memory =>
    log s .warn "⚠️  Stockage en mémoire: les données seront perdues à l'arrêt"

/-- Opens the queue. -/
def openQueue (s : Settings) : StartupFlow Unit :=
  match s.redisUrl with
  | some url =>
    ExceptT.mk (.call (.openQueue url) fun reply =>
      .done ((reply : Except Failure Unit).mapError Failure.message))
  | none => log s .warn "⚠️  REDIS_URL absent: les jobs ne seront pas publiés"

/-- Prepares the mailer. -/
def openMailer (s : Settings) : StartupFlow Unit :=
  if s.mailProvider = "smtp" then do
    let _ ← orFail (MailServer.ofSettings s)
    log s .info "📧 Envoi des emails via SMTP"
  else pure ()

/-- Listens for requests. -/
def listen (s : Settings) : StartupFlow Unit :=
  ExceptT.mk (.call (.listen s.host s.port s.workers) fun reply =>
    .done (reply : Except String Unit))

/-- **Starting up** with settings. -/
def start (s : Settings) : StartupFlow Unit := do
  log s .info ("🚀 Démarrage de " ++ serviceName ++ " v" ++ Web.version)
  log s .info ("🔧 Mode: " ++ s.runMode ++ " | stockage: " ++ s.backend.name)
  openStore s
  openQueue s
  openMailer s
  listen s
  log s .info "✅ Backend démarré avec succès!"
  log s .info ("🔗 API disponible sur http://" ++ s.host ++ ":" ++ toString s.port)

/-- **Starting up** in an environment. -/
def run (env : Environment) : StartupFlow Settings := do
  let s ← orFail (Settings.ofEnvironment env)
  start s
  return s

/-- What is said when the service could not start. -/
def complaint (reason : String) : String := "Error: " ++ reason

end Startup

end MapExport
