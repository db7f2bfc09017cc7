import MapExport.Mail.Delivery
import MapExport.Service
import MapExport.FeatureCount.Counter
import MapExport.Settings.EnvFile
import MapExport.Startup
import MapExport.Web.Exchange

/-!
# The program

The service as a process. It is set up by the environment and a file `.env`, says on the error stream how
it starts, and then answers the requests that come on standard input, one document a line, with one
document a line. It has no network of its own: a database, a queue, a mail server or a counter that
it would have to connect to cannot be reached.
-/

set_option autoImplicit false

namespace MapExport.Program

/-- What the network says to every attempt. -/
def unreachable : String := "Network is unreachable (os error 101)"

/-- Says something on the error stream. -/
def say (line : String) : IO Unit := do (← IO.getStderr).putStrLn line

/-- The variables that are set, gaps filled from a file. -/
def environment : IO Environment := do
  let set ← Settings.variableNames.filterMapM fun n => do return (← IO.getEnv n).map (n, ·)
  try return EnvFile.fill set (← IO.FS.readFile ".env")
  catch _ => return set

/-- Carries out the calls of the start. -/
def answerStartup : (c : StartupCall) → IO c.Reply
  | .log level line => say (level.name ++ " " ++ line)
  | .openDatabase url _ =>
    return Database.connect url (fun _ => .error (.unreachable unreachable)) fun _ => .ok ()
  | .openQueue _ => return (.error (.queue unreachable) : Except Failure Unit)
  | .listen _ _ _ => return (.ok () : Except String Unit)

/-- The text of a fault of the system. -/
def faultText : IO.Error → String
  | .noFileOrDirectory _ _ _ => Upload.Fault.missing.message
  | .inappropriateType _ _ _ => Upload.Fault.directory.message
  | e => toString e

/-- Reads a preset from a file. -/
def readPreset (path : String) : IO (Except Failure TagTable) := do
  try
    let bytes ← IO.FS.readBinFile path
    return match Text.textOfBytes? bytes.toList with
      | some s => Preset.ofText s
      | none => .error (.file Upload.Fault.notText.message)
  catch e => return .error (.file (faultText e))

/-- Sends a mail, or only says so where no mail server is set. -/
def sendMail (settings : Settings) (mail : Mail) : IO (Except Failure Unit) := do
  if settings.mailProvider = "smtp" then
    match MailServer.ofSettings settings with
    | .error e => return .error e
    | .ok server => (server.deliver "localhost" mail).run fun _ => return .error unreachable
  else
    say ("Mail for " ++ ", ".intercalate mail.recipients ++ ": " ++ mail.subject)
    return .ok ()

/-- Carries out the calls of the feature counter. -/
def answerCounter : (c : FeatureCount.CounterCall) → IO c.Reply
  | .fetch _ => return (.error unreachable : Except String Web.Fetched)
  | .pause nanoseconds => IO.sleep (nanoseconds / 1000000).toUInt32

/-- What lies outside of the process. -/
def surroundings (settings : Settings) : Surroundings IO where
  preset := readPreset
  dispatch job := do say ("Job " ++ job.text ++ " is ready"); return .ok ()
  mail := sendMail settings
  count g := (FeatureCount.Steps.count settings.counterUrl .standard g).run.run answerCounter

/-- A number that nobody else has. -/
def randomNumber : IO Nat := do
  return (← IO.getRandomBytes 16).foldl (fun n b => 256 * n + b.toNat) 0

/-- Answers a line of standard input, after what has become due since the start. -/
def answerLine (started : Instant) (line : String) : StateT Service IO Json := do
  match Web.Arrival.codec.ofText line with
  | .error e => return .record [("error", .text e.message)]
  | .ok arrival =>
    let out := surroundings (← get).settings
    let number ← randomNumber
    let stamp : Stamp := ⟨.random number, arrival.time, fun i => .random (number + 1 + i)⟩
    Service.catchUp out arrival.time ((arrival.time.since started) / 1000000000).toNat
    return (← Service.respond out stamp arrival.request).print

/-- Answers the lines of standard input until it ends. -/
partial def serve (started : Option Instant) (service : Service) : IO Unit := do
  let line ← (← IO.getStdin).getLine
  if line.isEmpty then return
  let started := started <|> ((Web.Arrival.codec.ofText line).toOption.map (·.time))
  let (answer, service) ← (answerLine (started.getD default) line).run service
  IO.println answer.render
  (← IO.getStdout).flush
  serve started service

end MapExport.Program

open MapExport Program in
/-- **The program.** -/
def main : IO UInt32 := do
  let env ← environment
  let started ← ((Startup.run env).run.run answerStartup : IO (Except String Settings))
  match started with
  | .error reason =>
    say (Startup.complaint reason)
    return 1
  | .ok settings =>
    serve none (.start settings (env.get? "RUN_MODE") (.reference (.random (← randomNumber))))
    return 0
