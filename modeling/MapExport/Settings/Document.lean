import MapExport.Json.Basic
import MapExport.Settings.Basic

/-!
# Settings as a document

What the settings came to, for an operator who wants to look at them. Numbers that may need sixty-four
bits are written as text.
-/

set_option autoImplicit false

namespace MapExport.Settings

/-- A setting that may be left out. -/
def optionalText (s : Option String) : Json := (s.map Json.text).getD .null

/-- A number that may need sixty-four bits. -/
def longNumber (n : Nat) : Json := .text (toString n)

/-- What becomes of a job whose preset cannot be read, in a word. -/
def policyWord : PresetPolicy → String
  | .reject => "Reject"
  | .defaults => "Defaults"

/-- **All settings** by name. -/
def members (s : Settings) : List (String × Json) :=
  [ ("run_mode", .text s.runMode), ("server_host", .text s.host), ("server_port", .whole s.port),
    ("workers", longNumber s.workers), ("log_level", .text s.logLevel),
    ("log_format", .text s.logFormat), ("store_backend", .text s.backend.name),
    ("database_url", optionalText s.databaseUrl),
    ("database_max_connections", .whole s.maxConnections), ("redis_url", optionalText s.redisUrl),
    ("redis_queue_prefix", .text s.queuePrefix), ("site_url", .text s.siteUrl),
    ("default_from_email", .text s.defaultSender), ("email_provider", .text s.mailProvider),
    ("smtp_host", optionalText s.smtpHost),
    ("smtp_port", (s.smtpPort.map fun p => Json.whole p).getD .null),
    ("smtp_username", optionalText s.smtpUsername), ("smtp_password", optionalText s.smtpPassword),
    ("smtp_tls", .bool s.smtpTls), ("overpass_api_url", .text s.counterUrl),
    ("disable_ssl_verification", .bool s.disableTlsCheck),
    ("geocoding_auth_url", optionalText s.geocodingUrl), ("upload_root", .text s.uploadRoot),
    ("preset_failure_policy", .text (policyWord s.presetPolicy)),
    ("expiration_sweep_interval_seconds", longNumber s.sweepInterval),
    ("size_average_interval_seconds", longNumber s.averageInterval),
    ("is_production", .bool s.isProduction) ]

end MapExport.Settings
