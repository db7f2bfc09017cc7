import Mathlib.Tactic.MkIffOfInductiveProp
import MapExport.Proofs.Store.Keys
import MapExport.Proofs.Text.LetterCase
import MapExport.Proofs.Text.Numerals
import MapExport.Proofs.Workflow.Course
import MapExport.Startup

/-!
# Which environments are accepted

An operator gives what he likes in the variables of the environment, and leaves out what he likes. Which environments
give settings is told by the variables alone (`Environment.Acceptable`). What the settings then are is told by the
variables too (`Settings.ReadFrom`), and what they fulfil together is what starting up relies on
(`Settings.Startable`): no step of it fails for a setting that is not there.
-/

set_option autoImplicit false

namespace MapExport

open Text (InAnyCase Spells Fits isBlankText)
open Workflow (Trace)

/-! ## Variables -/

/-- **An address on the web,** as far as it is looked at. -/
def IsWebUrl (url : String) : Prop := "http://".toList <+: url.toList ∨ "https://".toList <+: url.toList

instance (url : String) : Decidable (IsWebUrl url) := inferInstanceAs (Decidable (_ ∨ _))

namespace Environment

/-- **Whatever is given** for a variable is as it should be. It may be left out. -/
def Given (env : Environment) (key : String) (good : String → Prop) : Prop := ∀ v, env.get? key = some v → good v

/-- **A variable is there,** and is not blank. -/
def Present (env : Environment) (key : String) : Prop := ∃ v, env.get? key = some v ∧ isBlankText v = false

/-- **Which environments give settings.** -/
structure Acceptable (env : Environment) : Prop where
  /-- The store is one of two, and the database is what it is by itself. It needs two addresses. -/
  backend : env.Given "STORE_BACKEND" fun v => InAnyCase "postgres" v ∨ InAnyCase "memory" v
  required : env.Given "STORE_BACKEND" (InAnyCase "postgres") → env.Present "DATABASE_URL" ∧ env.Present "REDIS_URL"
  /-- Numbers are spelt as such, and fit their places. -/
  port : env.Given "SERVER_PORT" (Fits 1 16)
  workers : env.Given "WORKERS" (Fits 1 64)
  maxConnections : env.Given "DATABASE_MAX_CONNECTIONS" (Fits 0 32)
  smtpPort : env.Given "SMTP_PORT" fun v => isBlankText v = true ∨ Fits 0 16 v
  sweepInterval : env.Given "EXPIRATION_SWEEP_INTERVAL_SECONDS" (Fits 1 64)
  averageInterval : env.Given "SIZE_AVERAGE_INTERVAL_SECONDS" (Fits 1 64)
  /-- Truth values are spelt exactly, names in any letter case. -/
  smtpTls : env.Given "SMTP_TLS" fun v => v = "true" ∨ v = "false"
  disableTlsCheck : env.Given "DISABLE_SSL_VERIFICATION" fun v => v = "true" ∨ v = "false"
  presetPolicy : env.Given "PRESET_FAILURE_POLICY" fun v => InAnyCase "reject" v ∨ InAnyCase "defaults" v
  /-- Addresses are on the web. -/
  siteUrl : env.Given "SITE_URL" IsWebUrl
  counterUrl : env.Given "OVERPASS_API_URL" IsWebUrl
  geocodingUrl : env.Given "GEOCODING_AUTH_URL" fun v => isBlankText v = true ∨ IsWebUrl v
  /-- Who wants to send mail says by which server. -/
  mail : env.get? "EMAIL_PROVIDER" = some "smtp" → env.Present "SMTP_HOST"

variable {env : Environment} {key fallback : String}

theorem good_text_iff {good : String → Prop} (hfallback : good fallback) :
    good (env.text key fallback) ↔ env.Given key good := by
  unfold text Given
  cases env.get? key with
  | none => simp [hfallback]
  | some v => simp

theorem optional?_eq_some_iff {v : String} :
    env.optional? key = some v ↔ env.get? key = some v ∧ isBlankText v = false := by
  rw [optional?, Option.filter_eq_some_iff, Bool.not_eq_true']

theorem optional?_ne_none_iff : env.optional? key ≠ none ↔ env.Present key := by
  rw [Option.ne_none_iff_exists', Present]
  simp only [optional?_eq_some_iff]

theorem good_optional?_iff {good : String → Prop} :
    (∀ v, env.optional? key = some v → good v) ↔ env.Given key fun v => isBlankText v = true ∨ good v := by
  simp only [optional?_eq_some_iff, Given]
  refine forall_congr' fun v => ?_
  cases isBlankText v <;> simp

theorem parsed_eq_ok_iff {α : Type} {parse : String → Option α} {a : α} :
    env.parsed key fallback parse = .ok a ↔ parse (env.text key fallback) = some a := by
  unfold parsed
  cases parse (env.text key fallback) <;> simp

end Environment

theorem toOption_eq_some_iff {ε α : Type} {x : Except ε α} {a : α} : x.toOption = some a ↔ x = .ok a := by
  cases x <;> simp [Except.toOption]

/-! ## Words, numbers, addresses -/

theorem checkUrl_eq_ok_iff {url : String} : checkUrl url = .ok () ↔ IsWebUrl url := by
  rw [IsWebUrl, ← String.startsWith_string_iff, ← String.startsWith_string_iff, ← Bool.or_eq_true, checkUrl]
  split
  · next h => simp [h]
  · next h => simp [h]

theorem Text.exists_bool?_iff {v : String} : (∃ b, Text.bool? v = some b) ↔ v = "true" ∨ v = "false" := by
  unfold Text.bool?
  split
  · simp
  · simp
  · next htrue hfalse => simpa using ⟨htrue, hfalse⟩

theorem Backend.names_name : Keyed.Names name names where
  distinct := by decide
  own b := by cases b <;> decide
  only := by decide

theorem Backend.ofName_eq_ok_iff {v : String} {b : Backend} : ofName v = .ok b ↔ InAnyCase b.name v := by
  rw [← Text.lower_eq_iff (by cases b <;> decide), ofName]
  constructor
  · intro h
    split at h
    · next word found hfind =>
      cases h
      exact names_name.eq_of_find? hfind
    · cases h
  · intro hname
    rw [hname, names_name.find?_label]

theorem PresetPolicy.names_name : Keyed.Names name names where
  distinct := by decide
  own p := by cases p <;> decide
  only := by decide

theorem PresetPolicy.ofName_eq_ok_iff {v : String} {p : PresetPolicy} : ofName v = .ok p ↔ InAnyCase p.name v := by
  rw [← Text.lower_eq_iff (by cases p <;> decide), ofName]
  constructor
  · intro h
    split at h
    · next word found hfind =>
      cases h
      exact names_name.eq_of_find? hfind
    · cases h
  · intro hname
    rw [hname, names_name.find?_label]

theorem Environment.exists_optionalPort_iff {env : Environment} {key : String} :
    (∃ port, env.optionalPort key = .ok port) ↔ env.Given key fun v => isBlankText v = true ∨ Fits 0 16 v := by
  rw [← good_optional?_iff, optionalPort]
  cases env.optional? key with
  | none => simp
  | some v =>
    have hfits : Fits 0 16 v ↔ ∃ n, Text.number? (Text.maxBits 16) v = some n := by simp [Text.fits_iff]
    cases hport : Text.number? (Text.maxBits 16) v with
    | none => simp [hfits, hport]
    | some n => simp [hfits, hport]

/-- The name of a store, in any letter case, says which one it is. -/
theorem Backend.eq_of_inAnyCase {b b' : Backend} {v : String} (h : InAnyCase b.name v) (h' : InAnyCase b'.name v) :
    b = b' := by
  have hname : b.name.toList = b'.name.toList := h.symm.trans h'
  cases b <;> cases b' <;> first | rfl | exact absurd hname (by decide)

theorem Backend.exists_name_iff {v : String} :
    (∃ b : Backend, InAnyCase b.name v) ↔ InAnyCase "postgres" v ∨ InAnyCase "memory" v := by
  constructor
  · rintro ⟨⟨⟩, h⟩
    · exact .inl h
    · exact .inr h
  · rintro (h | h)
    · exact ⟨.postgres, h⟩
    · exact ⟨.memory, h⟩

theorem PresetPolicy.exists_name_iff {v : String} :
    (∃ p : PresetPolicy, InAnyCase p.name v) ↔ InAnyCase "reject" v ∨ InAnyCase "defaults" v := by
  constructor
  · rintro ⟨⟨⟩, h⟩
    · exact .inl h
    · exact .inr h
  · rintro (h | h)
    · exact ⟨.reject, h⟩
    · exact ⟨.defaults, h⟩

/-! ## Settings -/

namespace Settings

/-- **Settings that are read from an environment,** each for itself. -/
structure ReadFrom (s : Settings) (env : Environment) : Prop where
  backend : InAnyCase s.backend.name (env.text "STORE_BACKEND" "postgres")
  databaseUrl : s.databaseUrl = env.optional? "DATABASE_URL"
  redisUrl : s.redisUrl = env.optional? "REDIS_URL"
  required : s.backend = .postgres → s.databaseUrl ≠ none ∧ s.redisUrl ≠ none
  port : Spells (env.text "SERVER_PORT" "8080") s.port ∧ s.port < 2 ^ 16
  workers : Spells (env.text "WORKERS" "4") s.workers ∧ s.workers < 2 ^ 64
  maxConnections : Spells (env.text "DATABASE_MAX_CONNECTIONS" "20") s.maxConnections ∧ s.maxConnections < 2 ^ 32
  smtpPort : env.optionalPort "SMTP_PORT" = .ok s.smtpPort
  smtpTls : Text.bool? (env.text "SMTP_TLS" "true") = some s.smtpTls
  disableTlsCheck : Text.bool? (env.text "DISABLE_SSL_VERIFICATION" "false") = some s.disableTlsCheck
  presetPolicy : InAnyCase s.presetPolicy.name (env.text "PRESET_FAILURE_POLICY" "reject")
  sweepInterval : Spells (env.text "EXPIRATION_SWEEP_INTERVAL_SECONDS" "3600") s.sweepInterval ∧
    s.sweepInterval < 2 ^ 64
  averageInterval : Spells (env.text "SIZE_AVERAGE_INTERVAL_SECONDS" "86400") s.averageInterval ∧
    s.averageInterval < 2 ^ 64
  runMode : s.runMode = env.text "RUN_MODE" "development"
  host : s.host = env.text "SERVER_HOST" "0.0.0.0"
  logLevel : s.logLevel = env.text "LOG_LEVEL" "info"
  logFormat : s.logFormat = env.text "LOG_FORMAT" "json"
  queuePrefix : s.queuePrefix = env.text "REDIS_QUEUE_PREFIX" "eventkit:"
  siteUrl : s.siteUrl = env.text "SITE_URL" "http://localhost"
  defaultSender : s.defaultSender = env.text "DEFAULT_FROM_EMAIL" "Eventkit Team <eventkit.team@gmail.com>"
  mailProvider : s.mailProvider = env.text "EMAIL_PROVIDER" "log"
  smtpHost : s.smtpHost = env.optional? "SMTP_HOST"
  smtpUsername : s.smtpUsername = env.optional? "SMTP_USERNAME"
  smtpPassword : s.smtpPassword = env.optional? "SMTP_PASSWORD"
  counterUrl : s.counterUrl = env.text "OVERPASS_API_URL" "https://overpass-api.de/api/interpreter"
  geocodingUrl : s.geocodingUrl = env.optional? "GEOCODING_AUTH_URL"
  uploadRoot : s.uploadRoot = env.text "UPLOAD_ROOT" "./uploads"

/-- **Settings that go together.** -/
@[mk_iff]
structure Consistent (s : Settings) : Prop where
  port : 0 < s.port
  workers : 0 < s.workers
  siteUrl : IsWebUrl s.siteUrl
  counterUrl : IsWebUrl s.counterUrl
  geocodingUrl : ∀ url, s.geocodingUrl = some url → IsWebUrl url
  mail : s.mailProvider = "smtp" → s.smtpHost ≠ none
  sweepInterval : 0 < s.sweepInterval
  averageInterval : 0 < s.averageInterval

theorem checkRequired_eq_ok_iff {backend : Backend} {databaseUrl redisUrl : Option String} :
    checkRequired backend databaseUrl redisUrl = .ok () ↔
      (backend = .postgres → databaseUrl ≠ none ∧ redisUrl ≠ none) := by
  cases backend <;> cases databaseUrl <;> cases redisUrl <;> simp [checkRequired]

/-- **What is refused** ends it all. -/
theorem refuse_bind_eq_ok_iff {p : Prop} [Decidable p] {e : Failure} {rest : Except Failure Unit} :
    (if p then (do let _ ← (Except.error e : Except Failure Unit); rest) else rest) = .ok () ↔ ¬ p ∧ rest = .ok () := by
  by_cases hp : p
  · simp [hp, bind, Except.bind]
  · simp [hp]

theorem refuse_eq_ok_iff {p : Prop} [Decidable p] {e : Failure} :
    (if p then .error e else pure () : Except Failure Unit) = .ok () ↔ ¬ p := by
  by_cases hp : p
  · simp [hp]
  · simp [hp, pure, Except.pure]

theorem check_bind_eq_ok_iff {x rest : Except Failure Unit} :
    (do x; rest) = .ok () ↔ x = .ok () ∧ rest = .ok () := by
  rw [bind_eq_ok_iff]
  exact ⟨fun ⟨_, h⟩ => h, fun h => ⟨(), h⟩⟩

theorem check_eq_ok_iff {s : Settings} : s.check = .ok () ↔ s.Consistent := by
  rw [consistent_iff, check, refuse_bind_eq_ok_iff, refuse_bind_eq_ok_iff, check_bind_eq_ok_iff, check_bind_eq_ok_iff]
  simp only [checkUrl_eq_ok_iff, Nat.pos_iff_ne_zero]
  cases s.geocodingUrl with
  | none =>
    dsimp only
    rw [check_bind_eq_ok_iff, refuse_bind_eq_ok_iff, refuse_eq_ok_iff, not_or, not_and]
    simp
  | some url =>
    dsimp only
    rw [check_bind_eq_ok_iff, refuse_bind_eq_ok_iff, refuse_eq_ok_iff, not_or, not_and]
    simp [checkUrl_eq_ok_iff]

theorem read_eq_ok_iff {env : Environment} {s : Settings} : read env = .ok s ↔ s.ReadFrom env := by
  unfold read
  simp only [bind_eq_ok_iff, Environment.parsed_eq_ok_iff, Text.number?_eq_some_iff, toOption_eq_some_iff,
    Text.le_maxBits_iff, Backend.ofName_eq_ok_iff, PresetPolicy.ofName_eq_ok_iff]
  constructor
  · rintro ⟨backend, hbackend, ⟨⟩, hrequired, port, hport, workers, hworkers, connections, hconnections, smtpPort,
      hsmtpPort, tls, htls, disable, hdisable, policy, hpolicy, sweep, hsweep, average, haverage, hs⟩
    cases hs
    exact ⟨hbackend, rfl, rfl, checkRequired_eq_ok_iff.mp hrequired, hport, hworkers, hconnections, hsmtpPort, htls,
      hdisable, hpolicy, hsweep, haverage, rfl, rfl, rfl, rfl, rfl, rfl, rfl, rfl, rfl, rfl, rfl, rfl, rfl, rfl⟩
  · intro h
    refine ⟨s.backend, h.backend, (), ?_, s.port, h.port, s.workers, h.workers, s.maxConnections, h.maxConnections,
      s.smtpPort, h.smtpPort, s.smtpTls, h.smtpTls, s.disableTlsCheck, h.disableTlsCheck, s.presetPolicy,
      h.presetPolicy, s.sweepInterval, h.sweepInterval, s.averageInterval, h.averageInterval, ?_⟩
    · rw [← h.databaseUrl, ← h.redisUrl]
      exact checkRequired_eq_ok_iff.mpr h.required
    · rw [← h.databaseUrl, ← h.redisUrl, ← h.runMode, ← h.host, ← h.logLevel, ← h.logFormat, ← h.queuePrefix,
        ← h.siteUrl, ← h.defaultSender, ← h.mailProvider, ← h.smtpHost, ← h.smtpUsername, ← h.smtpPassword,
        ← h.counterUrl, ← h.geocodingUrl, ← h.uploadRoot]

theorem ofEnvironment_eq_ok_iff {env : Environment} {s : Settings} :
    ofEnvironment env = .ok s ↔ s.ReadFrom env ∧ s.Consistent := by
  rw [← read_eq_ok_iff, ← check_eq_ok_iff, ofEnvironment, bind_eq_ok_iff]
  constructor
  · rintro ⟨s', hread, hcheck⟩
    obtain ⟨⟨⟩, hcheck, hs⟩ := bind_eq_ok_iff.mp hcheck
    cases hs
    exact ⟨hread, hcheck⟩
  · rintro ⟨hread, hcheck⟩
    exact ⟨s, hread, bind_eq_ok_iff.mpr ⟨(), hcheck, rfl⟩⟩

variable {env : Environment} {s : Settings}

open Environment (good_text_iff good_optional?_iff optional?_ne_none_iff exists_optionalPort_iff)

/-- **Settings come from an acceptable environment.** -/
theorem ReadFrom.acceptable (h : s.ReadFrom env) (hs : s.Consistent) : env.Acceptable where
  backend := (good_text_iff (by decide)).mp (Backend.exists_name_iff.mp ⟨s.backend, h.backend⟩)
  required := by
    intro hgiven
    have hpostgres : InAnyCase "postgres" (env.text "STORE_BACKEND" "postgres") :=
      (good_text_iff (by decide)).mpr hgiven
    rw [← optional?_ne_none_iff, ← optional?_ne_none_iff, ← h.databaseUrl, ← h.redisUrl]
    exact h.required (Backend.eq_of_inAnyCase h.backend hpostgres)
  port := (good_text_iff (by decide)).mp ⟨s.port, h.port.1, hs.port, h.port.2⟩
  workers := (good_text_iff (by decide)).mp ⟨s.workers, h.workers.1, hs.workers, h.workers.2⟩
  maxConnections := (good_text_iff (by decide)).mp ⟨_, h.maxConnections.1, Nat.zero_le _, h.maxConnections.2⟩
  smtpPort := exists_optionalPort_iff.mp ⟨s.smtpPort, h.smtpPort⟩
  sweepInterval := (good_text_iff (by decide)).mp ⟨_, h.sweepInterval.1, hs.sweepInterval, h.sweepInterval.2⟩
  averageInterval := (good_text_iff (by decide)).mp ⟨_, h.averageInterval.1, hs.averageInterval, h.averageInterval.2⟩
  smtpTls := by
    rw [← good_text_iff (.inl rfl)]
    exact Text.exists_bool?_iff.mp ⟨s.smtpTls, h.smtpTls⟩
  disableTlsCheck := (good_text_iff (by decide)).mp (Text.exists_bool?_iff.mp ⟨s.disableTlsCheck, h.disableTlsCheck⟩)
  presetPolicy := (good_text_iff (by decide)).mp (PresetPolicy.exists_name_iff.mp ⟨s.presetPolicy, h.presetPolicy⟩)
  siteUrl := (good_text_iff (by decide)).mp (h.siteUrl ▸ hs.siteUrl)
  counterUrl := (good_text_iff (by decide)).mp (h.counterUrl ▸ hs.counterUrl)
  geocodingUrl := good_optional?_iff.mp (h.geocodingUrl ▸ hs.geocodingUrl)
  mail := by
    intro hsmtp
    rw [← optional?_ne_none_iff, ← h.smtpHost]
    apply hs.mail
    rw [h.mailProvider, Environment.text, hsmtp]
    rfl

/-- **An acceptable environment can be read.** -/
theorem exists_read (h : env.Acceptable) : ∃ s, read env = .ok s := by
  obtain ⟨backend, hbackend⟩ : ∃ b : Backend, InAnyCase b.name (env.text "STORE_BACKEND" "postgres") :=
    Backend.exists_name_iff.mpr ((good_text_iff (by decide)).mpr h.backend)
  have hrequired : backend = .postgres →
      env.optional? "DATABASE_URL" ≠ none ∧ env.optional? "REDIS_URL" ≠ none := by
    rintro rfl
    rw [optional?_ne_none_iff, optional?_ne_none_iff]
    exact h.required ((good_text_iff (by decide)).mp hbackend)
  obtain ⟨port, hport, -, hportLt⟩ : Fits 1 16 (env.text "SERVER_PORT" "8080") :=
    (good_text_iff (by decide)).mpr h.port
  obtain ⟨workers, hworkers, -, hworkersLt⟩ : Fits 1 64 (env.text "WORKERS" "4") :=
    (good_text_iff (by decide)).mpr h.workers
  obtain ⟨connections, hconnections, -, hconnectionsLt⟩ : Fits 0 32 (env.text "DATABASE_MAX_CONNECTIONS" "20") :=
    (good_text_iff (by decide)).mpr h.maxConnections
  obtain ⟨smtpPort, hsmtpPort⟩ := exists_optionalPort_iff.mpr h.smtpPort
  obtain ⟨tls, htls⟩ : ∃ b, Text.bool? (env.text "SMTP_TLS" "true") = some b :=
    Text.exists_bool?_iff.mpr ((good_text_iff (.inl rfl)).mpr h.smtpTls)
  obtain ⟨disable, hdisable⟩ : ∃ b, Text.bool? (env.text "DISABLE_SSL_VERIFICATION" "false") = some b :=
    Text.exists_bool?_iff.mpr ((good_text_iff (.inr rfl)).mpr h.disableTlsCheck)
  obtain ⟨policy, hpolicy⟩ : ∃ p : PresetPolicy, InAnyCase p.name (env.text "PRESET_FAILURE_POLICY" "reject") :=
    PresetPolicy.exists_name_iff.mpr ((good_text_iff (by decide)).mpr h.presetPolicy)
  obtain ⟨sweep, hsweep, -, hsweepLt⟩ : Fits 1 64 (env.text "EXPIRATION_SWEEP_INTERVAL_SECONDS" "3600") :=
    (good_text_iff (by decide)).mpr h.sweepInterval
  obtain ⟨average, haverage, -, haverageLt⟩ : Fits 1 64 (env.text "SIZE_AVERAGE_INTERVAL_SECONDS" "86400") :=
    (good_text_iff (by decide)).mpr h.averageInterval
  simp only [read, bind_eq_ok_iff, Environment.parsed_eq_ok_iff, Text.number?_eq_some_iff, toOption_eq_some_iff,
    Text.le_maxBits_iff, Backend.ofName_eq_ok_iff, PresetPolicy.ofName_eq_ok_iff]
  exact ⟨_, backend, hbackend, (), checkRequired_eq_ok_iff.mpr hrequired, port, ⟨hport, hportLt⟩, workers,
    ⟨hworkers, hworkersLt⟩, connections, ⟨hconnections, hconnectionsLt⟩, smtpPort, hsmtpPort, tls, htls, disable,
    hdisable, policy, hpolicy, sweep, ⟨hsweep, hsweepLt⟩, average, ⟨haverage, haverageLt⟩, rfl⟩

/-- A number that is read is no less than its numeral has to say. -/
theorem le_of_fits {least bits n : Nat} {v : String} (h : Fits least bits v) (hn : Spells v n) : least ≤ n := by
  obtain ⟨m, hm, hleast, -⟩ := h
  rw [hn.unique hm]
  exact hleast

/-- **What is read from an acceptable environment** goes together. -/
theorem ReadFrom.consistent (h : s.ReadFrom env) (ha : env.Acceptable) : s.Consistent where
  port := le_of_fits ((good_text_iff (by decide)).mpr ha.port) h.port.1
  workers := le_of_fits ((good_text_iff (by decide)).mpr ha.workers) h.workers.1
  siteUrl := h.siteUrl ▸ (good_text_iff (by decide)).mpr ha.siteUrl
  counterUrl := h.counterUrl ▸ (good_text_iff (by decide)).mpr ha.counterUrl
  geocodingUrl := h.geocodingUrl ▸ good_optional?_iff.mpr ha.geocodingUrl
  mail := by
    intro hsmtp
    rw [h.smtpHost, optional?_ne_none_iff]
    apply ha.mail
    rw [h.mailProvider, Environment.text] at hsmtp
    cases hgiven : env.get? "EMAIL_PROVIDER" with
    | none =>
      rw [hgiven] at hsmtp
      exact absurd hsmtp (by decide)
    | some v =>
      rw [hgiven] at hsmtp
      exact congrArg some hsmtp
  sweepInterval := le_of_fits ((good_text_iff (by decide)).mpr ha.sweepInterval) h.sweepInterval.1
  averageInterval := le_of_fits ((good_text_iff (by decide)).mpr ha.averageInterval) h.averageInterval.1

/-- **Acceptable environments** are those that give settings. -/
theorem exists_ofEnvironment_iff (env : Environment) : (∃ s, ofEnvironment env = .ok s) ↔ env.Acceptable := by
  constructor
  · rintro ⟨s, hs⟩
    obtain ⟨hread, hconsistent⟩ := ofEnvironment_eq_ok_iff.mp hs
    exact hread.acceptable hconsistent
  · intro h
    obtain ⟨s, hs⟩ := exists_read h
    have hread : s.ReadFrom env := read_eq_ok_iff.mp hs
    exact ⟨s, ofEnvironment_eq_ok_iff.mpr ⟨hread, hread.consistent h⟩⟩

end Settings

end MapExport
