import MapExport.Proofs.Settings.Acceptance

/-!
# Starting with settings

Starting up relies on what settings fulfil together. With the settings of an acceptable environment no step fails for
a setting that is not there: whatever ends a start is the refusal of the database, of the queue or of the system. And a
start that keeps its data in a database always asks for the queue.
-/

set_option autoImplicit false

namespace MapExport

open Workflow (Trace trace_bind_iff trace_bind_ok_iff trace_call_iff trace_pure_iff course_done_iff)

/-- A call of a start, with its answer. -/
abbrev StartupEvent := Workflow.Event StartupCall StartupCall.Reply

/-- **The reason of a refusal,** if a call was refused. -/
def StartupEvent.refusal? : StartupEvent → Option String
  | ⟨.openDatabase _ _, reply⟩ => match (reply : Except Failure Unit) with
    | .error e => some e.message
    | .ok () => none
  | ⟨.openQueue _, reply⟩ => match (reply : Except Failure Unit) with
    | .error e => some e.message
    | .ok () => none
  | ⟨.listen _ _ _, reply⟩ => match (reply : Except String Unit) with
    | .error reason => some reason
    | .ok () => none
  | ⟨.log _ _, _⟩ => none

namespace Startup

variable {α β : Type}

/-- **A part of a start that fails only where it is refused** what it asks for. -/
def FailsWhenRefused (x : StartupFlow α) : Prop :=
  ∀ log reason, Trace x log (.error reason) → ∃ e ∈ log, StartupEvent.refusal? e = some reason

/-- **A part of a start that warns of nothing.** -/
def WarnsOfNothing (x : StartupFlow α) : Prop :=
  ∀ log result, Trace x log result → ∀ line, ⟨.log .warn line, ()⟩ ∉ log

theorem FailsWhenRefused.bind {x : StartupFlow α} {k : α → StartupFlow β} (hx : FailsWhenRefused x)
    (hk : ∀ a, FailsWhenRefused (k a)) : FailsWhenRefused (x >>= k) := by
  intro log reason h
  rcases trace_bind_iff.mp h with ⟨_, ⟨⟩, hfirst⟩ | ⟨first, second, a, rfl, -, hsecond⟩
  · exact hx log reason hfirst
  · obtain ⟨e, he, hreason⟩ := hk a second reason hsecond
    exact ⟨e, List.mem_append_right _ he, hreason⟩

theorem WarnsOfNothing.bind {x : StartupFlow α} {k : α → StartupFlow β} (hx : WarnsOfNothing x)
    (hk : ∀ a, WarnsOfNothing (k a)) : WarnsOfNothing (x >>= k) := by
  intro log result h line hline
  rcases trace_bind_iff.mp h with ⟨_, rfl, hfirst⟩ | ⟨first, second, a, rfl, hfirst, hsecond⟩
  · exact hx log _ hfirst line hline
  · rcases List.mem_append.mp hline with hline | hline
    · exact hx first _ hfirst line hline
    · exact hk a second result hsecond line hline

/-- To log a line always ends well, and logs no other line. -/
theorem trace_log {s : Settings} {level : LogLevel} {line : String} {log : List StartupEvent}
    {result : Except String Unit} (h : Trace (Startup.log s level line) log result) :
    result = .ok () ∧ ∀ e ∈ log, e = ⟨.log level line, ()⟩ := by
  unfold Startup.log at h
  split at h
  · obtain ⟨⟨⟩, rfl, rfl⟩ := trace_call_iff.mp h
    exact ⟨rfl, fun e he => List.mem_singleton.mp he⟩
  · obtain ⟨rfl, rfl⟩ := trace_pure_iff.mp h
    exact ⟨rfl, fun e he => absurd he List.not_mem_nil⟩

theorem failsWhenRefused_log (s : Settings) (level : LogLevel) (line : String) :
    FailsWhenRefused (Startup.log s level line) := by
  intro log reason h
  cases (trace_log h).1

theorem failsWhenRefused_pure (a : α) : FailsWhenRefused (pure a : StartupFlow α) := by
  intro log reason h
  cases (trace_pure_iff.mp h).2

theorem warnsOfNothing_log (s : Settings) {level : LogLevel} (hlevel : level ≠ .warn) (line : String) :
    WarnsOfNothing (Startup.log s level line) := by
  intro log result h line' hline
  injection (trace_log h).2 _ hline with hcall
  injection hcall with hwarn
  exact hlevel hwarn.symm

theorem warnsOfNothing_pure (a : α) : WarnsOfNothing (pure a : StartupFlow α) := by
  intro log result h line hline
  rw [(trace_pure_iff.mp h).1] at hline
  cases hline

theorem warnsOfNothing_call {c : StartupCall} {tell : c.Reply → Except String α} (hc : ∀ line, c ≠ .log .warn line) :
    WarnsOfNothing (ExceptT.mk (.call c fun reply => .done (tell reply))) := by
  intro log result h line hline
  obtain ⟨reply, rfl, -⟩ := trace_call_iff.mp h
  injection List.mem_singleton.mp hline with hcall
  exact hc line hcall.symm

/-! ## Step by step -/

theorem failsWhenRefused_listen (s : Settings) : FailsWhenRefused (listen s) := by
  intro log reason h
  obtain ⟨reply, rfl, hreply⟩ := trace_call_iff.mp h
  refine ⟨_, List.mem_singleton_self _, ?_⟩
  simp only [StartupEvent.refusal?, ← hreply]

theorem failsWhenRefused_openQueue (s : Settings) : FailsWhenRefused (openQueue s) := by
  unfold openQueue
  split
  · next url hurl =>
    intro log reason h
    obtain ⟨reply, rfl, hreply⟩ := trace_call_iff.mp h
    refine ⟨_, List.mem_singleton_self _, ?_⟩
    cases (reply : Except Failure Unit) with
    | ok u => cases hreply
    | error e =>
      cases hreply
      rfl
  · exact failsWhenRefused_log _ _ _

/-- What can be had already is had without a call. -/
theorem orFail_ok (a : α) : orFail (.ok a) = (pure a : StartupFlow α) := rfl

theorem failsWhenRefused_openStore {s : Settings} (h : s.backend = .postgres → ∃ url, s.requireDatabaseUrl = .ok url) :
    FailsWhenRefused (openStore s) := by
  unfold openStore
  split
  · next hbackend =>
    obtain ⟨url, hurl⟩ := h hbackend
    rw [hurl, orFail_ok, pure_bind]
    intro log reason h
    obtain ⟨reply, rfl, hreply⟩ := trace_call_iff.mp h
    refine ⟨_, List.mem_singleton_self _, ?_⟩
    cases (reply : Except Failure Unit) with
    | ok u => cases hreply
    | error e =>
      cases hreply
      rfl
  · exact failsWhenRefused_log _ _ _

theorem failsWhenRefused_openMailer {s : Settings}
    (h : s.mailProvider = "smtp" → ∃ server, MailServer.ofSettings s = .ok server) :
    FailsWhenRefused (openMailer s) := by
  unfold openMailer
  split
  · next hsmtp =>
    obtain ⟨server, hserver⟩ := h hsmtp
    rw [hserver, orFail_ok, pure_bind]
    exact failsWhenRefused_log _ _ _
  · exact failsWhenRefused_pure ()

theorem warnsOfNothing_orFail (r : Except Failure α) : WarnsOfNothing (orFail r) := by
  intro log result h line hline
  rw [(course_done_iff.mp h).1] at hline
  cases hline

theorem warnsOfNothing_openStore {s : Settings} (h : s.backend = .postgres) : WarnsOfNothing (openStore s) := by
  unfold openStore
  rw [h]
  exact (warnsOfNothing_orFail _).bind fun url => warnsOfNothing_call nofun

theorem warnsOfNothing_openQueue {s : Settings} {url : String} (h : s.redisUrl = some url) :
    WarnsOfNothing (openQueue s) := by
  unfold openQueue
  rw [h]
  exact warnsOfNothing_call nofun

theorem warnsOfNothing_listen (s : Settings) : WarnsOfNothing (listen s) := warnsOfNothing_call nofun

theorem warnsOfNothing_openMailer (s : Settings) : WarnsOfNothing (openMailer s) := by
  unfold openMailer
  split
  · exact (warnsOfNothing_orFail _).bind fun server => warnsOfNothing_log s (by decide) _
  · exact warnsOfNothing_pure ()

theorem trace_openQueue_ok {s : Settings} {url : String} (h : s.redisUrl = some url) {log : List StartupEvent}
    (hqueue : Trace (openQueue s) log (.ok ())) : log = [⟨.openQueue url, .ok ()⟩] := by
  unfold openQueue at hqueue
  rw [h] at hqueue
  obtain ⟨reply, rfl, hreply⟩ := trace_call_iff.mp hqueue
  cases (reply : Except Failure Unit) with
  | ok u => rfl
  | error e => cases hreply

end Startup

/-! ## All together -/

/-- **Settings that a start can rely on.** -/
structure Settings.Startable (s : Settings) : Prop where
  /-- What keeps its data in a database has its address, and the one of the queue. -/
  database : s.backend = .postgres → ∃ url, s.requireDatabaseUrl = .ok url
  queue : s.backend = .postgres → ∃ url, s.redisUrl = some url
  /-- What sends mail has a server for it. -/
  mailer : s.mailProvider = "smtp" → ∃ server, MailServer.ofSettings s = .ok server
  /-- A start fails only where it is refused what it asks for. -/
  refused : Startup.FailsWhenRefused (Startup.start s)
  /-- A start that keeps its data in a database is never without a queue: it does not say so, and at its end the
  queue is there. -/
  published : s.backend = .postgres → Startup.WarnsOfNothing (Startup.start s) ∧
    ∀ log, Trace (Startup.start s) log (.ok ()) → ∃ url, s.redisUrl = some url ∧ ⟨.openQueue url, .ok ()⟩ ∈ log

theorem Settings.ReadFrom.startable {s : Settings} {env : Environment} (h : s.ReadFrom env) (hs : s.Consistent) :
    s.Startable := by
  have hdatabase : s.backend = .postgres → ∃ url, s.requireDatabaseUrl = .ok url := by
    intro hbackend
    obtain ⟨url, hurl⟩ := Option.ne_none_iff_exists'.mp (h.required hbackend).1
    exact ⟨url, by rw [requireDatabaseUrl, hurl]⟩
  have hqueue : s.backend = .postgres → ∃ url, s.redisUrl = some url := fun hbackend =>
    Option.ne_none_iff_exists'.mp (h.required hbackend).2
  have hmailer : s.mailProvider = "smtp" → ∃ server, MailServer.ofSettings s = .ok server := by
    intro hsmtp
    obtain ⟨host, hhost⟩ := Option.ne_none_iff_exists'.mp (hs.mail hsmtp)
    exact ⟨_, by rw [MailServer.ofSettings, hhost]⟩
  refine ⟨hdatabase, hqueue, hmailer, ?_, ?_⟩
  · unfold Startup.start
    refine (Startup.failsWhenRefused_log _ _ _).bind fun _ => ?_
    refine (Startup.failsWhenRefused_log _ _ _).bind fun _ => ?_
    refine (Startup.failsWhenRefused_openStore hdatabase).bind fun _ => ?_
    refine (Startup.failsWhenRefused_openQueue s).bind fun _ => ?_
    refine (Startup.failsWhenRefused_openMailer hmailer).bind fun _ => ?_
    refine (Startup.failsWhenRefused_listen s).bind fun _ => ?_
    refine (Startup.failsWhenRefused_log _ _ _).bind fun _ => ?_
    exact Startup.failsWhenRefused_log _ _ _
  · intro hbackend
    obtain ⟨url, hurl⟩ := hqueue hbackend
    constructor
    · unfold Startup.start
      refine (Startup.warnsOfNothing_log s (by decide) _).bind fun _ => ?_
      refine (Startup.warnsOfNothing_log s (by decide) _).bind fun _ => ?_
      refine (Startup.warnsOfNothing_openStore hbackend).bind fun _ => ?_
      refine (Startup.warnsOfNothing_openQueue hurl).bind fun _ => ?_
      refine (Startup.warnsOfNothing_openMailer s).bind fun _ => ?_
      refine (Startup.warnsOfNothing_listen s).bind fun _ => ?_
      refine (Startup.warnsOfNothing_log s (by decide) _).bind fun _ => ?_
      exact Startup.warnsOfNothing_log s (by decide) _
    · intro log h
      refine ⟨url, hurl, ?_⟩
      unfold Startup.start at h
      obtain ⟨-, log, _, rfl, -, h⟩ := trace_bind_ok_iff.mp h
      obtain ⟨-, log, _, rfl, -, h⟩ := trace_bind_ok_iff.mp h
      obtain ⟨-, log, _, rfl, -, h⟩ := trace_bind_ok_iff.mp h
      obtain ⟨asked, rest, ⟨⟩, rfl, hasked, -⟩ := trace_bind_ok_iff.mp h
      rw [Startup.trace_openQueue_ok hurl hasked]
      simp

/-- **An environment gives settings** just if it is acceptable, and a start can rely on the settings that it gives. -/
theorem acceptable_environments_start (env : Environment) :
    ((∃ s, Settings.ofEnvironment env = .ok s) ↔ env.Acceptable) ∧
      ∀ s, Settings.ofEnvironment env = .ok s → s.Startable := by
  refine ⟨Settings.exists_ofEnvironment_iff env, ?_⟩
  intro s hs
  obtain ⟨hread, hconsistent⟩ := Settings.ofEnvironment_eq_ok_iff.mp hs
  exact hread.startable hconsistent

/-- An environment for trials. -/
def Environment.trial : Environment :=
  [ ("STORE_BACKEND", "Postgres"), ("DATABASE_URL", "postgres://db"), ("REDIS_URL", "redis://queue"),
    ("SERVER_PORT", "+080"), ("EMAIL_PROVIDER", "smtp"), ("SMTP_HOST", "mail.example"), ("SMTP_PORT", " ") ]

theorem trial_acceptable_environment :
    ∃ s, Settings.ofEnvironment Environment.trial = .ok s ∧ s.backend = .postgres ∧ s.mailProvider = "smtp" ∧
      s.port = 80 ∧ s.Startable := by
  have heval : (Settings.ofEnvironment .trial).toOption.map (fun s => (s.backend, s.mailProvider, s.port)) =
      some (.postgres, "smtp", 80) := by decide +kernel
  obtain ⟨s, hs, hfields⟩ := Option.map_eq_some_iff.mp heval
  have hok : Settings.ofEnvironment .trial = .ok s := eq_ok_of_toOption hs
  injection hfields with hbackend hfields
  injection hfields with hprovider hport
  exact ⟨s, hok, hbackend, hprovider, hport, (acceptable_environments_start .trial).2 s hok⟩

end MapExport
