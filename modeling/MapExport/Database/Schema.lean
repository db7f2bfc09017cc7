/-!
# The schema

The tables that the service keeps its data in. The first line of the schema is a comment, so its lines
have to stay lines.
-/

set_option autoImplicit false

namespace MapExport.Database

/-- The lines of the schema. -/
def schemaLines : List String :=
  [ "-- Schéma initial EventKit",
    "",
    "CREATE TABLE IF NOT EXISTS users (",
    "    id UUID PRIMARY KEY,",
    "    username VARCHAR(150) NOT NULL UNIQUE,",
    "    email VARCHAR(254)",
    ");",
    "",
    "CREATE TABLE IF NOT EXISTS export_formats (",
    "    slug VARCHAR(20) PRIMARY KEY,",
    "    name VARCHAR(100) NOT NULL,",
    "    description TEXT NOT NULL DEFAULT ''",
    ");",
    "",
    "CREATE TABLE IF NOT EXISTS export_configs (",
    "    uid UUID PRIMARY KEY,",
    "    name VARCHAR(255) NOT NULL,",
    "    config_type VARCHAR(20) NOT NULL CHECK (config_type IN ('PRESET', 'TRANSLATION', 'TRANSFORM')),",
    "    upload VARCHAR(255) NOT NULL,",
    "    published BOOLEAN NOT NULL DEFAULT FALSE,",
    "    created_at TIMESTAMPTZ NOT NULL DEFAULT NOW()",
    ");",
    "",
    "CREATE TABLE IF NOT EXISTS data_providers (",
    "    uid UUID PRIMARY KEY,",
    "    name VARCHAR(100) NOT NULL,",
    "    slug VARCHAR(40) NOT NULL UNIQUE,",
    "    size_estimate_constant DOUBLE PRECISION",
    ");",
    "",
    "CREATE TABLE IF NOT EXISTS jobs (",
    "    uid UUID PRIMARY KEY,",
    "    name VARCHAR(100) NOT NULL,",
    "    description VARCHAR(1000) NOT NULL,",
    "    geometry JSONB NOT NULL,",
    "    user_id UUID NOT NULL,",
    "    created_at TIMESTAMPTZ NOT NULL DEFAULT NOW(),",
    "    published BOOLEAN NOT NULL DEFAULT FALSE",
    ");",
    "",
    "CREATE TABLE IF NOT EXISTS job_formats (",
    "    job_uid UUID NOT NULL REFERENCES jobs(uid) ON DELETE CASCADE,",
    "    format_slug VARCHAR(20) NOT NULL REFERENCES export_formats(slug),",
    "    PRIMARY KEY (job_uid, format_slug)",
    ");",
    "",
    "CREATE TABLE IF NOT EXISTS job_configs (",
    "    job_uid UUID NOT NULL REFERENCES jobs(uid) ON DELETE CASCADE,",
    "    config_uid UUID NOT NULL REFERENCES export_configs(uid),",
    "    position INTEGER NOT NULL,",
    "    PRIMARY KEY (job_uid, config_uid)",
    ");",
    "",
    "CREATE TABLE IF NOT EXISTS job_providers (",
    "    job_uid UUID NOT NULL REFERENCES jobs(uid) ON DELETE CASCADE,",
    "    provider_uid UUID NOT NULL REFERENCES data_providers(uid),",
    "    PRIMARY KEY (job_uid, provider_uid)",
    ");",
    "",
    "CREATE TABLE IF NOT EXISTS tags (",
    "    id UUID PRIMARY KEY,",
    "    job_uid UUID NOT NULL REFERENCES jobs(uid) ON DELETE CASCADE,",
    "    name VARCHAR(100) NOT NULL,",
    "    geom_types TEXT[] NOT NULL",
    ");",
    "",
    "CREATE TABLE IF NOT EXISTS export_runs (",
    "    uid UUID PRIMARY KEY,",
    "    job_uid UUID NOT NULL REFERENCES jobs(uid) ON DELETE CASCADE,",
    "    user_id UUID NOT NULL,",
    "    status VARCHAR(20) NOT NULL,",
    "    created_at TIMESTAMPTZ NOT NULL DEFAULT NOW(),",
    "    expiration TIMESTAMPTZ NOT NULL,",
    "    notified TIMESTAMPTZ",
    ");",
    "",
    "CREATE TABLE IF NOT EXISTS provider_task_records (",
    "    uid UUID PRIMARY KEY,",
    "    run_uid UUID NOT NULL REFERENCES export_runs(uid) ON DELETE CASCADE,",
    "    name VARCHAR(100) NOT NULL,",
    "    slug VARCHAR(40) NOT NULL,",
    "    created_at TIMESTAMPTZ NOT NULL DEFAULT NOW()",
    ");",
    "",
    "CREATE TABLE IF NOT EXISTS export_task_records (",
    "    uid UUID PRIMARY KEY,",
    "    provider_task_uid UUID NOT NULL REFERENCES provider_task_records(uid) ON DELETE CASCADE,",
    "    name VARCHAR(100) NOT NULL,",
    "    position INTEGER NOT NULL,",
    "    has_result BOOLEAN NOT NULL DEFAULT FALSE,",
    "    result_size DOUBLE PRECISION",
    ");",
    "",
    "CREATE INDEX IF NOT EXISTS idx_tags_job_uid ON tags(job_uid);",
    "CREATE INDEX IF NOT EXISTS idx_export_runs_expiration ON export_runs(expiration);",
    "CREATE INDEX IF NOT EXISTS idx_export_runs_status_created ON export_runs(status, created_at DESC);",
    "CREATE INDEX IF NOT EXISTS idx_provider_task_records_run ON provider_task_records(run_uid);" ]

/-- **The schema** as one text. -/
def schema : String := "\n".intercalate schemaLines

/-- The version that the schema is recorded under. -/
def schemaVersion : Int := 1

end MapExport.Database
