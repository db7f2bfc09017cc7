import MapExport.Store.Basic

/-!
# Transactions of the store

What is written for a new job is staged first. Nothing of it is seen in the store before the commit,
which puts everything in its place at once; a transaction that is given up leaves no trace.
-/

set_option autoImplicit false

namespace MapExport

/-- **What a transaction has staged.** -/
structure Staged where
  jobs : List Job
  formats : List (Uid × String)
  tags : List Tag
  configs : List (Uid × Int × Uid)
  providers : List (Uid × Uid)

namespace Staged

/-- Nothing is staged yet. -/
def empty : Staged := ⟨[], [], [], [], []⟩

/-- Stages a job. -/
def insertJob (s : Store) (t : Staged) (job : Job) : Except Failure Staged := do
  s.guard .insertJob
  .ok { t with jobs := t.jobs ++ [job] }

/-- Stages the formats of a job. -/
def attachFormats (s : Store) (t : Staged) (job : Uid) (formats : List Format) :
    Except Failure Staged := do
  s.guard .attachFormats
  .ok { t with formats := t.formats ++ formats.map fun f => (job, f.slug) }

/-- Stages a tag. -/
def insertTag (s : Store) (t : Staged) (tag : Tag) : Except Failure Staged := do
  s.guard .insertTag
  .ok { t with tags := t.tags ++ [tag] }

/-- Stages a configuration of a job at a place. The same one cannot be staged twice for a job. -/
def attachConfig (s : Store) (t : Staged) (job : Uid) (config : Config) (place : Int) :
    Except Failure Staged := do
  s.guard .attachConfig
  if t.configs.any fun (j, _, c) => j == job && c == config.uid then
    .error (.database ("duplicate config " ++ config.uid.text ++ " for job " ++ job.text))
  else .ok { t with configs := t.configs ++ [(job, place, config.uid)] }

/-- Stages the providers of a job. -/
def attachProviders (s : Store) (t : Staged) (job : Uid) (providers : List Provider) :
    Except Failure Staged := do
  s.guard .attachProviders
  .ok { t with providers := t.providers ++ providers.map fun p => (job, p.uid) }

/-- The store with everything staged in its place. -/
def apply (t : Staged) (s : Store) : Store :=
  { s with
    jobs := t.jobs.foldl (fun jobs j => jobs.set j.uid j) s.jobs
    jobFormats := t.formats.foldl (fun links (j, slug) => links.push j slug) s.jobFormats
    tags := s.tags ++ t.tags
    jobConfigs := t.configs.foldl (fun links (j, link) => links.push j link) s.jobConfigs
    jobProviders := t.providers.foldl (fun links (j, p) => links.push j p) s.jobProviders }

/-- **The commit** of a transaction. -/
def commit (t : Staged) (s : Store) : Except Failure Store := do
  s.guard .commit
  .ok (t.apply s)

end Staged

end MapExport
