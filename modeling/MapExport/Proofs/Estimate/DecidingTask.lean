import Mathlib
import MapExport.Estimate.FileSize

/-!
# The task that decides

The records of a run hold many tasks, and the size that the run tells about a provider is that of a single one: in the
first record with the name of the provider, the first task that is not silent. A task is silent if its file holds no
map data or if it made none; a task that made a file of unknown size is not, so it decides, and then the run tells
nothing although a later task may have a size.

Whatever is done to the records and tasks around the deciding one, it goes on deciding, and the size that is told
stays the same (`one_task_decides`).
-/

set_option autoImplicit false

namespace MapExport

open Relation (ReflTransGen)

/-- The size of the file that a task made, if it is known. -/
def Task.size? (t : Task) : Option Float := t.result.bind TaskResult.size

namespace Estimate

/-- **A silent task:** one of those that are ignored, or one that made no file. -/
def isSilent (t : Task) : Bool := ignoredTasks.contains t.name || t.result.isNone

/-- **The deciding task:** in the first record with the name of the provider, the first task that is not silent. -/
inductive Decides (provider : String) : List TaskRecord → Task → Prop where
  | intro {others later : List TaskRecord} {record : TaskRecord} {silent rest : List Task} {task : Task} :
    (∀ r ∈ others, r.name ≠ provider) → record.name = provider → record.tasks = silent ++ task :: rest →
    (∀ t ∈ silent, isSilent t = true) → isSilent task = false → Decides provider (others ++ record :: later) task

/-- **Editing tasks** around the one that decides: silent tasks come, go or give way to other silent ones, and anything
happens after a task that is not silent. -/
inductive TaskEdit : List Task → List Task → Prop where
  | silent (before old new after : List Task) :
    (∀ t ∈ old ++ new, isSilent t = true) → TaskEdit (before ++ (old ++ after)) (before ++ (new ++ after))
  | later (before : List Task) (task : Task) (old new : List Task) : isSilent task = false →
    TaskEdit (before ++ task :: old) (before ++ task :: new)

/-- **Editing records** around the deciding task of a provider: records with other names come, go or give way to other
such records, anything happens after a record with the name of the provider, and in one with this name the tasks are
edited and the rest is changed. -/
inductive RecordEdit (provider : String) : List TaskRecord → List TaskRecord → Prop where
  | others (before old new after : List TaskRecord) :
    (∀ r ∈ old ++ new, r.name ≠ provider) → RecordEdit provider (before ++ (old ++ after)) (before ++ (new ++ after))
  | later (before : List TaskRecord) {record : TaskRecord} (old new : List TaskRecord) : record.name = provider →
    RecordEdit provider (before ++ record :: old) (before ++ record :: new)
  | tasks (before : List TaskRecord) {record record' : TaskRecord} (after : List TaskRecord) :
    record.name = provider → record'.name = provider → TaskEdit record.tasks record'.tasks →
    RecordEdit provider (before ++ record :: after) (before ++ record' :: after)

/-! ## Finding it -/

/-- The first task that is not silent. -/
def firstTelling? (tasks : List Task) : Option Task := tasks.find? fun t => !isSilent t

/-- The deciding task, as it is found. -/
def decidingTask? (records : List TaskRecord) (provider : String) : Option Task :=
  (records.find? (·.name == provider)).bind fun record => firstTelling? record.tasks

section

variable {provider : String} {records records' : List TaskRecord} {tasks tasks' : List Task}

theorem firstTelling?_eq_some_iff {task : Task} : firstTelling? tasks = some task ↔
    isSilent task = false ∧ ∃ silent rest, tasks = silent ++ task :: rest ∧ ∀ t ∈ silent, isSilent t = true := by
  simp [firstTelling?, List.find?_eq_some_iff_append]

theorem find?_name_eq_some_iff {record : TaskRecord} : records.find? (·.name == provider) = some record ↔
    record.name = provider ∧ ∃ others later, records = others ++ record :: later ∧ ∀ r ∈ others, r.name ≠ provider := by
  simp [List.find?_eq_some_iff_append]

/-- **The task that is found** is the one that decides, so there is at most one of these. -/
theorem decidingTask?_eq_some_iff {task : Task} :
    decidingTask? records provider = some task ↔ Decides provider records task := by
  rw [decidingTask?, Option.bind_eq_some_iff]
  constructor
  · rintro ⟨record, hrecord, htask⟩
    obtain ⟨hname, others, later, rfl, hothers⟩ := find?_name_eq_some_iff.mp hrecord
    obtain ⟨htelling, silent, rest, htasks, hsilent⟩ := firstTelling?_eq_some_iff.mp htask
    exact .intro hothers hname htasks hsilent htelling
  · rintro ⟨hothers, hname, htasks, hsilent, htelling⟩
    exact ⟨_, find?_name_eq_some_iff.mpr ⟨hname, _, _, rfl, hothers⟩,
      firstTelling?_eq_some_iff.mpr ⟨htelling, _, _, htasks, hsilent⟩⟩

/-- The result that decides is that of the first task that is not silent. -/
theorem decidingResult?_eq (tasks : List Task) : decidingResult? tasks = (firstTelling? tasks).bind Task.result := by
  induction tasks with
  | nil => rfl
  | cons t tasks ih =>
    rw [decidingResult?, List.filter_cons, firstTelling?, List.find?_cons, isSilent]
    cases hignored : ignoredTasks.contains t.name with
    | true => exact ih
    | false => cases hresult : t.result with
      | none =>
        -- A task that made no file passes the filter, and the search then goes past it.
        rw [Bool.not_false, if_pos rfl, List.findSome?_cons, hresult]
        exact ih
      | some result =>
        rw [Bool.not_false, if_pos rfl, List.findSome?_cons, hresult]
        exact hresult.symm

/-- **What a run tells** is told by the deciding task. -/
theorem fileSize_eq (records : List TaskRecord) (provider : String) (atLeast : Float) :
    fileSize records provider atLeast = gigabytes atLeast ((decidingTask? records provider).bind Task.size?) := by
  rw [fileSize, decidingTask?]
  cases records.find? (·.name == provider) with
  | none => rfl
  | some record =>
    simp only [Option.bind_some, decidingResult?_eq, Option.bind_assoc]
    rfl

/-! ## Editing around it -/

theorem TaskEdit.firstTelling?_eq (h : TaskEdit tasks tasks') : firstTelling? tasks' = firstTelling? tasks := by
  have hsilent {silent : List Task} (h : ∀ t ∈ silent, isSilent t = true) : firstTelling? silent = none := by
    rw [firstTelling?, List.find?_eq_none]
    intro t ht
    rw [h t ht]
    exact Bool.false_ne_true
  cases h with
  | silent before old new after h =>
    have hold := hsilent fun t ht => h t (List.mem_append_left _ ht)
    have hnew := hsilent fun t ht => h t (List.mem_append_right _ ht)
    rw [firstTelling?] at hold hnew
    simp only [firstTelling?, List.find?_append, hold, hnew, Option.none_or]
  | later before task old new h =>
    have hfound (rest : List Task) : (task :: rest).find? (fun t => !isSilent t) = some task :=
      List.find?_cons_of_pos (by rw [h, Bool.not_false])
    simp only [firstTelling?, List.find?_append, hfound]

/-- **An edit** leaves the deciding task as it is. -/
theorem RecordEdit.decidingTask?_eq (h : RecordEdit provider records records') :
    decidingTask? records' provider = decidingTask? records provider := by
  have hpasses {others : List TaskRecord} (h : ∀ r ∈ others, r.name ≠ provider) :
      others.find? (·.name == provider) = none := by
    rw [List.find?_eq_none]
    intro r hr
    rw [beq_iff_eq]
    exact h r hr
  have hfound {record : TaskRecord} (h : record.name = provider) (rest : List TaskRecord) :
      (record :: rest).find? (·.name == provider) = some record :=
    List.find?_cons_of_pos (beq_iff_eq.mpr h)
  cases h with
  | others before old new after h =>
    have hold := hpasses fun r hr => h r (List.mem_append_left _ hr)
    have hnew := hpasses fun r hr => h r (List.mem_append_right _ hr)
    simp only [decidingTask?, List.find?_append, hold, hnew, Option.none_or]
  | later before old new hname => simp only [decidingTask?, List.find?_append, hfound hname]
  | tasks before after hname hname' htasks =>
    simp only [decidingTask?, List.find?_append, hfound hname, hfound hname']
    -- A record before it decides as it did; otherwise the two have the same first telling task.
    cases before.find? (·.name == provider) with
    | some record => rfl
    | none => exact htasks.firstTelling?_eq

theorem decidingTask?_of_edits (h : ReflTransGen (RecordEdit provider) records records') :
    decidingTask? records' provider = decidingTask? records provider := by
  induction h with
  | refl => rfl
  | tail _ hedit ih => rw [hedit.decidingTask?_eq, ih]

end

/-- **One task decides.** If its size is known, is more than nothing and large enough, the run tells this size, in
gigabytes; with any other deciding task, and with none, it tells zero. Nothing else counts: records that have the same
deciding task tell the same, and it stays the deciding task however the records and tasks around it are edited. -/
theorem one_task_decides (records : List TaskRecord) (provider : String) (atLeast : Float) :
    (∀ task, Decides provider records task →
      (∀ size, task.size? = some size → size > 0.0 → size ≥ atLeast →
        fileSize records provider atLeast = size * 0.001) ∧
      ((∀ size, task.size? = some size → ¬ (size > 0.0 ∧ size ≥ atLeast)) →
        fileSize records provider atLeast = 0.0)) ∧
    ((∀ task, ¬ Decides provider records task) → fileSize records provider atLeast = 0.0) ∧
    (∀ records', (∀ task, Decides provider records' task ↔ Decides provider records task) →
      fileSize records' provider atLeast = fileSize records provider atLeast) ∧
    ∀ records', ReflTransGen (RecordEdit provider) records records' →
      (∀ task, Decides provider records' task ↔ Decides provider records task) ∧
        fileSize records' provider atLeast = fileSize records provider atLeast := by
  refine ⟨?_, ?_, ?_, ?_⟩
  · intro task hdecides
    rw [fileSize_eq, decidingTask?_eq_some_iff.mpr hdecides, Option.bind_some]
    constructor
    · intro size hsize hpositive hlarge
      rw [hsize]
      exact if_pos ⟨hpositive, hlarge⟩
    · intro hother
      cases hsize : task.size? with
      | none => rfl
      | some size => exact if_neg (hother size hsize)
  · intro hnone
    have hfound : decidingTask? records provider = none := by
      rw [Option.eq_none_iff_forall_ne_some]
      intro task htask
      exact hnone task (decidingTask?_eq_some_iff.mp htask)
    rw [fileSize_eq, hfound]
    rfl
  · intro records' hsame
    have hfound : decidingTask? records' provider = decidingTask? records provider := by
      ext task
      rw [decidingTask?_eq_some_iff, decidingTask?_eq_some_iff, hsame]
    rw [fileSize_eq, fileSize_eq, hfound]
  · intro records' hedits
    have hfound := decidingTask?_of_edits hedits
    refine ⟨?_, by rw [fileSize_eq, fileSize_eq, hfound]⟩
    intro task
    rw [← decidingTask?_eq_some_iff, ← decidingTask?_eq_some_iff, hfound]

/-- A task for trials, and the size of what it made. -/
def Task.trial (name : String) (made : Option (Option Float)) : Task := ⟨⟨3⟩, name, made.map TaskResult.mk⟩

/-- A record for trials. -/
def TaskRecord.trial (name : String) (tasks : List Task) : TaskRecord := ⟨⟨1⟩, ⟨2⟩, name, "osm", .epoch, tasks⟩

/-- Of four tasks the third one decides: the first is ignored and the second made no file. What comes after it, in this
record and in the next, does not count, not even where the size of what the third one made is not known. -/
theorem trial_one_task_decides :
    let imagery := TaskRecord.trial "Imagery" [Task.trial "GeoTIFF" (some (some 900.0))]
    let passed := [Task.trial "Project file (.zip)" (some (some 900.0)), Task.trial "Shapefile" none]
    let after := Task.trial "Geopackage" (some (some 800.0))
    let records (size : Option Float) := [imagery,
      TaskRecord.trial "Roads" (passed ++ [Task.trial "KML" (some size), after]), TaskRecord.trial "Roads" [after]]
    let edited (size : Option Float) := [TaskRecord.trial "Roads" [Task.trial "KML" (some size)]]
    (∀ size, Decides "Roads" (records size) (Task.trial "KML" (some size))) ∧
      (∀ size, ReflTransGen (RecordEdit "Roads") (records size) (edited size)) ∧
      fileSize (edited (some 300.0)) "Roads" 0.5 = 300.0 * 0.001 ∧ fileSize (edited none) "Roads" 0.5 = 0.0 := by
  intro imagery passed after records edited
  have hpassed : ∀ t ∈ passed, isSilent t = true := by decide
  have hdecides (size : Option Float) : Decides "Roads" (records size) (Task.trial "KML" (some size)) :=
    @Decides.intro "Roads" [imagery] _ _ passed _ _ (by decide) rfl rfl hpassed rfl
  have hedits (size : Option Float) : ReflTransGen (RecordEdit "Roads") (records size) (edited size) := by
    let deciding := Task.trial "KML" (some size)
    have hrecord (tasks tasks' : List Task) (h : TaskEdit tasks tasks') (others : List TaskRecord) :
        RecordEdit "Roads" (others ++ [TaskRecord.trial "Roads" tasks]) (others ++ [TaskRecord.trial "Roads" tasks']) :=
      .tasks others [] rfl rfl h
    have hlast : RecordEdit "Roads" (records size) [imagery, TaskRecord.trial "Roads" (passed ++ [deciding, after])] :=
      .later [imagery] _ [] rfl
    have hafter := hrecord _ _ (.later passed deciding [after] [] rfl) [imagery]
    have hbefore := hrecord _ _ (.silent [] passed [] [deciding] hpassed) [imagery]
    have hothers : RecordEdit "Roads" [imagery, TaskRecord.trial "Roads" [deciding]] (edited size) :=
      .others [] [imagery] [] _ (by decide)
    exact (((ReflTransGen.single hlast).tail hafter).tail hbefore).tail hothers
  refine ⟨hdecides, hedits, ?_, ?_⟩
  · obtain ⟨htells, -, -, hframe⟩ := one_task_decides (records (some 300.0)) "Roads" 0.5
    rw [(hframe _ (hedits _)).2]
    exact (htells _ (hdecides _)).1 300.0 rfl (by decide +kernel) (by decide +kernel)
  · obtain ⟨htells, -, -, hframe⟩ := one_task_decides (records none) "Roads" 0.5
    rw [(hframe _ (hedits _)).2]
    exact (htells _ (hdecides _)).2 nofun

end Estimate

end MapExport
