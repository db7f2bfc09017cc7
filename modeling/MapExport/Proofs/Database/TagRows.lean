import MapExport.Database.Answers
import MapExport.Proofs.Workflow.Course

/-!
# Rows of tags

A tag is kept in a row of four columns, and of these only the name can be too much for the table: it may have a hundred
characters, and like every text it must not hold `U+0000`, which ends a text (`admits_tagRow`). A row that is too much
is refused, except that spaces beyond the last place of a name are cut off. So a database with these limits answers as
it would without them wherever no such row is given to it (`answerCreation_limited`), and refuses such a row
(`refused_of_not_taken`).
-/

set_option autoImplicit false

namespace MapExport.Database

open Workflow (CallsOnly Played callsOnly_call callsOnly_done callsOnly_pure)

/-! ## The table -/

/-- **The kinds of columns** of the table of tags: identifiers, texts of a limited length, and lists of texts. -/
inductive ColumnKind where
  | uid
  | text (most : Nat)
  | texts

/-- How the schema spells a kind of columns. -/
def ColumnKind.spelling : ColumnKind → String
  | uid => "UUID"
  | text most => "VARCHAR(" ++ toString most ++ ")"
  | texts => "TEXT[]"

/-- **A column** with the rules that it has besides. -/
structure Column where
  name : String
  kind : ColumnKind
  rules : String

/-- How the schema declares a column. -/
def Column.declaration (c : Column) : String := "    " ++ c.name ++ " " ++ c.kind.spelling ++ " " ++ c.rules

/-- **A table** with its columns. -/
structure TableLayout where
  name : String
  columns : List Column

namespace TableLayout

/-- The lines that declare columns, with a comma after each but the last. -/
def columnLines : List Column → List String
  | [] => []
  | [c] => [c.declaration]
  | c :: cs => (c.declaration ++ ",") :: columnLines cs

/-- **The lines of the schema** that declare a table. -/
def lines (t : TableLayout) : List String :=
  ("CREATE TABLE IF NOT EXISTS " ++ t.name ++ " (") :: (columnLines t.columns ++ [");"])

/-- **The statement that writes a row,** with a parameter for each column in its place. -/
def insertion (t : TableLayout) : String :=
  "INSERT INTO " ++ t.name ++ " (" ++ ", ".intercalate (t.columns.map (·.name)) ++ ") VALUES (" ++
    ", ".intercalate (t.columns.mapIdx fun i _ => "$" ++ toString (i + 1)) ++ ")"

end TableLayout

/-- **The table of tags.** -/
def tags : TableLayout where
  name := "tags"
  columns :=
    [⟨"id", .uid, "PRIMARY KEY"⟩,
      ⟨"job_uid", .uid, "NOT NULL REFERENCES jobs(uid) ON DELETE CASCADE"⟩,
      ⟨"name", .text 100, "NOT NULL"⟩,
      ⟨"geom_types", .texts, "NOT NULL"⟩]

/-- The schema declares this table, and a tag is written with a parameter for each of its columns. -/
theorem tags_declared : tags.lines <:+: schemaLines ∧ tags.insertion = Statement.insertTag.text := by
  constructor
  · decide +kernel
  · decide +kernel

/-! ## What fits into a column -/

/-- **A text that can be kept:** it does not hold `U+0000`. -/
def isText (s : String) : Bool := s.toList.all (· != '\x00')

/-- **Which texts are short enough** for a column of so many characters. -/
abbrev LengthRule := Nat → String → Bool

/-- A text has to be short enough as it is. -/
def LengthRule.whole : LengthRule := fun most s => s.length ≤ most

/-- A text may be too long by spaces, which are cut off. -/
def LengthRule.cut : LengthRule := fun most s => (s.toList.drop most).all (· == ' ')

/-- Whether a value is admitted to a column. -/
def ColumnKind.admits (short : LengthRule) : ColumnKind → Value → Bool
  | uid, .uid _ => true
  | text most, .text s => isText s && short most s
  | texts, .texts ss => ss.all isText
  | _, _ => false

/-- **Whether a row is admitted to a table:** it has a value for each column, and each value is admitted. -/
def TableLayout.admits (t : TableLayout) (short : LengthRule) (row : Row) : Bool :=
  t.columns.length == row.length && (t.columns.zip row).all fun (c, v) => c.kind.admits short v

/-- **A name that fits** into the table of tags as it is. -/
structure Fits (name : String) : Prop where
  text : '\x00' ∉ name.toList
  short : name.length ≤ 100

/-- **A name that is taken** into the table of tags, if need be without the spaces at its end. -/
structure Taken (name : String) : Prop where
  text : '\x00' ∉ name.toList
  short : ∀ c ∈ name.toList.drop 100, c = ' '

theorem isText_iff {s : String} : isText s = true ↔ '\x00' ∉ s.toList := by
  rw [isText, List.all_eq_true]
  constructor
  · intro h hmem
    exact absurd (h _ hmem) (by decide)
  · intro h c hc
    rw [bne_iff_ne]
    rintro rfl
    exact h hc

theorem fits_iff {name : String} : Fits name ↔ (isText name && LengthRule.whole 100 name) = true := by
  rw [Bool.and_eq_true, isText_iff, LengthRule.whole, decide_eq_true_eq]
  exact ⟨fun h => ⟨h.text, h.short⟩, fun h => ⟨h.1, h.2⟩⟩

theorem taken_iff {name : String} : Taken name ↔ (isText name && LengthRule.cut 100 name) = true := by
  simp only [Bool.and_eq_true, isText_iff, LengthRule.cut, List.all_eq_true, beq_iff_eq]
  exact ⟨fun h => ⟨h.text, h.short⟩, fun h => ⟨h.1, h.2⟩⟩

/-- What fits is taken. -/
theorem Fits.taken {name : String} (h : Fits name) : Taken name where
  text := h.text
  short := by
    have hnothing : name.toList.drop 100 = [] := by
      rw [List.drop_eq_nil_iff, String.length_toList]
      exact h.short
    simp [hnothing]

/-! ## The row of a tag -/

/-- **The row of a tag,** as it is given to the database. -/
def tagRow (tag : Tag) : Row :=
  [.uid tag.id, .uid tag.job, .text tag.name, .texts (tag.kinds.map FeatureKind.name)]

theorem insertTag_eq_write (tag : Tag) : insertTag tag = write .insertTag (tagRow tag) := rfl

/-- **Only the name of a tag** can be too much: the table has room for every identifier and every kind. -/
theorem admits_tagRow (short : LengthRule) (tag : Tag) :
    tags.admits short (tagRow tag) = (isText tag.name && short 100 tag.name) := by
  have hname (kind : FeatureKind) : isText kind.name = true := by
    cases kind <;> decide
  have hkinds : (tag.kinds.map FeatureKind.name).all isText = true := by
    simp [hname]
  simp [TableLayout.admits, tags, tagRow, ColumnKind.admits, hkinds]

/-! ## A database with these limits -/

variable {σ α : Type}

/-- **A database with limits** refuses a row of a tag that is not taken, for a reason that it gives. Everything else it
answers as `send` says. -/
def limited (reason : Row → String) (send : σ → (c : Command) → Reply c × σ) (s : σ) (c : Command) : Reply c × σ :=
  if c.statement = .insertTag ∧ tags.admits .cut c.params = false then (.error (reason c.params), s)
  else send s c

/-- How a database, a reader of presets and a queue answer a call of the creation of a job. -/
def answerCreation (send : σ → (c : Command) → Reply c × σ) (preset : String → Except Failure TagTable)
    (dispatch : σ → Uid → Except Failure Unit × σ) (s : σ) (c : JobCall) : c.Reply × σ :=
  (answerJob (m := StateM σ) (fun c s => send s c) (fun path s => (preset path, s)) (fun job s => dispatch s job)
    c).run s

/-- **The creation of a job** with these as collaborators. -/
def createOver (send : σ → (c : Command) → Reply c × σ) (preset : String → Except Failure TagTable)
    (dispatch : σ → Uid → Except Failure Unit × σ) (rules : JobRules) (stamp : Stamp) (owner : Uid) (r : JobRequest)
    (s : σ) : Played JobCall JobCall.Reply σ (Except Failure JobDetail) :=
  (Job.create rules stamp owner r).run.play (answerCreation send preset dispatch) s

/-! ### Rows that are refused -/

/-- A command of a transaction whose refusal is the end of the transaction. -/
theorem run_orRollback_write (statement : Statement) (params : List Value) :
    (orRollback (write statement params)).run =
      .call ⟨statement, params⟩ fun reply =>
        match (reply : Except String Answer) with
        | .ok _ => .done (.ok ())
        | .error reason => .call ⟨.rollback, []⟩ fun _ => .done (.error (refusal reason)) := by
  refine congrArg (Workflow.call (Command.mk statement params)) (funext fun reply => ?_)
  cases reply with
  | ok _ => rfl
  | error _ => rfl

section

variable {send : σ → (c : Command) → Reply c × σ} {preset : String → Except Failure TagTable}
  {dispatch : σ → Uid → Except Failure Unit × σ} {reason : Row → String}

/-- **A tag whose name is not taken** is refused. -/
theorem refused_of_not_taken {tag : Tag} (h : ¬ Taken tag.name) (s : σ) :
    (answerCreation (limited reason send) preset dispatch s (.insertTag tag)).1 =
      .error (refusal (reason (tagRow tag))) := by
  have hfull : tags.admits .cut (tagRow tag) = false := by
    rw [taken_iff, Bool.not_eq_true] at h
    rw [admits_tagRow, h]
  have hsent : limited reason send s ⟨.insertTag, tagRow tag⟩ = (.error (reason (tagRow tag)), s) :=
    if_pos ⟨rfl, hfull⟩
  show Prod.fst (((orRollback (insertTag tag)).run.run (m := StateM σ) fun c s => limited reason send s c).run s) = _
  rw [Workflow.run_eq_play, insertTag_eq_write, run_orRollback_write, Workflow.play, hsent]
  rfl

end

/-! ### Everything else -/

section

variable {P : Command → Prop}

theorem callsOnly_execute {statement : Statement} {params : List Value} (h : P ⟨statement, params⟩) :
    CallsOnly P (execute statement params) :=
  callsOnly_call h

theorem callsOnly_query {statement : Statement} {params : List Value} {read : Row → Except Failure α}
    (h : P ⟨statement, params⟩) : CallsOnly P (query statement params read) :=
  (callsOnly_execute h).bind fun _ => callsOnly_done P _

theorem callsOnly_config {uid : Uid} (h : P ⟨.config, [.uid uid]⟩) : CallsOnly P (config uid) := by
  refine (callsOnly_execute h).bind fun answer => ?_
  cases answer.rows with
  | nil => exact callsOnly_done P _
  | cons row rows => exact callsOnly_done P _

theorem callsOnly_write {statement : Statement} {params : List Value} (h : P ⟨statement, params⟩) :
    CallsOnly P (write statement params) :=
  (callsOnly_execute h).bind fun _ => callsOnly_pure P ()

theorem callsOnly_writeEach {statement : Statement} {params : α → List Value} (items : List α)
    (h : ∀ a, P ⟨statement, params a⟩) : CallsOnly P (writeEach statement params items) := by
  induction items with
  | nil => exact callsOnly_pure P ()
  | cons a rest ih => exact (callsOnly_write (h a)).bind fun _ => ih

theorem callsOnly_orRollback {step : FlowM α} (hstep : CallsOnly P step) (h : P ⟨.rollback, []⟩) :
    CallsOnly P (orRollback step) := by
  refine hstep.lift.bind fun result => ?_
  cases result with
  | ok a => exact callsOnly_pure P a
  | error e =>
    have hrollback : CallsOnly P rollback := callsOnly_call h
    exact hrollback.bind fun _ => callsOnly_done P _

end

/-- **A command that no limit stands against:** if it writes a tag, the row is taken. -/
def Command.Passes (c : Command) : Prop := c.statement = .insertTag → tags.admits .cut c.params = true

/-- **Without a tag that is too much** the limits change nothing. -/
theorem answerCreation_limited {send : σ → (c : Command) → Reply c × σ} {preset : String → Except Failure TagTable}
    {dispatch : σ → Uid → Except Failure Unit × σ} {reason : Row → String} (s : σ) (c : JobCall)
    (h : ∀ tag, c = .insertTag tag → Taken tag.name) :
    answerCreation (limited reason send) preset dispatch s c = answerCreation send preset dispatch s c := by
  have halike (s : σ) (c : Command) (hpasses : c.Passes) : limited reason send s c = send s c := by
    refine if_neg ?_
    rintro ⟨hinsert, hfull⟩
    rw [hpasses hinsert] at hfull
    cases hfull
  -- Each call comes to a few commands, and only the writing of a tag comes to one that could be refused.
  cases c with
  | formatsBySlugs slugs =>
    have hcalls : CallsOnly Command.Passes (formatsBySlugs slugs) :=
      (callsOnly_query nofun).bind fun _ => callsOnly_pure _ _
    exact hcalls.run_congr halike s
  | providersBySlugs slugs =>
    have hcalls : CallsOnly Command.Passes (providersBySlugs slugs) :=
      (callsOnly_query nofun).bind fun _ => callsOnly_pure _ _
    exact hcalls.run_congr halike s
  | config uid => exact (callsOnly_config nofun).run_congr halike s
  | preset path => rfl
  | begin => exact (callsOnly_orRollback (callsOnly_write nofun) nofun).run_congr halike s
  | insertJob job => exact (callsOnly_orRollback (callsOnly_write nofun) nofun).run_congr halike s
  | attachFormats job formats =>
    exact (callsOnly_orRollback (callsOnly_writeEach formats fun _ => nofun) nofun).run_congr halike s
  | insertTag tag =>
    have hpasses : Command.Passes ⟨.insertTag, tagRow tag⟩ := by
      intro _
      rw [admits_tagRow]
      exact taken_iff.mp (h tag rfl)
    exact (callsOnly_orRollback (callsOnly_write hpasses) nofun).run_congr halike s
  | attachConfig job config place => exact (callsOnly_orRollback (callsOnly_write nofun) nofun).run_congr halike s
  | attachProviders job providers =>
    exact (callsOnly_orRollback (callsOnly_writeEach providers fun _ => nofun) nofun).run_congr halike s
  | commit => exact (callsOnly_orRollback (callsOnly_write nofun) nofun).run_congr halike s
  | dispatch job => rfl

end MapExport.Database
