import MapExport.Proofs.Job.Resolution
import MapExport.Text.Utf8

/-!
# What a preset gives

A table of tags that comes from a preset is ordered by name, because reading puts each entry in its place and
keeps the last of each name; so no name stands in it twice, however often the file repeats it. Entries without a
name or without a kind are refused. The default table is of the same sort, so the tags of a job are, whichever table
they come from.
-/

set_option autoImplicit false

namespace MapExport

/-! ## Tables in documents -/

namespace Json

/-- **Ordered by name,** each name once. -/
def Ordered {α : Type} (entries : List (String × α)) : Prop := (entries.map (·.1)).Pairwise (· < ·)

/-- No name stands twice in an ordered table. -/
theorem Ordered.nodup {α : Type} {entries : List (String × α)} (h : Ordered entries) :
    (entries.map (·.1)).Nodup := by
  refine List.Pairwise.imp ?_ h
  intro name other hlt hsame
  rw [hsame] at hlt
  exact String.lt_irrefl other hlt

variable {α σ : Type}

/-- Putting an entry among others adds its name and no other. -/
theorem Codec.mem_putEntry {entries : List (String × α)} {name other : String} {a : α}
    (h : other ∈ (Codec.putEntry name a entries).map (·.1)) :
    other = name ∨ other ∈ entries.map (·.1) := by
  induction entries with
  | nil => exact .inl (List.mem_singleton.mp h)
  | cons e rest ih =>
    obtain ⟨n, b⟩ := e
    rw [Codec.putEntry] at h
    split at h
    · rcases List.mem_cons.mp h with h | h
      · exact .inl h
      · exact .inr h
    · split at h
      · rcases List.mem_cons.mp h with h | h
        · exact .inl h
        · exact .inr (List.mem_cons_of_mem _ h)
      · rcases List.mem_cons.mp h with h | h
        · exact .inr (h ▸ List.mem_cons_self)
        · exact (ih h).imp id (List.mem_cons_of_mem _)

/-- **Putting an entry** among others keeps the order. -/
theorem Codec.ordered_putEntry {entries : List (String × α)} (name : String) (a : α)
    (h : Ordered entries) : Ordered (Codec.putEntry name a entries) := by
  induction entries with
  | nil => exact List.pairwise_singleton _ _
  | cons e rest ih =>
    obtain ⟨n, b⟩ := e
    obtain ⟨hhead, htail⟩ := List.pairwise_cons.mp h
    rw [Codec.putEntry]
    split
    · next hlt =>
      refine List.pairwise_cons.mpr ⟨fun other hother => ?_, h⟩
      rcases List.mem_cons.mp hother with rfl | hother
      · exact hlt
      · exact String.lt_trans hlt (hhead other hother)
    · next hge =>
      split
      · next hsame =>
        subst hsame
        exact h
      · next hne =>
        have hlt : n < name := Std.lt_of_le_of_ne (String.not_lt.mp hge) (Ne.symm hne)
        refine List.pairwise_cons.mpr ⟨fun other hother => ?_, ih htail⟩
        rcases Codec.mem_putEntry hother with rfl | hother
        · exact hlt
        · exact hhead other hother

/-- **What every member keeps** is kept by reading a record. -/
theorem readMembers_keeps {member : σ → String → Symbols → Except Fault (σ × Symbols)} {P : σ → Prop}
    (hmember : ∀ state name cs state' rest, P state → member state name cs = .ok (state', rest) → P state')
    {fuel : Nat} {first : Bool} {state state' : σ} {cs rest : Symbols} (hstate : P state)
    (h : readMembers member fuel first state cs = .ok (state', rest)) : P state' := by
  induction fuel generalizing first state cs with
  | zero => cases h
  | succ fuel ih =>
    rw [readMembers] at h
    obtain ⟨⟨name?, afterName⟩, -, h⟩ := bind_eq_ok_iff.mp h
    cases name? with
    | none =>
      cases h
      exact hstate
    | some name =>
      obtain ⟨⟨next, afterMember⟩, hread, hrest⟩ := bind_eq_ok_iff.mp h
      exact ih (hmember state name afterName next afterMember hstate hread) hrest

/-- **A table that is read is ordered.** -/
theorem Codec.ordered_of_ofText {c : Codec α} {content : String} {entries : List (String × α)}
    (h : c.table.ofText content = .ok entries) : Ordered entries := by
  have hentry : ∀ levels state name cs state' rest, Ordered state →
      Codec.readEntry c levels state name cs = .ok (state', rest) → Ordered state' := by
    intro levels state name cs state' rest hstate hread
    obtain ⟨afterColon, -, hvalue⟩ := bind_eq_ok_iff.mp hread
    obtain ⟨⟨a, afterValue⟩, -, hput⟩ := bind_eq_ok_iff.mp hvalue
    cases hput
    exact Codec.ordered_putEntry name a hstate
  obtain ⟨⟨read, rest⟩, hread, hwhole⟩ := bind_eq_ok_iff.mp h
  -- After the table nothing but blanks may follow, and what was read is given as it is.
  change (if (skipSpaces rest).isEmpty then Except.ok read else .error Fault.trailingCharacters) = _ at hwhole
  split at hwhole
  case isFalse => cases hwhole
  cases hwhole
  obtain ⟨start, -, hmembers⟩ := bind_eq_ok_iff.mp hread
  split at hmembers
  · cases hmembers
  · have hempty : Ordered ([] : List (String × α)) := List.Pairwise.nil
    exact readMembers_keeps (hentry _) hempty hmembers
  · cases hmembers

end Json

/-! ## Tables of tags -/

/-- **A sound table of tags:** no name twice, and no entry that selects nothing. -/
structure TagTable.Sound (table : TagTable) : Prop where
  names : (table.map (·.1)).Nodup
  entries : ∀ entry ∈ table, Preset.isIdle entry = false

/-- The tags of a job bear the names of its table. -/
theorem Tag.map_name_ofTable (ids : Nat → Uid) (job : Uid) (table : TagTable) :
    (Tag.ofTable ids job table).map (·.name) = table.map (·.1) := by
  refine List.ext_getElem? fun i => ?_
  simp [Tag.ofTable, Function.comp_def]

/-- So what holds of all names in a table holds of the names of the tags. -/
theorem Tag.forall_mem_ofTable_iff {ids : Nat → Uid} {job : Uid} {table : TagTable} {p : String → Prop} :
    (∀ tag ∈ Tag.ofTable ids job table, p tag.name) ↔ ∀ entry ∈ table, p entry.1 := by
  have hnames := Tag.map_name_ofTable ids job table
  rw [← List.forall_mem_map (f := Tag.name) (P := p), hnames, List.forall_mem_map]

/-- **A preset that can be read** gives a sound table. -/
theorem Preset.sound_of_ofText {content : String} {table : TagTable}
    (h : Preset.ofText content = .ok table) : table.Sound := by
  rw [Preset.ofText] at h
  split at h
  · cases h
  · next read hread =>
    split at h
    · cases h
    · next hidle =>
      cases h
      refine ⟨(Json.Codec.ordered_of_ofText hread).nodup, fun entry hentry => ?_⟩
      exact Bool.eq_false_iff.mpr (List.find?_eq_none.mp hidle entry hentry)

/-- **The default table** is sound, and not empty. -/
theorem Preset.sound_defaultTable : TagTable.Sound Preset.defaultTable where
  names := by decide
  entries := by decide

/-- **The tags of a job** are sound and there are some, if those of presets that can be read are sound. -/
theorem Job.sound_of_tagsOf {rules : JobRules} {read : String → Except Failure TagTable}
    (hread : ∀ path table, read path = .ok table → table.Sound) {config : Option Config}
    {table : TagTable} (h : Job.tagsOf rules read config = .ok table) : table ≠ [] ∧ table.Sound := by
  have hdefault : Preset.defaultTable ≠ [] ∧ TagTable.Sound Preset.defaultTable :=
    ⟨List.cons_ne_nil _ _, Preset.sound_defaultTable⟩
  cases config with
  | none =>
    cases h
    exact hdefault
  | some preset =>
    rcases read_of_tableOf h with rfl | ⟨hpreset, hsome⟩
    · exact hdefault
    · exact ⟨hsome, hread _ _ hpreset⟩

/-- **Reading presets from files,** where `files` tells what is in the file at a path, or why it cannot be
read. -/
def Preset.fromFiles (files : String → Except Failure (List UInt8)) (path : String) :
    Except Failure TagTable := do
  let bytes ← files path
  match Text.textOfBytes? bytes with
  | some content => Preset.ofText content
  | none => .error (.file Upload.Fault.notText.message)

theorem Preset.sound_of_fromFiles {files : String → Except Failure (List UInt8)} (path : String)
    (table : TagTable) (h : Preset.fromFiles files path = .ok table) : table.Sound := by
  obtain ⟨bytes, -, hcontent⟩ := bind_eq_ok_iff.mp h
  split at hcontent
  · exact Preset.sound_of_ofText hcontent
  · cases hcontent

end MapExport
