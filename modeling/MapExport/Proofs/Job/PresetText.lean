import MapExport.Proofs.Json.Documents
import MapExport.Proofs.Json.Series

/-!
# What can be read as a preset

A table of tags that selects something with each of its entries is read back from its text; of any other table the
first entry that selects nothing is named. And no text is read as a preset but a record of lists of kinds, from which
each name has the last of its values (`presets_are_read`).
-/

set_option autoImplicit false

namespace MapExport

open Json

namespace Preset

/-- **An entry that selects something:** it has a name in which there is something to be seen, and a kind. -/
structure Selects (entry : String × List FeatureKind) : Prop where
  name : ∃ c ∈ entry.1.toList, Text.isBlank c = false
  kinds : entry.2 ≠ []

/-- **How a preset is spelled:** a record, with a list of kinds for each name. -/
def spelling : Spelling (List (String × List FeatureKind)) :=
  ((Spelling.choice FeatureKind.name).series '[' ']').member.series '\x7b' '\x7d'

theorem isIdle_eq_false_iff {entry : String × List FeatureKind} : isIdle entry = false ↔ Selects entry := by
  rw [isIdle, Bool.or_eq_false_iff, Text.isBlankText_eq_false_iff, List.isEmpty_eq_false_iff]
  exact ⟨fun h => ⟨h.1, h.2⟩, fun h => ⟨h.name, h.kinds⟩⟩

theorem isIdle_eq_true_iff {entry : String × List FeatureKind} : isIdle entry = true ↔ ¬ Selects entry := by
  rw [← isIdle_eq_false_iff, Bool.not_eq_false]

/-- **What is found in an ordered table** is the least of its sort. -/
theorem le_of_find? {table : TagTable} (h : Ordered table) {p : String × List FeatureKind → Bool}
    {entry other : String × List FeatureKind} (hfind : table.find? p = some entry) (hother : other ∈ table)
    (hp : p other = true) : entry.1 ≤ other.1 := by
  obtain ⟨-, before, after, rfl, hbefore⟩ := List.find?_eq_some_iff_append.mp hfind
  rcases List.mem_append.mp hother with hother | hother
  · have hnot := hbefore other hother
    rw [hp] at hnot
    exact absurd hnot Bool.false_ne_true
  rcases List.mem_cons.mp hother with rfl | hother
  · exact String.le_refl _
  · rw [Ordered, List.map_append, List.pairwise_append, List.map_cons, List.pairwise_cons] at h
    have hlt : entry.1 < other.1 := h.2.1.1 other.1 (List.mem_map_of_mem hother)
    exact String.not_lt.mp (String.lt_asymm hlt)

/-- A text that is read as a table is refused if an entry is found that selects nothing. -/
theorem ofText_of_find? {content : String} {table : TagTable} {entry : String × List FeatureKind}
    (h : TagTable.codec.ofText content = .ok table) (hfind : table.find? isIdle = some entry) :
    ofText content = .error (.unreadable
      ("preset entry '" ++ entry.1 ++ "' must have a name and at least one geometry type")) := by
  simp only [ofText, h, hfind]

theorem ofText_of_find?_none {content : String} {table : TagTable} (h : TagTable.codec.ofText content = .ok table)
    (hfind : table.find? isIdle = none) : ofText content = .ok table := by
  simp only [ofText, h, hfind]

/-- **A preset is read** if it is read as a table whose entries select something. -/
theorem ofText_eq_ok_iff {content : String} {table : TagTable} :
    ofText content = .ok table ↔ TagTable.codec.ofText content = .ok table ∧ ∀ entry ∈ table, Selects entry := by
  cases hread : TagTable.codec.ofText content with
  | error e =>
    refine iff_of_false ?_ ?_
    · intro h
      rw [ofText, hread] at h
      cases h
    · rintro ⟨hsame, -⟩
      cases hsame
  | ok read =>
    cases hfind : read.find? isIdle with
    | some entry =>
      rw [ofText_of_find? hread hfind]
      refine iff_of_false ?_ ?_
      · intro h
        cases h
      · rintro ⟨hsame, hselects⟩
        obtain rfl := Except.ok.inj hsame
        exact isIdle_eq_true_iff.mp (List.find?_some hfind) (hselects entry (List.mem_of_find?_eq_some hfind))
    | none =>
      have hselects : ∀ entry ∈ read, Selects entry := fun entry hentry =>
        isIdle_eq_false_iff.mp (Bool.eq_false_iff.mpr (List.find?_eq_none.mp hfind entry hentry))
      rw [ofText_of_find?_none hread hfind]
      constructor
      · intro h
        obtain rfl := Except.ok.inj h
        exact ⟨rfl, hselects⟩
      · rintro ⟨hsame, -⟩
        rw [Except.ok.inj hsame]

/-- **Of a table that was printed** the least entry that selects nothing is named. -/
theorem ofText_render_of_idle {table : TagTable} (h : Ordered table) {idle : String × List FeatureKind}
    (hmem : idle ∈ table) (hidle : ¬ Selects idle) : ∃ entry ∈ table, ¬ Selects entry ∧
      (∀ other ∈ table, ¬ Selects other → entry.1 ≤ other.1) ∧
      ofText (TagTable.codec.print table).render = .error (.unreadable
        ("preset entry '" ++ entry.1 ++ "' must have a name and at least one geometry type")) := by
  have hread : TagTable.codec.ofText (TagTable.codec.print table).render = .ok table :=
    (TagTable.readsBack h).ofText_render (by decide)
  cases hfind : table.find? isIdle with
  | none => exact absurd (isIdle_eq_true_iff.mpr hidle) (List.find?_eq_none.mp hfind idle hmem)
  | some entry =>
    refine ⟨entry, List.mem_of_find?_eq_some hfind, isIdle_eq_true_iff.mp (List.find?_some hfind), ?_, ?_⟩
    · intro other hother hnot
      exact le_of_find? h hfind hother (isIdle_eq_true_iff.mpr hnot)
    · exact ofText_of_find? hread hfind

/-- **What is read as a preset** is spelled as one. -/
theorem spelled_of_ofText {content : String} {table : TagTable} (h : TagTable.codec.ofText content = .ok table) :
    ∃ members, spelling.padded members content.toList ∧ Ordered table ∧
      ∀ name kinds, (name, kinds) ∈ table ↔ Codec.LastOf members name kinds := by
  have hkinds : FeatureKind.codec.list.OnlySpelled ((Spelling.choice FeatureKind.name).series '[' ']') :=
    Codec.list_onlySpelled (Codec.choice_onlySpelled FeatureKind.names_name)
  obtain ⟨members, rfl, hmembers⟩ := Codec.table_ofText_eq_ok hkinds h
  exact ⟨members, hmembers, Codec.ordered_entriesOf members, fun name kinds => Codec.mem_entriesOf_iff⟩

end Preset

/-- **What can be read as a preset.** A table is read back from its text if each of its entries selects something, and
else it is refused, with the least name whose entry selects nothing. A text that is read as a preset is a record of
lists of kinds; the table that is read is ordered by name, each name has the last of its values, and each entry selects
something. -/
theorem presets_are_read :
    (∀ table : TagTable, Ordered table →
      ((∀ entry ∈ table, Preset.Selects entry) →
        Preset.ofText (TagTable.codec.print table).render = .ok table) ∧
      ((∃ entry ∈ table, ¬ Preset.Selects entry) → ∃ entry ∈ table, ¬ Preset.Selects entry ∧
        (∀ other ∈ table, ¬ Preset.Selects other → entry.1 ≤ other.1) ∧
        Preset.ofText (TagTable.codec.print table).render = .error (.unreadable
          ("preset entry '" ++ entry.1 ++ "' must have a name and at least one geometry type")))) ∧
    ∀ content table, Preset.ofText content = .ok table → ∃ members,
      Preset.spelling.padded members content.toList ∧ Ordered table ∧
      (∀ name kinds, (name, kinds) ∈ table ↔ Codec.LastOf members name kinds) ∧
      ∀ entry ∈ table, Preset.Selects entry := by
  constructor
  · intro table hordered
    constructor
    · intro hselects
      exact Preset.ofText_eq_ok_iff.mpr ⟨(TagTable.readsBack hordered).ofText_render (by decide), hselects⟩
    · rintro ⟨idle, hmem, hidle⟩
      exact Preset.ofText_render_of_idle hordered hmem hidle
  · intro content table h
    obtain ⟨hread, hselects⟩ := Preset.ofText_eq_ok_iff.mp h
    obtain ⟨members, hmembers, hordered, hlast⟩ := Preset.spelled_of_ofText hread
    exact ⟨members, hmembers, hordered, hlast, hselects⟩

/-- A table with a quoted name is read back, and spelled as a preset; of two entries that select nothing the one
without a name is named, because it comes first. -/
theorem trial_presets_are_read :
    let table : TagTable := [("name=\"Le Port\"", [.point, .polygon])]
    let idle : TagTable := [("", [.line]), ("building", []), ("highway", [.line])]
    (Preset.ofText (TagTable.codec.print table).render = .ok table ∧
      ∃ members, Preset.spelling.padded members (TagTable.codec.print table).render.toList) ∧
    Preset.ofText (TagTable.codec.print idle).render = .error (.unreadable
      ("preset entry '" ++ "" ++ "' must have a name and at least one geometry type")) := by
  intro table idle
  have htable : Ordered table := by
    unfold Ordered
    decide
  have hidle : Ordered idle := by
    unfold Ordered
    decide
  have hselects : ∀ entry ∈ table, Preset.Selects entry := by
    intro entry hentry
    rw [List.mem_singleton.mp hentry]
    exact ⟨Text.isBlankText_eq_false_iff.mp (by decide), by decide⟩
  have hunnamed : ¬ Preset.Selects ("", [.line]) := fun h =>
    absurd (Text.isBlankText_eq_false_iff.mpr h.name) (by decide)
  constructor
  · have hread := (presets_are_read.1 table htable).1 hselects
    obtain ⟨members, hmembers, -⟩ := presets_are_read.2 _ _ hread
    exact ⟨hread, members, hmembers⟩
  · obtain ⟨entry, hentry, hnot, hleast, hrefused⟩ :=
      (presets_are_read.1 idle hidle).2 ⟨_, List.mem_cons_self, hunnamed⟩
    have hname : entry.1 = "" := by
      have hle := hleast _ List.mem_cons_self hunnamed
      have hlater : ∀ e ∈ idle, e.1 ≤ "" → e.1 = "" := by decide
      exact hlater entry hentry hle
    rw [hrefused, hname]

end MapExport
