import Mathlib.Data.List.Nodup
import MapExport.Store.Runs

/-!
# Rows and their keys

The store keeps its rows in lists and finds them by a key: runs and providers by their identifiers, formats and
providers by their slugs. Where no two rows have the same key, a row is found by its own (`Keyed.find?_own`), at most
one is picked (`Keyed.filter_eq_toList`), and it is found again as what was made of it (`Keyed.find?_filterMap`). A
row that is changed is the first one that fits (`Store.modifyFirst_append_cons`), and keeps its place.
-/

set_option autoImplicit false

namespace MapExport.Keyed

variable {α κ : Type} {key : α → κ} {rows : List α} {k : κ}

/-- Where no two rows have the same key, **the key of a row is among those of the rows that pass a test** just if this
row passes it. -/
theorem mem_map_filter_iff (distinct : (rows.map key).Nodup) (test : α → Bool) {a : α} (ha : a ∈ rows) :
    key a ∈ (rows.filter test).map key ↔ test a = true := by
  rw [List.mem_map]
  constructor
  · rintro ⟨b, hb, hkey⟩
    obtain ⟨hb, htest⟩ := List.mem_filter.mp hb
    obtain rfl := List.inj_on_of_nodup_map distinct hb ha hkey
    exact htest
  · intro htest
    exact ⟨a, List.mem_filter.mpr ⟨ha, htest⟩, rfl⟩

/-- The keys of the rows to which a value is given. -/
theorem map_fst_filterMap {β : Type} (key : α → κ) (value : α → Option β) (rows : List α) :
    (rows.filterMap fun a => (value a).map (key a, ·)).map (·.1) =
      (rows.filter fun a => (value a).isSome).map key := by
  induction rows with
  | nil => rfl
  | cons a rows ih =>
    cases hvalue : value a with
    | none => simpa [hvalue] using ih
    | some b => simpa [hvalue] using ih

variable [BEq κ] [LawfulBEq κ]

/-- A key that no row has picks none. -/
theorem filter_eq_nil_of_not_mem (h : k ∉ rows.map key) : rows.filter (key · == k) = [] :=
  List.filter_eq_nil_iff.mpr fun a ha hkey => h (List.mem_map.mpr ⟨a, ha, eq_of_beq hkey⟩)

theorem find?_eq_none_of_not_mem (h : k ∉ rows.map key) : rows.find? (key · == k) = none :=
  List.find?_eq_none.mpr fun a ha hkey => h (List.mem_map.mpr ⟨a, ha, eq_of_beq hkey⟩)

/-- Where no two rows have the same key, a key picks one row at most. -/
theorem filter_eq_toList (distinct : (rows.map key).Nodup) (k : κ) :
    rows.filter (key · == k) = (rows.find? (key · == k)).toList := by
  induction rows with
  | nil => rfl
  | cons a rows ih =>
    obtain ⟨hhead, htail⟩ := List.nodup_cons.mp distinct
    cases hkey : key a == k with
    | true =>
      have hrest : rows.filter (key · == k) = [] := filter_eq_nil_of_not_mem (eq_of_beq hkey ▸ hhead)
      simp only [List.filter_cons, List.find?_cons, hkey, hrest, if_true, Option.toList_some]
    | false =>
      simp only [List.filter_cons, List.find?_cons, hkey, Bool.false_eq_true, if_false, ih htail]

/-- **A row is found by its own key.** -/
theorem find?_own (distinct : (rows.map key).Nodup) {a : α} (ha : a ∈ rows) :
    rows.find? (key · == key a) = some a := by
  have hmem : a ∈ rows.filter (key · == key a) := List.mem_filter.mpr ⟨ha, beq_self_eq_true (key a)⟩
  rw [filter_eq_toList distinct] at hmem
  exact Option.mem_toList.mp hmem

/-- In which order the rows are kept does not matter for what is found. -/
theorem find?_of_perm {rows' : List α} (distinct : (rows.map key).Nodup) (h : rows.Perm rows') (k : κ) :
    rows'.find? (key · == k) = rows.find? (key · == k) := by
  cases hfind : rows.find? (key · == k) with
  | none =>
    rw [List.find?_eq_none] at hfind ⊢
    exact fun a ha => hfind a (h.mem_iff.mpr ha)
  | some a =>
    obtain rfl : key a = k := by simpa using List.find?_some hfind
    exact find?_own ((h.map key).nodup distinct) (h.mem_iff.mp (List.mem_of_find?_eq_some hfind))

/-- **A row is found again as what was made of it,** where that has the same key. -/
theorem find?_filterMap {β : Type} {key' : β → κ} {change : α → Option β}
    (keeps : ∀ a b, change a = some b → key' b = key a) (distinct : (rows.map key).Nodup) (k : κ) :
    (rows.filterMap change).find? (key' · == k) = (rows.find? (key · == k)).bind change := by
  induction rows with
  | nil => rfl
  | cons a rows ih =>
    obtain ⟨hhead, htail⟩ := List.nodup_cons.mp distinct
    cases hkey : key a == k with
    | true =>
      have hrest : rows.find? (key · == k) = none := find?_eq_none_of_not_mem (eq_of_beq hkey ▸ hhead)
      cases hchange : change a with
      | none => simp only [List.filterMap_cons, hchange, ih htail, hrest, List.find?_cons, hkey,
          Option.bind_none, Option.bind_some]
      | some b =>
        have hkept : (key' b == k) = true := by rw [keeps a b hchange, hkey]
        simp only [List.filterMap_cons, hchange, List.find?_cons, hkept, hkey, Option.bind_some]
    | false =>
      cases hchange : change a with
      | none => simp only [List.filterMap_cons, hchange, ih htail, List.find?_cons, hkey]
      | some b =>
        have hkept : (key' b == k) = false := by rw [keeps a b hchange, hkey]
        simp only [List.filterMap_cons, hchange, List.find?_cons, hkept, ih htail, hkey]

/-- The keys of what is found are those that some row has. -/
theorem map_key_found (key : α → κ) (rows : List α) (keys : List κ) :
    (keys.filterMap fun k => rows.find? (key · == k)).map key =
      keys.filter fun k => rows.any (key · == k) := by
  induction keys with
  | nil => rfl
  | cons k keys ih =>
    cases hfind : rows.find? (key · == k) with
    | none =>
      have hany : rows.any (key · == k) = false := by simpa using hfind
      simp only [List.filterMap_cons, hfind, List.filter_cons, hany]
      exact ih
    | some a =>
      have hkey : key a = k := by simpa using List.find?_some hfind
      have hany : rows.any (key · == k) = true :=
        List.any_eq_true.mpr ⟨a, List.mem_of_find?_eq_some hfind, by simpa using hkey⟩
      simp only [List.filterMap_cons, hfind, List.filter_cons, hany, List.map_cons, hkey]
      exact congrArg (k :: ·) ih

/-- What is found by distinct keys has distinct keys. -/
theorem nodup_map_key_found (key : α → κ) (rows : List α) {keys : List κ} (distinct : keys.Nodup) :
    ((keys.filterMap fun k => rows.find? (key · == k)).map key).Nodup := by
  rw [map_key_found]
  exact distinct.filter _

/-- **A table of names:** every value stands under its own name, and under no other. -/
structure Names {α : Type} (label : α → String) (names : List (String × α)) : Prop where
  distinct : (names.map (·.1)).Nodup
  own : ∀ a, (label a, a) ∈ names
  only : ∀ row ∈ names, row.1 = label row.2

namespace Names

variable {α : Type} {label : α → String} {names : List (String × α)}

/-- A value is found under its name. -/
theorem find?_label (h : Names label names) (a : α) : names.find? (·.1 == label a) = some (label a, a) :=
  find?_own h.distinct (h.own a)

/-- What is found under a name has this name. -/
theorem eq_of_find? (h : Names label names) {word name : String} {a : α}
    (hfind : names.find? (·.1 == word) = some (name, a)) : word = label a := by
  have hname : name = word := by simpa using List.find?_some hfind
  rw [← hname]
  exact h.only _ (List.mem_of_find?_eq_some hfind)

end Names

end MapExport.Keyed

/-! ## Changing one row -/

namespace MapExport.Store

variable {α : Type} {fits : α → Bool} {change : α → α}

/-- The first row that fits is changed, and no other. -/
theorem modifyFirst_append_cons {before rest : List α} {a : α} (hbefore : ∀ b ∈ before, fits b = false)
    (ha : fits a = true) :
    modifyFirst fits change (before ++ a :: rest) = before ++ change a :: rest := by
  induction before with
  | nil => rw [List.nil_append, modifyFirst, if_pos ha, List.nil_append]
  | cons b before ih =>
    have hb : fits b = false := hbefore b List.mem_cons_self
    rw [List.cons_append, modifyFirst, hb, ih fun b' hb' => hbefore b' (List.mem_cons_of_mem _ hb')]
    rfl

/-- Every row is an old one, or what was made of a row that fits. -/
theorem mem_modifyFirst {a : α} {l : List α} (h : a ∈ modifyFirst fits change l) :
    a ∈ l ∨ ∃ b ∈ l, fits b = true ∧ a = change b := by
  induction l with
  | nil => exact absurd h List.not_mem_nil
  | cons b l ih =>
    rw [modifyFirst] at h
    split at h
    · next hfits =>
      rcases List.mem_cons.mp h with rfl | h
      · exact .inr ⟨b, List.mem_cons_self, hfits, rfl⟩
      · exact .inl (List.mem_cons_of_mem _ h)
    · rcases List.mem_cons.mp h with rfl | h
      · exact .inl List.mem_cons_self
      · rcases ih h with h | ⟨c, hc, hchange⟩
        · exact .inl (List.mem_cons_of_mem _ h)
        · exact .inr ⟨c, List.mem_cons_of_mem _ hc, hchange⟩

/-- A change that keeps the key of a row keeps the keys. -/
theorem map_modifyFirst {β : Type} {key : α → β} (keeps : ∀ a, key (change a) = key a) (l : List α) :
    (modifyFirst fits change l).map key = l.map key := by
  induction l with
  | nil => rfl
  | cons a l ih =>
    rw [modifyFirst]
    split
    · rw [List.map_cons, List.map_cons, keeps]
    · rw [List.map_cons, List.map_cons, ih]

end MapExport.Store
