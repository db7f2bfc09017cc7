import MapExport.Json.Record
import MapExport.Proofs.Job.Presets
import MapExport.Proofs.Json.ReadBack

/-!
# Tables and records that are read back

Both are read member by member, and what is read so far is a state: the entries of a table, or the slots of a
record. `Through` says what the printed members do to the state one after the other. A walk over the symbols does
the same; so it remains to look at a single member of a table and at a single field of a record.
-/

set_option autoImplicit false

namespace MapExport.Json

/-! ## The walk over the members -/

/-- **What the members do to a state,** one after the other, each read at the head of any text that begins with it. -/
inductive Through {σ : Type} (member : σ → String → Symbols → Except Fault (σ × Symbols)) :
    σ → List (String × Json) → σ → Prop
  | done (s : σ) : Through member s [] s
  | next {s t u : σ} {name : String} {j : Json} {others : List (String × Json)} :
      (∀ rest, member s name (some ':' :: (j.symbols ++ rest)) = .ok (t, rest)) →
      Through member t others u → Through member s ((name, j) :: others) u

theorem readColon_cons (rest : Symbols) : readColon (some ':' :: rest) = .ok rest := by
  rw [readColon, skipSpaces_cons (by decide)]
  exact if_pos rfl

/-- The symbols after the first member of a record. -/
theorem symbols_moreMembers_cons (name : String) (j : Json) (others : List (String × Json)) (rest : Symbols) :
    (moreMembers ((name, j) :: others)).map some ++ rest =
      some ',' :: ((Json.text name).symbols ++
        some ':' :: (j.symbols ++ ((moreMembers others).map some ++ rest))) := by
  simp only [moreMembers, symbols, chars, List.map_cons, List.map_append, List.cons_append, List.append_assoc]

theorem symbols_record_cons (name : String) (j : Json) (others : List (String × Json)) (rest : Symbols) :
    (Json.record ((name, j) :: others)).symbols ++ rest =
      some '\x7b' :: ((Json.text name).symbols ++
        some ':' :: (j.symbols ++ ((moreMembers others).map some ++ rest))) := by
  simp only [symbols, chars, List.map_cons, List.map_append, List.cons_append, List.append_assoc]

theorem nextName_first (name : String) (rest : Symbols) :
    nextName true ((Json.text name).symbols ++ rest) = .ok (some name, rest) := by
  rw [symbols_text, nextName, skipSpaces_cons (by decide)]
  dsimp only
  rw [if_neg (by decide), if_pos rfl, if_pos rfl, readQuoted_quoted]
  rfl

theorem nextName_comma (name : String) (rest : Symbols) :
    nextName false (some ',' :: ((Json.text name).symbols ++ rest)) = .ok (some name, rest) := by
  rw [symbols_text, nextName, skipSpaces_cons (by decide)]
  dsimp only
  rw [if_neg (by decide), if_neg Bool.false_ne_true, if_pos rfl, skipSpaces_cons (by decide)]
  dsimp only
  rw [if_pos rfl, readQuoted_quoted]
  rfl

theorem length_lt_moreMembers (members : List (String × Json)) : members.length < (moreMembers members).length := by
  induction members with
  | nil => exact Nat.zero_lt_one
  | cons m members ih =>
    simp only [moreMembers, List.length_cons, List.length_append, List.cons_append]
    omega

variable {σ : Type} {member : σ → String → Symbols → Except Fault (σ × Symbols)}

/-- The walk over the members after the first one. -/
theorem Through.read_more {s t : σ} {members : List (String × Json)} {fuel : Nat}
    (h : Through member s members t) (hfuel : members.length < fuel) (rest : Symbols) :
    readMembers member fuel false s ((moreMembers members).map some ++ rest) = .ok (t, rest) := by
  induction h generalizing fuel with
  | done s =>
    obtain ⟨fuel, rfl⟩ := Nat.exists_eq_add_one_of_ne_zero (Nat.ne_zero_of_lt hfuel)
    rfl
  | next hmember _ ih =>
    obtain ⟨fuel, rfl⟩ := Nat.exists_eq_add_one_of_ne_zero (Nat.ne_zero_of_lt hfuel)
    rw [symbols_moreMembers_cons, readMembers, nextName_comma]
    simp only [bind, Except.bind, hmember, ih (Nat.lt_of_succ_lt_succ hfuel)]

/-- **The walk over a printed record** takes the state through its members. -/
theorem Through.read_record {s t : σ} {members : List (String × Json)} (h : Through member s members t)
    (rest : Symbols) : ∃ body, (Json.record members).symbols ++ rest = some '\x7b' :: body ∧
      readMembers member (body.length + 1) true s body = .ok (t, rest) := by
  cases h with
  | done => exact ⟨some '\x7d' :: rest, rfl, rfl⟩
  | @next _ _ _ name j others hmember hothers =>
    refine ⟨_, symbols_record_cons _ _ _ rest, ?_⟩
    rw [readMembers, nextName_first]
    simp only [bind, Except.bind, hmember]
    -- Each member takes at least the comma before it, so there are fewer members than symbols.
    refine hothers.read_more ?_ rest
    have hlength := length_lt_moreMembers others
    simp only [List.length_append, List.length_cons, List.length_map]
    omega

/-! ## Tables -/

section Table

variable {α : Type} {c : Codec α}

/-- An entry whose name comes after all others is put last. -/
theorem Codec.putEntry_last {entries : List (String × α)} {name : String} (a : α)
    (h : ∀ e ∈ entries, e.1 < name) : putEntry name a entries = entries ++ [(name, a)] := by
  induction entries with
  | nil => rfl
  | cons e entries ih =>
    obtain ⟨n, b⟩ := e
    have hlt : n < name := h (n, b) List.mem_cons_self
    have hne : name ≠ n := by
      rintro rfl
      exact String.lt_irrefl _ hlt
    rw [putEntry, if_neg (String.lt_asymm hlt), if_neg hne, ih (fun e he => h e (List.mem_cons_of_mem _ he)),
      List.cons_append]

/-- The entries of an ordered table are put one behind the other. -/
theorem through_entries {depth levels : Nat} {before entries : List (String × α)}
    (hread : ∀ e ∈ entries, c.ReadsBack depth e.2) (hlevels : depth ≤ levels) (h : Ordered (before ++ entries)) :
    Through (Codec.readEntry c levels) before (entries.map fun (n, a) => (n, c.print a)) (before ++ entries) := by
  induction entries generalizing before with
  | nil =>
    rw [List.append_nil]
    exact .done before
  | cons e entries ih =>
    obtain ⟨n, a⟩ := e
    -- All that was put before has smaller names, so the entry goes to the end.
    have hlast : Codec.putEntry n a before = before ++ [(n, a)] := by
      apply Codec.putEntry_last
      intro e he
      rw [Ordered, List.map_append, List.pairwise_append] at h
      exact h.2.2 e.1 (List.mem_map_of_mem he) n List.mem_cons_self
    have happend : before ++ (n, a) :: entries = before ++ [(n, a)] ++ entries := by
      rw [List.append_assoc, List.singleton_append]
    rw [happend] at h ⊢
    refine .next ?_ (ih (fun e he => hread e (List.mem_cons_of_mem _ he)) h)
    intro rest
    rw [Codec.readEntry, readColon_cons]
    simp only [bind, Except.bind, hread (n, a) List.mem_cons_self levels rest hlevels, hlast]

/-- **A table is read back** if it is ordered by name and its values are read back. -/
theorem Codec.readsBack_table {depth : Nat} {entries : List (String × α)} (h : Ordered entries)
    (hread : ∀ e ∈ entries, c.ReadsBack depth e.2) : c.table.ReadsBack (depth + 1) entries := by
  intro levels rest hdepth
  obtain ⟨levels, rfl⟩ := Nat.exists_eq_add_one_of_ne_zero (Nat.ne_zero_of_lt hdepth)
  have hthrough : Through (readEntry c levels) [] (entries.map fun (n, a) => (n, c.print a)) entries := by
    refine through_entries hread (Nat.le_of_succ_le_succ hdepth) ?_
    exact h
  obtain ⟨body, hsymbols, hwalk⟩ := hthrough.read_record rest
  change c.table.read (levels + 1) ((Json.record (entries.map fun (n, a) => (n, c.print a))).symbols ++ rest) = _
  rw [hsymbols]
  unfold table
  dsimp only
  rw [atValue_cons (by decide)]
  exact hwalk

end Table

/-! ## Records -/

/-- A slot before others. -/
def Slots.cons {α : Type} {αs : List Type} (slot : Option α) (slots : Slots αs) : Slots (α :: αs) := (slot, slots)

/-- All slots filled. -/
def Slots.filled : {αs : List Type} → Row αs → Slots αs
  | [], () => ()
  | _ :: _, (a, row) => .cons (some a) (filled row)

namespace Fields

/-- The names of the fields. -/
def names {αs : List Type} : Fields αs → List String
  | nil => []
  | cons f fs => f.name :: fs.names

/-- Whether every field is printed. -/
def allShown {αs : List Type} : Fields αs → Bool
  | nil => true
  | cons f fs => f.shown && fs.allShown

/-- **A row whose values are read back,** each by the codec of its field. -/
def ReadsBack (depth : Nat) : {αs : List Type} → Fields αs → Row αs → Prop
  | _, nil, () => True
  | _, cons f fs, (a, row) => f.codec.ReadsBack depth a ∧ fs.ReadsBack depth row

variable {αs : List Type}

theorem close_filled (fs : Fields αs) (row : Row αs) : fs.close (.filled row) = .ok row := by
  induction fs with
  | nil => rfl
  | cons f fs ih =>
    obtain ⟨a, row⟩ := row
    change ((fs.close (.filled row)).bind fun row => .ok (a, row)) = _
    rw [ih]
    rfl

/-- Only fields are printed. -/
theorem mem_names_of_mem_members {fs : Fields αs} {row : Row αs} {m : String × Json} (h : m ∈ fs.members row) :
    m.1 ∈ fs.names := by
  induction fs with
  | nil => cases h
  | cons f fs ih =>
    obtain ⟨a, row⟩ := row
    rw [members] at h
    split at h
    · rcases List.mem_cons.mp h with rfl | h
      · exact List.mem_cons_self
      · exact List.mem_cons_of_mem _ (ih h)
    · exact List.mem_cons_of_mem _ (ih h)

variable {α : Type}

/-- A member of the name of the first field fills its slot. -/
theorem readMember_cons_self (f : Field α) (fs : Fields αs) (levels : Nat) (slots : Slots αs) (cs : Symbols) :
    (cons f fs).readMember levels (.cons none slots) f.name cs =
      ((readColon cs).bind (f.codec.read levels)).map fun (a, rest) => (.cons (some a) slots, rest) := by
  have hinto : (cons f fs).readInto levels f.name cs (.cons none slots) = some (do
      let (a, rest) ← f.codec.read levels (← readColon cs)
      .ok (.cons (some a) slots, rest)) := if_pos rfl
  rw [readMember, hinto]
  simp only [bind, Except.bind]
  cases readColon cs with
  | error e => rfl
  | ok value =>
    dsimp only
    cases f.codec.read levels value <;> rfl

/-- A member of another name passes the first field by. -/
theorem readMember_cons_of_ne {f : Field α} {fs : Fields αs} {name : String} (h : f.name ≠ name) (levels : Nat)
    (slot : Option α) (slots : Slots αs) (cs : Symbols) :
    (cons f fs).readMember levels (.cons slot slots) name cs =
      (fs.readMember levels slots name cs).map fun (slots, rest) => (.cons slot slots, rest) := by
  have hinto : (cons f fs).readInto levels name cs (.cons slot slots) =
      (fs.readInto levels name cs slots).map fun r => r.map fun (slots, rest) => (.cons slot slots, rest) :=
    if_neg h
  rw [readMember, hinto, readMember]
  cases fs.readInto levels name cs slots with
  | some result => rfl
  | none =>
    simp only [Option.map_none, bind, Except.bind]
    cases readColon cs with
    | error e => rfl
    | ok value =>
      dsimp only
      cases skipValue value <;> rfl

/-- The later members leave the first slot as it is. -/
theorem through_cons {f : Field α} {fs : Fields αs} {levels : Nat} (slot : Option α) {s t : Slots αs}
    {members : List (String × Json)} (h : Through (fs.readMember levels) s members t)
    (hne : ∀ m ∈ members, f.name ≠ m.1) :
    Through ((cons f fs).readMember levels) (.cons slot s) members (.cons slot t) := by
  induction h with
  | done s => exact .done (Slots.cons slot s)
  | next hmember _ ih =>
    refine .next ?_ (ih fun m hm => hne m (List.mem_cons_of_mem _ hm))
    intro rest
    rw [readMember_cons_of_ne (hne _ List.mem_cons_self), hmember]
    rfl

/-- **The printed fields fill the slots** one by one. -/
theorem through_members {fs : Fields αs} {row : Row αs} {depth levels : Nat} (hnames : fs.names.Nodup)
    (hshown : fs.allShown = true) (hread : fs.ReadsBack depth row) (hlevels : depth ≤ levels) :
    Through (fs.readMember levels) (empty αs) (fs.members row) (.filled row) := by
  induction fs with
  | nil => exact .done _
  | cons f fs ih =>
    obtain ⟨a, row⟩ := row
    obtain ⟨hfirst, hothers⟩ := hread
    rw [names, List.nodup_cons] at hnames
    rw [allShown, Bool.and_eq_true] at hshown
    rw [members, if_pos hshown.1]
    have hne : ∀ m ∈ fs.members row, f.name ≠ m.1 := by
      intro m hm heq
      apply hnames.1
      rw [heq]
      exact mem_names_of_mem_members hm
    -- The first member fills the first slot, and the others fill theirs behind it.
    refine .next ?_ (through_cons (some a) (ih hnames.2 hshown.2 hothers) hne)
    intro rest
    change (cons f fs).readMember levels (.cons none (empty _)) f.name _ = _
    rw [readMember_cons_self, readColon_cons]
    simp only [Except.bind, hfirst levels rest hlevels]
    rfl

end Fields

/-- **A record is read back** if its fields are, all of them printed and no two of one name. -/
theorem Codec.readsBack_record {αs : List Type} {ρ : Type} (name : String) {fs : Fields αs} {row : ρ → Row αs}
    {build : Row αs → ρ} {r : ρ} {depth : Nat} (hnames : fs.names.Nodup) (hshown : fs.allShown = true)
    (hread : fs.ReadsBack depth (row r)) (hbuild : build (row r) = r) :
    (Codec.record name fs row build).ReadsBack (depth + 1) r := by
  intro levels rest hdepth
  obtain ⟨levels, rfl⟩ := Nat.exists_eq_add_one_of_ne_zero (Nat.ne_zero_of_lt hdepth)
  have hthrough := Fields.through_members hnames hshown hread (Nat.le_of_succ_le_succ hdepth)
  obtain ⟨body, hsymbols, hwalk⟩ := hthrough.read_record rest
  change (Codec.record name fs row build).read (levels + 1) ((Json.record (fs.members (row r))).symbols ++ rest) = _
  rw [hsymbols]
  unfold record
  dsimp only
  rw [atValue_cons (by decide)]
  simp only [bind, Except.bind]
  rw [hwalk]
  simp only [Fields.close_filled, hbuild]

end MapExport.Json
