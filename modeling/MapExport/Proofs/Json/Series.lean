import Mathlib.Data.List.Induction
import MapExport.Proofs.Json.Grammar
import MapExport.Proofs.Job.Presets

/-!
# Lists, tables and names that are read

What the readers of lists, tables and names take is spelled as such, if their parts are. Lists and tables are walked in
the same way, item by item, and `Walked` says what such a walk has gone through. The state of a table that is read is
made of its members in the order of the text, so that the last one of a name stays.
-/

set_option autoImplicit false

namespace MapExport.Json

variable {α σ : Type} {P : Spelling α}

/-! ## The walk over a series -/

/-- **What stands before an item:** white space, and a comma among it unless the item is the first. -/
inductive Lead : (first : Bool) → List Char → Prop
  | first {blank : List Char} : Blank blank → Lead true blank
  | more {blank blank' : List Char} : Blank blank → Blank blank' → Lead false (blank ++ ',' :: blank')

/-- **What is left of a series,** from some item on, the closing bracket included. -/
inductive Walked (closing : Char) (P : Spelling α) : (first : Bool) → Spelling (List α)
  | done {first : Bool} {blank : List Char} : Blank blank → Walked closing P first [] (blank ++ [closing])
  | next {first : Bool} {a : α} {as : List α} {lead item others : List Char} :
      Lead first lead → P.led a item → Walked closing P false as others →
      Walked closing P first (a :: as) (lead ++ (item ++ others))

theorem Blank.append {blank blank' : List Char} (h : Blank blank) (h' : Blank blank') : Blank (blank ++ blank') := by
  intro c hc
  rcases List.mem_append.mp hc with hc | hc
  · exact h c hc
  · exact h' c hc

theorem Spelling.led.after {a : α} {blank cs : List Char} (h : P.led a cs) (hblank : Blank blank) :
    P.led a (blank ++ cs) := by
  obtain ⟨blank', inner, hblank', hinner, rfl⟩ := h
  exact ⟨blank ++ blank', inner, hblank.append hblank', hinner, (List.append_assoc _ _ _).symm⟩

/-- An item and what is left behind it are parts with commas between them. -/
theorem Walked.parts {closing : Char} {as : List α} {others : List Char} (h : Walked closing P false as others)
    {a : α} {item : List Char} (hitem : P.led a item) : ∃ parts, List.Forall₂ P.padded (a :: as) parts ∧
      item ++ others = [','].intercalate parts ++ [closing] := by
  generalize hfirst : false = first at h
  induction h generalizing a item with
  | @done _ blank hblank =>
    refine ⟨[item ++ blank], .cons ⟨item, blank, hitem, hblank, rfl⟩ .nil, ?_⟩
    rw [List.intercalate_singleton, List.append_assoc]
  | @next first b as lead item' others hlead hitem' hothers ih =>
    cases hlead with
    | first => cases hfirst
    | @more blank blank' hblank hblank' =>
      -- The white space before the comma belongs to the item, that behind it to the next one.
      obtain ⟨parts, hparts, heq⟩ := ih (hitem'.after hblank') rfl
      refine ⟨(item ++ blank) :: parts, .cons ⟨item, blank, hitem, hblank, rfl⟩ hparts, ?_⟩
      obtain ⟨part, parts, -, -, rfl⟩ := List.forall₂_cons_left_iff.mp hparts
      rw [List.intercalate_cons_cons, List.append_assoc, List.append_assoc, ← heq]
      simp only [List.append_assoc, List.cons_append, List.nil_append]

/-- **A walk from the first item on** has gone through a series. -/
theorem Walked.series {opening closing : Char} {as : List α} {cs : List Char} (h : Walked closing P true as cs) :
    P.series opening closing as (opening :: cs) := by
  cases h with
  | @done _ blank hblank => exact ⟨blank, rfl, .inl ⟨rfl, hblank⟩⟩
  | @next _ a as lead item others hlead hitem hothers =>
    cases hlead with
    | first hblank =>
      obtain ⟨parts, hparts, heq⟩ := hothers.parts (hitem.after hblank)
      refine ⟨[','].intercalate parts, ?_, .inr ⟨List.cons_ne_nil _ _, parts, hparts, rfl⟩⟩
      rw [← List.append_assoc, heq, List.cons_append]

/-! ## Lists -/

/-- There is a next item, behind what stands before it, or the closing bracket. -/
theorem nextItem_map_eq_ok {first more : Bool} {cs : List Char} {rest : Symbols}
    (h : nextItem first (cs.map some) = .ok (more, rest)) :
    (more = false ∧ ∃ blank left, Blank blank ∧ cs = blank ++ ']' :: left ∧ rest = (']' :: left).map some) ∨
      more = true ∧ ∃ lead left, Lead first lead ∧ cs = lead ++ left ∧ rest = left.map some := by
  obtain ⟨blank, left, hblank, rfl, hskip⟩ := skipSpaces_map cs
  rw [nextItem, hskip] at h
  cases left with
  | nil => cases h
  | cons c left =>
    rw [List.map_cons] at h
    dsimp only at h
    split at h
    · next hend =>
      obtain ⟨rfl, rfl⟩ := Prod.mk.inj (Except.ok.inj h)
      obtain rfl := Option.some.inj hend
      exact .inl ⟨rfl, blank, left, hblank, rfl, rfl⟩
    cases first with
    | true =>
      obtain ⟨rfl, rfl⟩ := Prod.mk.inj (Except.ok.inj h)
      exact .inr ⟨rfl, blank, c :: left, .first hblank, rfl, rfl⟩
    | false =>
      rw [if_neg Bool.false_ne_true] at h
      split at h
      case isFalse => cases h
      next hcomma =>
      obtain rfl := Option.some.inj hcomma
      obtain ⟨blank', left, hblank', rfl, hskip'⟩ := skipSpaces_map left
      rw [hskip'] at h
      cases left with
      | nil => cases h
      | cons d left =>
        rw [List.map_cons] at h
        dsimp only at h
        split at h
        · cases h
        · obtain ⟨rfl, rfl⟩ := Prod.mk.inj (Except.ok.inj h)
          refine .inr ⟨rfl, blank ++ ',' :: blank', d :: left, .more hblank hblank', ?_, rfl⟩
          rw [List.append_assoc, List.cons_append]

theorem readItems_onlySpelled {item : Symbols → Except Fault (α × Symbols)} (hitem : OnlySpelled item P.led)
    (fuel : Nat) (first : Bool) : OnlySpelled (readItems item fuel first) (Walked ']' P first) := by
  -- Behind an item the walk goes on with a comma in front of the next one.
  induction fuel generalizing first with
  | zero => exact fun cs a rest h => nomatch h
  | succ fuel ih =>
    intro cs as rest h
    rw [readItems] at h
    obtain ⟨⟨more, afterLead⟩, hnext, h⟩ := bind_eq_ok_iff.mp h
    rcases nextItem_map_eq_ok hnext with ⟨rfl, blank, left, hblank, rfl, rfl⟩ | ⟨rfl, lead, left, hlead, rfl, rfl⟩
    · obtain ⟨rfl, rfl⟩ := Prod.mk.inj (Except.ok.inj h)
      refine ⟨blank ++ [']'], left, ?_, rfl, .done hblank⟩
      rw [List.append_assoc, List.singleton_append]
    · obtain ⟨⟨a, afterItem⟩, hread, h⟩ := bind_eq_ok_iff.mp h
      obtain ⟨⟨others, afterOthers⟩, hothers, h⟩ := bind_eq_ok_iff.mp h
      obtain ⟨taken, left, rfl, rfl, htaken⟩ := hitem _ _ _ hread
      obtain ⟨taken', left, rfl, rfl, htaken'⟩ := ih false _ _ _ hothers
      obtain ⟨rfl, rfl⟩ := Prod.mk.inj (Except.ok.inj h)
      refine ⟨lead ++ (taken ++ taken'), left, ?_, rfl, .next hlead htaken htaken'⟩
      rw [List.append_assoc, List.append_assoc]

/-! ## Records -/

/-- A name that is read behind a quote. -/
theorem quotedName_map_eq_ok {name? : Option String} {left : List Char} {rest : Symbols}
    (h : ((readQuoted (left.map some)).map fun r => (some r.1, r.2)) = .ok (name?, rest)) :
    ∃ name taken left', name? = some name ∧ Spelling.text name taken ∧ '"' :: left = taken ++ left' ∧
      rest = left'.map some := by
  cases hread : readQuoted (left.map some) with
  | error e =>
    rw [hread] at h
    cases h
  | ok result =>
    rw [hread] at h
    obtain ⟨rfl, rfl⟩ := Prod.mk.inj (Except.ok.inj h)
    obtain ⟨taken, left', rfl, hrest, htaken⟩ := readQuoted_onlySpelled _ _ _ hread
    exact ⟨_, '"' :: taken, left', rfl, htaken, rfl, hrest⟩

/-- There is a next name, quoted, behind what stands before it, or the closing brace. -/
theorem nextName_map_eq_ok {first : Bool} {name? : Option String} {cs : List Char} {rest : Symbols}
    (h : nextName first (cs.map some) = .ok (name?, rest)) :
    (name? = none ∧ ∃ blank left, Blank blank ∧ cs = blank ++ '\x7d' :: left ∧ rest = ('\x7d' :: left).map some) ∨
      ∃ name lead taken left, name? = some name ∧ Lead first lead ∧ Spelling.text name taken ∧
        cs = lead ++ (taken ++ left) ∧ rest = left.map some := by
  obtain ⟨blank, left, hblank, rfl, hskip⟩ := skipSpaces_map cs
  rw [nextName, hskip] at h
  cases left with
  | nil => cases h
  | cons c left =>
    rw [List.map_cons] at h
    dsimp only at h
    split at h
    · next hend =>
      obtain ⟨rfl, rfl⟩ := Prod.mk.inj (Except.ok.inj h)
      obtain rfl := Option.some.inj hend
      exact .inl ⟨rfl, blank, left, hblank, rfl, rfl⟩
    cases first with
    | true =>
      rw [if_pos rfl] at h
      split at h
      case isFalse => cases h
      next hquote =>
      obtain rfl := Option.some.inj hquote
      obtain ⟨name, taken, left, rfl, htaken, hleft, rfl⟩ := quotedName_map_eq_ok h
      exact .inr ⟨name, blank, taken, left, rfl, .first hblank, htaken, by rw [hleft], rfl⟩
    | false =>
      rw [if_neg Bool.false_ne_true] at h
      split at h
      case isFalse => cases h
      next hcomma =>
      obtain rfl := Option.some.inj hcomma
      obtain ⟨blank', left, hblank', rfl, hskip'⟩ := skipSpaces_map left
      rw [hskip'] at h
      cases left with
      | nil => cases h
      | cons d left =>
        rw [List.map_cons] at h
        dsimp only at h
        split at h
        case isFalse => split at h <;> cases h
        next hquote =>
        obtain rfl := Option.some.inj hquote
        obtain ⟨name, taken, left, rfl, htaken, hleft, rfl⟩ := quotedName_map_eq_ok h
        refine .inr ⟨name, blank ++ ',' :: blank', taken, left, rfl, .more hblank hblank', htaken, ?_, rfl⟩
        rw [List.append_assoc, List.cons_append, hleft]

/-- **The state of a record that is read** is made of its members, one after the other. -/
theorem readMembers_map_eq_ok {member : σ → String → Symbols → Except Fault (σ × Symbols)}
    (step : σ → String × α → σ) (hmember : ∀ state name cs state' rest,
      member state name (cs.map some) = .ok (state', rest) → ∃ a taken left, state' = step state (name, a) ∧
        P.afterName a taken ∧ cs = taken ++ left ∧ rest = left.map some)
    {fuel : Nat} {first : Bool} {state state' : σ} {cs : List Char} {rest : Symbols}
    (h : readMembers member fuel first state (cs.map some) = .ok (state', rest)) :
    ∃ members taken left, state' = members.foldl step state ∧ Walked '\x7d' P.member first members taken ∧
      cs = taken ++ left ∧ rest = left.map some := by
  -- The state is not fixed: what is read of the others starts from what the first member has made of it.
  induction fuel generalizing first state cs with
  | zero => cases h
  | succ fuel ih =>
    rw [readMembers] at h
    obtain ⟨⟨name?, afterName⟩, hname, h⟩ := bind_eq_ok_iff.mp h
    rcases nextName_map_eq_ok hname with
      ⟨rfl, blank, left, hblank, rfl, rfl⟩ | ⟨name, lead, quoted, left, rfl, hlead, hquoted, rfl, rfl⟩
    · obtain ⟨rfl, rfl⟩ := Prod.mk.inj (Except.ok.inj h)
      refine ⟨[], blank ++ ['\x7d'], left, rfl, .done hblank, ?_, rfl⟩
      rw [List.append_assoc, List.singleton_append]
    · obtain ⟨⟨next, afterMember⟩, hread, h⟩ := bind_eq_ok_iff.mp h
      obtain ⟨a, value, left, rfl, hvalue, rfl, rfl⟩ := hmember _ _ _ _ _ hread
      obtain ⟨members, taken, left, rfl, hwalked, rfl, rfl⟩ := ih h
      have hitem : P.member.led (name, a) (quoted ++ value) := Spelling.led_of ⟨quoted, value, hquoted, hvalue, rfl⟩
      refine ⟨(name, a) :: members, lead ++ (quoted ++ value ++ taken), left, rfl, .next hlead hitem hwalked, ?_, rfl⟩
      simp only [List.append_assoc]

/-! ## Codecs -/

/-- **A codec that reads nothing but spelled values,** with white space in front of them. -/
def Codec.OnlySpelled (c : Codec α) (P : Spelling α) : Prop := ∀ levels, Json.OnlySpelled (c.read levels) P.led

/-- What begins with a symbol begins with its character. -/
theorem map_some_eq_cons {cs : List Char} {c : Char} {rest : Symbols} (h : cs.map some = some c :: rest) :
    ∃ left, cs = c :: left ∧ rest = left.map some := by
  obtain ⟨c', left, rfl, hc, rfl⟩ := List.map_eq_cons_iff.mp h
  exact ⟨left, by rw [Option.some.inj hc], rfl⟩

namespace Codec

variable {c : Codec α}

theorem readText_onlySpelled (expected : Shape) : Json.OnlySpelled (readText expected) Spelling.text.led := by
  intro cs s rest h
  obtain ⟨value, hvalue, h⟩ := bind_eq_ok_iff.mp h
  obtain ⟨blank, left, hblank, rfl, rfl⟩ := atValue_map_eq_ok hvalue
  split at h
  · next hquote =>
    obtain ⟨left, rfl, rfl⟩ := map_some_eq_cons hquote
    obtain ⟨taken, left, rfl, rfl, htaken⟩ := readQuoted_onlySpelled _ _ _ h
    refine ⟨blank ++ '"' :: taken, left, ?_, rfl, blank, _, hblank, htaken, rfl⟩
    rw [List.append_assoc, List.cons_append]
  · cases h

theorem nothing_onlySpelled : nothing.OnlySpelled .nothing := by
  intro levels cs u rest h
  obtain ⟨value, hvalue, h⟩ := bind_eq_ok_iff.mp h
  obtain ⟨blank, left, hblank, rfl, rfl⟩ := atValue_map_eq_ok hvalue
  split at h
  · next after hn =>
    obtain ⟨left, rfl, rfl⟩ := map_some_eq_cons hn
    obtain ⟨afterWord, hword, h⟩ := bind_eq_ok_iff.mp h
    obtain ⟨left, rfl, rfl⟩ := readWord_map_eq_ok hword
    obtain ⟨-, rfl⟩ := Prod.mk.inj (Except.ok.inj h)
    refine ⟨blank ++ ['n', 'u', 'l', 'l'], left, ?_, rfl, blank, _, hblank, rfl, rfl⟩
    rw [List.append_assoc]
    rfl
  · cases h

theorem list_onlySpelled (hitem : c.OnlySpelled P) : c.list.OnlySpelled (P.series '[' ']') := by
  intro levels cs as rest h
  obtain ⟨value, hvalue, h⟩ := bind_eq_ok_iff.mp h
  obtain ⟨blank, left, hblank, rfl, rfl⟩ := atValue_map_eq_ok hvalue
  split at h
  · cases h
  · next n hbracket _ =>
    obtain ⟨left, rfl, rfl⟩ := map_some_eq_cons hbracket
    obtain ⟨taken, left, rfl, rfl, hwalked⟩ := readItems_onlySpelled (hitem n) _ true _ _ _ h
    refine ⟨blank ++ '[' :: taken, left, ?_, rfl, blank, _, hblank, hwalked.series, rfl⟩
    rw [List.append_assoc, List.cons_append]
  · cases h

/-- The end of a record with one member. -/
theorem oneKey_map_eq_ok {a b : α} {cs : List Char} {rest : Symbols}
    (h : (match skipSpaces (cs.map some) with
      | [] => Except.error Fault.endOfObject
      | c :: rest => if c = some '\x7d' then .ok (a, rest) else .error .expectedValue) = .ok (b, rest)) :
    b = a ∧ ∃ blank left, Blank blank ∧ cs = blank ++ '\x7d' :: left ∧ rest = left.map some := by
  obtain ⟨blank, left, hblank, rfl, hskip⟩ := skipSpaces_map cs
  rw [hskip] at h
  cases left with
  | nil => cases h
  | cons e left =>
    rw [List.map_cons] at h
    dsimp only at h
    split at h
    case isFalse => cases h
    next hend =>
    obtain ⟨rfl, rfl⟩ := Prod.mk.inj (Except.ok.inj h)
    exact ⟨rfl, blank, left, hblank, by rw [Option.some.inj hend], rfl⟩

/-- A name that is known is the label of what it stands for. -/
theorem eq_label_of_known {names : List (String × α)} {label : α → String} (hnames : Keyed.Names label names)
    {name : String} {a : α} (h : known names name = .ok a) : name = label a := by
  rw [known] at h
  split at h
  · next hfind =>
    obtain rfl := Except.ok.inj h
    exact hnames.eq_of_find? hfind
  · cases h

/-- **A known name** stands alone, or in a record that says nothing of it. -/
theorem choice_onlySpelled {names : List (String × α)} {label : α → String} (hnames : Keyed.Names label names) :
    (choice names label).OnlySpelled (.choice label) := by
  intro levels cs a rest h
  obtain ⟨value, hvalue, h⟩ := bind_eq_ok_iff.mp h
  obtain ⟨blank, left, hblank, rfl, rfl⟩ := atValue_map_eq_ok hvalue
  split at h
  · cases h
  · next n hbrace _ =>
    obtain ⟨left, rfl, rfl⟩ := map_some_eq_cons hbrace
    obtain ⟨⟨name, afterName⟩, hname, h⟩ := bind_eq_ok_iff.mp h
    obtain ⟨a', hlabel, h⟩ := bind_eq_ok_iff.mp h
    obtain ⟨afterColon, hcolon, h⟩ := bind_eq_ok_iff.mp h
    obtain ⟨⟨_, afterNull⟩, hnull, hclose⟩ := bind_eq_ok_iff.mp h
    obtain ⟨name', left, rfl, rfl, hspelled⟩ := readText_onlySpelled _ _ _ _ hname
    obtain ⟨blank₂, left, hblank₂, rfl, rfl⟩ := readColon_map_eq_ok hcolon
    obtain ⟨null, left, rfl, rfl, hnothing⟩ := nothing_onlySpelled n _ _ _ hnull
    obtain ⟨rfl, blank₃, left, hblank₃, rfl, rfl⟩ := oneKey_map_eq_ok hclose
    obtain ⟨blank₁, quoted, hblank₁, hquoted, rfl⟩ := hspelled
    obtain rfl := eq_label_of_known hnames hlabel
    have hmember : Spelling.nothing.member (label a, ()) (quoted ++ (blank₂ ++ ':' :: null)) :=
      ⟨quoted, _, hquoted, ⟨blank₂, null, hblank₂, hnothing, rfl⟩, rfl⟩
    have hwalked : Walked '\x7d' Spelling.nothing.member true [(label a, ())]
        (blank₁ ++ (quoted ++ (blank₂ ++ ':' :: null) ++ (blank₃ ++ ['\x7d']))) :=
      .next (.first hblank₁) (Spelling.led_of hmember) (.done hblank₃)
    refine ⟨blank ++ '\x7b' :: _, left, ?_, rfl, blank, _, hblank, .inr hwalked.series, rfl⟩
    simp only [List.append_assoc, List.cons_append, List.nil_append]
  · next hquote _ =>
    obtain ⟨left, rfl, rfl⟩ := map_some_eq_cons hquote
    obtain ⟨⟨name, afterName⟩, hname, h⟩ := bind_eq_ok_iff.mp h
    obtain ⟨a', hlabel, h⟩ := bind_eq_ok_iff.mp h
    obtain ⟨taken, left, rfl, rfl, htaken⟩ := readQuoted_onlySpelled _ _ _ hname
    obtain ⟨rfl, rfl⟩ := Prod.mk.inj (Except.ok.inj h)
    obtain rfl := eq_label_of_known hnames hlabel
    refine ⟨blank ++ '"' :: taken, left, ?_, rfl, blank, _, hblank, .inl htaken, rfl⟩
    rw [List.append_assoc, List.cons_append]
  · cases h

/-- **The table of members:** each of them put among those before it. -/
def entriesOf (members : List (String × α)) : List (String × α) :=
  members.foldl (fun entries m => putEntry m.1 m.2 entries) []

/-- What is read as a table is a series of members, and the table is made of them. -/
theorem table_read_eq_ok (hvalue : c.OnlySpelled P) {levels : Nat} {cs : List Char} {entries : List (String × α)}
    {rest : Symbols} (h : c.table.read levels (cs.map some) = .ok (entries, rest)) :
    ∃ members taken left, entries = entriesOf members ∧ (P.member.series '\x7b' '\x7d').led members taken ∧
      cs = taken ++ left ∧ rest = left.map some := by
  obtain ⟨value, hstart, h⟩ := bind_eq_ok_iff.mp h
  obtain ⟨blank, left, hblank, rfl, rfl⟩ := atValue_map_eq_ok hstart
  split at h
  · cases h
  · next n hbrace _ =>
    obtain ⟨left, rfl, rfl⟩ := map_some_eq_cons hbrace
    have hentry : ∀ state name cs state' rest, readEntry c n state name (cs.map some) = .ok (state', rest) →
        ∃ a taken left, state' = putEntry name a state ∧ P.afterName a taken ∧ cs = taken ++ left ∧
          rest = left.map some := by
      intro state name cs state' rest h
      obtain ⟨afterColon, hcolon, h⟩ := bind_eq_ok_iff.mp h
      obtain ⟨blank, left, hblank, rfl, rfl⟩ := readColon_map_eq_ok hcolon
      obtain ⟨⟨a, afterValue⟩, hread, h⟩ := bind_eq_ok_iff.mp h
      obtain ⟨taken, left, rfl, rfl, htaken⟩ := hvalue n _ _ _ hread
      obtain ⟨rfl, rfl⟩ := Prod.mk.inj (Except.ok.inj h)
      refine ⟨a, blank ++ ':' :: taken, left, rfl, ⟨blank, taken, hblank, htaken, rfl⟩, ?_, rfl⟩
      rw [List.append_assoc, List.cons_append]
    obtain ⟨members, taken, left, rfl, hwalked, rfl, rfl⟩ :=
      readMembers_map_eq_ok (fun entries m => putEntry m.1 m.2 entries) hentry h
    refine ⟨members, blank ++ '\x7b' :: taken, left, rfl, ⟨blank, _, hblank, hwalked.series, rfl⟩, ?_, rfl⟩
    rw [List.append_assoc, List.cons_append]
  · cases h

/-- **A text that is read as a table** is a series of members, with white space around it. -/
theorem table_ofText_eq_ok (hvalue : c.OnlySpelled P) {content : String} {entries : List (String × α)}
    (h : c.table.ofText content = .ok entries) :
    ∃ members, entries = entriesOf members ∧ (P.member.series '\x7b' '\x7d').padded members content.toList := by
  obtain ⟨⟨read, rest⟩, hread, hwhole⟩ := bind_eq_ok_iff.mp h
  obtain ⟨members, taken, left, rfl, htaken, hcontent, rfl⟩ := table_read_eq_ok hvalue hread
  -- After the table nothing but blanks may follow, and what was read is given as it is.
  change (if (skipSpaces (left.map some)).isEmpty then Except.ok (entriesOf members)
    else .error Fault.trailingCharacters) = _ at hwhole
  split at hwhole
  case isFalse => cases hwhole
  next hempty =>
  obtain ⟨blank, left', hblank, rfl, hskip⟩ := skipSpaces_map left
  rw [hskip, List.isEmpty_iff, List.map_eq_nil_iff] at hempty
  refine ⟨members, (Except.ok.inj hwhole).symm, taken, blank, htaken, hblank, ?_⟩
  rw [hcontent, hempty, List.append_nil]

/-! ## Which value a name has -/

/-- **The last value of a name** among members. -/
def LastOf (members : List (String × α)) (name : String) (a : α) : Prop :=
  ∃ before after, members = before ++ (name, a) :: after ∧ name ∉ after.map (·.1)

/-- **Putting an entry** gives its name a new value, and leaves the others as they are. -/
theorem mem_putEntry_iff {entries : List (String × α)} (h : Ordered entries) {name other : String} {a b : α} :
    (other, b) ∈ putEntry name a entries ↔ (other = name ∧ b = a) ∨ (other ≠ name ∧ (other, b) ∈ entries) := by
  induction entries with
  | nil => simp [putEntry]
  | cons e entries ih =>
    obtain ⟨n, v⟩ := e
    obtain ⟨hhead, htail⟩ := List.pairwise_cons.mp h
    have hlater {m : String} {w : α} (hmem : (m, w) ∈ entries) : n < m := hhead m (List.mem_map_of_mem hmem)
    rw [putEntry]
    split
    · -- The name comes before all others, so it has no value yet.
      next hlt =>
      have hnew : ∀ w, (name, w) ∉ (n, v) :: entries := by
        intro w hmem
        rcases List.mem_cons.mp hmem with hhere | hmem
        · exact String.lt_irrefl n ((Prod.mk.inj hhere).1 ▸ hlt)
        · exact String.lt_asymm hlt (hlater hmem)
      rw [List.mem_cons, Prod.mk.injEq]
      refine or_congr_right ⟨fun hmem => ⟨?_, hmem⟩, And.right⟩
      rintro rfl
      exact hnew b hmem
    · split
      · next hsame =>
        subst hsame
        rw [List.mem_cons, List.mem_cons, Prod.mk.injEq, Prod.mk.injEq]
        refine or_congr_right ⟨fun hmem => ⟨?_, .inr hmem⟩, ?_⟩
        · rintro rfl
          exact String.lt_irrefl _ (hlater hmem)
        · rintro ⟨hne, ⟨hsame, -⟩ | hmem⟩
          · exact absurd hsame hne
          · exact hmem
      · next hne =>
        rw [List.mem_cons, List.mem_cons, ih htail, Prod.mk.injEq]
        constructor
        · rintro (⟨rfl, rfl⟩ | hput | ⟨hother, hmem⟩)
          · exact .inr ⟨Ne.symm hne, .inl ⟨rfl, rfl⟩⟩
          · exact .inl hput
          · exact .inr ⟨hother, .inr hmem⟩
        · rintro (hput | ⟨hother, hhere | hmem⟩)
          · exact .inr (.inl hput)
          · exact .inl hhere
          · exact .inr (.inr ⟨hother, hmem⟩)

theorem entriesOf_concat (members : List (String × α)) (m : String × α) :
    entriesOf (members ++ [m]) = putEntry m.1 m.2 (entriesOf members) := by
  rw [entriesOf, List.foldl_append]
  rfl

theorem ordered_entriesOf (members : List (String × α)) : Ordered (entriesOf members) := by
  induction members using List.reverseRecOn with
  | nil => exact List.Pairwise.nil
  | append_singleton members m ih =>
    rw [entriesOf_concat]
    exact ordered_putEntry m.1 m.2 ih

/-- A value that is the last of its name is so, or not, whatever comes behind it under another name. -/
theorem lastOf_concat_iff {members : List (String × α)} {m : String × α} {name : String} {a : α} :
    LastOf (members ++ [m]) name a ↔ (name = m.1 ∧ a = m.2) ∨ (name ≠ m.1 ∧ LastOf members name a) := by
  constructor
  · rintro ⟨before, after, hmembers, hnew⟩
    rcases List.eq_nil_or_concat after with rfl | ⟨after, m', rfl⟩
    · obtain ⟨-, hlast⟩ := List.append_inj' hmembers rfl
      obtain rfl := List.singleton_inj.mp hlast
      exact .inl ⟨rfl, rfl⟩
    · rw [List.concat_eq_append, ← List.cons_append, ← List.append_assoc] at hmembers
      obtain ⟨rfl, hlast⟩ := List.append_inj' hmembers rfl
      obtain rfl := List.singleton_inj.mp hlast
      rw [List.concat_eq_append, List.map_append, List.mem_append, not_or] at hnew
      exact .inr ⟨fun hsame => hnew.2 (List.mem_singleton.mpr hsame), before, after, rfl, hnew.1⟩
  · rintro (⟨rfl, rfl⟩ | ⟨hne, before, after, rfl, hnew⟩)
    · exact ⟨members, [], rfl, List.not_mem_nil⟩
    · refine ⟨before, after ++ [m], by rw [List.append_assoc, List.cons_append], ?_⟩
      rw [List.map_append, List.mem_append, not_or]
      exact ⟨hnew, fun hsame => hne (List.mem_singleton.mp hsame)⟩

/-- **A table holds the last value of each name** and nothing else. -/
theorem mem_entriesOf_iff {members : List (String × α)} {name : String} {a : α} :
    (name, a) ∈ entriesOf members ↔ LastOf members name a := by
  induction members using List.reverseRecOn with
  | nil =>
    refine iff_of_false List.not_mem_nil ?_
    rintro ⟨before, after, hmembers, -⟩
    exact List.cons_ne_nil _ _ (List.append_eq_nil_iff.mp hmembers.symm).2
  | append_singleton members m ih =>
    rw [entriesOf_concat, mem_putEntry_iff (ordered_entriesOf members), lastOf_concat_iff, ih]

end Codec

end MapExport.Json
