import MapExport.Proofs.Instant.ReadBack
import MapExport.Proofs.Json.Quoted
import MapExport.Proofs.Store.Keys
import MapExport.Proofs.Uid
import MapExport.Proofs.Workflow.Course
import MapExport.Json.Codec

/-!
# Values that are read back

A codec reads a value back when it finds the value at the head of every text that begins with what it prints for
it. What follows is left as it is; so what is proved of the parts of a value can be put together to what holds of
the whole. Here are the simple types, absent values, names and lists; tables and records are in `Members`.
-/

set_option autoImplicit false

namespace MapExport.Json

/-- The symbols that a document is printed with. -/
def symbols (j : Json) : Symbols := j.chars.map some

/-- **A document that can be seen from its first character:** neither white space nor the end of a list, nor the
beginning of a null. -/
def Visible (j : Json) : Prop :=
  ∃ c cs, j.chars = c :: cs ∧ isSpace (some c) = false ∧ c ≠ ']' ∧ c ≠ 'n'

/-- **A document that can be an item:** it begins neither with white space nor with the end of a list. -/
def Begins (j : Json) : Prop := ∃ c cs, j.chars = c :: cs ∧ isSpace (some c) = false ∧ c ≠ ']'

/-- **What a codec gives for a document,** a value or a fault, if so many levels may still be entered, whatever follows
the document. -/
def Codec.Gives {α : Type} (c : Codec α) (depth : Nat) (j : Json) (result : Except Fault α) : Prop :=
  ∀ levels rest, depth ≤ levels → c.read levels (j.symbols ++ rest) = result.map fun a => (a, rest)

/-- **A value that is read back,** if so many levels may still be entered, whatever follows it. -/
def Codec.ReadsBack {α : Type} (c : Codec α) (depth : Nat) (a : α) : Prop :=
  ∀ levels rest, depth ≤ levels → c.read levels ((c.print a).symbols ++ rest) = .ok (a, rest)

/-! ## What a document begins with -/

theorem skipSpaces_cons {c : Option Char} (h : isSpace c = false) (rest : Symbols) :
    skipSpaces (c :: rest) = c :: rest :=
  List.dropWhile_cons_of_neg (by rw [h]; exact Bool.false_ne_true)

theorem atValue_cons {c : Option Char} (h : isSpace c = false) (rest : Symbols) :
    atValue (c :: rest) = .ok (c :: rest) := by
  rw [atValue, skipSpaces_cons h]

theorem visible_text (s : String) : Visible (.text s) :=
  ⟨'"', s.toList.flatMap escape ++ ['"'], by rw [chars, quotedChars, List.cons_append], by decide,
    by decide, by decide⟩

theorem Visible.begins {j : Json} (h : Visible j) : Begins j := by
  obtain ⟨c, cs, hchars, hspace, hend, -⟩ := h
  exact ⟨c, cs, hchars, hspace, hend⟩

theorem begins_list (js : List Json) : Begins (.list js) := by
  cases js with
  | nil => exact ⟨'[', [']'], rfl, by decide, by decide⟩
  | cons j js => exact ⟨'[', chars j ++ moreItems js, rfl, by decide, by decide⟩

/-- The symbols of a quoted text: the opening quote, and what `readQuoted` reads. -/
theorem symbols_text (s : String) (rest : Symbols) :
    (Json.text s).symbols ++ rest = some '"' :: ((s.toList.flatMap escape).map some ++ some '"' :: rest) := by
  rw [symbols, chars, quotedChars_append]

theorem readText_text (expected : Shape) (s : String) (rest : Symbols) :
    readText expected ((Json.text s).symbols ++ rest) = .ok (s, rest) := by
  rw [symbols_text, readText, atValue_cons (by decide)]
  exact readQuoted_quoted s rest

namespace Codec

variable {α : Type}

/-- What is read from the text of a document is read from its symbols, to the end. -/
theorem ofText_render (c : Codec α) (j : Json) : c.ofText j.render = readWhole (c.read maxLevels) j.symbols := by
  rw [Codec.ofText, Codec.decode, symbolsOf, render, String.toList_ofList, symbols]

/-! ## Simple values -/

/-- **Values in a form of their own** are read back if the form can be parsed. -/
theorem readsBack_written {expected : Shape} {print : α → String} {parse : String → Except Fault α} {a : α}
    (h : parse (print a) = .ok a) : (written expected print parse).ReadsBack 0 a := by
  intro levels rest _
  have hprint : (written expected print parse).print a = .text (print a) := rfl
  rw [hprint]
  unfold written
  dsimp only
  rw [readText_text]
  simp only [bind, Except.bind, h]

theorem readsBack_text (s : String) : text.ReadsBack 0 s := readsBack_written rfl

theorem readsBack_uid (u : Uid) : uid.ReadsBack 0 u :=
  readsBack_written (by rw [Uid.ofText_text]; rfl)

theorem readsBack_instant (t : Instant) : instant.ReadsBack 0 t :=
  readsBack_written (by rw [Instant.ofText_text]; rfl)

theorem readsBack_bool (b : Bool) : bool.ReadsBack 0 b := by
  intro levels rest _
  cases b <;> rfl

/-- **A name** is read back if the names tell their values apart. -/
theorem readsBack_choice {names : List (String × α)} {label : α → String} (h : Keyed.Names label names) (a : α) :
    (choice names label).ReadsBack 0 a := by
  intro levels rest _
  have hknown : known names (label a) = .ok a := by
    rw [known, h.find?_label]
  have hprint : (choice names label).print a = .text (label a) := rfl
  rw [hprint, symbols_text]
  unfold choice
  dsimp only
  rw [atValue_cons (by decide)]
  simp only [bind, Except.bind, readQuoted_quoted, hknown]

/-! ## Values that may be absent -/

/-- **A value that may be absent** is read back if it is when it is there; it cannot be taken for a null. -/
theorem readsBack_option {c : Codec α} {depth : Nat} {o : Option α}
    (h : ∀ a ∈ o, c.ReadsBack depth a ∧ Visible (c.print a)) : c.option.ReadsBack depth o := by
  intro levels rest hlevels
  cases o with
  | none => rfl
  | some a =>
    obtain ⟨hread, first, others, hchars, hspace, -, hnull⟩ := h a rfl
    have hvalue := hread levels rest hlevels
    have hprint : c.option.print (some a) = c.print a := rfl
    rw [symbols, hchars, List.map_cons, List.cons_append] at hvalue
    rw [hprint, symbols, hchars, List.map_cons, List.cons_append]
    unfold option
    dsimp only
    rw [skipSpaces_cons hspace]
    split
    · -- The reader of an absent value goes by the first letter of the null.
      next heq => exact absurd (Option.some.inj (List.cons.inj heq).1) hnull
    · rw [hvalue]
      rfl

/-! ## Lists -/

theorem nextItem_first {j : Json} (h : Begins j) (rest : Symbols) :
    nextItem true (j.symbols ++ rest) = .ok (true, j.symbols ++ rest) := by
  obtain ⟨first, others, hchars, hspace, hend⟩ := h
  rw [symbols, hchars, List.map_cons, List.cons_append, nextItem, skipSpaces_cons hspace]
  dsimp only
  rw [if_neg (fun heq => hend (Option.some.inj heq)), if_pos rfl]

theorem nextItem_comma {j : Json} (h : Begins j) (rest : Symbols) :
    nextItem false (some ',' :: (j.symbols ++ rest)) = .ok (true, j.symbols ++ rest) := by
  obtain ⟨first, others, hchars, hspace, hend⟩ := h
  rw [symbols, hchars, List.map_cons, List.cons_append, nextItem, skipSpaces_cons (by decide)]
  dsimp only
  rw [if_neg (by decide), if_neg Bool.false_ne_true, if_pos rfl, skipSpaces_cons hspace]
  dsimp only
  rw [if_neg (fun heq => hend (Option.some.inj heq))]

/-- The symbols after the first item of a list. -/
theorem symbols_moreItems_cons (j : Json) (js : List Json) (rest : Symbols) :
    (moreItems (j :: js)).map some ++ rest = some ',' :: (j.symbols ++ ((moreItems js).map some ++ rest)) := by
  rw [moreItems, List.cons_append, List.map_cons, List.cons_append, List.map_append, List.append_assoc, symbols]

/-- The symbols of a list: the bracket, the first item, and those after it. -/
theorem symbols_list_cons (j : Json) (js : List Json) (rest : Symbols) :
    (Json.list (j :: js)).symbols ++ rest = some '[' :: (j.symbols ++ ((moreItems js).map some ++ rest)) := by
  simp only [symbols, chars, List.map_cons, List.map_append, List.cons_append, List.append_assoc]

theorem length_lt_moreItems (js : List Json) : js.length < (moreItems js).length := by
  induction js with
  | nil => exact Nat.zero_lt_one
  | cons j js ih =>
    rw [moreItems, List.cons_append, List.length_cons, List.length_cons, List.length_append]
    omega

variable {β : Type} {c : Codec α} {depth : Nat} {print : β → Json} {result : β → Except Fault α}

/-- An item is read, and then the others, up to the first fault. -/
theorem readItems_next {j : Json} {levels fuel : Nat} {first : Bool} {cs after rest : Symbols} {item : Except Fault α}
    {others : Except Fault (List α)} (hnext : nextItem first cs = .ok (true, j.symbols ++ after))
    (hitem : c.read levels (j.symbols ++ after) = item.map fun a => (a, after))
    (hothers : readItems (c.read levels) fuel false after = others.map fun as => (as, rest)) :
    readItems (c.read levels) (fuel + 1) first cs =
      (do let a ← item
          let as ← others
          pure (a :: as)).map fun as => (as, rest) := by
  rw [readItems, hnext]
  simp only [bind, Except.bind, hitem]
  cases item with
  | error e => rfl
  | ok a =>
    simp only [Except.map, hothers]
    cases others <;> rfl

/-- The items after the first one are read one by one, up to the first fault. -/
theorem readItems_moreItems {bs : List β} {levels fuel : Nat}
    (hitems : ∀ b ∈ bs, c.Gives depth (print b) (result b) ∧ Begins (print b)) (hlevels : depth ≤ levels)
    (hfuel : bs.length < fuel) (rest : Symbols) :
    readItems (c.read levels) fuel false ((moreItems (bs.map print)).map some ++ rest) =
      (bs.mapM result).map fun as => (as, rest) := by
  obtain ⟨fuel, rfl⟩ := Nat.exists_eq_add_one_of_ne_zero (Nat.ne_zero_of_lt hfuel)
  induction bs generalizing fuel with
  | nil => rfl
  | cons b bs ih =>
    obtain ⟨fuel, rfl⟩ := Nat.exists_eq_add_one_of_ne_zero (Nat.ne_zero_of_lt (Nat.lt_of_succ_lt_succ hfuel))
    obtain ⟨hread, hbegins⟩ := hitems b List.mem_cons_self
    have hothers := ih (fun b' hb => hitems b' (List.mem_cons_of_mem b hb)) fuel (Nat.lt_of_succ_lt_succ hfuel)
    rw [List.map_cons, symbols_moreItems_cons, List.mapM_cons]
    exact readItems_next (nextItem_comma hbegins _) (hread levels _ hlevels) hothers

/-- **A list gives** what its items give, or the first fault of one. -/
theorem gives_list {bs : List β} (hitems : ∀ b ∈ bs, c.Gives depth (print b) (result b) ∧ Begins (print b)) :
    c.list.Gives (depth + 1) (.list (bs.map print)) (bs.mapM result) := by
  intro levels rest hdepth
  obtain ⟨levels, rfl⟩ := Nat.exists_eq_add_one_of_ne_zero (Nat.ne_zero_of_lt hdepth)
  have hlevels : depth ≤ levels := Nat.le_of_succ_le_succ hdepth
  cases bs with
  | nil => rfl
  | cons b bs =>
    obtain ⟨hread, hbegins⟩ := hitems b List.mem_cons_self
    -- Each item takes a symbol at least, so the walk is long enough.
    have hfuel : bs.length < ((print b).symbols ++ ((moreItems (bs.map print)).map some ++ rest)).length := by
      have hlength := length_lt_moreItems (bs.map print)
      rw [List.length_map] at hlength
      rw [List.length_append, List.length_append, List.length_map]
      omega
    have hothers := readItems_moreItems (fun b' hb => hitems b' (List.mem_cons_of_mem b hb)) hlevels hfuel rest
    rw [List.map_cons, symbols_list_cons, List.mapM_cons]
    unfold list
    dsimp only
    rw [atValue_cons (by decide)]
    exact readItems_next (nextItem_first hbegins _) (hread levels _ hlevels) hothers

/-- **A list is read back** if its items are. -/
theorem readsBack_list {as : List α} (hitems : ∀ a ∈ as, c.ReadsBack depth a ∧ Visible (c.print a)) :
    c.list.ReadsBack (depth + 1) as := by
  have hgives : c.list.Gives (depth + 1) (.list (as.map c.print)) (as.mapM .ok) :=
    gives_list fun a ha => ⟨(hitems a ha).1, (hitems a ha).2.begins⟩
  have hall : as.mapM .ok = (.ok as : Except Fault (List α)) := mapM_eq_ok_self fun _ _ => rfl
  rw [hall] at hgives
  exact hgives

end Codec

end MapExport.Json
