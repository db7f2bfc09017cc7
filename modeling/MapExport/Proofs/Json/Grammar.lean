import Mathlib.Data.List.Forall2
import Mathlib.Data.List.TakeWhile
import MapExport.Json.Codec
import MapExport.Proofs.Store.Keys
import MapExport.Proofs.Workflow.Course

/-!
# How values are spelled

A value may be spelled in many ways: white space may stand around it and around its parts, and the characters of a
quoted text may be escaped. A spelling tells which texts stand for which values, apart from any reader. What the readers
take is spelled so (`OnlySpelled`); it is shown here of quoted texts and in `Proofs.Json.Series` of what is built from
parts.
-/

set_option autoImplicit false

namespace MapExport.Json

/-! ## Spellings -/

/-- **A spelling** tells which texts stand for a value. -/
abbrev Spelling (α : Type) := α → List Char → Prop

/-- White space and nothing else. -/
def Blank (cs : List Char) : Prop := ∀ c ∈ cs, isSpace (some c) = true

/-- Four hexadecimal digits and the number they write. -/
structure SpelledUnit (n : Nat) (digits : List Char) : Prop where
  length : digits.length = 4
  value : Text.hexNumber? digits = some n

/-- **A character of a quoted text:** as it is, behind a backslash, by its number, or by two numbers if it lies beyond
sixteen bits. -/
inductive SpelledChar : Spelling Char
  | plain {c : Char} : c ≠ '"' → c ≠ '\\' → 32 ≤ c.toNat → SpelledChar c [c]
  | letter {c l : Char} : letterEscape? l = some c → SpelledChar c ['\\', l]
  | number {c : Char} {digits : List Char} : SpelledUnit c.toNat digits → SpelledChar c ('\\' :: 'u' :: digits)
  | surrogates {c : Char} {high low : Nat} {first second : List Char} :
      SpelledUnit high first → 0xD800 ≤ high → high ≤ 0xDBFF → SpelledUnit low second → 0xDC00 ≤ low → low ≤ 0xDFFF →
      c.toNat = 0x10000 + (high - 0xD800) * 1024 + (low - 0xDC00) →
      SpelledChar c ('\\' :: 'u' :: first ++ '\\' :: 'u' :: second)

namespace Spelling

/-- **Quoted text:** a spelling of each character, between quotes. -/
def text : Spelling String := fun s cs =>
  ∃ forms, List.Forall₂ SpelledChar s.toList forms ∧ cs = '"' :: forms.flatten ++ ['"']

/-- Nothing is spelled by one word. -/
def nothing : Spelling Unit := fun _ cs => cs = ['n', 'u', 'l', 'l']

variable {α : Type}

/-- With white space in front. -/
def led (P : Spelling α) : Spelling α := fun a cs => ∃ blank inner, Blank blank ∧ P a inner ∧ cs = blank ++ inner

/-- With white space on both sides. -/
def padded (P : Spelling α) : Spelling α := fun a cs => ∃ inner blank, P.led a inner ∧ Blank blank ∧ cs = inner ++ blank

/-- **Several values** between two brackets, with commas between them. -/
def series (opening closing : Char) (P : Spelling α) : Spelling (List α) := fun as cs =>
  ∃ inner, cs = opening :: inner ++ [closing] ∧
    ((as = [] ∧ Blank inner) ∨
      as ≠ [] ∧ ∃ parts, List.Forall₂ P.padded as parts ∧ inner = [','].intercalate parts)

/-- What follows a name: a colon, and a value. -/
def afterName (P : Spelling α) : Spelling α := fun a cs =>
  ∃ blank value, Blank blank ∧ P.led a value ∧ cs = blank ++ ':' :: value

/-- **A member:** a quoted name, a colon, and a value. -/
def member (P : Spelling α) : Spelling (String × α) := fun m cs =>
  ∃ name value, text m.1 name ∧ P.afterName m.2 value ∧ cs = name ++ value

/-- **One of a few names,** quoted, or as the only member of a record that says nothing of it. -/
def choice (label : α → String) : Spelling α := fun a cs =>
  text (label a) cs ∨ series '\x7b' '\x7d' nothing.member [(label a, ())] cs

end Spelling

/-! ## Readers -/

/-- **A reader that takes nothing but spelled values,** from the front of a text. -/
def OnlySpelled {α : Type} (read : Symbols → Except Fault (α × Symbols)) (P : Spelling α) : Prop :=
  ∀ cs a rest, read (cs.map some) = .ok (a, rest) →
    ∃ taken left, cs = taken ++ left ∧ rest = left.map some ∧ P a taken

theorem Blank.nil : Blank [] := nofun

theorem Spelling.led_of {α : Type} {P : Spelling α} {a : α} {cs : List Char} (h : P a cs) : P.led a cs :=
  ⟨[], cs, .nil, h, rfl⟩

/-- **White space is passed over.** -/
theorem skipSpaces_map (cs : List Char) : ∃ blank left, Blank blank ∧ cs = blank ++ left ∧
    skipSpaces (cs.map some) = left.map some := by
  refine ⟨cs.takeWhile fun c => isSpace (some c), cs.dropWhile fun c => isSpace (some c), ?_, ?_, ?_⟩
  · intro c hc
    exact List.mem_takeWhile_imp (p := fun c => isSpace (some c)) hc
  · exact List.takeWhile_append_dropWhile.symm
  · rw [skipSpaces, List.dropWhile_map]
    rfl

/-- A value that is read begins behind the white space. -/
theorem atValue_map_eq_ok {cs : List Char} {rest : Symbols} (h : atValue (cs.map some) = .ok rest) :
    ∃ blank left, Blank blank ∧ cs = blank ++ left ∧ rest = left.map some := by
  obtain ⟨blank, left, hblank, hcs, hskip⟩ := skipSpaces_map cs
  rw [atValue, hskip] at h
  split at h
  · cases h
  · exact ⟨blank, left, hblank, hcs, (Except.ok.inj h).symm⟩

/-- A word is read letter by letter. -/
theorem readWord_map_eq_ok {word cs : List Char} {rest : Symbols} (h : readWord word (cs.map some) = .ok rest) :
    ∃ left, cs = word ++ left ∧ rest = left.map some := by
  induction word generalizing cs with
  | nil => exact ⟨cs, rfl, (Except.ok.inj h).symm⟩
  | cons w word ih =>
    cases cs with
    | nil => cases h
    | cons c cs =>
      rw [List.map_cons, readWord] at h
      split at h
      · next hc =>
        obtain ⟨left, rfl, hrest⟩ := ih h
        exact ⟨left, by rw [Option.some.inj hc, List.cons_append], hrest⟩
      · cases h

theorem readColon_map_eq_ok {cs : List Char} {rest : Symbols} (h : readColon (cs.map some) = .ok rest) :
    ∃ blank left, Blank blank ∧ cs = blank ++ ':' :: left ∧ rest = left.map some := by
  obtain ⟨blank, left, hblank, rfl, hskip⟩ := skipSpaces_map cs
  rw [readColon, hskip] at h
  cases left with
  | nil => cases h
  | cons c left =>
    rw [List.map_cons] at h
    dsimp only at h
    split at h
    · next hc => exact ⟨blank, left, hblank, by rw [Option.some.inj hc], (Except.ok.inj h).symm⟩
    · cases h

/-! ## Quoted text -/

/-- A hexadecimal digit is one byte long, and less than sixteen. -/
theorem hexValue?_lt {c : Char} {v : Nat} (h : Text.hexValue? c = some v) : v < 16 ∧ c.utf8Size = 1 := by
  have hvalue : ∀ n < 128, ∀ v, Text.hexValue? (Char.ofNat n) = some v → v < 16 := by decide
  -- All hexadecimal digits are found below 128, where each can be looked at.
  have hascii : c.toNat < 128 := by
    rw [Text.hexValue?] at h
    simp only [Char.le_def, UInt32.le_iff_toNat_le] at h
    split at h
    · next hle => exact Nat.lt_of_le_of_lt hle.2 (by decide)
    · split at h
      · next hle => exact Nat.lt_of_le_of_lt hle.2 (by decide)
      · split at h
        · next hle => exact Nat.lt_of_le_of_lt hle.2 (by decide)
        · cases h
  constructor
  · exact hvalue c.toNat hascii v (by rw [Char.ofNat_toNat, h])
  · rw [Char.utf8Size_eq_one_iff, UInt32.le_iff_toNat_le]
    exact Nat.le_of_lt_succ hascii

/-- Each digit makes a number sixteen times as large at most, and takes one byte. -/
theorem foldlM_hexValue?_lt {cs : List Char} {m n bound : Nat} (hm : m < bound)
    (h : cs.foldlM (fun n c => (Text.hexValue? c).map (16 * n + ·)) m = some n) :
    n < bound * Nat.pow 16 cs.length ∧ ∀ c ∈ cs, c.utf8Size = 1 := by
  induction cs generalizing m bound with
  | nil =>
    obtain rfl := Option.some.inj h
    refine ⟨?_, nofun⟩
    change m < bound * 1
    rwa [Nat.mul_one]
  | cons c cs ih =>
    obtain ⟨next, hnext, hrest⟩ := Option.bind_eq_some_iff.mp h
    obtain ⟨v, hv, rfl⟩ := Option.map_eq_some_iff.mp hnext
    obtain ⟨hlt, hsize⟩ := hexValue?_lt hv
    have hnext : 16 * m + v < bound * 16 := by omega
    obtain ⟨hn, hsizes⟩ := ih hnext hrest
    refine ⟨?_, List.forall_mem_cons.mpr ⟨hsize, hsizes⟩⟩
    have hpow : Nat.pow 16 (c :: cs).length = 16 * Nat.pow 16 cs.length := Nat.pow_succ'
    rwa [hpow, ← Nat.mul_assoc]

/-- A number that is no surrogate is the number of a character. -/
theorem toNat_ofNat_of_valid {n : Nat} (h : n < 0xD800 ∨ 0xDFFF < n ∧ n < 0x110000) : (Char.ofNat n).toNat = n := by
  rw [Char.ofNat, dif_pos h]
  rfl

theorem SpelledUnit.lt {n : Nat} {digits : List Char} (h : SpelledUnit n digits) : n < 0x10000 := by
  have hlt := (foldlM_hexValue?_lt Nat.zero_lt_one h.value).1
  rw [h.length] at hlt
  exact Nat.lt_of_lt_of_le hlt (by decide)

theorem readHex_onlySpelled : OnlySpelled readHex SpelledUnit := by
  intro cs n rest h
  have hchars : ((cs.map some).take 4).mapM id = some (cs.take 4) := by
    rw [← List.map_take, List.mapM_map]
    exact List.mapM_pure.trans (congrArg some (List.map_id _))
  rw [readHex, hchars] at h
  split at h
  · cases h
  next hlong =>
  dsimp only at h
  split at h
  case h_2 => cases h
  next m hvalue =>
  obtain ⟨rfl, rfl⟩ := Prod.mk.inj (Except.ok.inj h)
  refine ⟨cs.take 4, cs.drop 4, (List.take_append_drop 4 cs).symm, List.map_drop.symm, ?_, hvalue⟩
  -- The digits take one byte each, so with four bytes there are four of them.
  have hsizes : ((cs.map some).take 4).map symbolSize = List.replicate (cs.take 4).length 1 := by
    rw [← List.map_take, List.map_map, List.eq_replicate_iff]
    refine ⟨List.length_map _, ?_⟩
    intro size hsize
    obtain ⟨c, hc, rfl⟩ := List.mem_map.mp hsize
    exact (foldlM_hexValue?_lt Nat.zero_lt_one hvalue).2 c hc
  rw [hsizes, ← List.sum_eq_foldl, List.sum_replicate_nat, List.length_take] at hlong
  rw [List.length_take]
  omega

/-- **A number stands for a character,** or together with a second one. -/
theorem readCodeUnit_onlySpelled : OnlySpelled readCodeUnit fun c cs => SpelledChar c ('\\' :: 'u' :: cs) := by
  intro cs c rest h
  obtain ⟨⟨n, afterDigits⟩, hhex, h⟩ := bind_eq_ok_iff.mp h
  obtain ⟨digits, left, rfl, rfl, hdigits⟩ := readHex_onlySpelled _ _ _ hhex
  have hlt := hdigits.lt
  dsimp only at h
  -- A number in the lower half of the surrogates stands for nothing, one in the upper half needs a second.
  split at h
  · cases h
  next hnotLow =>
  split at h
  · next hhigh =>
    obtain ⟨hmore, hless⟩ := hhigh
    rw [readLowSurrogate.eq_def] at h
    split at h
    · cases h
    · cases h
    · next second hsecond =>
      obtain ⟨secondChars, hchars, rfl⟩ : ∃ chars, left = '\\' :: 'u' :: chars ∧ second = chars.map some := by
        cases left with
        | nil => cases hsecond
        | cons a left =>
          cases left with
          | nil => cases hsecond
          | cons b left =>
            simp only [List.map_cons, List.cons.injEq, Option.some.injEq] at hsecond
            obtain ⟨rfl, rfl, rfl⟩ := hsecond
            exact ⟨left, rfl, rfl⟩
      obtain ⟨⟨low, afterSecond⟩, hhex', h⟩ := bind_eq_ok_iff.mp h
      obtain ⟨digits', left', rfl, rfl, hdigits'⟩ := readHex_onlySpelled _ _ _ hhex'
      dsimp only at h
      split at h
      · cases h
      next hlow =>
      obtain ⟨rfl, rfl⟩ := Prod.mk.inj (Except.ok.inj h)
      refine ⟨digits ++ '\\' :: 'u' :: digits', left', ?_, rfl, ?_⟩
      · rw [hchars, List.append_assoc, List.cons_append, List.cons_append]
      · refine .surrogates hdigits hmore hless hdigits' (by omega) (by omega) ?_
        rw [toNat_ofNat_of_valid (by omega)]
        omega
    · cases h
  · obtain ⟨rfl, rfl⟩ := Prod.mk.inj (Except.ok.inj h)
    refine ⟨digits, left, rfl, rfl, .number ?_⟩
    rw [toNat_ofNat_of_valid (by omega)]
    exact hdigits

theorem readEscape_onlySpelled : OnlySpelled readEscape fun c cs => SpelledChar c ('\\' :: cs) := by
  intro cs c rest h
  cases cs with
  | nil => cases h
  | cons l cs =>
    rw [List.map_cons] at h
    by_cases hl : l = 'u'
    · subst hl
      obtain ⟨taken, left, rfl, hrest, hspelled⟩ := readCodeUnit_onlySpelled _ _ _ h
      exact ⟨'u' :: taken, left, rfl, hrest, hspelled⟩
    · rw [readEscape] at h
      · split at h
        · next e hletter =>
          obtain ⟨rfl, rfl⟩ := Prod.mk.inj (Except.ok.inj h)
          exact ⟨[l], cs, rfl, rfl, .letter hletter⟩
        · cases h
      · exact hl

/-- The symbols of a quoted text are characters, each of them spelled, up to a quote. -/
theorem readQuotedFrom_map_eq_ok {fuel : Nat} {cs : List Char} {body rest : Symbols}
    (h : readQuotedFrom fuel (cs.map some) = .ok (body, rest)) :
    ∃ chars forms left, body = chars.map some ∧ List.Forall₂ SpelledChar chars forms ∧
      cs = forms.flatten ++ '"' :: left ∧ rest = left.map some := by
  -- One spelled character is taken in each step; an escape takes more than one symbol.
  induction fuel generalizing cs body rest with
  | zero => cases h
  | succ fuel ih =>
    cases cs with
    | nil => cases h
    | cons c cs =>
      rw [List.map_cons, readQuotedFrom] at h
      split at h
      · next hquote =>
        obtain ⟨rfl, rfl⟩ := Prod.mk.inj (Except.ok.inj h)
        exact ⟨[], [], cs, rfl, .nil, by rw [Option.some.inj hquote]; rfl, rfl⟩
      next hquote =>
      split at h
      · next hbackslash =>
        obtain ⟨⟨e, afterEscape⟩, hescape, h⟩ := bind_eq_ok_iff.mp h
        obtain ⟨⟨others, afterOthers⟩, hothers, h⟩ := bind_eq_ok_iff.mp h
        obtain ⟨taken, left, rfl, rfl, hform⟩ := readEscape_onlySpelled _ _ _ hescape
        obtain ⟨chars, forms, left', rfl, hforms, rfl, rfl⟩ := ih hothers
        obtain ⟨rfl, rfl⟩ := Prod.mk.inj (Except.ok.inj h)
        refine ⟨e :: chars, _ :: forms, left', rfl, .cons hform hforms, ?_, rfl⟩
        rw [Option.some.inj hbackslash, List.flatten_cons, List.cons_append, List.cons_append, List.append_assoc]
      next hbackslash =>
      split at h
      · cases h
      next hcontrol =>
      obtain ⟨⟨others, afterOthers⟩, hothers, h⟩ := bind_eq_ok_iff.mp h
      obtain ⟨chars, forms, left, rfl, hforms, rfl, rfl⟩ := ih hothers
      obtain ⟨rfl, rfl⟩ := Prod.mk.inj (Except.ok.inj h)
      rw [Option.any_some, decide_eq_true_eq] at hcontrol
      have hform : SpelledChar c [c] := by
        refine .plain ?_ ?_ (Nat.le_of_not_lt hcontrol)
        · rintro rfl
          exact hquote rfl
        · rintro rfl
          exact hbackslash rfl
      exact ⟨c :: chars, [c] :: forms, left, rfl, .cons hform hforms, rfl, rfl⟩

/-- **A quoted text that is read** is a spelling of what is read. -/
theorem readQuoted_onlySpelled : OnlySpelled readQuoted fun s cs => Spelling.text s ('"' :: cs) := by
  intro cs s rest h
  obtain ⟨⟨body, afterQuote⟩, hbody, h⟩ := bind_eq_ok_iff.mp h
  obtain ⟨chars, forms, left, rfl, hforms, rfl, rfl⟩ := readQuotedFrom_map_eq_ok hbody
  have hchars : (chars.map some).mapM id = some chars := by
    rw [List.mapM_map]
    exact List.mapM_pure.trans (congrArg some (List.map_id _))
  dsimp only at h
  rw [hchars] at h
  obtain ⟨rfl, rfl⟩ := Prod.mk.inj (Except.ok.inj h)
  refine ⟨forms.flatten ++ ['"'], left, ?_, rfl, forms, ?_, rfl⟩
  · rw [List.append_assoc, List.singleton_append]
  · rw [String.toList_ofList]
    exact hforms

end MapExport.Json
