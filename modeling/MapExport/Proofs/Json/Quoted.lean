import MapExport.Json.Print
import MapExport.Json.Scan.Quoted

/-!
# Quoted text that is read back

A quoted text is read as the text that it was printed for, whatever follows its closing quote. Every character is read
back by itself, so it is enough to look at each of the forms in which a character is printed.
-/

set_option autoImplicit false

namespace MapExport.Json

/-- Four characters are enough for four hexadecimal digits. -/
theorem readHex_of_hexNumber? {a b c d : Char} {n : Nat} (h : Text.hexNumber? [a, b, c, d] = some n) (rest : Symbols) :
    readHex (some a :: some b :: some c :: some d :: rest) = .ok (n, rest) := by
  have hsize : ¬ a.utf8Size + b.utf8Size + c.utf8Size + d.utf8Size < 4 := by
    have ha := a.utf8Size_pos
    have hb := b.utf8Size_pos
    have hc := c.utf8Size_pos
    have hd := d.utf8Size_pos
    omega
  simp [readHex, symbolSize, hsize, h]

/-- A control character is escaped by its number. -/
theorem hexNumber?_control : ∀ n < 32,
    Text.hexNumber? ['0', '0', Text.hexDigit (n / 16), Text.hexDigit (n % 16)] = some n := by
  decide

theorem readEscape_control {c : Char} (h : c.toNat < 32) (rest : Symbols) :
    readEscape (some 'u' :: some '0' :: some '0' :: some (Text.hexDigit (c.toNat / 16)) ::
      some (Text.hexDigit (c.toNat % 16)) :: rest) = .ok (c, rest) := by
  simp only [readEscape, readCodeUnit, readHex_of_hexNumber? (hexNumber?_control c.toNat h), bind, Except.bind]
  rw [if_neg (by omega), if_neg (by omega), Char.ofNat_toNat]

/-- **The forms in which a character is printed:** by a letter, by its number, or as it is. -/
inductive Escaped (c : Char) : List Char → Prop where
  | letter (l : Char) : letterEscape? l = some c → l ≠ 'u' → Escaped c ['\\', l]
  | control : c.toNat < 32 →
      Escaped c ['\\', 'u', '0', '0', Text.hexDigit (c.toNat / 16), Text.hexDigit (c.toNat % 16)]
  | plain : c ≠ '"' → c ≠ '\\' → 32 ≤ c.toNat → Escaped c [c]

theorem escaped_escape (c : Char) : Escaped c (escape c) := by
  unfold escape
  split
  · next h => exact .letter '"' (by rw [h]; rfl) (by decide)
  · next hquote =>
    split
    · next h => exact .letter '\\' (by rw [h]; rfl) (by decide)
    · next hbackslash =>
      split
      · next h => exact .letter 'n' (by rw [h]; rfl) (by decide)
      · split
        · next h => exact .letter 'r' (by rw [h]; rfl) (by decide)
        · split
          · next h => exact .letter 't' (by rw [h]; rfl) (by decide)
          · split
            · next h => exact .letter 'b' (by rw [← Char.ofNat_toNat c, h]; rfl) (by decide)
            · split
              · next h => exact .letter 'f' (by rw [← Char.ofNat_toNat c, h]; rfl) (by decide)
              · split
                · next h => exact .control h
                · next h => exact .plain hquote hbackslash (Nat.le_of_not_lt h)

/-- **A printed character is read back,** and the reader goes on behind it. -/
theorem readQuotedFrom_escape (c : Char) (fuel : Nat) (rest : Symbols) :
    readQuotedFrom (fuel + 1) ((escape c).map some ++ rest) =
      (readQuotedFrom fuel rest).map fun (body, rest) => (some c :: body, rest) := by
  -- From here on only the form counts, not for which character it is chosen.
  have hescaped := escaped_escape c
  generalize escape c = printed at hescaped
  cases hescaped with
  | letter l hletter hl =>
    have hread : readEscape (some l :: rest) = .ok (c, rest) := by
      rw [readEscape]
      · rw [hletter]
      · intro heq
        exact hl heq
    rw [List.map_cons, List.map_singleton, List.cons_append, List.singleton_append, readQuotedFrom,
      if_neg (by decide), if_pos rfl, hread]
    simp only [bind, Except.bind]
    cases readQuotedFrom fuel rest <;> rfl
  | control h =>
    simp only [List.map_cons, List.map_nil, List.cons_append, List.nil_append]
    rw [readQuotedFrom, if_neg (by decide), if_pos rfl, readEscape_control h]
    simp only [bind, Except.bind]
    cases readQuotedFrom fuel rest <;> rfl
  | plain hquote hbackslash h =>
    have hcontrol : ¬ (some c).any (fun c => decide (c.toNat < 32)) = true := by
      rw [Option.any_some, decide_eq_true_eq]
      omega
    rw [List.map_singleton, List.singleton_append, readQuotedFrom,
      if_neg (fun heq => hquote (Option.some.inj heq)), if_neg (fun heq => hbackslash (Option.some.inj heq)),
      if_neg hcontrol]
    cases readQuotedFrom fuel rest <;> rfl

/-- The characters of a text are read up to the closing quote. -/
theorem readQuotedFrom_escaped (cs : List Char) (fuel : Nat) (rest : Symbols) (hfuel : cs.length < fuel) :
    readQuotedFrom fuel ((cs.flatMap escape).map some ++ some '"' :: rest) = .ok (cs.map some, rest) := by
  induction cs generalizing fuel with
  | nil =>
    obtain ⟨fuel, rfl⟩ := Nat.exists_eq_add_one_of_ne_zero (Nat.ne_zero_of_lt hfuel)
    rw [List.flatMap_nil, List.map_nil, List.nil_append, readQuotedFrom, if_pos rfl]
  | cons c cs ih =>
    obtain ⟨fuel, rfl⟩ := Nat.exists_eq_add_one_of_ne_zero (Nat.ne_zero_of_lt hfuel)
    rw [List.length_cons, Nat.add_lt_add_iff_right] at hfuel
    rw [List.flatMap_cons, List.map_append, List.append_assoc, readQuotedFrom_escape, ih fuel hfuel]
    rfl

/-- Every character is printed. -/
theorem length_escape_pos (c : Char) : 0 < (escape c).length := by
  have hescaped := escaped_escape c
  generalize escape c = printed at hescaped
  cases hescaped <;> exact Nat.zero_lt_succ _

/-- A text does not become shorter when it is quoted. -/
theorem length_le_escaped (cs : List Char) : cs.length ≤ (cs.flatMap escape).length := by
  induction cs with
  | nil => exact Nat.le_refl 0
  | cons c cs ih =>
    have hc := length_escape_pos c
    rw [List.flatMap_cons, List.length_append, List.length_cons]
    omega

/-- **A quoted text is read back,** its opening quote having been read. -/
theorem readQuoted_quoted (s : String) (rest : Symbols) :
    readQuoted ((s.toList.flatMap escape).map some ++ some '"' :: rest) = .ok (s, rest) := by
  have hlength := length_le_escaped s.toList
  have hfuel : s.toList.length <
      ((s.toList.flatMap escape).map some ++ some '"' :: rest).length + 1 := by
    rw [List.length_append, List.length_map]
    omega
  have hchars : (s.toList.map some).mapM id = some s.toList := by
    rw [List.mapM_map]
    exact List.mapM_pure.trans (congrArg some (List.map_id _))
  rw [readQuoted, readQuotedFrom_escaped s.toList _ rest hfuel]
  simp only [bind, Except.bind, hchars, String.ofList_toList]

/-- The characters of a quoted text, followed by others. -/
theorem quotedChars_append (s : String) (rest : Symbols) :
    (quotedChars s).map some ++ rest =
      some '"' :: ((s.toList.flatMap escape).map some ++ some '"' :: rest) := by
  rw [quotedChars]
  simp

end MapExport.Json
