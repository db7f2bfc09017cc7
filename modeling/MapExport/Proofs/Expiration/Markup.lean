import Mathlib.Logic.Function.Basic
import MapExport.Expiration.Warning

/-!
# Names inside markup

The name of a job was chosen by a user, and a warning shows it inside markup. Escaping replaces five characters in the
whole text, one after the other, so each replacement also runs over what the earlier ones have written. It comes to the
same as writing each character for itself (`toList_escapeMarkup`), because the ampersand comes first and no entity
holds any of the other four. So nothing of a name is taken for markup, and the name can be read off the markup.
-/

set_option autoImplicit false

namespace MapExport.Warning

/-! ## What escaping writes -/

/-- What is written for one character. -/
def escapeMark (c : Char) : List Char := ((entities.find? (·.1 == c)).map (·.2.toList)).getD [c]

theorem toList_replace (c : Char) (text s : String) :
    (replace c text s).toList = s.toList.flatMap fun d => if d = c then text.toList else [d] := by
  rw [replace, String.toList_ofList]

/-- **Replacing one character after the other** comes to the same as doing so for each character of the text. -/
theorem toList_replaceAll (table : List (Char × String)) (s : String) :
    (replaceAll table s).toList = s.toList.flatMap fun d => (replaceAll table (String.ofList [d])).toList := by
  -- The text is generalized because every replacement hands on another one.
  induction table generalizing s with
  | nil => simp only [replaceAll, String.toList_ofList, List.flatMap_singleton']
  | cons row table ih =>
    obtain ⟨c, text⟩ := row
    rw [replaceAll, ih, toList_replace, List.flatMap_assoc]
    refine congrArg (List.flatMap · s.toList) (funext fun d => ?_)
    rw [replaceAll, ih (replace c text (String.ofList [d])), toList_replace, String.toList_ofList,
      List.flatMap_singleton]

/-- A character has an entity, which is written for it, or is written as it is. -/
theorem escapeMark_cases (c : Char) :
    (∃ entity, (c, entity) ∈ entities ∧ escapeMark c = entity.toList) ∨
      (∀ row ∈ entities, row.1 ≠ c) ∧ escapeMark c = [c] := by
  rw [escapeMark]
  cases hfind : entities.find? (·.1 == c) with
  | none =>
    refine .inr ⟨?_, rfl⟩
    intro row hrow heq
    exact List.find?_eq_none.mp hfind row hrow (beq_iff_eq.mpr heq)
  | some row =>
    obtain ⟨d, entity⟩ := row
    have hd : (d == c) = true := List.find?_some (p := fun row : Char × String => row.1 == c) hfind
    obtain rfl := beq_iff_eq.mp hd
    exact .inl ⟨entity, List.mem_of_find?_eq_some hfind, rfl⟩

/-- A character that is not in the table stays as it is. -/
theorem replaceAll_singleton_of_ne {table : List (Char × String)} {d : Char} (h : ∀ row ∈ table, row.1 ≠ d) :
    replaceAll table (String.ofList [d]) = String.ofList [d] := by
  induction table with
  | nil => rfl
  | cons row table ih =>
    obtain ⟨c, text⟩ := row
    have hne : d ≠ c := (h (c, text) List.mem_cons_self).symm
    have hkept : replace c text (String.ofList [d]) = String.ofList [d] := by
      rw [replace, String.toList_ofList, List.flatMap_singleton, if_neg hne]
    rw [replaceAll, hkept]
    exact ih fun row hrow => h row (List.mem_cons_of_mem _ hrow)

/-- An entity is not changed by the replacements that come after its own. -/
theorem replaceAll_entities : ∀ row ∈ entities,
    (replaceAll entities (String.ofList [row.1])).toList = row.2.toList := by
  decide

/-- **Escaping** writes each character for itself. -/
theorem toList_escapeMarkup (s : String) : (escapeMarkup s).toList = s.toList.flatMap escapeMark := by
  rw [escapeMarkup, toList_replaceAll]
  refine congrArg (List.flatMap · s.toList) (funext fun c => ?_)
  rcases escapeMark_cases c with ⟨entity, hentity, hc⟩ | ⟨hother, hc⟩
  · rw [hc]
    exact replaceAll_entities (c, entity) hentity
  · rw [hc, replaceAll_singleton_of_ne hother, String.toList_ofList]

/-! ## Nothing is taken for markup -/

/-- An entity begins with an ampersand, and holds no other character that means something in markup. -/
theorem entity_shape : ∀ row ∈ entities, row.2.toList = '&' :: row.2.toList.tail ∧
    ∀ c ∈ row.2.toList.tail, ∀ row' ∈ entities, row'.1 ≠ c := by
  have hshape : (entities.all fun row => row.2.toList == '&' :: row.2.toList.tail &&
      row.2.toList.tail.all fun c => entities.all fun row' => row'.1 != c) = true := by decide
  simpa only [List.all_eq_true, Bool.and_eq_true, beq_iff_eq, bne_iff_ne] using hshape

theorem not_special_of_mem_escapeMark {c d : Char} (h : d ∈ escapeMark c) :
    d = '&' ∨ ∀ row ∈ entities, row.1 ≠ d := by
  rcases escapeMark_cases c with ⟨entity, hentity, hc⟩ | ⟨hother, hc⟩
  · obtain ⟨hbody, hplain⟩ := entity_shape _ hentity
    rw [hc, hbody] at h
    rcases List.mem_cons.mp h with rfl | h
    · exact .inl rfl
    · exact .inr (hplain d h)
  · rw [hc, List.mem_singleton] at h
    exact .inr (h ▸ hother)

/-- An ampersand behind characters that are none begins further on. -/
theorem suffix_of_suffix_append {body more rest : List Char} (h : '&' ∉ body) (hsuffix : '&' :: rest <:+ body ++ more) :
    '&' :: rest <:+ more := by
  induction body with
  | nil => exact hsuffix
  | cons c body ih =>
    rw [List.cons_append, List.suffix_cons_iff] at hsuffix
    rcases hsuffix with heq | hsuffix
    · exact absurd (List.head_eq_of_cons_eq heq ▸ List.mem_cons_self) h
    · exact ih (fun hmem => h (List.mem_cons_of_mem c hmem)) hsuffix

/-- **Every ampersand begins an entity.** -/
theorem entity_of_suffix {cs rest : List Char} (h : '&' :: rest <:+ cs.flatMap escapeMark) :
    ∃ row ∈ entities, row.2.toList <+: '&' :: rest := by
  induction cs with
  | nil => simp at h
  | cons c cs ih =>
    -- The ampersand stands at the beginning of what is written for the first character, or in what comes after it.
    rw [List.flatMap_cons] at h
    rcases escapeMark_cases c with ⟨entity, hentity, hc⟩ | ⟨hother, hc⟩
    · obtain ⟨hbody, hplain⟩ := entity_shape _ hentity
      rw [hc, hbody, List.cons_append, List.suffix_cons_iff] at h
      rcases h with heq | h
      · refine ⟨_, hentity, ?_⟩
        rw [hbody, heq]
        exact List.prefix_append _ _
      · exact ih (suffix_of_suffix_append (fun hmem => hplain '&' hmem ('&', "&amp;") List.mem_cons_self rfl) h)
    · rw [hc] at h
      refine ih (suffix_of_suffix_append ?_ h)
      rw [List.mem_singleton]
      rintro rfl
      exact hother ('&', "&amp;") List.mem_cons_self rfl

/-! ## Nothing is lost -/

/-- The entities of a text decoded, from left to right. -/
def decodeEntities : List Char → List Char
  | '&' :: 'a' :: 'm' :: 'p' :: ';' :: rest => '&' :: decodeEntities rest
  | '&' :: 'l' :: 't' :: ';' :: rest => '<' :: decodeEntities rest
  | '&' :: 'g' :: 't' :: ';' :: rest => '>' :: decodeEntities rest
  | '&' :: 'q' :: 'u' :: 'o' :: 't' :: ';' :: rest => '"' :: decodeEntities rest
  | '&' :: '#' :: '3' :: '9' :: ';' :: rest => '\'' :: decodeEntities rest
  | c :: rest => c :: decodeEntities rest
  | [] => []

/-- **Reading markup** for the text that it shows. -/
def unescapeMarkup (s : String) : String := String.ofList (decodeEntities s.toList)

/-- An entity is decoded to its character. -/
theorem decodeEntities_entity (rest : List Char) : ∀ row ∈ entities,
    decodeEntities (row.2.toList ++ rest) = row.1 :: decodeEntities rest := by
  simp only [entities, List.forall_mem_cons, List.not_mem_nil, false_implies, implies_true, and_true]
  exact ⟨rfl, rfl, rfl, rfl, rfl⟩

theorem decodeEntities_cons_of_ne {c : Char} (h : c ≠ '&') (rest : List Char) :
    decodeEntities (c :: rest) = c :: decodeEntities rest := by
  rw [decodeEntities] <;> exact fun _ hc => absurd hc h

/-- What is written for a character is decoded to it. -/
theorem decodeEntities_escapeMark (c : Char) (rest : List Char) :
    decodeEntities (escapeMark c ++ rest) = c :: decodeEntities rest := by
  rcases escapeMark_cases c with ⟨entity, hentity, hc⟩ | ⟨hother, hc⟩
  · rw [hc]
    exact decodeEntities_entity rest _ hentity
  · rw [hc, List.singleton_append]
    exact decodeEntities_cons_of_ne (hother ('&', "&amp;") List.mem_cons_self).symm rest

/-- **What was escaped is read back.** -/
theorem unescapeMarkup_escapeMarkup (s : String) : unescapeMarkup (escapeMarkup s) = s := by
  have hdecode (cs : List Char) : decodeEntities (cs.flatMap escapeMark) = cs := by
    induction cs with
    | nil => rfl
    | cons c cs ih => rw [List.flatMap_cons, decodeEntities_escapeMark, ih]
  rw [unescapeMarkup, toList_escapeMarkup, hdecode, String.ofList_toList]

end MapExport.Warning

namespace MapExport

open Warning

/-- **A name in a warning is only a name.** Escaped, it holds no angle bracket and no quote, and every ampersand begins
one of five entities. Decoding these from left to right gives the name back, so no two names look alike. In the
marked-up form of a warning it is the only part that depends on the name. -/
theorem names_stay_names :
    (∀ name, (∀ c ∈ (escapeMarkup name).toList, c ≠ '<' ∧ c ≠ '>' ∧ c ≠ '"' ∧ c ≠ '\'') ∧
      (∀ rest, '&' :: rest <:+ (escapeMarkup name).toList →
        ∃ entity ∈ ["&amp;", "&lt;", "&gt;", "&quot;", "&#39;"], entity.toList <+: '&' :: rest) ∧
      unescapeMarkup (escapeMarkup name) = name) ∧
    Function.Injective escapeMarkup ∧
    ∀ site sender (run : ExpiringRun) recipient threshold, ∃ before after, ∀ name,
      (compose site sender { run with jobName := name } recipient threshold).marked =
        before ++ escapeMarkup name ++ after := by
  refine ⟨?_, Function.LeftInverse.injective unescapeMarkup_escapeMarkup, ?_⟩
  · intro name
    refine ⟨?_, ?_, unescapeMarkup_escapeMarkup name⟩
    · intro c hc
      rw [toList_escapeMarkup] at hc
      obtain ⟨d, -, hc⟩ := List.mem_flatMap.mp hc
      rcases not_special_of_mem_escapeMark hc with rfl | hother
      · decide
      · simp only [entities, List.forall_mem_cons] at hother
        exact ⟨hother.2.1.symm, hother.2.2.1.symm, hother.2.2.2.1.symm, hother.2.2.2.2.1.symm⟩
    · intro rest hrest
      rw [toList_escapeMarkup] at hrest
      obtain ⟨row, hrow, hentity⟩ := entity_of_suffix hrest
      exact ⟨row.2, List.mem_map_of_mem (f := Prod.snd) hrow, hentity⟩
  · intro site sender run recipient threshold
    exact ⟨markedHead, markedTail (statusUrl site run.run.job) run.run.expiration.longText, fun name => rfl⟩

/-- A name that already looks like an entity: its ampersand is written as one, and it is read back. -/
theorem trial_names_stay_names :
    escapeMarkup "&lt;" = "&amp;lt;" ∧ unescapeMarkup "&amp;lt;" = "&lt;" ∧
      ∃ entity ∈ ["&amp;", "&lt;", "&gt;", "&quot;", "&#39;"], entity.toList <+: "&amp;lt;".toList := by
  have hescaped : escapeMarkup "&lt;" = "&amp;lt;" := by decide
  obtain ⟨-, hentities, hback⟩ := names_stay_names.1 "&lt;"
  rw [hescaped] at hback hentities
  exact ⟨hescaped, hback, hentities ['a', 'm', 'p', ';', 'l', 't', ';'] (List.suffix_refl _)⟩

end MapExport
