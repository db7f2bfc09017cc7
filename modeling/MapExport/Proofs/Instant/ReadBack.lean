import MapExport.Instant.Print
import MapExport.Instant.Read
import MapExport.Proofs.Instant.Calendar
import MapExport.Proofs.Text.Numerals
import MapExport.Proofs.Text.Trim

/-!
# Instants that are read back

The text of an instant is read as that instant. The text has every field at its full width, so no field can take a digit
of another one; only a year and a fraction may be longer or shorter, and these end where no digit follows.
-/

set_option autoImplicit false

namespace MapExport.Instant

open Text (Writes)

/-! ## Digits -/

theorem writes_padded (width n : Nat) : Writes (padded width n) n where
  ne_nil := by
    intro h
    exact Nat.toDigits_ne_nil (List.append_eq_nil_iff.mp h).2
  isDigit := by
    intro c hc
    rcases List.mem_append.mp hc with hzero | hdigit
    · rw [(List.mem_replicate.mp hzero).2]
      rfl
    · exact Nat.isDigit_of_mem_toDigits (by decide) (by decide) hdigit
  value := by
    rw [padded, Nat.ofDigitChars_append, Nat.ofDigitChars_replicate_zero, Nat.mul_zero, Nat.ofDigitChars_ten_toDigits]

theorem length_padded {width n : Nat} (hwidth : 0 < width) (h : n < 10 ^ width) : (padded width n).length = width := by
  have hle : (Nat.toDigits 10 n).length ≤ width := (Nat.length_toDigits_le_iff (by decide) hwidth).mpr h
  rw [padded, List.length_append, List.length_replicate]
  omega

/-- Where digits end. -/
def NoDigitAhead (cs : List Char) : Prop := ∀ c ∈ cs.head?, c.isDigit = false

theorem noDigitAhead_nil : NoDigitAhead [] := by
  intro c hc
  cases hc

theorem noDigitAhead_cons {c : Char} (h : c.isDigit = false) (cs : List Char) : NoDigitAhead (c :: cs) := by
  intro d hd
  cases hd
  exact h

theorem takeWhile_isDigit {ds rest : List Char} (hds : ∀ c ∈ ds, c.isDigit = true) (hrest : NoDigitAhead rest) :
    (ds ++ rest).takeWhile Char.isDigit = ds := by
  rw [List.takeWhile_append_of_pos hds]
  cases rest with
  | nil => simp
  | cons c rest => simp [hrest c rfl]

/-- **Digits of a full field** are read as far as the field goes. -/
theorem spanDigits_full {ds rest : List Char} (hds : ∀ c ∈ ds, c.isDigit = true) :
    spanDigits (some ds.length) (ds ++ rest) = (ds, rest) := by
  have htake : (ds ++ rest).take ds.length = ds := List.take_left
  have hall : ds.takeWhile Char.isDigit = ds := by
    rw [← List.append_nil ds, takeWhile_isDigit hds noDigitAhead_nil, List.append_nil]
  simp only [spanDigits, htake, hall, List.drop_left]

/-- **Digits before something else** are all read, if they fit. -/
theorem spanDigits_before {most : Option Nat} {ds rest : List Char} (hds : ∀ c ∈ ds, c.isDigit = true)
    (hmost : ∀ k ∈ most, ds.length ≤ k) (hrest : NoDigitAhead rest) : spanDigits most (ds ++ rest) = (ds, rest) := by
  cases most with
  | none => simp only [spanDigits, takeWhile_isDigit hds hrest, List.drop_left]
  | some k =>
    have hle : ds.length ≤ k := hmost k rfl
    have hahead : NoDigitAhead (rest.take (k - ds.length)) := by
      intro c hc
      rw [List.head?_take] at hc
      split at hc
      · cases hc
      · exact hrest c hc
    have htake : ((ds ++ rest).take k).takeWhile Char.isDigit = ds := by
      rw [List.take_append, List.take_of_length_le hle, takeWhile_isDigit hds hahead]
    simp only [spanDigits, htake, List.drop_left]

theorem spanDigits_padded {width n : Nat} (hwidth : 0 < width) (h : n < 10 ^ width) (rest : List Char) :
    spanDigits (some width) (padded width n ++ rest) = (padded width n, rest) := by
  have hfull : spanDigits (some (padded width n).length) (padded width n ++ rest) = (padded width n, rest) :=
    spanDigits_full (writes_padded width n).isDigit
  rwa [length_padded hwidth h] at hfull

theorem number_of_spanDigits {most : Option Nat} {cs ds rest : List Char} {n : Nat}
    (hspan : spanDigits most cs = (ds, rest)) (h : Writes ds n) (hn : n < Nat.pow 2 63) :
    number most cs = .ok (n, rest) := by
  have hvalue : ofDigits ds = n := h.value
  unfold number
  rw [hspan]
  split
  · next heq =>
    injection heq with hnil
    exact absurd hnil h.ne_nil
  · next heq =>
    cases heq
    rw [hvalue, if_pos hn]

/-! ## Fields -/

theorem head_isDigit {ds rest cs : List Char} {c : Char} {n : Nat} (h : Writes ds n) (hcs : ds ++ rest = c :: cs) :
    c.isDigit = true := by
  cases ds with
  | nil => exact absurd rfl h.ne_nil
  | cons d ds =>
    injection hcs with hd
    exact hd ▸ h.isDigit d List.mem_cons_self

/-- No blank stands before digits. -/
theorem dropBlanks_writes {ds rest : List Char} {n : Nat} (h : Writes ds n) :
    Text.dropBlanks (ds ++ rest) = ds ++ rest := by
  cases ds with
  | nil => exact absurd rfl h.ne_nil
  | cons c ds => exact Text.dropBlanks_cons_of_not_isBlank (Text.not_isBlank_of_isDigit (h.isDigit c List.mem_cons_self))

/-- **A field of two digits** is read, whatever follows it. -/
theorem field_padded {low high n : Nat} (hlow : low ≤ n) (hhigh : n ≤ high) (hlt : n < 100) (rest : List Char) :
    field low high (padded 2 n ++ rest) = .ok (n, rest) := by
  have hwrites := writes_padded 2 n
  have hbound : 100 ≤ Nat.pow 2 63 := by decide
  have hnumber := number_of_spanDigits (spanDigits_padded (by decide) hlt rest) hwrites (by omega)
  simp only [field, dropBlanks_writes hwrites, hnumber, bind, Except.bind]
  rw [if_pos ⟨hlow, hhigh⟩]

theorem mark_cons {c : Char} (h : Text.isBlank c = false) (rest : List Char) : mark c (c :: rest) = .ok rest := by
  rw [mark, Text.dropBlanks_cons_of_not_isBlank h]
  exact if_pos rfl

/-- **A year** is read up to the hyphen after it. -/
theorem year_yearChars {y : Int} (hy : y.natAbs < 1000000) (rest : List Char) :
    year (yearChars y ++ '-' :: rest) = .ok (y, '-' :: rest) := by
  have hbound : 1000000 ≤ Nat.pow 2 63 := by decide
  unfold yearChars
  split
  · next hshort =>
    have hwrites := writes_padded 4 y.toNat
    have hnumber := number_of_spanDigits (spanDigits_padded (by decide) (by omega) ('-' :: rest)) hwrites (by omega)
    have hyear : (y.toNat : Int) = y := Int.toNat_of_nonneg hshort.1
    rw [year, dropBlanks_writes hwrites]
    split
    · -- The text begins with a digit, not with a sign.
      next ds hds => exact absurd (head_isDigit hwrites hds) (by decide)
    · next ds hds => exact absurd (head_isDigit hwrites hds) (by decide)
    · simp only [hnumber, hyear, Except.map, bind, Except.bind]
      rw [if_pos (by omega)]
  · next hlong =>
    have hwrites := writes_padded 4 y.natAbs
    have hahead : NoDigitAhead ('-' :: rest) := noDigitAhead_cons rfl rest
    have hspan : spanDigits none (padded 4 y.natAbs ++ '-' :: rest) = (padded 4 y.natAbs, '-' :: rest) :=
      spanDigits_before hwrites.isDigit nofun hahead
    have hnumber := number_of_spanDigits hspan hwrites (by omega)
    split
    · next hneg =>
      have hyear : -(y.natAbs : Int) = y := by omega
      rw [year, List.cons_append, Text.dropBlanks_cons_of_not_isBlank (by decide)]
      simp only [hnumber, hyear, Except.map, bind, Except.bind]
      rw [if_pos (by omega)]
    · next hpos =>
      have hyear : (y.natAbs : Int) = y := by omega
      rw [year, List.cons_append, Text.dropBlanks_cons_of_not_isBlank (by decide)]
      simp only [hnumber, hyear, Except.map, bind, Except.bind]
      rw [if_pos (by omega)]

/-- **A fraction** of some digits is read up to the `Z` after it. -/
theorem fraction_padded {width n : Nat} (hwidth : 0 < width) (hmost : width ≤ 9) (hn : n < 10 ^ width)
    (rest : List Char) :
    fraction ('.' :: padded width n ++ 'Z' :: rest) = .ok (n * Nat.pow 10 (9 - width), 'Z' :: rest) := by
  have hwrites := writes_padded width n
  have hlength := length_padded hwidth hn
  have hvalue : ofDigits (padded width n) = n := hwrites.value
  have hspan : spanDigits (some 9) (padded width n ++ 'Z' :: rest) = (padded width n, 'Z' :: rest) := by
    refine spanDigits_before hwrites.isDigit ?_ (noDigitAhead_cons rfl rest)
    rintro _ ⟨⟩
    rwa [hlength]
  have hbound : n < Nat.pow 2 63 := by
    have hle : 10 ^ width ≤ 10 ^ 9 := Nat.pow_le_pow_right (by decide) hmost
    have hlt : 10 ^ 9 < Nat.pow 2 63 := by decide
    omega
  have hnumber := number_of_spanDigits hspan hwrites hbound
  simp only [List.cons_append, fraction, hspan, hnumber, hvalue, hlength, bind, Except.bind]
  rfl

theorem fraction_fractionChars {nano : Nat} (h : nano < 1000000000) (rest : List Char) :
    fraction (fractionChars nano ++ 'Z' :: rest) = .ok (nano, 'Z' :: rest) := by
  unfold fractionChars
  split
  · next hzero =>
    subst hzero
    rfl
  · split
    · next hmilli =>
      rw [fraction_padded (by decide) (by decide) (by omega)]
      have hnano : nano / 1000000 * Nat.pow 10 (9 - 3) = nano := by
        show nano / 1000000 * 1000000 = nano
        omega
      rw [hnano]
    · split
      · next hmicro =>
        rw [fraction_padded (by decide) (by decide) (by omega)]
        have hnano : nano / 1000 * Nat.pow 10 (9 - 6) = nano := by
          show nano / 1000 * 1000 = nano
          omega
        rw [hnano]
      · rw [fraction_padded (by decide) (by decide) h]
        have hnano : nano * Nat.pow 10 (9 - 9) = nano := Nat.mul_one nano
        rw [hnano]

/-! ## The whole text -/

theorem bounds (t : Instant) : Calendar.firstDay ≤ t.day ∧ t.day ≤ Calendar.lastDay ∧ t.second < 86400 ∧
    t.nano < 2000000000 ∧ (t.nano < 1000000000 ∨ t.second % 60 = 59) := by
  have h := t.valid
  simp only [Calendar.isInstant, Bool.and_eq_true, Bool.or_eq_true, decide_eq_true_eq, beq_iff_eq] at h
  obtain ⟨⟨⟨⟨hfirst, hlast⟩, hsecond⟩, hnano⟩, hleap⟩ := h
  exact ⟨hfirst, hlast, hsecond, hnano, hleap⟩

/-- **The local time** of an instant, which is its universal time. -/
def toLocal (t : Instant) : Local := ⟨Calendar.dateOf t.day, t.second, t.nano, 0⟩

/-- The text of an instant, field by field. -/
theorem chars_eq (t : Instant) : t.chars =
    yearChars (Calendar.dateOf t.day).year ++ '-' :: (padded 2 (Calendar.dateOf t.day).month ++ '-' ::
      (padded 2 (Calendar.dateOf t.day).day ++ 'T' :: (padded 2 (t.second / 3600) ++ ':' ::
        (padded 2 (t.second / 60 % 60) ++ ':' :: (padded 2 (t.second % 60 + if t.isLeap then 1 else 0) ++
          (fractionChars (t.nano % 1000000000) ++ ['Z'])))))) := by
  simp only [chars, dateChars, clockChars, List.append_assoc, List.cons_append]

/-- **The second 60** is the last second of a minute with a leap second after it. -/
theorem second_of_clock (t : Instant) :
    t.second / 3600 * 3600 + t.second / 60 % 60 * 60 +
        (if t.second % 60 + (if t.isLeap then 1 else 0) == 60 then 59
          else t.second % 60 + (if t.isLeap then 1 else 0)) = t.second ∧
      (if t.second % 60 + (if t.isLeap then 1 else 0) == 60 then t.nano % 1000000000 + 1000000000
        else t.nano % 1000000000) = t.nano := by
  obtain ⟨-, -, hsecond, hnano, hlast⟩ := t.bounds
  by_cases hleap : t.isLeap
  · have hlong : 1000000000 ≤ t.nano := of_decide_eq_true hleap
    have hsixty : (t.second % 60 + 1 == 60) = true := by
      rw [beq_iff_eq]
      omega
    simp only [hleap, if_true, hsixty]
    omega
  · have hshort : t.nano < 1000000000 := Nat.lt_of_not_le (of_decide_eq_false (Bool.eq_false_iff.mpr hleap))
    have hsixty : (t.second % 60 + 0 == 60) = false := by
      rw [beq_eq_false_iff_ne]
      omega
    simp only [hleap, hsixty, Bool.false_eq_true, if_false]
    omega

/-- **The fields of a text** are those of the instant that it was written for. -/
theorem fields_chars (t : Instant) : fields t.chars = .ok (t.toLocal, []) := by
  obtain ⟨hfirst, hlast, hsecond, -, -⟩ := t.bounds
  obtain ⟨hmonth, hmonth', hday, hday', -⟩ := Calendar.isMonthDay_dateOf t.day
  dsimp only at hmonth hmonth' hday hday'
  have hlength := Calendar.monthLength_le (Calendar.isLeap (Calendar.yearOf t.day)) (Calendar.dateOf t.day).month
  have hsixty : t.second % 60 + (if t.isLeap then 1 else 0) ≤ 60 := by
    split <;> omega
  have hhyphen : Text.isBlank '-' = false := by decide
  have hcolon : Text.isBlank ':' = false := by decide
  have hseparator (cs : List Char) : separator ('T' :: cs) = .ok cs := rfl
  have hfraction := fraction_fractionChars (Nat.mod_lt t.nano (by decide : 0 < 1000000000)) []
  have hoffset : offset (Text.dropBlanks ['Z']) = .ok (0, []) := rfl
  obtain ⟨hclock, hnano⟩ := second_of_clock t
  rw [chars_eq, fields, year_yearChars (Calendar.natAbs_year_lt hfirst hlast)]
  simp only [bind, Except.bind, mark_cons hhyphen, field_padded hmonth hmonth' (by omega),
    field_padded hday (by omega : _ ≤ 31) (by omega), hseparator,
    field_padded (Nat.zero_le (t.second / 3600)) (by omega : _ ≤ 23) (by omega), mark_cons hcolon,
    field_padded (Nat.zero_le (t.second / 60 % 60)) (by omega : _ ≤ 59) (by omega),
    field_padded (Nat.zero_le _) hsixty (by omega), hfraction, hoffset, hclock, hnano]
  rfl

theorem ofLocal_toLocal (t : Instant) : ofLocal t.toLocal = .ok t := by
  obtain ⟨hfirst, hlast, hsecond, -, -⟩ := t.bounds
  have hday : Calendar.dayNumber t.toLocal.date = t.day := Calendar.dayNumber_dateOf t.day
  have hdate : Calendar.isDate t.toLocal.date = true := Calendar.isDate_dateOf t.day
  have hoffset : ¬ (t.toLocal.offset ≤ -86400 ∨ 86400 ≤ t.toLocal.offset) := by
    show ¬ ((0 : Int) ≤ -86400 ∨ (86400 : Int) ≤ 0)
    decide
  have hdays : t.day + ((t.toLocal.second : Int) - t.toLocal.offset) / 86400 = t.day := by
    show t.day + ((t.second : Int) - 0) / 86400 = t.day
    omega
  have hrest : (((t.toLocal.second : Int) - t.toLocal.offset) % 86400).toNat = t.second := by
    show (((t.second : Int) - 0) % 86400).toNat = t.second
    omega
  have hmake : make? t.day t.second t.toLocal.nano = some t := dif_pos t.valid
  have hexists : ¬ ¬ (Calendar.isDate t.toLocal.date = true ∧ Calendar.firstDay ≤ t.day ∧ t.day ≤ Calendar.lastDay) :=
    not_not_intro ⟨hdate, hfirst, hlast⟩
  simp only [ofLocal, hday, if_neg hexists, if_neg hoffset, hdays, hrest, hmake]

/-- **The text of an instant is read as that instant.** -/
theorem ofText_text (t : Instant) : ofText t.text = .ok t := by
  rw [ofText, text, String.toList_ofList, ofChars, fields_chars]
  exact ofLocal_toLocal t

end MapExport.Instant
