import MapExport.Proofs.Decimal.Shape
import MapExport.Proofs.Json.ReadBack

/-!
# Numbers that are read from among others

A number is read up to where it ends, and what it is does not depend on what follows: what is read of it, a double or a
fault, is what would be read if it stood alone (`Codec.read_real`). A number ends where a symbol follows that cannot
belong to one.
-/

set_option autoImplicit false

namespace MapExport.Json

open Decimal (DigitRun FractionPart ExponentPart Numeral)

/-- **Symbols that end a number:** neither a digit nor a point, nor the letter of an exponent, is the first of them. -/
def Stops (rest : Symbols) : Prop :=
  ∀ c ∈ rest.head?, isDigit c = false ∧ c ≠ some '.' ∧ c ≠ some 'e' ∧ c ≠ some 'E'

/-- **What a reader makes of the front of a text** does not depend on what stands behind it, if a number ends there. -/
def Settles {α : Type} (read : Symbols → Except Fault (α × Symbols)) (cs : List Char) : Prop :=
  ∃ r : Except Fault α, ∀ rest, Stops rest → read (cs.map some ++ rest) = r.map fun a => (a, rest)

theorem Stops.nil : Stops [] := nofun

theorem Stops.cons {c : Option Char} (h : isDigit c = false ∧ c ≠ some '.' ∧ c ≠ some 'e' ∧ c ≠ some 'E')
    (rest : Symbols) : Stops (c :: rest) := by
  intro c' hc
  rw [List.head?_cons, Option.mem_some_iff] at hc
  rwa [← hc]

theorem Stops.startsWithDigit {rest : Symbols} (h : Stops rest) : startsWithDigit rest = false := by
  cases rest with
  | nil => rfl
  | cons c rest => exact (h c rfl).1

/-! ## Digits -/

/-- Symbols that are digits, as those of characters that are. -/
theorem isDigit_of_mem_map {ds : List Char} (h : ∀ c ∈ ds, c.isDigit = true) :
    ∀ c ∈ ds.map some, isDigit c = true := by
  intro c hc
  obtain ⟨d, hd, rfl⟩ := List.mem_map.mp hc
  exact h d hd

theorem startsWithDigit_append {ds : List Char} (h : ∀ c ∈ ds, c.isDigit = true) {rest : Symbols}
    (hrest : startsWithDigit rest = false) : startsWithDigit (ds.map some ++ rest) = !ds.isEmpty := by
  cases ds with
  | nil => exact hrest
  | cons d ds => exact h d List.mem_cons_self

theorem takeWhile_isDigit_append {ds : List Char} (h : ∀ c ∈ ds, c.isDigit = true) {rest : Symbols}
    (hrest : startsWithDigit rest = false) : (ds.map some ++ rest).takeWhile isDigit = ds.map some := by
  rw [List.takeWhile_append_of_pos (isDigit_of_mem_map h)]
  cases rest with
  | nil => exact List.append_nil _
  | cons c rest =>
    have hc : isDigit c = false := hrest
    rw [List.takeWhile_cons_of_neg (by rw [hc]; exact Bool.false_ne_true), List.append_nil]

theorem dropWhile_isDigit_append {ds : List Char} (h : ∀ c ∈ ds, c.isDigit = true) {rest : Symbols}
    (hrest : startsWithDigit rest = false) : (ds.map some ++ rest).dropWhile isDigit = rest := by
  rw [List.dropWhile_append_of_pos (isDigit_of_mem_map h)]
  cases rest with
  | nil => rfl
  | cons c rest =>
    have hc : isDigit c = false := hrest
    rw [List.dropWhile_cons_of_neg (by rw [hc]; exact Bool.false_ne_true)]

/-- **Digits are gathered** as far as they fit, and no symbol behind them is touched. -/
theorem gather_digits {ds : List Char} (h : ∀ c ∈ ds, c.isDigit = true) (significand taken : Nat) :
    ∃ (value count : Nat) (left : List Char), (∀ c ∈ left, c.isDigit = true) ∧ count + left.length = taken + ds.length ∧
      ∀ rest, startsWithDigit rest = false →
        gather significand taken (ds.map some ++ rest) = (value, count, left.map some ++ rest) := by
  -- A digit that does not fit ends the gathering; it is left with all digits behind it.
  induction ds generalizing significand taken with
  | nil =>
    refine ⟨significand, taken, [], nofun, rfl, ?_⟩
    intro rest hrest
    cases rest with
    | nil => rfl
    | cons c rest =>
      have hc : isDigit c = false := hrest
      rw [List.map_nil, List.nil_append, gather, if_neg (by rw [hc, Bool.false_and]; exact Bool.false_ne_true)]
  | cons d ds ih =>
    by_cases hfits : significand * 10 + digitValue (some d) < Nat.pow 2 64
    · obtain ⟨value, count, left, hleft, hcount, hgather⟩ :=
        ih (fun c hc => h c (List.mem_cons_of_mem d hc)) (significand * 10 + digitValue (some d)) (taken + 1)
      refine ⟨value, count, left, hleft, by rw [hcount, List.length_cons]; omega, ?_⟩
      intro rest hrest
      have hd : (isDigit (some d) && decide (significand * 10 + digitValue (some d) < Nat.pow 2 64)) = true := by
        rw [decide_eq_true hfits, Bool.and_true]
        exact h d List.mem_cons_self
      rw [List.map_cons, List.cons_append, gather, if_pos hd, hgather rest hrest]
    · refine ⟨significand, taken, d :: ds, h, rfl, ?_⟩
      intro rest _
      rw [List.map_cons, List.cons_append, gather, if_neg]
      rw [decide_eq_false hfits, Bool.and_false]
      exact Bool.false_ne_true

/-- The digits of an exponent are gathered in the same way. -/
theorem gatherExponent_digits {ds : List Char} (h : ∀ c ∈ ds, c.isDigit = true) (start : Nat) :
    ∃ (value : Nat) (left : List Char), (∀ c ∈ left, c.isDigit = true) ∧ ∀ rest, startsWithDigit rest = false →
      gatherExponent start (ds.map some ++ rest) = (value, left.map some ++ rest) := by
  induction ds generalizing start with
  | nil =>
    refine ⟨start, [], nofun, ?_⟩
    intro rest hrest
    cases rest with
    | nil => rfl
    | cons c rest =>
      have hc : isDigit c = false := hrest
      rw [List.map_nil, List.nil_append, gatherExponent, if_neg (by rw [hc, Bool.false_and]; exact Bool.false_ne_true)]
  | cons d ds ih =>
    by_cases hfits : start * 10 + digitValue (some d) < Nat.pow 2 31
    · obtain ⟨value, left, hleft, hgather⟩ :=
        ih (fun c hc => h c (List.mem_cons_of_mem d hc)) (start * 10 + digitValue (some d))
      refine ⟨value, left, hleft, ?_⟩
      intro rest hrest
      have hd : (isDigit (some d) && decide (start * 10 + digitValue (some d) < Nat.pow 2 31)) = true := by
        rw [decide_eq_true hfits, Bool.and_true]
        exact h d List.mem_cons_self
      rw [List.map_cons, List.cons_append, gatherExponent, if_pos hd, hgather rest hrest]
    · refine ⟨start, d :: ds, h, ?_⟩
      intro rest _
      rw [List.map_cons, List.cons_append, gatherExponent, if_neg]
      rw [decide_eq_false hfits, Bool.and_false]
      exact Bool.false_ne_true

/-! ## The parts of a number -/

/-- What stands behind the digits begins with no digit, and stops the digits. -/
theorem startsWithDigit_exponent {exponent : List Char} (h : ExponentPart exponent) {rest : Symbols}
    (hrest : Stops rest) : startsWithDigit (exponent.map some ++ rest) = false := by
  cases h with
  | absent => exact hrest.startsWithDigit
  | up _ => rfl
  | down _ => rfl

theorem startsWithDigit_fraction {fraction exponent : List Char} (h : FractionPart fraction)
    (h' : ExponentPart exponent) {rest : Symbols} (hrest : Stops rest) :
    startsWithDigit (fraction.map some ++ (exponent.map some ++ rest)) = false := by
  cases h with
  | absent => exact startsWithDigit_exponent h' hrest
  | present _ => rfl

/-- **An exponent without its letter** settles what is read. -/
theorem settles_exponent {ds : List Char} (h : DigitRun ds) (negative down : Bool) (significand : Nat) (start : Int) :
    Settles (readExponent negative significand start) ((if down then '-' else '+') :: ds) := by
  obtain ⟨d, ds, rfl⟩ := List.exists_cons_of_ne_nil h.ne_nil
  have hd : isDigit (some d) = true := h.isDigit d List.mem_cons_self
  obtain ⟨value, left, hleft, hgather⟩ :=
    gatherExponent_digits (fun c hc => h.isDigit c (List.mem_cons_of_mem d hc)) (digitValue (some d))
  refine ⟨if left.isEmpty then scale negative significand (if down then start - value else start + value)
    else if significand ≠ 0 ∧ down = false then .error .numberOutOfRange
    else .ok (if negative then -0.0 else 0.0), ?_⟩
  intro rest hrest
  have hstarts := startsWithDigit_append hleft hrest.startsWithDigit
  have hdrop := dropWhile_isDigit_append hleft hrest.startsWithDigit
  have hread (gathered : Nat × Symbols)
      (hgathered : gatherExponent (digitValue (some d)) (ds.map some ++ rest) = gathered) :
      readExponent negative significand start (((if down then '-' else '+') :: d :: ds).map some ++ rest) =
        if startsWithDigit gathered.2 then
          if significand ≠ 0 ∧ down = false then .error .numberOutOfRange
          else .ok (if negative then -0.0 else 0.0, gathered.2.dropWhile isDigit)
        else (scale negative significand (if down then start - gathered.1 else start + gathered.1)).bind
          fun x => .ok (x, gathered.2) := by
    have hdigit : ¬ (!isDigit (some d)) = true := by
      rw [hd]
      exact Bool.false_ne_true
    subst hgathered
    cases down <;> exact if_neg hdigit
  rw [hread _ (hgather rest hrest.startsWithDigit)]
  dsimp only
  rw [hstarts, hdrop]
  cases left with
  | nil =>
    cases scale negative significand (if down then start - value else start + value) <;> rfl
  | cons l left =>
    by_cases hrange : significand ≠ 0 ∧ down = false
    · simp only [List.isEmpty_cons, Bool.not_false, if_pos hrange]
      rfl
    · simp only [List.isEmpty_cons, Bool.not_false, if_neg hrange]
      rfl

/-- An exponent, or none, settles what is read. -/
theorem settles_scale {exponent : List Char} (h : ExponentPart exponent) (negative : Bool) (significand : Nat)
    (start : Int) : Settles (readScale negative significand start) exponent := by
  cases h with
  | absent =>
    refine ⟨scale negative significand start, ?_⟩
    intro rest hrest
    rw [List.map_nil, List.nil_append, readScale.eq_def]
    split
    · exact absurd rfl (hrest _ rfl).2.2.1
    · exact absurd rfl (hrest _ rfl).2.2.2
    · cases scale negative significand start <;> rfl
  | up hds => exact settles_exponent hds negative false significand start
  | down hds => exact settles_exponent hds negative true significand start

/-- **The digits of a fraction,** with what stands behind them, settle what is read. -/
theorem settles_fraction {ds exponent : List Char} (h : DigitRun ds) (h' : ExponentPart exponent) (negative : Bool)
    (significand : Nat) (start : Int) : Settles (readFraction negative significand start) (ds ++ exponent) := by
  obtain ⟨value, count, left, hleft, hcount, hgather⟩ := gather_digits h.isDigit significand 0
  obtain ⟨r, hr⟩ := settles_scale h' negative value (start - count)
  refine ⟨r, ?_⟩
  intro rest hrest
  have hstops := startsWithDigit_exponent h' hrest
  rw [List.map_append, List.append_assoc, readFraction, hgather _ hstops]
  dsimp only
  rw [startsWithDigit_append hleft hstops, dropWhile_isDigit_append hleft hstops]
  by_cases hempty : left = []
  · -- All digits were gathered, and there is one.
    have hsome : count ≠ 0 := by
      have hlength := List.length_pos_of_ne_nil h.ne_nil
      rw [hempty, List.length_nil] at hcount
      omega
    rw [hempty, if_neg (by decide), if_neg hsome]
    exact hr rest hrest
  · rw [if_pos (by rw [List.isEmpty_eq_false_iff.mpr hempty]; rfl)]
    exact hr rest hrest

theorem settles_tail {fraction exponent : List Char} (h : FractionPart fraction) (h' : ExponentPart exponent)
    (negative : Bool) (significand : Nat) (start : Int) :
    Settles (readTail negative significand start) (fraction ++ exponent) := by
  cases h with
  | present hds =>
    obtain ⟨r, hr⟩ := settles_fraction hds h' negative significand start
    exact ⟨r, fun rest hrest => hr rest hrest⟩
  | absent =>
    obtain ⟨r, hr⟩ := settles_scale h' negative significand start
    refine ⟨r, ?_⟩
    intro rest hrest
    have hscale := hr rest hrest
    rw [List.nil_append, readTail.eq_def]
    split
    · next heq =>
      -- Neither an exponent nor what ends a number begins with a point.
      cases h' with
      | absent => exact absurd rfl (hrest _ (congrArg List.head? heq)).2.1
      | up _ => cases heq
      | down _ => cases heq
    · exact hscale

/-- What a number is made of behind those of its digits that were gathered. -/
def readBehind (negative : Bool) (value : Nat) (rest : Symbols) : Except Fault (Json × Symbols) :=
  if startsWithDigit rest then
    let zeros := rest.takeWhile isDigit
    (readTail negative value zeros.length (rest.drop zeros.length)).map fun (x, rest) => (.real x, rest)
  else
    match rest with
    | some '.' :: _ | some 'e' :: _ | some 'E' :: _ =>
      (readTail negative value 0 rest).map fun (x, rest) => (.real x, rest)
    | rest => .ok (wholeOrReal negative value, rest)

/-- A zero stands alone before a point; other digits are gathered. -/
theorem readNumber_cons (c : Option Char) (cs : Symbols) (hc : isDigit c = true)
    (hzero : ¬ (c = some '0' ∧ startsWithDigit cs = true)) (negative : Bool) :
    readNumber negative (c :: cs) = if c = some '0' then readBehind negative 0 cs
      else readBehind negative (gather (digitValue c) 0 cs).1 (gather (digitValue c) 0 cs).2.2 := by
  rw [readNumber, if_neg (by rw [hc]; exact Bool.false_ne_true), if_neg hzero]
  by_cases h : c = some '0'
  · simp only [if_pos h]
    rfl
  · simp only [if_neg h]
    rfl

/-- A double that is settled is settled as a number. -/
theorem Settles.real {read : Symbols → Except Fault (Float × Symbols)} {cs : List Char} (h : Settles read cs) :
    ∃ r : Except Fault Json, ∀ rest, Stops rest →
      ((read (cs.map some ++ rest)).map fun (x, rest) => (Json.real x, rest)) = r.map fun j => (j, rest) := by
  obtain ⟨r, hr⟩ := h
  refine ⟨r.map .real, ?_⟩
  intro rest hrest
  rw [hr rest hrest]
  cases r <;> rfl

theorem settles_behind {left fraction exponent : List Char} (h : ∀ c ∈ left, c.isDigit = true)
    (hfraction : FractionPart fraction) (hexponent : ExponentPart exponent) (negative : Bool) (value : Nat) :
    Settles (readBehind negative value) (left ++ (fraction ++ exponent)) := by
  have hstops {rest : Symbols} (hrest : Stops rest) :
      startsWithDigit ((fraction ++ exponent).map some ++ rest) = false := by
    rw [List.map_append, List.append_assoc]
    exact startsWithDigit_fraction hfraction hexponent hrest
  by_cases hleft : left = []
  · subst hleft
    obtain ⟨r, hr⟩ := (settles_tail hfraction hexponent negative value 0).real
    -- Only where neither a fraction nor an exponent follows it is a whole number.
    cases hfraction with
    | present hds => exact ⟨r, hr⟩
    | absent =>
      cases hexponent with
      | up hds => exact ⟨r, hr⟩
      | down hds => exact ⟨r, hr⟩
      | absent =>
        refine ⟨.ok (wholeOrReal negative value), ?_⟩
        intro rest hrest
        change readBehind negative value rest = .ok (wholeOrReal negative value, rest)
        rw [readBehind.eq_def, if_neg (by rw [hrest.startsWithDigit]; exact Bool.false_ne_true)]
        split
        · exact absurd rfl (hrest _ rfl).2.1
        · exact absurd rfl (hrest _ rfl).2.2.1
        · exact absurd rfl (hrest _ rfl).2.2.2
        · rfl
  · obtain ⟨r, hr⟩ := (settles_tail hfraction hexponent negative value left.length).real
    refine ⟨r, ?_⟩
    intro rest hrest
    have hdigit : (!left.isEmpty) = true := by
      rw [List.isEmpty_eq_false_iff.mpr hleft]
      rfl
    rw [List.map_append, List.append_assoc, readBehind.eq_def, startsWithDigit_append h (hstops hrest), if_pos hdigit,
      takeWhile_isDigit_append h (hstops hrest)]
    dsimp only
    rw [List.drop_left, List.length_map]
    exact hr rest hrest

/-- **A numeral** settles what is read. -/
theorem settles_number {cs : List Char} (h : Numeral cs) (negative : Bool) : Settles (readNumber negative) cs := by
  obtain ⟨whole, fraction, exponent, hwhole, hfraction, hexponent, rfl⟩ := h
  obtain ⟨c, ds, rfl⟩ := List.exists_cons_of_ne_nil hwhole.ne_nil
  have hc : isDigit (some c) = true := hwhole.isDigit c List.mem_cons_self
  have hds : ∀ d ∈ ds, d.isDigit = true := fun d hd => hwhole.isDigit d (List.mem_cons_of_mem c hd)
  have hsymbols (rest : Symbols) : (c :: ds ++ (fraction ++ exponent)).map some ++ rest =
      some c :: (ds.map some ++ ((fraction ++ exponent).map some ++ rest)) := by
    simp only [List.map_append, List.map_cons, List.cons_append, List.append_assoc]
  have hstarts {rest : Symbols} (hrest : Stops rest) :
      startsWithDigit (ds.map some ++ ((fraction ++ exponent).map some ++ rest)) = !ds.isEmpty := by
    rw [List.map_append, List.append_assoc]
    exact startsWithDigit_append hds (startsWithDigit_fraction hfraction hexponent hrest)
  -- A zero with digits behind it is a fault, whatever follows.
  by_cases hzeros : c = '0' ∧ ds ≠ []
  · refine ⟨.error .invalidNumber, ?_⟩
    intro rest hrest
    rw [hsymbols, readNumber, if_neg (by rw [hc]; exact Bool.false_ne_true), if_pos]
    · rfl
    · rw [hstarts hrest, List.isEmpty_eq_false_iff.mpr hzeros.2]
      exact ⟨congrArg some hzeros.1, rfl⟩
  have hread {rest : Symbols} (hrest : Stops rest) := readNumber_cons (some c)
    (ds.map some ++ ((fraction ++ exponent).map some ++ rest)) hc (by
      rintro ⟨hc0, hstart⟩
      rw [hstarts hrest, Bool.not_eq_true', List.isEmpty_eq_false_iff] at hstart
      exact hzeros ⟨Option.some.inj hc0, hstart⟩) negative
  by_cases hc0 : c = '0'
  · have hnil : ds = [] := not_not.mp fun hne => hzeros ⟨hc0, hne⟩
    have hnone : ∀ c ∈ ([] : List Char), c.isDigit = true := nofun
    obtain ⟨r, hr⟩ := settles_behind hnone hfraction hexponent negative 0
    refine ⟨r, ?_⟩
    intro rest hrest
    rw [hsymbols, hread hrest, if_pos (congrArg some hc0), hnil]
    exact hr rest hrest
  · obtain ⟨value, count, left, hleft, -, hgather⟩ := gather_digits hds (digitValue (some c)) 0
    obtain ⟨r, hr⟩ := settles_behind hleft hfraction hexponent negative value
    refine ⟨r, ?_⟩
    intro rest hrest
    rw [hsymbols, hread hrest, if_neg (fun heq => hc0 (Option.some.inj heq)), hgather]
    · rw [← hr rest hrest]
      simp only [List.map_append, List.append_assoc]
    · rw [List.map_append, List.append_assoc]
      exact startsWithDigit_fraction hfraction hexponent hrest

/-! ## Doubles -/

theorem isSpace_of_isDigit {c : Option Char} (h : isDigit c = true) : isSpace c = false := by
  rw [Bool.eq_false_iff]
  intro hspace
  simp only [isSpace, Bool.or_eq_true, beq_iff_eq] at hspace
  rcases hspace with ((rfl | rfl) | rfl) | rfl <;> exact absurd h (by decide)

theorem begins_real (x : Float) : Begins (.real x) := by
  cases hfinite : x.isFinite with
  | false => exact ⟨'n', ['u', 'l', 'l'], by rw [chars, Decimal.chars_of_not_finite hfinite], by decide, by decide⟩
  | true =>
    obtain ⟨cs, hnumeral, hchars⟩ := Decimal.numeral_chars hfinite
    rw [← chars] at hchars
    rcases hchars with hchars | hchars
    · obtain ⟨c, ds, rfl, hc⟩ := hnumeral.exists_cons
      refine ⟨c, ds, hchars, isSpace_of_isDigit hc, ?_⟩
      rintro rfl
      exact absurd hc (by decide)
    · exact ⟨'-', cs, hchars, by decide, by decide⟩

namespace Codec

/-- The double of a number that was read, with what follows it. -/
def realOfNumber (number : Except Fault (Json × Symbols)) : Except Fault (Float × Symbols) :=
  number.bind fun (j, rest) => (realOf j).map fun x => (x, rest)

theorem read_real_minus (levels : Nat) (rest : Symbols) :
    real.read levels (some '-' :: rest) = realOfNumber (readNumber true rest) := by
  unfold real
  dsimp only
  rw [atValue_cons (by decide), realOfNumber]
  simp only [bind, Except.bind]
  cases readNumber true rest with
  | error e => rfl
  | ok number =>
    dsimp only
    cases realOf number.1 <;> rfl

theorem read_real_digit {c : Option Char} (h : isDigit c = true) (levels : Nat) (rest : Symbols) :
    real.read levels (c :: rest) = realOfNumber (readNumber false (c :: rest)) := by
  unfold real
  dsimp only
  rw [atValue_cons (isSpace_of_isDigit h), realOfNumber]
  simp only [bind, Except.bind]
  split
  · -- A minus is no digit.
    next heq =>
    rw [(List.cons.inj heq).1] at h
    cases h
  · next heq =>
    obtain ⟨rfl, rfl⟩ := List.cons.inj heq
    rw [if_pos h]
    cases readNumber false (c :: rest) with
    | error e => rfl
    | ok number =>
      dsimp only
      cases realOf number.1 <;> rfl
  · next heq => cases heq

/-- **A double that is a number** settles what is read. -/
theorem settles_real_of_finite {x : Float} (h : x.isFinite = true) (levels : Nat) :
    Settles (real.read levels) (Json.real x).chars := by
  have hnumber {read : Symbols → Except Fault (Json × Symbols)} {cs : List Char} (h : Settles read cs) :
      ∃ r : Except Fault Float, ∀ rest, Stops rest →
        realOfNumber (read (cs.map some ++ rest)) = r.map fun x => (x, rest) := by
    obtain ⟨r, hr⟩ := h
    refine ⟨r.bind realOf, ?_⟩
    intro rest hrest
    rw [hr rest hrest]
    cases r <;> rfl
  obtain ⟨cs, hnumeral, hchars⟩ := Decimal.numeral_chars h
  rw [← Json.chars] at hchars
  rcases hchars with hchars | hchars
  · obtain ⟨r, hr⟩ := hnumber (settles_number hnumeral false)
    obtain ⟨c, ds, rfl, hdigit⟩ := hnumeral.exists_cons
    have hc : isDigit (some c) = true := hdigit
    refine ⟨r, ?_⟩
    intro rest hrest
    rw [hchars, ← hr rest hrest]
    exact read_real_digit hc levels (ds.map some ++ rest)
  · obtain ⟨r, hr⟩ := hnumber (settles_number hnumeral true)
    refine ⟨r, ?_⟩
    intro rest hrest
    rw [hchars, ← hr rest hrest]
    exact read_real_minus levels (cs.map some ++ rest)

/-- What is no number is printed as a null, and a null is no double. -/
theorem read_real_of_not_finite {x : Float} (h : x.isFinite = false) (levels : Nat) (rest : Symbols) :
    real.read levels ((Json.real x).symbols ++ rest) = .error (.wrongKind .null .real) := by
  rw [symbols, Json.chars, Decimal.chars_of_not_finite h]
  rfl

/-- **What is read of a double alone.** -/
def realAlone (x : Float) : Except Fault Float := real.ofText (Json.real x).render

theorem realAlone_of_not_finite {x : Float} (h : x.isFinite = false) :
    realAlone x = .error (.wrongKind .null .real) := by
  have hread := read_real_of_not_finite h maxLevels []
  rw [List.append_nil] at hread
  rw [realAlone, ofText_render, readWhole, hread]
  rfl

/-- **A double among other things** is read as if it stood alone. -/
theorem read_real (x : Float) (levels : Nat) {rest : Symbols} (hrest : Stops rest) :
    real.read levels ((Json.real x).symbols ++ rest) = (realAlone x).map fun y => (y, rest) := by
  cases hfinite : x.isFinite with
  | false =>
    rw [read_real_of_not_finite hfinite, realAlone_of_not_finite hfinite]
    rfl
  | true =>
    obtain ⟨r, hr⟩ := settles_real_of_finite hfinite levels
    have halone : realAlone x = r := by
      have hread : real.read maxLevels (Json.real x).symbols = r.map fun y => (y, []) := by
        have hnothing := hr [] .nil
        rwa [List.append_nil] at hnothing
      rw [realAlone, ofText_render, readWhole, hread]
      cases r <;> rfl
    rw [halone]
    exact hr rest hrest

end Codec

end MapExport.Json
