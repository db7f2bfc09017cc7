import MapExport.Proofs.Decimal.Finite

/-!
# What a printed number looks like

In a document a number is written as digits, with a point and more digits behind them or without, and with an exponent
or without; a minus may stand before it. That is all that a reader of documents has to know of it (`numeral_chars`). In
a query what counts is where a number ends, so there it matters which characters are not in it
(`ne_of_mem_plain_chars`).
-/

set_option autoImplicit false

namespace MapExport.Decimal

/-- **A run of digits,** one at least. -/
structure DigitRun (cs : List Char) : Prop where
  ne_nil : cs ≠ []
  isDigit : ∀ c ∈ cs, c.isDigit = true

/-- What may stand behind the digits of a number: a point, and the digits of a fraction. -/
inductive FractionPart : List Char → Prop
  | absent : FractionPart []
  | present {ds : List Char} : DigitRun ds → FractionPart ('.' :: ds)

/-- What may stand at the end of a number: a signed exponent. -/
inductive ExponentPart : List Char → Prop
  | absent : ExponentPart []
  | up {ds : List Char} : DigitRun ds → ExponentPart ('e' :: '+' :: ds)
  | down {ds : List Char} : DigitRun ds → ExponentPart ('e' :: '-' :: ds)

/-- **A number without its sign.** -/
def Numeral (cs : List Char) : Prop :=
  ∃ whole fraction exponent, DigitRun whole ∧ FractionPart fraction ∧ ExponentPart exponent ∧
    cs = whole ++ (fraction ++ exponent)

/-- The first character of a number without its sign is a digit. -/
theorem Numeral.exists_cons {cs : List Char} (h : Numeral cs) : ∃ c ds, cs = c :: ds ∧ c.isDigit = true := by
  obtain ⟨whole, fraction, exponent, hwhole, -, -, rfl⟩ := h
  obtain ⟨c, ds, rfl⟩ := List.exists_cons_of_ne_nil hwhole.ne_nil
  exact ⟨c, _, rfl, hwhole.isDigit c List.mem_cons_self⟩

theorem digitRun_digitChars (n : Nat) : DigitRun (digitChars n) :=
  ⟨Nat.toDigits_ne_nil, fun _ h => Nat.isDigit_of_mem_toDigits (by decide) (by decide) h⟩

theorem digitRun_zero : DigitRun ['0'] := ⟨List.cons_ne_nil _ _, fun _ h => List.mem_singleton.mp h ▸ rfl⟩

theorem isDigit_of_mem_replicate_zero {n : Nat} {c : Char} (h : c ∈ List.replicate n '0') : c.isDigit = true := by
  rw [List.eq_of_mem_replicate h]
  rfl

/-- Digits without a point and an exponent behind them. -/
theorem Numeral.ofFraction {whole fraction : List Char} (h : DigitRun whole) (h' : FractionPart fraction) :
    Numeral (whole ++ fraction) :=
  ⟨whole, fraction, [], h, h', .absent, by rw [List.append_nil]⟩

theorem numeral_placePoint {ds : List Char} (h : DigitRun ds) (wholePoint : Bool) (point : Int) :
    Numeral (placePoint wholePoint ds point) := by
  unfold placePoint
  split
  · next k =>
    have hrun : DigitRun (List.replicate (k + 1) '0' ++ ds) := by
      refine ⟨fun hnil => h.ne_nil (List.append_eq_nil_iff.mp hnil).2, ?_⟩
      intro c hc
      rcases List.mem_append.mp hc with hc | hc
      · exact isDigit_of_mem_replicate_zero hc
      · exact h.isDigit c hc
    have hnumeral := Numeral.ofFraction digitRun_zero (.present hrun)
    rw [List.append_assoc]
    exact hnumeral
  · have hnumeral := Numeral.ofFraction digitRun_zero (.present h)
    exact hnumeral
  · next k hk =>
    have hwhole : DigitRun (ds.take k ++ List.replicate (k - ds.length) '0') := by
      constructor
      · intro hnil
        obtain ⟨htake, -⟩ := List.append_eq_nil_iff.mp hnil
        rcases List.take_eq_nil_iff.mp htake with rfl | hds
        · exact hk rfl
        · exact h.ne_nil hds
      · intro c hc
        rcases List.mem_append.mp hc with hc | hc
        · exact h.isDigit c (List.mem_of_mem_take hc)
        · exact isDigit_of_mem_replicate_zero hc
    dsimp only
    split
    · cases wholePoint with
      | true => exact .ofFraction hwhole (.present digitRun_zero)
      | false => exact .ofFraction hwhole .absent
    · next hrest =>
      refine .ofFraction hwhole (.present ⟨hrest, ?_⟩)
      intro c hc
      exact h.isDigit c (List.mem_of_mem_drop hc)

theorem exponentPart_exponentChars (e : Int) : ExponentPart ('e' :: exponentChars true e) := by
  cases e with
  | ofNat k => exact .up (digitRun_digitChars k)
  | negSucc k => exact .down (digitRun_digitChars (k + 1))

theorem numeral_withExponent {ds : List Char} (h : DigitRun ds) (e : Int) : Numeral (withExponent true ds e) := by
  have hfirst {d : Char} {rest : List Char} (h : DigitRun (d :: rest)) : DigitRun [d] := by
    refine ⟨List.cons_ne_nil _ _, ?_⟩
    intro c hc
    rw [List.mem_singleton.mp hc]
    exact h.isDigit d List.mem_cons_self
  unfold withExponent
  split
  · exact absurd rfl h.ne_nil
  · next d => exact ⟨[d], [], _, h, .absent, exponentPart_exponentChars e, rfl⟩
  · next d rest hrest =>
    have hrun : DigitRun rest := ⟨hrest, fun c hc => h.isDigit c (List.mem_cons_of_mem d hc)⟩
    refine ⟨[d], '.' :: rest, _, hfirst h, .present hrun, exponentPart_exponentChars e, ?_⟩
    simp only [List.cons_append, List.nil_append]

/-- **A layout with signed exponents,** or with none at all. -/
def Layout.Signed (l : Layout) : Prop := ∀ e, l.positional e = true ∨ l.exponentSign = true

theorem signed_document : Layout.document.Signed := fun _ => .inr rfl

theorem signed_plain : Layout.plain.Signed := fun _ => .inl rfl

theorem Layout.Signed.numeral_magnitudeChars {l : Layout} (h : l.Signed) (d : Digits) :
    Numeral (l.magnitudeChars d) := by
  have hrun := digitRun_digitChars d.digits
  unfold Layout.magnitudeChars
  split
  · split
    · exact .ofFraction digitRun_zero (.present digitRun_zero)
    · exact .ofFraction digitRun_zero .absent
  · dsimp only
    split
    · exact numeral_placePoint hrun _ _
    · next hpositional =>
      rw [(h _).resolve_left hpositional]
      exact numeral_withExponent hrun _

/-- **A number in a document** is a numeral, behind a minus or not. -/
theorem numeral_chars {x : Float} (h : x.isFinite = true) : ∃ cs, Numeral cs ∧
    (Layout.document.chars x = cs ∨ Layout.document.chars x = '-' :: cs) := by
  rw [← isNumber_eq_isFinite, isNumber] at h
  rw [Layout.chars]
  split
  · next heq =>
    rw [heq] at h
    cases h
  · next heq =>
    rw [heq] at h
    cases h
  · next negative m e _ =>
    refine ⟨_, signed_document.numeral_magnitudeChars (shortest .even m e), ?_⟩
    cases negative with
    | false => exact .inl rfl
    | true => exact .inr rfl

/-- A numeral is made of digits and four other characters. -/
theorem Numeral.isDigit_or_mem {cs : List Char} (h : Numeral cs) {c : Char} (hc : c ∈ cs) :
    c.isDigit = true ∨ c ∈ ['.', 'e', '+', '-'] := by
  obtain ⟨whole, fraction, exponent, hwhole, hfraction, hexponent, rfl⟩ := h
  rcases List.mem_append.mp hc with hc | hc
  · exact .inl (hwhole.isDigit c hc)
  rcases List.mem_append.mp hc with hc | hc
  · cases hfraction with
    | absent => cases hc
    | present hrun =>
      rcases List.mem_cons.mp hc with rfl | hc
      · exact .inr (by decide)
      · exact .inl (hrun.isDigit c hc)
  · cases hexponent with
    | absent => cases hc
    | up hrun | down hrun =>
      rcases List.mem_cons.mp hc with rfl | hc
      · exact .inr (by decide)
      rcases List.mem_cons.mp hc with rfl | hc
      · exact .inr (by decide)
      · exact .inl (hrun.isDigit c hc)

/-- A double in a query has neither a blank nor a quotation mark in it. -/
theorem ne_of_mem_plain_chars {x : Float} {c : Char} (hc : c ∈ Layout.plain.chars x) : c ≠ ' ' ∧ c ≠ '"' := by
  have hplain {cs : List Char} (h : (cs.all fun c => c != ' ' && c != '"') = true) (hc : c ∈ cs) :
      c ≠ ' ' ∧ c ≠ '"' := by
    simpa only [Bool.and_eq_true, bne_iff_ne] using List.all_eq_true.mp h c hc
  rw [Layout.chars] at hc
  split at hc
  · exact hplain (by decide) hc
  · next negative _ => cases negative <;> exact hplain (by decide) hc
  · next negative m e _ =>
    rcases List.mem_append.mp hc with hsign | hmagnitude
    · cases negative with
      | false => cases hsign
      | true => exact hplain (by decide) hsign
    · rcases (signed_plain.numeral_magnitudeChars _).isDigit_or_mem hmagnitude with hdigit | hmark
      · constructor <;> rintro rfl <;> exact absurd hdigit (by decide)
      · exact hplain (by decide) hmark

end MapExport.Decimal
