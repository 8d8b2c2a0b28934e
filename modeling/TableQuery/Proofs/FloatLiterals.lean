import TableQuery.Proofs.Constants
import TableQuery.Proofs.ShortestDecimals
/-!
# Literals of floats

The literal of a float is its shortest decimal behind the sign, completed to have digits on both sides of a
point. Read as a fraction and rounded these digits give the float back, and nothing else has that literal
(`Value.float_literals`).
-/

namespace TableQuery

/-! ## Digits around a point -/

/-- The number that digits before and behind a point stand for. -/
def positional (whole fraction : List Char) : ℚ :=
  Nat.ofDigitChars 10 (whole ++ fraction) 0 / tenTo fraction.length

/-- A number of at most `n` digits, at any power of ten. -/
def HasDigits (n : Nat) (r : ℚ) : Prop := ∃ (c : Nat) (k : ℤ), c < tenTo n ∧ r = c * (10 : ℚ) ^ k

theorem getLast?_repr (n : Nat) : n.repr.toList.getLast? = some (n % 10).digitChar := by
  rw [Nat.toList_repr, Nat.toDigits_eq_if (by decide)]
  split
  · rename_i h
    rw [Nat.mod_eq_of_lt h]
    rfl
  · exact List.getLast?_concat

theorem getLast?_zeroPadded (width n : Nat) :
    (zeroPadded width n).toList.getLast? = some (n % 10).digitChar := by
  rw [toList_zeroPadded, List.getLast?_append, getLast?_repr]
  rfl

namespace Decimal

/-- A decimal reads as its number. -/
theorem positional_eq (d : Decimal) :
    positional d.wholeText.toList d.fractionText.toList = d.coefficient / tenTo d.places := by
  have hsplit : tenTo d.places * (d.coefficient / tenTo d.places) + d.coefficient % tenTo d.places =
      d.coefficient := Nat.div_add_mod ..
  rw [positional, Nat.ofDigitChars_append, Nat.ofDigitChars_eq_ofDigitChars_zero, ofDigitChars_fractionText,
    length_fractionText, wholeText, Nat.toList_repr, Nat.ofDigitChars_ten_toDigits]
  by_cases hp : d.places = 0
  · -- One zero is written behind the point, so everything is read ten times as great.
    simp [hp, Nat.mod_one]
  · rw [Nat.max_eq_right (Nat.pos_of_ne_zero hp), show 10 ^ d.places = tenTo d.places from rfl, hsplit]

theorem head?_wholeText {d : Decimal} (h : d.wholeText.toList.head? = some '0') :
    d.wholeText.toList = ['0'] := by
  have hzero : d.coefficient / tenTo d.places = 0 := by
    by_contra hne
    exact head?_repr (Nat.pos_of_ne_zero hne) h
  rw [wholeText, hzero]
  rfl

theorem getLast?_fractionText {d : Decimal} (h : d.fractionText.toList.getLast? = some '0') :
    d.places = 0 ∨ d.coefficient % 10 = 0 := by
  by_cases hp : d.places = 0
  · exact .inl hp
  · have hten : 10 ∣ tenTo d.places := dvd_pow_self 10 hp
    rw [fractionText, if_neg hp, getLast?_zeroPadded, Option.some.injEq, Nat.digitChar_eq_zero,
      Nat.mod_mod_of_dvd _ hten] at h
    exact .inr h

end Decimal

namespace BinaryFloat

variable {f : FloatFormat} {x : BinaryFloat f}

/-- The digits of a float around its point. They are trimmed at both ends and give the float back, the
nearest one to their number. No number of fewer digits does, and none on the same places that is nearer to the
float. -/
structure Digits (x : BinaryFloat f) (whole fraction : List Char) : Prop where
  isDigit : ∀ c ∈ whole ++ fraction, c.isDigit = true
  whole_ne_nil : whole ≠ []
  fraction_ne_nil : fraction ≠ []
  head : whole.head? = some '0' → whole = ['0']
  last : fraction.getLast? = some '0' → fraction = ['0']
  reads : ofRat x.negative (positional whole fraction) = x
  nearest : x.IsNearest (signed x.negative (positional whole fraction))
  fewest (n : Nat) (r : ℚ) : 0 < n → HasDigits n r → ofRat x.negative r = x →
    HasDigits n (positional whole fraction)
  closest : ∃ k : ℤ, (∃ c : Nat, positional whole fraction = c * (10 : ℚ) ^ k) ∧
    ∀ b : Nat, ofRat x.negative (b * (10 : ℚ) ^ k) = x →
      |positional whole fraction - f.magnitude x.pattern| ≤ |b * (10 : ℚ) ^ k - f.magnitude x.pattern|

/-- The digits of the shortest decimal. -/
theorem digits_shortest (hf : 0 < f.fractionBits) (hx : x.isFinite = true) :
    x.Digits (f.shortest x.pattern).wholeText.toList (f.shortest x.pattern).fractionText.toList := by
  obtain ⟨c, zeros, places, hshort, hgrid, hrounds, hnearest, hcoarsest⟩ := f.shortest_spec x.pattern
  have hnumber : positional (f.shortest x.pattern).wholeText.toList
      (f.shortest x.pattern).fractionText.toList = c * FloatFormat.step zeros places := by
    rw [Decimal.positional_eq, hshort, FloatFormat.grid_eq]
  have hreads (b : Nat) (k : ℤ) : ofRat x.negative (b * (10 : ℚ) ^ k) = x ↔
      f.Rounds x.pattern (b * (10 : ℚ) ^ k) :=
    ofRat_eq_iff hf hx (mul_nonneg (Nat.cast_nonneg _) (zpow_nonneg (by norm_num) _))
  have hlength := (f.shortest x.pattern).length_fractionText
  constructor
  case isDigit =>
    intro d hd
    rcases List.mem_append.1 hd with hd | hd
    · exact isDigit_of_mem_repr hd
    · exact Decimal.isDigit_of_mem_fractionText hd
  case whole_ne_nil => exact repr_ne_nil _
  case fraction_ne_nil =>
    intro hnil
    rw [hnil, List.length_nil] at hlength
    omega
  case head => exact Decimal.head?_wholeText
  case last =>
    intro hzero
    have hp : (f.shortest x.pattern).places = 0 := by
      rcases Decimal.getLast?_fractionText hzero with hp | hlast
      · exact hp
      · rw [hshort] at hlast ⊢
        rcases hgrid with rfl | hp
        · exact FloatFormat.places_eq_zero_of_mod_ten hrounds hcoarsest (by simpa using hlast)
        · exact hp
    rw [Decimal.fractionText, if_pos hp]
    rfl
  case reads =>
    rw [hnumber]
    exact (hreads _ _).2 hrounds
  case nearest =>
    rw [hnumber]
    exact isNearest_of_rounds hf (mul_nonneg (Nat.cast_nonneg _) (FloatFormat.step_pos _ _).le) hx hrounds
  case fewest =>
    rintro n r hn ⟨a, k, ha, rfl⟩ hr
    rw [hnumber]
    exact ⟨c, _, FloatFormat.lt_of_rounds hn ha ((hreads _ _).1 hr) hrounds hcoarsest, rfl⟩
  case closest =>
    refine ⟨(zeros : ℤ) - places, ⟨c, hnumber⟩, ?_⟩
    intro b hb
    rw [hnumber]
    exact hnearest b ((hreads _ _).1 hb)

/-- A finite float is written as digits around a point behind its sign. -/
theorem exists_digits (hf : 0 < f.fractionBits) (hx : x.isFinite = true) :
    ∃ whole fraction, x.Digits whole fraction ∧
      (withPoint x.shown).toList = (if x.negative then ['-'] else []) ++ whole ++ '.' :: fraction := by
  refine ⟨_, _, digits_shortest hf hx, ?_⟩
  have hsign : x.signText.toList = if x.negative then ['-'] else [] := by
    unfold signText
    split <;> rfl
  rw [withPoint_shown hx, Decimal.text, String.toList_append, String.toList_append, String.toList_append, hsign,
    List.append_assoc, List.append_assoc]
  rfl

end BinaryFloat

/-! ## Literals -/

namespace Value

theorem literal_eq_ok {v : Value} {s : String} :
    v.literal = .ok s ↔ v.literalError? = none ∧ s = v.literalText := by
  unfold literal
  cases v.literalError? with
  | none => simp [eq_comm]
  | some e => simp

/-- No other constant has the literal of a number. -/
theorem eq_of_literal_eq {v w : Value} {s : String} {p : Bool × Numeral} (hnumber : v.numeral? = some p)
    (hv : v.literal = .ok s) (hw : w.literal = .ok s) : w = v := by
  obtain ⟨hverror, rfl⟩ := literal_eq_ok.1 hv
  obtain ⟨hwerror, hsame⟩ := literal_eq_ok.1 hw
  have htext : w.phrase.text ++ [] = v.phrase.text ++ [] := by
    rw [text_phrase hverror, text_phrase hwerror, hsame]
  have hphrase := (wellFormed_phrase hwerror).delimited _ (wellFormed_phrase hverror) [] [] (by simp [Stops])
    (by simp [Stops]) htext
  exact eq_of_numeral?_eq (numeral?_of_phrase_eq hnumber hphrase.1) hnumber

/-- The literal of a finite float is a minus for a set sign and its digits with a point among them, and an `f`
where it is single. The digits are the shortest that round to it, and no other constant has that literal. -/
theorem float_literals :
    (∀ x : BinaryFloat .double, x.isFinite = true → ∃ whole fraction, x.Digits whole fraction ∧
      (float64 x).literal = .ok (withPoint x.shown) ∧
      (withPoint x.shown).toList = (if x.negative then ['-'] else []) ++ whole ++ '.' :: fraction) ∧
    (∀ x : BinaryFloat .single, x.isFinite = true → ∃ whole fraction, x.Digits whole fraction ∧
      (float32 x).literal = .ok (withPoint x.shown ++ "f") ∧
      (withPoint x.shown).toList = (if x.negative then ['-'] else []) ++ whole ++ '.' :: fraction) ∧
    ∀ (v w : Value) (s : String), v.type = .float32 ∨ v.type = .float64 → v.literal = .ok s →
      w.literal = .ok s → w = v := by
  refine ⟨?_, ?_, ?_⟩
  · intro x hx
    obtain ⟨whole, fraction, hdigits, htext⟩ := BinaryFloat.exists_digits (by decide) hx
    exact ⟨whole, fraction, hdigits, literal_eq_ok.2 ⟨literalError?_float64.2 hx, rfl⟩, htext⟩
  · intro x hx
    obtain ⟨whole, fraction, hdigits, htext⟩ := BinaryFloat.exists_digits (by decide) hx
    exact ⟨whole, fraction, hdigits, literal_eq_ok.2 ⟨literalError?_float32.2 hx, rfl⟩, htext⟩
  · intro v w s htype hv hw
    cases v with
    | float32 x | float64 x => exact eq_of_literal_eq rfl hv hw
    | _ => simp [type] at htype

/-- The least double float below zero, and one eighth as a single float. -/
theorem float_literals_least :
    ((⟨true, 1, by decide⟩ : BinaryFloat .double).isFinite = true ∧
      (⟨false, 1040187392, by decide⟩ : BinaryFloat .single).isFinite = true ∧
      (float32 ⟨false, 1040187392, by decide⟩).literal = .ok "0.125f") ∧
    (∃ whole fraction, (⟨true, 1, by decide⟩ : BinaryFloat .double).Digits whole fraction ∧
      (withPoint (⟨true, 1, by decide⟩ : BinaryFloat .double).shown).toList = '-' :: whole ++ '.' :: fraction) ∧
    (∃ whole fraction, (⟨false, 1040187392, by decide⟩ : BinaryFloat .single).Digits whole fraction ∧
      "0.125".toList = whole ++ '.' :: fraction) ∧
    ∀ w : Value, w.literal = .ok "0.125f" → w = float32 ⟨false, 1040187392, by decide⟩ := by
  obtain ⟨hdouble, hsingle, hinj⟩ := float_literals
  have hleast : (⟨true, 1, by decide⟩ : BinaryFloat .double).isFinite = true := by decide
  have heighth : (⟨false, 1040187392, by decide⟩ : BinaryFloat .single).isFinite = true := by decide
  have hliteral : (float32 ⟨false, 1040187392, by decide⟩).literal = .ok "0.125f" := by decide +kernel
  obtain ⟨whole, fraction, hdigits, -, htext⟩ := hdouble _ hleast
  obtain ⟨whole', fraction', hdigits', -, htext'⟩ := hsingle _ heighth
  refine ⟨⟨hleast, heighth, hliteral⟩, ⟨whole, fraction, hdigits, htext⟩, ⟨whole', fraction', hdigits', ?_⟩, ?_⟩
  · have hshown : withPoint (⟨false, 1040187392, by decide⟩ : BinaryFloat .single).shown = "0.125" := by
      decide +kernel
    rw [← hshown]
    exact htext'
  · intro w hw
    exact hinj _ w _ (.inl rfl) hliteral hw

end Value

end TableQuery
