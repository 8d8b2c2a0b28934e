import TableQuery.Literal
import TableQuery.Proofs.Phrases
import TableQuery.Proofs.Stamps
/-!
# Constants read back

A number is written as a numeral, behind a minus sign where it is negative. Numerals of different types
differ: only floats have a point, and only single ones end in `f`. So the phrase of a constant gives
the constant back, instants to the millisecond.
-/

namespace TableQuery

/-! ## Numerals -/

/-- The magnitude of a number, with its type: a whole number, or the pattern of a float. -/
inductive Numeral
  | whole (n : Nat)
  | single (p : Nat)
  | double (p : Nat)

namespace Numeral

def text : Numeral → String
  | whole n => n.repr
  | single p => (FloatFormat.single.shortest p).text ++ "f"
  | double p => (FloatFormat.double.shortest p).text

theorem point_not_mem_whole (n : Nat) : '.' ∉ (whole n).text.toList := fun h =>
  absurd (isDigit_of_mem_repr h) (by decide)

theorem point_mem_decimal (d : Decimal) : '.' ∈ d.text.toList := by
  simp [Decimal.text]

/-- A decimal ends in a digit. -/
theorem getLast?_decimal (d : Decimal) : ∃ c, d.text.toList.getLast? = some c ∧ c.isDigit = true := by
  have hlen := d.length_fractionText
  have hne : d.fractionText.toList ≠ [] := by
    intro h
    rw [h] at hlen
    simp at hlen
    omega
  refine ⟨d.fractionText.toList.getLast hne, ?_, Decimal.isDigit_of_mem_fractionText (List.getLast_mem hne)⟩
  rw [Decimal.text, String.toList_append, List.getLast?_append, List.getLast?_eq_some_getLast hne]
  rfl

theorem getLast?_single (p : Nat) : (single p).text.toList.getLast? = some 'f' := by
  simp [text]

theorem text_ne_of_single_double (p q : Nat) : (single p).text ≠ (double q).text := by
  intro h
  obtain ⟨c, hc, hdigit⟩ := getLast?_decimal (FloatFormat.double.shortest q)
  have hlast := getLast?_single p
  rw [h, text, hc] at hlast
  cases hlast
  exact absurd hdigit (by decide)

theorem text_ne_of_whole {n : Nat} {a : Numeral} (ha : '.' ∈ a.text.toList) : (whole n).text ≠ a.text :=
  fun h => point_not_mem_whole n (h ▸ ha)

theorem point_mem_single (p : Nat) : '.' ∈ (single p).text.toList := by
  rw [text, String.toList_append]
  exact List.mem_append_left _ (point_mem_decimal _)

theorem point_mem_double (p : Nat) : '.' ∈ (double p).text.toList := point_mem_decimal _

theorem text_inj {a b : Numeral} (h : a.text = b.text) : a = b := by
  cases a with
  | whole m =>
    cases b with
    | whole n => rw [repr_inj h]
    | single q => exact absurd h (text_ne_of_whole (point_mem_single q))
    | double q => exact absurd h (text_ne_of_whole (point_mem_double q))
  | single p =>
    cases b with
    | whole n => exact absurd h.symm (text_ne_of_whole (point_mem_single p))
    | single q =>
      have hdecimal := congrArg String.toList h
      simp only [text, String.toList_append, List.append_cancel_right_eq] at hdecimal
      rw [FloatFormat.shortest_text_inj (String.toList_inj.1 hdecimal)]
    | double q => exact absurd h (text_ne_of_single_double p q)
  | double p =>
    cases b with
    | whole n => exact absurd h.symm (text_ne_of_whole (point_mem_double p))
    | single q => exact absurd h.symm (text_ne_of_single_double q p)
    | double q => rw [FloatFormat.shortest_text_inj h]

/-- A numeral begins with a digit. -/
theorem head?_text (a : Numeral) : ∃ c ∈ a.text.toList.head?, c.isDigit = true := by
  have hrepr (n : Nat) (s : List Char) : ∃ c ∈ (n.repr.toList ++ s).head?, c.isDigit = true :=
    head?_digits_append (repr_ne_nil n) (fun c => isDigit_of_mem_repr) s
  cases a with
  | whole n => simpa [text] using hrepr n []
  | single p =>
    rw [text, Decimal.text, String.append_assoc, String.append_assoc, String.toList_append]
    exact hrepr _ _
  | double p =>
    rw [text, Decimal.text, String.append_assoc, String.toList_append]
    exact hrepr _ _

end Numeral

/-! ## The point of a float -/

/-- The point is added just where it is missing, so there are digits on both sides of one. -/
theorem Decimal.withPoint_append_shown {s : String} (hs : '.' ∉ s.toList) (d : Decimal) :
    withPoint (s ++ d.shown) = s ++ d.text := by
  rw [withPoint, Decimal.shown, Decimal.text, Decimal.fractionText, List.contains_eq_mem]
  by_cases hp : d.places = 0
  · have hwhole : '.' ∉ d.wholeText.toList := Numeral.point_not_mem_whole _
    have hnone : '.' ∉ (s ++ d.wholeText).toList := by
      rw [String.toList_append, List.mem_append, not_or]
      exact ⟨hs, hwhole⟩
    rw [if_pos hp, if_pos hp, decide_eq_false hnone, if_neg (by decide), String.append_assoc, String.append_assoc]
    rfl
  · rw [if_neg hp, if_neg hp]
    have hpoint : '.' ∈ (s ++ (d.wholeText ++ "." ++ zeroPadded d.places (d.coefficient % tenTo d.places))).toList := by
      simp
    rw [decide_eq_true hpoint, if_pos rfl]

namespace BinaryFloat

variable {f : FloatFormat} {x : BinaryFloat f}

theorem point_not_mem_signText (x : BinaryFloat f) : '.' ∉ x.signText.toList := by
  unfold signText
  split <;> decide

theorem shown_of_isFinite (hx : x.isFinite = true) :
    x.shown = x.signText ++ (f.shortest x.pattern).shown := by
  have hnan : x.isNaN = false := by
    simp only [isFinite, isNaN, decide_eq_true_eq, decide_eq_false_iff_not] at *
    omega
  simp [shown, hnan, hx]

theorem withPoint_shown (hx : x.isFinite = true) :
    withPoint x.shown = x.signText ++ (f.shortest x.pattern).text := by
  rw [shown_of_isFinite hx, Decimal.withPoint_append_shown x.point_not_mem_signText]

end BinaryFloat

/-! ## Words of digits -/

theorem isWordChar_of_isDigit {c : Char} (h : c.isDigit = true) : isWordChar c = true := by
  simp [isWordChar, Char.isAlphanum, h]

theorem isWord_of_head?_isDigit {s : List Char} (hhead : ∃ c ∈ s.head?, c.isDigit = true)
    (hall : ∀ c ∈ s, isWordChar c = true) : IsWord s := by
  obtain ⟨c, hc, hdigit⟩ := hhead
  refine ⟨⟨c, hc, ?_⟩, hall⟩
  rintro rfl
  exact absurd hdigit (by decide)

theorem isWordChar_of_mem_decimal {d : Decimal} {c : Char} (h : c ∈ d.text.toList) :
    isWordChar c = true := by
  simp only [Decimal.text, String.toList_append, List.mem_append] at h
  rcases h with (h | h) | h
  · exact isWordChar_of_isDigit (isDigit_of_mem_repr h)
  · rw [List.mem_singleton.1 h]
    decide
  · exact isWordChar_of_isDigit (Decimal.isDigit_of_mem_fractionText h)

theorem Numeral.isWord_text (a : Numeral) : IsWord a.text.toList := by
  apply isWord_of_head?_isDigit a.head?_text
  intro c hc
  cases a with
  | whole n => exact isWordChar_of_isDigit (isDigit_of_mem_repr hc)
  | single p =>
    rw [text, String.toList_append] at hc
    rcases List.mem_append.1 hc with hc | hc
    · exact isWordChar_of_mem_decimal hc
    · rw [List.mem_singleton.1 hc]
      decide
  | double p => exact isWordChar_of_mem_decimal hc

theorem Instant.isWord_stamp {t : Instant} (ht : 0 ≤ t.year ∧ t.year ≤ 9999) : IsWord t.stamp.toList := by
  have hpadded (width n : Nat) : ∀ c ∈ (zeroPadded width n).toList, c.isDigit = true :=
    fun c hc => isDigit_of_mem_zeroPadded hc
  have hword (width n : Nat) : ∀ c ∈ (zeroPadded width n).toList, isWordChar c = true :=
    fun c hc => isWordChar_of_isDigit (hpadded width n c hc)
  rw [toList_stamp ht]
  refine isWord_of_head?_isDigit (head?_digits_append (zeroPadded_ne_nil _ _) (hpadded _ _) _) ?_
  simp only [List.forall_mem_append, List.forall_mem_cons]
  exact ⟨hword _ _, rfl, hword _ _, rfl, hword _ _, rfl, hword _ _, rfl, hword _ _, rfl, hword _ _, rfl,
    hword _ _, rfl, List.forall_mem_nil _⟩

/-- A number behind its sign. -/
def Phrase.signed (negative : Bool) (a : Numeral) : Phrase :=
  if negative then .minus (.word a.text.toList) else .word a.text.toList

theorem Phrase.wellFormed_signed (s : Bool) (a : Numeral) : (signed s a).WellFormed := by
  cases s with
  | false => exact .word a.isWord_text
  | true => exact .minus (.word a.isWord_text)

/-! ## Constants -/

namespace Value

/-- A number by its sign and its magnitude. -/
def numeral? : Value → Option (Bool × Numeral)
  | int n => some (n.toInt < 0, .whole n.toInt.natAbs)
  | float32 x => some (x.negative, .single x.pattern)
  | float64 x => some (x.negative, .double x.pattern)
  | _ => none

/-- The phrase that a constant is written as. -/
def phrase : Value → Phrase
  | null => .word "null".toList
  | bool b => .word (if b then "true" else "false").toList
  | int n => .signed (n.toInt < 0) (.whole n.toInt.natAbs)
  | float32 x => .signed x.negative (.single x.pattern)
  | float64 x => .signed x.negative (.double x.pattern)
  | text s => .quoted s.toList
  | timestamp t => .call "cast".toList [.word t.stamp.toList, .word "Edm.DateTimeOffset".toList]

/-- The constant with its instant, if it is one, cut to whole milliseconds. -/
def truncated : Value → Value
  | timestamp t => timestamp t.truncated
  | v => v

theorem phrase_of_numeral? {v : Value} {s : Bool} {a : Numeral} (h : v.numeral? = some (s, a)) :
    v.phrase = .signed s a ∧ v.truncated = v := by
  cases v <;> cases h <;> exact ⟨rfl, rfl⟩

/-- Sign and magnitude make up a number. -/
theorem eq_of_numeral?_eq {v w : Value} {p : Bool × Numeral} (hv : v.numeral? = some p)
    (hw : w.numeral? = some p) : v = w := by
  cases v with
  | int m =>
    cases w with
    | int n =>
      rw [← hw] at hv
      simp only [numeral?, Option.some.injEq, Prod.mk.injEq, Numeral.whole.injEq, decide_eq_decide] at hv
      rw [Int64.toInt_inj.1 (by omega : m.toInt = n.toInt)]
    | _ => simp [numeral?, ← hv] at hw
  | float32 x =>
    cases w with
    | float32 y =>
      rw [← hw] at hv
      simp only [numeral?, Option.some.injEq, Prod.mk.injEq, Numeral.single.injEq] at hv
      exact congrArg float32 ((BinaryFloat.mk.injEq ..).mpr hv)
    | _ => simp [numeral?, ← hv] at hw
  | float64 x =>
    cases w with
    | float64 y =>
      rw [← hw] at hv
      simp only [numeral?, Option.some.injEq, Prod.mk.injEq, Numeral.double.injEq] at hv
      exact congrArg float64 ((BinaryFloat.mk.injEq ..).mpr hv)
    | _ => simp [numeral?, ← hv] at hw
  | _ => cases hv

/-- The number below zero with the same magnitude. A zero integer has none, and what is below zero
already has none either. -/
def negated? : Value → Option Value
  | int n => if 0 < n.toInt then some (int (-n)) else none
  | float32 x => if x.negative then none else some (float32 { x with negative := true })
  | float64 x => if x.negative then none else some (float64 { x with negative := true })
  | _ => none

/-- What is written with a minus in front of a numeral is the number below zero. -/
theorem negated?_eq {v w : Value} {a : Numeral} (hv : v.numeral? = some (true, a))
    (hw : w.numeral? = some (false, a)) : w.negated? = some v := by
  cases w with
  | int n =>
    simp only [numeral?, Option.some.injEq, Prod.mk.injEq, decide_eq_false_iff_not] at hw
    obtain ⟨hn, rfl⟩ := hw
    cases v with
    | int m =>
      simp only [numeral?, Option.some.injEq, Prod.mk.injEq, Numeral.whole.injEq, decide_eq_true_eq] at hv
      have hneg : (-n).toInt = m.toInt := by
        rw [Int64.toInt_neg, show -n.toInt = m.toInt by omega]
        exact m.toInt_bmod
      rw [negated?, if_pos (by omega), Int64.toInt_inj.1 hneg]
    | _ => simp [numeral?] at hv
  | float32 y =>
    simp only [numeral?, Option.some.injEq, Prod.mk.injEq] at hw
    obtain ⟨hy, rfl⟩ := hw
    rw [negated?, hy]
    exact congrArg some (eq_of_numeral?_eq rfl hv)
  | float64 y =>
    simp only [numeral?, Option.some.injEq, Prod.mk.injEq] at hw
    obtain ⟨hy, rfl⟩ := hw
    rw [negated?, hy]
    exact congrArg some (eq_of_numeral?_eq rfl hv)
  | _ => cases hw

/-! ## The text of a constant -/

theorem toString_eq (n : Int) : toString n = (if n < 0 then "-" else "") ++ n.natAbs.repr := by
  cases n with
  | ofNat n => simp; rfl
  | negSucc n =>
    rw [if_pos (Int.negSucc_lt_zero n)]
    rfl

theorem text_signed (s : Bool) (a : Numeral) :
    (Phrase.signed s a).text = ((if s then "-" else "") ++ a.text).toList := by
  cases s with
  | false => simp [Phrase.signed, Phrase.text]
  | true =>
    rw [String.toList_append]
    rfl

/-- A constant that has a literal is written as its phrase. -/
theorem text_phrase {v : Value} (h : v.literalError? = none) : v.phrase.text = v.literalText.toList := by
  cases v with
  | null => rfl
  | bool b => rfl
  | int n =>
    rw [phrase, text_signed, literalText, toString_eq]
    simp [Numeral.text]
  | float32 x =>
    rw [phrase, text_signed, literalText, BinaryFloat.withPoint_shown (literalError?_float32.1 h),
      String.append_assoc]
    rfl
  | float64 x =>
    rw [phrase, text_signed, literalText, BinaryFloat.withPoint_shown (literalError?_float64.1 h)]
    rfl
  | text s => rw [phrase, Phrase.text, literalText, String.toList_ofList]
  | timestamp t => simp [phrase, Phrase.text, Phrase.argumentsText, literalText]

/-! ## Unambiguous constants -/

/-- Constants that are written as words. -/
def keywords : List String := ["null", "true", "false"]

/-- The four ways in which constants are written. -/
theorem phrase_cases (v : Value) :
    (∃ s a, v.numeral? = some (s, a)) ∨ (∃ k ∈ keywords, v.phrase = .word k.toList) ∨
      (∃ s, v = text s) ∨ ∃ t, v = timestamp t := by
  cases v with
  | null => exact .inr (.inl ⟨"null", by decide, rfl⟩)
  | bool b => exact .inr (.inl ⟨if b then "true" else "false", by cases b <;> decide, rfl⟩)
  | int n => exact .inl ⟨_, _, rfl⟩
  | float32 x => exact .inl ⟨_, _, rfl⟩
  | float64 x => exact .inl ⟨_, _, rfl⟩
  | text s => exact .inr (.inr (.inl ⟨s, rfl⟩))
  | timestamp t => exact .inr (.inr (.inr ⟨t, rfl⟩))

theorem isWord_keyword {k : String} (hk : k ∈ keywords) : IsWord k.toList := by
  simp only [keywords, List.mem_cons, List.not_mem_nil, or_false] at hk
  rcases hk with rfl | rfl | rfl <;> exact isWord_of_all (by decide) (by decide)

theorem wellFormed_phrase {v : Value} (h : v.literalError? = none) : v.phrase.WellFormed := by
  rcases v.phrase_cases with ⟨s, a, hn⟩ | ⟨k, hk, hp⟩ | ⟨s, rfl⟩ | ⟨t, rfl⟩
  · rw [(phrase_of_numeral? hn).1]
    exact Phrase.wellFormed_signed s a
  · rw [hp]
    exact .word (isWord_keyword hk)
  · exact .quoted _
  · refine .call (isWord_of_all (by decide) (by decide))
      (List.forall_mem_cons.2 ⟨?_, List.forall_mem_singleton.2 ?_⟩)
    · exact .word (Instant.isWord_stamp (literalError?_timestamp.1 h))
    · exact .word (isWord_of_all (by decide) (by decide))

/-- A word is a keyword or a numeral. -/
theorem of_phrase_eq_word {v : Value} {w : List Char} (h : v.phrase = .word w) :
    (∃ k ∈ keywords, w = k.toList) ∨ ∃ a, v.numeral? = some (false, a) ∧ w = a.text.toList := by
  rcases v.phrase_cases with ⟨s, a, hn⟩ | ⟨k, hk, hp⟩ | ⟨s, rfl⟩ | ⟨t, rfl⟩
  · rw [(phrase_of_numeral? hn).1] at h
    cases s <;> cases h
    exact .inr ⟨a, hn, rfl⟩
  · rw [hp] at h
    cases h
    exact .inl ⟨k, hk, rfl⟩
  · cases h
  · cases h

/-- Only numbers are written with a minus. -/
theorem of_phrase_eq_minus {v : Value} {x : Phrase} (h : v.phrase = .minus x) :
    ∃ a, v.numeral? = some (true, a) ∧ x = .word a.text.toList := by
  rcases v.phrase_cases with ⟨s, a, hn⟩ | ⟨k, hk, hp⟩ | ⟨s, rfl⟩ | ⟨t, rfl⟩
  · rw [(phrase_of_numeral? hn).1] at h
    cases s <;> cases h
    exact ⟨a, hn, rfl⟩
  · rw [hp] at h
    cases h
  · cases h
  · cases h

/-- Only instants are written as calls. -/
theorem of_phrase_eq_call {v : Value} {name : List Char} {args : List Phrase}
    (h : v.phrase = .call name args) : name = "cast".toList := by
  rcases v.phrase_cases with ⟨s, a, hn⟩ | ⟨k, hk, hp⟩ | ⟨s, rfl⟩ | ⟨t, rfl⟩
  · rw [(phrase_of_numeral? hn).1] at h
    cases s <;> cases h
  · rw [hp] at h
    cases h
  · cases h
  · cases h
    rfl

theorem phrase_ne_pair (v : Value) (op : List Char) (l r : Phrase) : v.phrase ≠ .pair op l r := by
  intro h
  rcases v.phrase_cases with ⟨s, a, hn⟩ | ⟨k, hk, hp⟩ | ⟨s, rfl⟩ | ⟨t, rfl⟩
  · rw [(phrase_of_numeral? hn).1] at h
    cases s <;> cases h
  · rw [hp] at h
    cases h
  · cases h
  · cases h

/-- Keywords begin with a letter. -/
theorem keyword_ne_numeral {k : String} (hk : k ∈ keywords) (a : Numeral) : k.toList ≠ a.text.toList := by
  intro h
  obtain ⟨c, hc, hdigit⟩ := a.head?_text
  rw [← h] at hc
  simp only [keywords, List.mem_cons, List.not_mem_nil, or_false] at hk
  rcases hk with rfl | rfl | rfl <;> cases hc <;> exact absurd hdigit (by decide)

theorem numeral?_of_phrase_eq {v w : Value} {p : Bool × Numeral} (hv : v.numeral? = some p)
    (h : w.phrase = v.phrase) : w.numeral? = some p := by
  obtain ⟨s, a⟩ := p
  rw [(phrase_of_numeral? hv).1] at h
  -- The sign shows in the kind of phrase, the magnitude in its word.
  cases s with
  | false =>
    rcases of_phrase_eq_word h with ⟨k, hk, heq⟩ | ⟨b, hw, heq⟩
    · exact absurd heq.symm (keyword_ne_numeral hk a)
    · rw [hw, Numeral.text_inj (String.toList_inj.1 heq)]
  | true =>
    obtain ⟨b, hw, heq⟩ := of_phrase_eq_minus h
    rw [hw, Numeral.text_inj (String.toList_inj.1 (Phrase.word.inj heq))]

/-- What has to hold of a constant for its phrase to give it back: it has a literal, and no leap second
within a minute. -/
def Regular (v : Value) : Prop := v.literalError? = none ∧ ∀ t, v = timestamp t → t.LeapsAtMinuteEnd

/-- The phrase of a constant gives the constant back, instants to the millisecond. -/
theorem truncated_eq_of_phrase_eq {v w : Value} (hv : v.Regular) (hw : w.Regular)
    (h : v.phrase = w.phrase) : v.truncated = w.truncated := by
  cases hn : v.numeral? with
  | some p => rw [eq_of_numeral?_eq hn (numeral?_of_phrase_eq hn h.symm)]
  | none =>
    have hnone : w.numeral? = none := by
      cases hm : w.numeral? with
      | none => rfl
      | some q =>
        rw [numeral?_of_phrase_eq hm h] at hn
        cases hn
    cases v with
    | int n | float32 x | float64 x => cases hn
    | null =>
      cases w with
      | int n | float32 x | float64 x => cases hnone
      | null => rfl
      | bool b => cases b <;> exact absurd (Phrase.word.inj h) (by decide)
      | text s | timestamp t => cases h
    | bool b =>
      cases w with
      | int n | float32 x | float64 x => cases hnone
      | null => cases b <;> exact absurd (Phrase.word.inj h) (by decide)
      | bool c => cases b <;> cases c <;> first | rfl | exact absurd (Phrase.word.inj h) (by decide)
      | text s | timestamp t => cases h
    | text s =>
      cases w with
      | int n | float32 x | float64 x => cases hnone
      | text s' => rw [String.toList_inj.1 (Phrase.quoted.inj h)]
      | null | bool b | timestamp t => cases h
    | timestamp t =>
      cases w with
      | int n | float32 x | float64 x => cases hnone
      | timestamp u =>
        simp only [phrase, Phrase.call.injEq, true_and, List.cons.injEq, Phrase.word.injEq, and_true] at h
        rw [truncated, truncated, Instant.truncated_eq_of_stamp_eq (literalError?_timestamp.1 hv.1)
          (literalError?_timestamp.1 hw.1) (hv.2 t rfl) (hw.2 u rfl) (String.toList_inj.1 h)]
      | null | bool b | text s => cases h

end Value

end TableQuery
