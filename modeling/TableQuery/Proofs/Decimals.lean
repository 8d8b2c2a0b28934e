import TableQuery.Number.Decimal
import TableQuery.Proofs.Delimiters
import TableQuery.Proofs.Widening
/-!
# Decimals read back

A decimal text determines its number, and the shortest decimal of a float lies so near to it that no
other float of the format has one there. So the text determines the float.
-/

namespace TableQuery

/-! ## Digits -/

theorem repr_inj {m n : Nat} (h : m.repr = n.repr) : m = n := by
  have hlist := congrArg (fun s => Nat.ofDigitChars 10 (String.toList s) 0) h
  simpa [Nat.toList_repr] using hlist

theorem isDigit_of_mem_repr {n : Nat} {c : Char} (h : c ∈ n.repr.toList) : c.isDigit = true := by
  rw [Nat.toList_repr] at h
  exact Nat.isDigit_of_mem_toDigits (by decide) (by decide) h

theorem repr_ne_nil (n : Nat) : n.repr.toList ≠ [] := by
  rw [Nat.toList_repr]
  exact Nat.toDigits_ne_nil

theorem head?_repr {n : Nat} (h : 0 < n) : n.repr.toList.head? ≠ some '0' := by
  rw [Nat.toList_repr]
  induction n using Nat.strongRecOn with
  | _ n ih =>
    by_cases hlt : n < 10
    · rw [Nat.toDigits_of_lt_base hlt, List.head?_cons, Ne, Option.some.injEq, Nat.digitChar_eq_zero]
      omega
    · rw [Nat.toDigits_of_base_le (by decide) (by omega), List.head?_append]
      cases hhead : (Nat.toDigits 10 (n / 10)).head? with
      | none => exact absurd (List.head?_eq_none_iff.1 hhead) Nat.toDigits_ne_nil
      | some c =>
        rw [Option.some_or, ← hhead]
        exact ih (n / 10) (by omega) (by omega)

theorem toList_zeroPadded (width n : Nat) :
    (zeroPadded width n).toList =
      List.replicate (width - n.repr.length) '0' ++ n.repr.toList := by
  simp [zeroPadded]

theorem isDigit_of_mem_zeroPadded {width n : Nat} {c : Char} (h : c ∈ (zeroPadded width n).toList) :
    c.isDigit = true := by
  rw [toList_zeroPadded] at h
  rcases List.mem_append.1 h with h | h
  · rw [List.eq_of_mem_replicate h]
    decide
  · exact isDigit_of_mem_repr h

theorem zeroPadded_ne_nil (width n : Nat) : (zeroPadded width n).toList ≠ [] := by
  rw [toList_zeroPadded]
  exact List.append_ne_nil_of_right_ne_nil _ (repr_ne_nil n)

theorem head?_digits_append {s : List Char} (hs : s ≠ []) (hdigits : ∀ c ∈ s, c.isDigit = true)
    (t : List Char) : ∃ c ∈ (s ++ t).head?, c.isDigit = true := by
  cases s with
  | nil => exact absurd rfl hs
  | cons c s => exact ⟨c, rfl, hdigits c List.mem_cons_self⟩

/-- Zeros in front do not change the number that is read. -/
theorem ofDigitChars_zeroPadded (width n : Nat) :
    Nat.ofDigitChars 10 (zeroPadded width n).toList 0 = n := by
  rw [toList_zeroPadded, Nat.ofDigitChars_append, Nat.ofDigitChars_replicate_zero, Nat.mul_zero,
    Nat.toList_repr, Nat.ofDigitChars_ten_toDigits]

theorem zeroPadded_inj {width m n : Nat} (h : zeroPadded width m = zeroPadded width n) : m = n := by
  rw [← ofDigitChars_zeroPadded width m, h, ofDigitChars_zeroPadded]

theorem length_zeroPadded {width n : Nat} (hw : 0 < width) (hn : n < tenTo width) :
    (zeroPadded width n).toList.length = width := by
  have hlen : n.repr.toList.length ≤ width := by
    rw [Nat.toList_repr]
    exact (Nat.length_toDigits_le_iff (by decide) hw).2 hn
  rw [toList_zeroPadded, List.length_append, List.length_replicate, String.length_toList] at *
  omega

/-! ## Decimal text -/

theorem tenTo_pos (n : Nat) : 0 < tenTo n := Nat.pow_pos (by decide)

namespace Decimal

/-- What stands behind the point, one zero where there are no places. -/
def fractionText (d : Decimal) : String :=
  if d.places = 0 then "0" else zeroPadded d.places (d.coefficient % tenTo d.places)

/-- Digits on both sides of a point. -/
def text (d : Decimal) : String := d.wholeText ++ "." ++ d.fractionText

theorem isDigit_of_mem_fractionText {d : Decimal} {c : Char} (h : c ∈ d.fractionText.toList) :
    c.isDigit = true := by
  unfold fractionText at h
  split at h
  · rw [List.mem_singleton.1 h]
    decide
  · exact isDigit_of_mem_zeroPadded h

theorem ofDigitChars_fractionText (d : Decimal) :
    Nat.ofDigitChars 10 d.fractionText.toList 0 = d.coefficient % tenTo d.places := by
  unfold fractionText
  split
  · rename_i h
    rw [h, Nat.mod_one]
    rfl
  · exact ofDigitChars_zeroPadded _ _

theorem length_fractionText (d : Decimal) : d.fractionText.toList.length = max 1 d.places := by
  unfold fractionText
  split
  · rename_i h
    rw [h]
    rfl
  · rw [length_zeroPadded (by omega) (Nat.mod_lt _ (tenTo_pos _))]
    omega

/-- Decimals with the same text are the same number. -/
theorem eq_of_text_eq {d b : Decimal} (h : d.text = b.text) :
    d.coefficient * tenTo b.places = b.coefficient * tenTo d.places := by
  have hlist := congrArg String.toList h
  simp only [text, wholeText, String.toList_append, List.append_assoc] at hlist
  obtain ⟨hwhole, hfrac⟩ := run_append_inj (p := fun c => c.isDigit = true)
    (fun c => isDigit_of_mem_repr) (fun c => isDigit_of_mem_repr) (by simp) (by simp) hlist
  have hquot := repr_inj (String.toList_inj.1 hwhole)
  have hfrac := List.append_cancel_left hfrac
  have hrest : d.coefficient % tenTo d.places = b.coefficient % tenTo b.places := by
    rw [← ofDigitChars_fractionText, hfrac, ofDigitChars_fractionText]
  have hlen : max 1 d.places = max 1 b.places := by
    rw [← length_fractionText, hfrac, length_fractionText]
  -- No places and one place are written alike, with one digit behind the point.
  rcases (by omega : d.places = b.places ∨ (d.places = 0 ∧ b.places = 1) ∨
    (d.places = 1 ∧ b.places = 0)) with hp | ⟨hd, hb⟩ | ⟨hd, hb⟩
  · rw [hp] at hquot hrest ⊢
    rw [← Nat.div_add_mod d.coefficient (tenTo b.places), hquot, hrest, Nat.div_add_mod]
  · rw [hd, hb] at hquot hrest ⊢
    simp only [Nat.pow_eq, Nat.pow_zero, Nat.pow_one] at hquot hrest ⊢
    omega
  · rw [hd, hb] at hquot hrest ⊢
    simp only [Nat.pow_eq, Nat.pow_zero, Nat.pow_one] at hquot hrest ⊢
    omega

end Decimal

/-! ## Magnitudes -/

namespace FloatFormat

variable {f : FloatFormat}

theorem units_eq (f : FloatFormat) (e r : Nat) (hr : r < twoTo f.fractionBits) :
    f.units (e * twoTo f.fractionBits + r) =
      if e = 0 then r else (twoTo f.fractionBits + r) * twoTo (e - 1) := by
  have hdiv : (e * twoTo f.fractionBits + r) / twoTo f.fractionBits = e := by
    rw [Nat.mul_comm, Nat.mul_add_div (twoTo_pos _), Nat.div_eq_of_lt hr, Nat.add_zero]
  have hmod : (e * twoTo f.fractionBits + r) % twoTo f.fractionBits = r := by
    rw [Nat.mul_comm, Nat.mul_add_mod, Nat.mod_eq_of_lt hr]
  simp only [units, hdiv, hmod]

/-- The next pattern stands for a greater magnitude, also where the exponent goes up. -/
theorem units_lt_succ (f : FloatFormat) (p : Nat) : f.units p < f.units (p + 1) := by
  have hr : p % twoTo f.fractionBits < twoTo f.fractionBits := Nat.mod_lt _ (twoTo_pos _)
  have hp : p / twoTo f.fractionBits * twoTo f.fractionBits + p % twoTo f.fractionBits = p :=
    Nat.div_add_mod' _ _
  generalize p / twoTo f.fractionBits = e at hp
  generalize p % twoTo f.fractionBits = r at hr hp
  subst hp
  have hpow : 0 < twoTo (e - 1) := twoTo_pos _
  by_cases hcarry : r + 1 < twoTo f.fractionBits
  · -- The exponent stays, and the fraction goes up by one.
    rw [Nat.add_assoc, units_eq f e r hr, units_eq f e (r + 1) hcarry]
    split
    · omega
    · exact Nat.mul_lt_mul_of_pos_right (by omega) hpow
  · -- The fraction was full, and the next exponent begins with none.
    have hnext : e * twoTo f.fractionBits + r + 1 = (e + 1) * twoTo f.fractionBits + 0 := by
      rw [Nat.add_one_mul]
      omega
    rw [hnext, units_eq f e r hr, units_eq f (e + 1) 0 (twoTo_pos _), if_neg (Nat.succ_ne_zero e),
      Nat.add_zero, Nat.add_sub_cancel]
    by_cases he : e = 0
    · rw [if_pos he, he, show twoTo 0 = 1 from rfl, Nat.mul_one]
      exact hr
    · have htwo : twoTo e = 2 * twoTo (e - 1) := by
        rw [← twoTo_succ, Nat.sub_add_cancel (Nat.pos_of_ne_zero he)]
      rw [if_neg he, htwo, ← Nat.mul_assoc, Nat.mul_comm _ 2]
      exact Nat.mul_lt_mul_of_pos_right (by omega) hpow

theorem units_lt_units (f : FloatFormat) {p q : Nat} (h : p < q) : f.units p < f.units q := by
  induction h with
  | refl => exact units_lt_succ f p
  | step _ ih => exact Nat.lt_trans ih (units_lt_succ f _)

theorem units_le_units (f : FloatFormat) {p q : Nat} (h : p ≤ q) : f.units p ≤ f.units q := by
  rcases Nat.eq_or_lt_of_le h with rfl | h
  · exact Nat.le_refl _
  · exact Nat.le_of_lt (units_lt_units f h)

end FloatFormat

/-! ## Shortest decimals -/

namespace RoundingInterval

theorem contains_iff {r : RoundingInterval} {num d : Nat} :
    r.contains num d = true ↔
      if r.closed = true then r.low * d ≤ num * r.den ∧ num * r.den ≤ r.high * d
      else r.low * d < num * r.den ∧ num * r.den < r.high * d := by
  unfold contains
  split <;> simp

/-- Fractions of the same number lie in the same intervals. -/
theorem contains_congr {r : RoundingInterval} {m n c d : Nat} (hc : 0 < c) (hd : 0 < d)
    (h : m * d = n * c) (hr : r.contains m c = true) : r.contains n d = true := by
  have hvalue : m * r.den * d = n * r.den * c := by
    rw [Nat.mul_right_comm, h, Nat.mul_right_comm]
  have hlow (a : Nat) : a * c ≤ m * r.den ↔ a * d ≤ n * r.den := by
    rw [← Nat.mul_le_mul_right_iff hd, hvalue, Nat.mul_right_comm, Nat.mul_le_mul_right_iff hc]
  have hhigh (a : Nat) : m * r.den ≤ a * c ↔ n * r.den ≤ a * d := by
    rw [← Nat.mul_le_mul_right_iff hd, hvalue, Nat.mul_right_comm a c d, Nat.mul_le_mul_right_iff hc]
  rw [contains_iff] at hr ⊢
  split at hr
  · rw [if_pos ‹_›]
    exact ⟨(hlow _).1 hr.1, (hhigh _).1 hr.2⟩
  · rw [if_neg ‹_›]
    constructor
    · apply Nat.not_le.1
      intro hle
      exact Nat.not_le.2 hr.1 ((hhigh _).2 hle)
    · apply Nat.not_le.1
      intro hle
      exact Nat.not_le.2 hr.2 ((hlow _).2 hle)

/-- A decimal that is found on a grid lies in the interval. -/
theorem contains_of_onGrid? {r : RoundingInterval} {zeros places : Nat} {d : Decimal}
    (h : r.onGrid? zeros places = some d) : r.contains d.coefficient (tenTo d.places) = true := by
  unfold onGrid? at h
  dsimp only at h
  split at h
  · rename_i hbelow habove
    cases h
    dsimp only
    split
    · exact hbelow
    · exact habove
  · rename_i hbelow _
    cases h
    exact hbelow
  · rename_i _ habove
    cases h
    exact habove
  · cases h

end RoundingInterval

namespace FloatFormat

variable {f : FloatFormat}

theorem tenTo_eq (n : Nat) : tenTo n = Nat.pow 5 n * twoTo n := by
  exact Nat.mul_pow 5 2 n

/-- The exact decimal stands in the middle of the interval. -/
theorem contains_exactDecimal (f : FloatFormat) (p : Nat) :
    (f.interval p).contains (f.exactDecimal p).coefficient (tenTo (f.exactDecimal p).places) = true := by
  rw [RoundingInterval.contains_iff]
  have hmid : (f.exactDecimal p).coefficient * (f.interval p).den =
      (f.units p + f.units p) * tenTo f.scale := by
    simp only [exactDecimal, interval, twoTo_succ, tenTo_eq]
    rw [← Nat.two_mul, Nat.mul_comm 2 (f.units p), Nat.mul_mul_mul_comm, Nat.mul_assoc (f.units p)]
  have hten := tenTo_pos f.scale
  have hup := units_lt_succ f p
  rw [hmid]
  split
  · exact ⟨Nat.mul_le_mul_right _ (Nat.add_le_add_right (units_le_units f (Nat.sub_le p 1)) _),
      Nat.mul_le_mul_right _ (Nat.add_le_add_left (Nat.le_of_lt hup) _)⟩
  · rename_i hodd
    have hpos : p - 1 < p := by
      simp only [interval, decide_eq_true_eq] at hodd
      omega
    exact ⟨Nat.mul_lt_mul_of_pos_right (Nat.add_lt_add_right (units_lt_units f hpos) _) hten,
      Nat.mul_lt_mul_of_pos_right (Nat.add_lt_add_left hup _) hten⟩

theorem contains_shortest (f : FloatFormat) (p : Nat) :
    (f.interval p).contains (f.shortest p).coefficient (tenTo (f.shortest p).places) = true := by
  unfold shortest
  dsimp only
  generalize hfound : List.findSome? _ _ = found
  cases found with
  | none => exact contains_exactDecimal f p
  | some d =>
    obtain ⟨⟨z, k⟩, -, hgrid⟩ := List.exists_of_findSome?_eq_some hfound
    exact RoundingInterval.contains_of_onGrid? hgrid

/-- No number rounds to two patterns. Where two intervals meet, just one of them has the end. -/
theorem not_contains_of_lt {p q num d : Nat} (hd : 0 < d) (hpq : p < q)
    (hp : (f.interval p).contains num d = true) : ¬(f.interval q).contains num d = true := by
  intro hq
  rw [RoundingInterval.contains_iff] at hp hq
  simp only [interval, decide_eq_true_eq] at hp hq
  have hends : f.units p + f.units (p + 1) ≤ f.units (q - 1) + f.units q :=
    Nat.add_le_add (units_le_units f (by omega)) (units_le_units f hpq)
  have hle := Nat.mul_le_mul_right d hends
  by_cases hpar : p % 2 = 0 ∧ q % 2 = 0
  · -- Even patterns are no neighbours.
    have hlt : f.units p + f.units (p + 1) < f.units (q - 1) + f.units q :=
      Nat.add_lt_add_of_lt_of_le (units_lt_units f (by omega)) (units_le_units f hpq)
    have := Nat.mul_lt_mul_of_pos_right hlt hd
    rw [if_pos hpar.1] at hp
    rw [if_pos hpar.2] at hq
    omega
  · split at hp <;> split at hq <;> omega

/-- Patterns with the same decimal text are the same. -/
theorem shortest_text_inj {p q : Nat} (h : (f.shortest p).text = (f.shortest q).text) : p = q := by
  have heq := Decimal.eq_of_text_eq h
  have hp := RoundingInterval.contains_congr (tenTo_pos _) (tenTo_pos _) heq (contains_shortest f p)
  rcases Nat.lt_trichotomy p q with hlt | heq | hlt
  · exact absurd (contains_shortest f q) (not_contains_of_lt (tenTo_pos _) hlt hp)
  · exact heq
  · exact absurd hp (not_contains_of_lt (tenTo_pos _) hlt (contains_shortest f q))

end FloatFormat

end TableQuery
