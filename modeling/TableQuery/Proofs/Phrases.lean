import TableQuery.Proofs.Delimiters
import TableQuery.Quoted
/-!
# Phrases

The forms in which a filter is written: words, quoted text, minus signs, operators between two phrases
in parentheses, and calls. Every phrase shows where it ends, so a text is read as a phrase in at most
one way, whatever stands behind it (`Phrase.WellFormed.delimited`).
-/

namespace TableQuery

/-! ## Quoted text -/

namespace Quoted

theorem scan_cons_of_ne {c : Char} (hc : c ≠ '\'') {s : List Char} (hs : s ≠ []) :
    scan (c :: s) = (scan s).map fun (t, r) => (c :: t, r) := by
  cases s with
  | nil => exact absurd rfl hs
  | cons d s => rw [scan, if_neg hc]

/-- The scanner takes a doubled quote for one quote, and stops at the quote that stands alone. -/
theorem scan_escape_append (s : List Char) {t : List Char} (ht : t.head? ≠ some '\'') :
    scan (escape s ++ '\'' :: t) = some (s, t) := by
  induction s with
  | nil =>
    cases t with
    | nil => rfl
    | cons d t =>
      have hd : d ≠ '\'' := by simpa using ht
      simp [escape, scan, hd]
  | cons c s ih =>
    by_cases hc : c = '\''
    · subst hc
      have hescape : escape ('\'' :: s) = '\'' :: '\'' :: escape s := rfl
      rw [hescape, List.cons_append, List.cons_append, scan, if_pos rfl, if_pos rfl, ih]
      rfl
    · have hescape : escape (c :: s) = c :: escape s := by simp [escape, hc]
      rw [hescape, List.cons_append, scan_cons_of_ne hc (by simp), ih]
      rfl

theorem decode_encode_append (s : List Char) {t : List Char} (ht : t.head? ≠ some '\'') :
    decode (encode s ++ t) = some (s, t) := by
  have hencode : encode s ++ t = '\'' :: (escape s ++ '\'' :: t) := by simp [encode]
  rw [hencode, decode, if_pos rfl, scan_escape_append s ht]

end Quoted

/-! ## Words -/

/-- What a word is made of. -/
def isWordChar (c : Char) : Bool := c.isAlphanum || c == '_' || c == '.' || c == ':' || c == '-'

/-- A word does not begin with a minus, so it is not taken for a phrase with one. -/
def IsWord (s : List Char) : Prop :=
  (∃ c ∈ s.head?, c ≠ '-') ∧ ∀ c ∈ s, isWordChar c = true

/-- What stands behind a phrase: nothing, or what no phrase goes on with. -/
def Stops (s : List Char) : Prop := ∀ c ∈ s.head?, c = ' ' ∨ c = ',' ∨ c = ')' ∨ c = '&'

theorem isWord_of_all {c : Char} {s : List Char} (hc : c ≠ '-') (h : (c :: s).all isWordChar = true) :
    IsWord (c :: s) :=
  ⟨⟨c, rfl, hc⟩, List.all_eq_true.1 h⟩

theorem IsWord.not_mem {s : List Char} (h : IsWord s) {c : Char} (hc : isWordChar c = false) : c ∉ s := by
  intro hmem
  rw [h.2 c hmem] at hc
  cases hc

theorem IsWord.exists_cons {s : List Char} (h : IsWord s) :
    ∃ c t, s = c :: t ∧ c ≠ '-' ∧ isWordChar c = true := by
  obtain ⟨⟨c, hc, hne⟩, hall⟩ := h
  cases s with
  | nil => cases hc
  | cons d t =>
    have hd : d = c := by simpa using hc
    subst hd
    exact ⟨d, t, rfl, hne, hall d List.mem_cons_self⟩

theorem IsWord.run_append_inj {s t a b : List Char} (hs : IsWord s) (ht : IsWord t)
    (ha : ∀ c ∈ a.head?, ¬isWordChar c = true) (hb : ∀ c ∈ b.head?, ¬isWordChar c = true)
    (h : s ++ a = t ++ b) : s = t ∧ a = b :=
  TableQuery.run_append_inj hs.2 ht.2 ha hb h

theorem Stops.not_word {s : List Char} (h : Stops s) : ∀ c ∈ s.head?, ¬isWordChar c = true := by
  intro c hc
  rcases h c hc with rfl | rfl | rfl | rfl <;> decide

theorem Stops.not_quote {s : List Char} (h : Stops s) : s.head? ≠ some '\'' := by
  intro hs
  exact absurd (h _ hs) (by decide)

theorem stops_cons {c : Char} (h : c = ' ' ∨ c = ',' ∨ c = ')' ∨ c = '&') (s : List Char) :
    Stops (c :: s) := by
  intro d hd
  cases hd
  exact h

theorem stops_append {s t : List Char} (hs : Stops s) (ht : Stops t) : Stops (s ++ t) := by
  cases s with
  | nil => exact ht
  | cons c s => exact hs

theorem stops_of_head? {s : List Char} {c : Char} (hs : s.head? = some c)
    (hc : c = ' ' ∨ c = ',' ∨ c = ')' ∨ c = '&') : Stops s := by
  intro d hd
  cases hs.symm.trans hd
  exact hc

/-! ## Phrases -/

inductive Phrase
  | word (s : List Char)
  | quoted (s : List Char)
  | minus (x : Phrase)
  | pair (op : List Char) (l r : Phrase)
  | call (name : List Char) (args : List Phrase)

namespace Phrase

mutual
/-- The phrase as it is written. -/
def text : Phrase → List Char
  | word s => s
  | quoted s => Quoted.encode s
  | minus x => '-' :: text x
  | pair op l r => '(' :: (text l ++ ' ' :: (op ++ ' ' :: (text r ++ [')'])))
  | call name args => name ++ '(' :: (argumentsText args ++ [')'])

/-- Phrases with commas between them. -/
def argumentsText : List Phrase → List Char
  | [] => []
  | [x] => text x
  | x :: y :: rest => text x ++ ',' :: argumentsText (y :: rest)
end

/-- Words are words wherever they stand. -/
inductive WellFormed : Phrase → Prop
  | word {s : List Char} (hs : IsWord s) : WellFormed (word s)
  | quoted (s : List Char) : WellFormed (quoted s)
  | minus {x : Phrase} (hx : WellFormed x) : WellFormed (minus x)
  | pair {op : List Char} {l r : Phrase} (hop : IsWord op) (hl : WellFormed l) (hr : WellFormed r) :
    WellFormed (pair op l r)
  | call {name : List Char} {args : List Phrase} (hname : IsWord name)
    (hargs : ∀ x ∈ args, WellFormed x) : WellFormed (call name args)

/-- A phrase does not begin with what stops one. -/
theorem WellFormed.append_ne_of_stops {x : Phrase} (h : x.WellFormed) {t : List Char} (ht : Stops t)
    (s : List Char) : x.text ++ s ≠ t := by
  rintro rfl
  cases h with
  | word hw =>
    obtain ⟨c, t, rfl, -, hc⟩ := hw.exists_cons
    exact ht.not_word c rfl hc
  | quoted => exact absurd (ht '\'' rfl) (by decide)
  | minus => exact absurd (ht '-' rfl) (by decide)
  | pair => exact absurd (ht '(' rfl) (by decide)
  | call hname =>
    obtain ⟨c, t, rfl, -, hc⟩ := hname.exists_cons
    exact ht.not_word c rfl hc

/-- What stands behind the first argument of a call: the bracket, or a comma and more arguments. -/
theorem argumentsText_cons_append (x : Phrase) (xs : List Phrase) (s : List Char) :
    argumentsText (x :: xs) ++ ')' :: s =
      x.text ++ if xs = [] then ')' :: s else ',' :: (argumentsText xs ++ ')' :: s) := by
  cases xs with
  | nil => rfl
  | cons y ys => simp [argumentsText]

/-! ## Telling phrases apart -/

/-- The mark that a phrase begins with, unless it begins with a word. -/
def mark? : Phrase → Option Char
  | quoted _ => some '\''
  | minus _ => some '-'
  | pair _ _ _ => some '('
  | word _ | call _ _ => none

theorem WellFormed.mark?_eq_head? {x : Phrase} (h : x.WellFormed) (s : List Char) :
    x.mark? = (x.text ++ s).head?.filter fun c => c == '-' || !isWordChar c := by
  have hword {w : List Char} (hw : IsWord w) (r : List Char) :
      (w ++ r).head?.filter (fun c => c == '-' || !isWordChar c) = none := by
    obtain ⟨c, t, rfl, hne, hc⟩ := hw.exists_cons
    simp [hne, hc]
  cases h with
  | word hw => exact (hword hw s).symm
  | call hname =>
    rw [text, List.append_assoc, hword hname]
    rfl
  | _ => rfl

theorem WellFormed.mark?_eq {x y : Phrase} (hx : x.WellFormed) (hy : y.WellFormed) {s t : List Char}
    (h : x.text ++ s = y.text ++ t) : x.mark? = y.mark? := by
  rw [hx.mark?_eq_head? s, h, hy.mark?_eq_head? t]

/-- In front of what stops a phrase, the text of this one is that of no other. -/
def Delimited (x : Phrase) : Prop :=
  ∀ y : Phrase, y.WellFormed → ∀ s t : List Char, Stops s → Stops t →
    x.text ++ s = y.text ++ t → x = y ∧ s = t

theorem delimited_word {w : List Char} (hw : IsWord w) : (word w).Delimited := by
  intro y hy s t hs ht h
  have hmark := (WellFormed.word hw).mark?_eq hy h
  cases hy with
  | word hw' =>
    obtain ⟨rfl, rfl⟩ := hw.run_append_inj hw' hs.not_word ht.not_word h
    exact ⟨rfl, rfl⟩
  | call hname =>
    rw [text, text, List.append_assoc] at h
    obtain ⟨-, rfl⟩ := hw.run_append_inj hname hs.not_word (by simp; decide) h
    exact absurd (hs '(' rfl) (by decide)
  | _ => cases hmark

theorem delimited_quoted (a : List Char) : (quoted a).Delimited := by
  intro y hy s t hs ht h
  have hmark := (WellFormed.quoted a).mark?_eq hy h
  cases hy with
  | quoted b =>
    -- The scanner gives back the text and what follows it.
    have hread := congrArg Quoted.decode h
    rw [text, text, Quoted.decode_encode_append a hs.not_quote,
      Quoted.decode_encode_append b ht.not_quote] at hread
    cases hread
    exact ⟨rfl, rfl⟩
  | _ => cases hmark

theorem delimited_minus {x : Phrase} (hx : x.WellFormed) (ih : x.Delimited) : (minus x).Delimited := by
  intro y hy s t hs ht h
  have hmark := hx.minus.mark?_eq hy h
  cases hy with
  | minus hy =>
    obtain ⟨rfl, rfl⟩ := ih _ hy s t hs ht (List.tail_eq_of_cons_eq h)
    exact ⟨rfl, rfl⟩
  | _ => cases hmark

theorem delimited_pair {op : List Char} {l r : Phrase} (hx : (pair op l r).WellFormed)
    (ihl : l.Delimited) (ihr : r.Delimited) : (pair op l r).Delimited := by
  intro y hy s t hs ht h
  have hmark := hx.mark?_eq hy h
  cases hx with
  | pair hop hl hr =>
    cases hy with
    | pair hop' hl' hr' =>
      -- The left phrase, the operator between its spaces, and then the right phrase.
      simp only [text, List.cons_append, List.append_assoc, List.cons.injEq, true_and] at h
      obtain ⟨rfl, hop_eq⟩ := ihl _ hl' _ _ (stops_cons (by simp) _) (stops_cons (by simp) _) h
      obtain ⟨rfl, hr_eq⟩ := hop.run_append_inj hop' (by simp; decide) (by simp; decide)
        (List.tail_eq_of_cons_eq hop_eq)
      obtain ⟨rfl, hrest⟩ := ihr _ hr' _ _ (stops_cons (by simp) _) (stops_cons (by simp) _)
        (List.tail_eq_of_cons_eq hr_eq)
      exact ⟨rfl, List.tail_eq_of_cons_eq hrest⟩
    | _ => cases hmark

/-- The arguments of a call are told apart when each of them is. -/
theorem argumentsText_append_inj {xs ys : List Phrase} (hxs : ∀ x ∈ xs, x.WellFormed ∧ x.Delimited)
    (hys : ∀ y ∈ ys, y.WellFormed) {s t : List Char}
    (h : argumentsText xs ++ ')' :: s = argumentsText ys ++ ')' :: t) : xs = ys ∧ s = t := by
  induction xs generalizing ys with
  | nil =>
    cases ys with
    | nil => exact ⟨rfl, List.tail_eq_of_cons_eq h⟩
    | cons y ys =>
      rw [argumentsText_cons_append] at h
      exact absurd h.symm ((hys y List.mem_cons_self).append_ne_of_stops (stops_cons (by simp) s) _)
  | cons x xs ih =>
    obtain ⟨⟨hwf, hx⟩, hxst⟩ := List.forall_mem_cons.1 hxs
    cases ys with
    | nil =>
      rw [argumentsText_cons_append] at h
      exact absurd h (hwf.append_ne_of_stops (stops_cons (by simp) t) _)
    | cons y ys =>
      obtain ⟨hy, hyst⟩ := List.forall_mem_cons.1 hys
      rw [argumentsText_cons_append, argumentsText_cons_append] at h
      have hstop (zs : List Phrase) (r : List Char) :
          Stops (if zs = [] then ')' :: r else ',' :: (argumentsText zs ++ ')' :: r)) := by
        split <;> exact stops_cons (by simp) _
      obtain ⟨rfl, hrest⟩ := hx y hy _ _ (hstop xs s) (hstop ys t) h
      by_cases hnil : xs = [] <;> by_cases hnil' : ys = []
      · rw [if_pos hnil, if_pos hnil'] at hrest
        exact ⟨by rw [hnil, hnil'], List.tail_eq_of_cons_eq hrest⟩
      · rw [if_pos hnil, if_neg hnil'] at hrest
        exact absurd (List.cons.inj hrest).1 (by decide)
      · rw [if_neg hnil, if_pos hnil'] at hrest
        exact absurd (List.cons.inj hrest).1 (by decide)
      · rw [if_neg hnil, if_neg hnil'] at hrest
        obtain ⟨rfl, rfl⟩ := ih hxst hyst (List.tail_eq_of_cons_eq hrest)
        exact ⟨rfl, rfl⟩

theorem delimited_call {name : List Char} {args : List Phrase} (hname : IsWord name)
    (hargs : ∀ x ∈ args, x.WellFormed) (ih : ∀ x ∈ args, x.Delimited) : (call name args).Delimited := by
  intro y hy s t hs ht h
  have hmark := (WellFormed.call hname hargs).mark?_eq hy h
  cases hy with
  | call hname' hargs' =>
    simp only [text, List.append_assoc, List.cons_append, List.nil_append] at h
    obtain ⟨rfl, hargs_eq⟩ := hname.run_append_inj hname' (by simp; decide) (by simp; decide) h
    obtain ⟨rfl, rfl⟩ := argumentsText_append_inj (fun x hx => ⟨hargs x hx, ih x hx⟩) hargs'
      (List.tail_eq_of_cons_eq hargs_eq)
    exact ⟨rfl, rfl⟩
  | word hw =>
    rw [text, text, List.append_assoc] at h
    obtain ⟨-, rfl⟩ := hw.run_append_inj hname ht.not_word (by simp; decide) h.symm
    exact absurd (ht '(' rfl) (by decide)
  | _ => cases hmark

theorem WellFormed.delimited {x : Phrase} (hx : x.WellFormed) : x.Delimited := by
  induction hx with
  | word hw => exact delimited_word hw
  | quoted a => exact delimited_quoted a
  | minus hx ih => exact delimited_minus hx ih
  | pair hop hl hr ihl ihr => exact delimited_pair (.pair hop hl hr) ihl ihr
  | call hname hargs ih => exact delimited_call hname hargs ih

end Phrase

end TableQuery
