/-!
# Delimiters

Texts put one after another that can be told apart again, because a character that does not belong to
one of them shows where it ends.
-/

namespace TableQuery

/-! ## Characters of ASCII -/

theorem toNat_of_isDigit {c : Char} (h : c.isDigit = true) : 48 ≤ c.toNat ∧ c.toNat ≤ 57 := by
  obtain ⟨hlow, hhigh⟩ := Bool.and_eq_true_iff.1 h
  exact ⟨UInt32.le_iff_toNat_le.1 (of_decide_eq_true hlow),
    UInt32.le_iff_toNat_le.1 (of_decide_eq_true hhigh)⟩

theorem toNat_of_isAlpha {c : Char} (h : c.isAlpha = true) :
    (65 ≤ c.toNat ∧ c.toNat ≤ 90) ∨ (97 ≤ c.toNat ∧ c.toNat ≤ 122) := by
  rcases Bool.or_eq_true_iff.1 h with hupper | hlower
  · have hrange : 'A'.val ≤ c.val ∧ c.val ≤ 'Z'.val := of_decide_eq_true hupper
    exact .inl ⟨UInt32.le_iff_toNat_le.1 hrange.1, UInt32.le_iff_toNat_le.1 hrange.2⟩
  · obtain ⟨hlow, hhigh⟩ := Bool.and_eq_true_iff.1 hlower
    exact .inr ⟨UInt32.le_iff_toNat_le.1 (of_decide_eq_true hlow),
      UInt32.le_iff_toNat_le.1 (of_decide_eq_true hhigh)⟩

/-! ## Runs -/

/-- A run of characters ends at the first one that does not belong to it. -/
theorem run_append_inj {p : Char → Prop} {a b s t : List Char} (ha : ∀ c ∈ a, p c) (hb : ∀ c ∈ b, p c)
    (hs : ∀ c ∈ s.head?, ¬p c) (ht : ∀ c ∈ t.head?, ¬p c) (h : a ++ s = b ++ t) : a = b ∧ s = t := by
  induction a generalizing b with
  | nil =>
    cases b with
    | nil => exact ⟨rfl, h⟩
    | cons d b =>
      rw [List.nil_append] at h
      rw [h] at hs
      exact absurd (hb d List.mem_cons_self) (hs d rfl)
  | cons c a ih =>
    cases b with
    | nil =>
      rw [List.nil_append] at h
      rw [← h] at ht
      exact absurd (ha c List.mem_cons_self) (ht c rfl)
    | cons d b =>
      simp only [List.cons_append, List.cons.injEq] at h
      obtain ⟨rfl, h⟩ := h
      obtain ⟨rfl, rfl⟩ := ih (fun c hc => ha c (List.mem_cons_of_mem _ hc))
        (fun c hc => hb c (List.mem_cons_of_mem _ hc)) h
      exact ⟨rfl, rfl⟩

/-- Texts without a separator are told apart at it. -/
theorem separator_append_inj {x : Char} {a b s t : List Char} (ha : x ∉ a) (hb : x ∉ b)
    (h : a ++ x :: s = b ++ x :: t) : a = b ∧ s = t := by
  have hrun := run_append_inj (p := fun c => c ≠ x) (fun c hc hx => ha (hx ▸ hc))
    (fun c hc hx => hb (hx ▸ hc)) (by simp) (by simp) h
  exact ⟨hrun.1, List.tail_eq_of_cons_eq hrun.2⟩

/-- Texts without commas are told apart at the commas between them. -/
theorem intercalate_comma_inj {xs ys : List String} (hx : ∀ x ∈ xs, ',' ∉ x.toList)
    (hy : ∀ y ∈ ys, ',' ∉ y.toList) (hxs : xs ≠ []) (hys : ys ≠ [])
    (h : ",".intercalate xs = ",".intercalate ys) : xs = ys := by
  have hlist := congrArg String.toList h
  rw [String.toList_intercalate, String.toList_intercalate] at hlist
  have hsplit := congrArg (List.splitOn ',') hlist
  have hcomma : ",".toList = [','] := rfl
  rw [hcomma, List.splitOn_intercalate ',' (by simpa using hx) (by simpa using hxs),
    List.splitOn_intercalate ',' (by simpa using hy) (by simpa using hys)] at hsplit
  exact (List.map_inj_right fun _ _ => String.toList_inj.1).1 hsplit

/-- Lists are told apart by their images when their members are. -/
theorem eq_of_map_eq {α β : Type} {f : α → β} {p : α → Prop} (hf : ∀ x y, p x → p y → f x = f y → x = y)
    {xs ys : List α} (hxs : ∀ x ∈ xs, p x) (hys : ∀ y ∈ ys, p y) (h : xs.map f = ys.map f) : xs = ys := by
  induction xs generalizing ys with
  | nil => exact (List.map_eq_nil_iff.1 h.symm).symm
  | cons x xs ih =>
    cases ys with
    | nil => cases h
    | cons y ys =>
      obtain ⟨hx, hxst⟩ := List.forall_mem_cons.1 hxs
      obtain ⟨hy, hyst⟩ := List.forall_mem_cons.1 hys
      obtain ⟨hhead, htail⟩ := List.cons.inj h
      rw [hf x y hx hy hhead, ih hxst hyst htail]

theorem mem_of_mem_intercalate {sep : String} {xs : List String} {c : Char}
    (h : c ∈ (sep.intercalate xs).toList) : c ∈ sep.toList ∨ ∃ x ∈ xs, c ∈ x.toList := by
  rw [String.toList_intercalate] at h
  induction xs with
  | nil => simp at h
  | cons x xs ih =>
    cases xs with
    | nil => exact .inr ⟨x, List.mem_cons_self, by simpa using h⟩
    | cons y ys =>
      simp only [List.map_cons, List.intercalate_cons_cons, List.mem_append] at h
      rcases h with (h | h) | h
      · exact .inr ⟨x, List.mem_cons_self, h⟩
      · exact .inl h
      · exact (ih (by simpa using h)).imp id fun ⟨z, hz, hc⟩ => ⟨z, List.mem_cons_of_mem _ hz, hc⟩

theorem mem_intercalate_of_mem {sep : String} {xs : List String} {x : String} {c : Char} (hx : x ∈ xs)
    (hc : c ∈ x.toList) : c ∈ (sep.intercalate xs).toList := by
  rw [String.toList_intercalate]
  induction xs with
  | nil => cases hx
  | cons y ys ih =>
    cases ys with
    | nil =>
      obtain rfl := List.mem_singleton.1 hx
      simpa using hc
    | cons z zs =>
      simp only [List.map_cons, List.intercalate_cons_cons, List.mem_append]
      rcases List.mem_cons.1 hx with rfl | hx
      · exact .inl (.inl hc)
      · exact .inr (ih hx)

/-- Characters of joined texts are characters of one of them, but for those of the separator. -/
theorem mem_intercalate_iff {sep : String} {xs : List String} {c : Char} (h : c ∉ sep.toList) :
    c ∈ (sep.intercalate xs).toList ↔ ∃ x ∈ xs, c ∈ x.toList := by
  constructor
  · intro hc
    exact (mem_of_mem_intercalate hc).resolve_left h
  · rintro ⟨x, hx, hc⟩
    exact mem_intercalate_of_mem hx hc

end TableQuery
