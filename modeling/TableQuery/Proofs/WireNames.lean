import Mathlib.Data.List.Basic
import TableQuery.Proofs.Composition
import TableQuery.Proofs.Delimiters
/-!
# Names derived for the service

A field whose name is words of small letters with bars between them goes by those words in camel case. Every
capital stands where a bar stood, so the name can be read back (`unfoldCapital`) and two such fields never go
by one name. A name that is given takes the place of the derived one.
-/

namespace TableQuery

/-! ## Small letters -/

/-- What holds of the letters one by one holds of every small letter. -/
theorem forall_isLower {p : Char → Prop} (h : ∀ n < 26, p (Char.ofNat (97 + n))) {c : Char} (hc : c.isLower = true) :
    p c := by
  have hrange : 97 ≤ c.toNat ∧ c.toNat ≤ 122 := by
    obtain ⟨hlow, hhigh⟩ := Bool.and_eq_true_iff.1 hc
    exact ⟨UInt32.le_iff_toNat_le.1 (of_decide_eq_true hlow), UInt32.le_iff_toNat_le.1 (of_decide_eq_true hhigh)⟩
  have hp := h (c.toNat - 97) (by omega)
  rwa [Nat.add_sub_cancel' hrange.1, Char.ofNat_toNat] at hp

/-! ## Clusters -/

namespace Cluster

/-- Characters of ASCII that are seen stand alone. -/
def IsPlain (c : Char) : Prop := ClusterClass.ofChar c = .other

theorem splitAfter_of_plain {cs : List Char} (h : ∀ c ∈ cs, IsPlain c) :
    splitAfter ClusterState.initial cs = ([], cs.map ([·])) := by
  induction cs with
  | nil => rfl
  | cons c cs ih =>
    obtain ⟨hc, hcs⟩ := List.forall_mem_cons.1 h
    -- After such a character everything is as it was in the beginning.
    have hpush : ClusterState.initial.push .other = ClusterState.initial := rfl
    have hjoins : ClusterState.initial.joins .other = false := rfl
    rw [splitAfter, hc, hpush, ih hcs, hjoins]
    rfl

theorem split_of_plain {cs : List Char} (h : ∀ c ∈ cs, IsPlain c) : split cs = cs.map ([·]) := by
  cases cs with
  | nil => rfl
  | cons c cs =>
    obtain ⟨hc, hcs⟩ := List.forall_mem_cons.1 h
    have hpush : ClusterState.initial.push .other = ClusterState.initial := rfl
    rw [split, hc, hpush, splitAfter_of_plain hcs]
    rfl

end Cluster

theorem Case.lowerText_of_small {w : List Char} (h : ∀ c ∈ w, c.isLower = true) : Case.lowerText w = w := by
  have hlower : ∀ c : Char, c.isLower = true → c ≠ 'Σ' ∧ Case.lower c = [c] := fun c hc =>
    forall_isLower (p := fun c => c ≠ 'Σ' ∧ Case.lower c = [c]) (by decide) hc
  have hafter (before : List Char) : Case.lowerAfter before w = w := by
    induction w generalizing before with
    | nil => rfl
    | cons c w ih =>
      obtain ⟨hc, hw⟩ := List.forall_mem_cons.1 h
      obtain ⟨hne, hl⟩ := hlower c hc
      rw [Case.lowerAfter, if_neg hne, hl, ih hw]
      rfl
  exact hafter []

namespace CamelCase

/-! ## Words -/

theorem ofCluster_small {c : Char} (h : c.isLower = true) : ClusterKind.ofCluster [c] = .lower :=
  forall_isLower (p := fun c => ClusterKind.ofCluster [c] = .lower) (by decide) h

theorem ofCluster_bar : ClusterKind.ofCluster ['_'] = .separator := by decide

/-- Small letters join the word that follows them, unless a bar does. -/
theorem words_small {w : List Char} {rest : List (List Char)} (hw : ∀ c ∈ w, c.isLower = true)
    (hrest : rest = [] ∨ ∃ r, rest = ['_'] :: r) {v : List Char} {vs : List (List Char)}
    (h : words rest = v :: vs) : words (w.map ([·]) ++ rest) = (w ++ v) :: vs := by
  induction w with
  | nil => exact h
  | cons c w ih =>
    obtain ⟨hc, hw⟩ := List.forall_mem_cons.1 hw
    have hkind := ofCluster_small hc
    -- What follows a small letter is another one, a bar or nothing, and none of them ends its word.
    have hends : endsWord .lower (((w.map ([·]) ++ rest).take 2).map ClusterKind.ofCluster) = false := by
      cases w with
      | nil =>
        rcases hrest with rfl | ⟨r, rfl⟩
        · rfl
        · simp [ofCluster_bar, endsWord]
      | cons d w => simp [ofCluster_small (hw d List.mem_cons_self), endsWord]
    simp only [List.map_cons, List.cons_append, words, hkind, ih hw, hends]
    simp

/-- Cutting a name at its bars gives the words it was joined from. -/
theorem words_intercalate {ws : List (List Char)} (hne : ws ≠ []) (h : ∀ w ∈ ws, ∀ c ∈ w, c.isLower = true) :
    words ((List.intercalate ['_'] ws).map ([·])) = ws := by
  induction ws with
  | nil => exact absurd rfl hne
  | cons w ws ih =>
    obtain ⟨hw, hws⟩ := List.forall_mem_cons.1 h
    cases ws with
    | nil => simpa using words_small hw (.inl rfl) rfl
    | cons v vs =>
      have hbar : words (['_'] :: (List.intercalate ['_'] (v :: vs)).map ([·])) = [] :: v :: vs := by
        rw [words, ofCluster_bar, if_pos rfl, ih (by simp) hws]
      simpa using words_small hw (.inr ⟨_, rfl⟩) hbar

/-! ## Camel case -/

/-- A word of small letters, of which there is at least one. -/
def IsWord (w : String) : Prop := w ≠ "" ∧ ∀ c ∈ w.toList, c.isLower = true

/-- The word with its first letter raised. -/
def raiseFirst (w : String) : String :=
  match w.toList with
  | [] => ""
  | c :: rest => String.ofList (c.toUpper :: rest)

/-- The first word as it is and the others raised. -/
def camel : List String → String
  | [] => ""
  | w :: ws => w ++ String.join (ws.map raiseFirst)

theorem capitalize_word {w : String} (h : ∀ c ∈ w.toList, c.isLower = true) :
    Case.capitalize w.toList = (raiseFirst w).toList := by
  unfold raiseFirst
  cases hw : w.toList with
  | nil => rfl
  | cons c rest =>
    rw [hw] at h
    obtain ⟨hc, hrest⟩ := List.forall_mem_cons.1 h
    have hupper : Case.upper c = [c.toUpper] :=
      forall_isLower (p := fun c => Case.upper c = [c.toUpper]) (by decide) hc
    simp [Case.capitalize, hupper, Case.lowerText_of_small hrest]

theorem joinWords_eq_camel {ws : List String} (h : ∀ w ∈ ws, IsWord w) :
    joinWords (ws.map String.toList) = (camel ws).toList := by
  cases ws with
  | nil => rfl
  | cons w ws =>
    obtain ⟨hw, hws⟩ := List.forall_mem_cons.1 h
    rw [List.map_cons, joinWords, camel, Case.lowerText_of_small hw.2, String.toList_append, String.toList_join,
      List.flatMap_map, List.flatMap_map]
    congr 1
    refine List.flatMap_congr ?_
    intro v hv
    exact capitalize_word (hws v hv).2

theorem toList_snake (ws : List String) :
    ("_".intercalate ws).toList = List.intercalate ['_'] (ws.map String.toList) := String.toList_intercalate

theorem ofName_snake {ws : List String} (hne : ws ≠ []) (h : ∀ w ∈ ws, IsWord w) :
    ofName ("_".intercalate ws) = camel ws := by
  have hplain : ∀ c ∈ ("_".intercalate ws).toList, Cluster.IsPlain c := by
    intro c hc
    rcases mem_of_mem_intercalate hc with hbar | ⟨w, hw, hc⟩
    · obtain rfl := List.mem_singleton.1 hbar
      exact (by decide : ClusterClass.ofChar '_' = .other)
    · exact forall_isLower (p := fun c => ClusterClass.ofChar c = .other) (by decide) ((h w hw).2 c hc)
  have hwords : words ((List.intercalate ['_'] (ws.map String.toList)).map ([·])) = ws.map String.toList := by
    refine words_intercalate (by simpa using hne) ?_
    intro w hw
    obtain ⟨v, hv, rfl⟩ := List.mem_map.1 hw
    exact (h v hv).2
  rw [ofName, Cluster.split_of_plain hplain, toList_snake, hwords, joinWords_eq_camel h, String.ofList_toList]

/-! ## Reading back -/

/-- A capital stands for a bar and its small letter. -/
def unfoldCapital (c : Char) : List Char := if c.isUpper then ['_', c.toLower] else [c]

theorem unfold_word {w : List Char} (h : ∀ c ∈ w, c.isLower = true) : w.flatMap unfoldCapital = w := by
  have hsmall : ∀ c ∈ w, unfoldCapital c = [c] := fun c hc =>
    forall_isLower (p := fun c => unfoldCapital c = [c]) (by decide) (h c hc)
  rw [List.flatMap_congr hsmall, List.flatMap_singleton']

theorem unfold_raiseFirst {w : String} (h : IsWord w) :
    (raiseFirst w).toList.flatMap unfoldCapital = '_' :: w.toList := by
  obtain ⟨hne, hsmall⟩ := h
  unfold raiseFirst
  cases hw : w.toList with
  | nil => exact absurd (String.toList_eq_nil_iff.1 hw) hne
  | cons c rest =>
    rw [hw] at hsmall
    obtain ⟨hc, hrest⟩ := List.forall_mem_cons.1 hsmall
    have hcapital : unfoldCapital c.toUpper = ['_', c] :=
      forall_isLower (p := fun c => unfoldCapital c.toUpper = ['_', c]) (by decide) hc
    simp [hcapital, unfold_word hrest]

theorem intercalate_bar (w : List Char) (ws : List (List Char)) :
    List.intercalate ['_'] (w :: ws) = w ++ ws.flatMap ('_' :: ·) := by
  induction ws generalizing w with
  | nil => simp
  | cons v vs ih => rw [List.intercalate_cons_cons, ih]; simp

/-- The name can be read off its camel case. -/
theorem unfold_camel {ws : List String} (h : ∀ w ∈ ws, IsWord w) :
    (camel ws).toList.flatMap unfoldCapital = ("_".intercalate ws).toList := by
  cases ws with
  | nil => rfl
  | cons w ws =>
    obtain ⟨hw, hws⟩ := List.forall_mem_cons.1 h
    have hraised : ∀ v ∈ ws, (raiseFirst v).toList.flatMap unfoldCapital = '_' :: v.toList := by
      intro v hv
      exact unfold_raiseFirst (hws v hv)
    rw [toList_snake, List.map_cons, intercalate_bar, camel, String.toList_append, List.flatMap_append,
      unfold_word hw.2, String.toList_join, List.flatMap_map, List.flatMap_map, List.flatMap_assoc,
      List.flatMap_congr hraised]

end CamelCase

/-! ## Fields -/

/-- The field is named by words of small letters, and the service's name for it is derived. -/
def EntityField.Derived (f : EntityField) : Prop :=
  f.wire? = none ∧ ∃ ws : List String, ws ≠ [] ∧ (∀ w ∈ ws, CamelCase.IsWord w) ∧ f.name = "_".intercalate ws

theorem EntityField.wireName_of_words {f : EntityField} {ws : List String} (hne : ws ≠ [])
    (h : ∀ w ∈ ws, CamelCase.IsWord w) (hname : f.name = "_".intercalate ws) (hwire : f.wire? = none) :
    f.wireName = CamelCase.camel ws := by
  rw [wireName, hwire, hname, Option.getD_none, CamelCase.ofName_snake hne h]

theorem EntityField.Derived.unfold_wireName {f : EntityField} (h : f.Derived) :
    f.wireName.toList.flatMap CamelCase.unfoldCapital = f.name.toList := by
  obtain ⟨hwire, ws, hne, hws, hname⟩ := h
  rw [wireName_of_words hne hws hname hwire, CamelCase.unfold_camel hws, hname]

theorem EntityField.Derived.name_eq {f g : EntityField} (hf : f.Derived) (hg : g.Derived)
    (h : f.wireName = g.wireName) : f.name = g.name := by
  rw [← String.toList_inj, ← hf.unfold_wireName, h, hg.unfold_wireName]

/-- The columns that a query reaches by a name: as an order key in either direction, in its selection, or as a
field of its filter, where the type has to fit. -/
inductive Entity.Addresses (e : Entity) (name column : String) : Prop
  | ascending (h : Query.orderKeyText e ⟨name, .asc⟩ = .ok column)
  | descending (h : Query.orderKeyText e ⟨name, .desc⟩ = .ok (column ++ " desc"))
  | selected (h : Query.wireName e name = .ok column)
  | filtered {type : ScalarType} (h : e.access name type = .ok column)

/-- A field of an entity can be ordered by in both directions, selected and filtered on by its name. -/
theorem Entity.uses_of_field {e : Entity} {name : String} {f : EntityField} (h : e.field? name = some f) :
    Query.orderKeyText e ⟨name, .asc⟩ = .ok f.wireName ∧
      Query.orderKeyText e ⟨name, .desc⟩ = .ok (f.wireName ++ " desc") ∧
      Query.wireName e name = .ok f.wireName ∧ e.access name f.type = .ok f.wireName := by
  have hfault : Query.nameFault? e name = none := by rw [Query.nameFault?, h]
  have hwire : Filter.wireText e name = f.wireName := by rw [Filter.wireText, h, Option.elim_some]
  have horder (direction : Direction) :
      Query.orderKeyText e ⟨name, direction⟩ = .ok (Query.orderText e ⟨name, direction⟩) := by
    rw [Query.orderKeyText_eq, hfault, outcome_none]
  have hselected : Query.wireName e name = .ok f.wireName := by rw [Query.wireName_eq, hfault, outcome_none, hwire]
  exact ⟨by rw [horder, Query.orderText, hwire], by rw [horder, Query.orderText, hwire], hselected,
    Entity.access_eq_ok.2 ⟨f, h, rfl, rfl⟩⟩

/-- Every use of a field reaches the one column it stands for. -/
theorem Entity.addresses_iff {e : Entity} {name column : String} {f : EntityField} (h : e.field? name = some f) :
    e.Addresses name column ↔ column = f.wireName := by
  obtain ⟨hascending, hdescending, hselected, -⟩ := uses_of_field h
  constructor
  · intro ha
    cases ha with
    | ascending ha =>
      rw [hascending] at ha
      exact (Except.ok.inj ha).symm
    | descending ha =>
      rw [hdescending] at ha
      exact (String.append_left_inj _).1 (Except.ok.inj ha).symm
    | selected ha =>
      rw [hselected] at ha
      exact (Except.ok.inj ha).symm
    | filtered ha =>
      obtain ⟨g, hg, -, rfl⟩ := Entity.access_eq_ok.1 ha
      rw [h] at hg
      cases hg
      rfl
  · rintro rfl
    exact .selected hselected

/-- Words of small letters with bars between them become camel case, and no two names of that kind the same. So
order keys, selections and filters that use different fields of an entity, of which the names are derived,
reach different columns, and every field can be used in each of these ways. A name that is given is kept as it
is. -/
theorem derived_names :
    (∀ (ws : List String) (f : EntityField), ws ≠ [] → (∀ w ∈ ws, CamelCase.IsWord w) →
      f.name = "_".intercalate ws → f.wire? = none → f.wireName = CamelCase.camel ws) ∧
    (∀ f g : EntityField, f.Derived → g.Derived → f.name ≠ g.name → f.wireName ≠ g.wireName) ∧
    (∀ (e : Entity) (f g : EntityField) (a b : String), e.field? a = some f → e.field? b = some g →
      f.Derived → g.Derived → a ≠ b →
        ∀ column other, e.Addresses a column → e.Addresses b other → column ≠ other) ∧
    (∀ (e : Entity) (f : EntityField) (name : String), e.field? name = some f →
      Query.orderKeyText e ⟨name, .asc⟩ = .ok f.wireName ∧
        Query.orderKeyText e ⟨name, .desc⟩ = .ok (f.wireName ++ " desc") ∧
        Query.wireName e name = .ok f.wireName ∧ e.access name f.type = .ok f.wireName) ∧
    ∀ (f : EntityField) (wire : String), f.wire? = some wire → f.wireName = wire := by
  refine ⟨?_, ?_, ?_, ?_, ?_⟩
  · intro ws f hne hws hname hwire
    exact EntityField.wireName_of_words hne hws hname hwire
  · intro f g hf hg hname hwire
    exact hname (hf.name_eq hg hwire)
  · intro e f g a b hfa hgb hf hg hab column other hcolumn hother hsame
    have hwire : f.wireName = g.wireName := by
      rw [← (Entity.addresses_iff hfa).1 hcolumn, ← (Entity.addresses_iff hgb).1 hother, hsame]
    have ha : f.name = a := by simpa using List.find?_some hfa
    have hb : g.name = b := by simpa using List.find?_some hgb
    exact hab (by rw [← ha, ← hb, hf.name_eq hg hwire])
  · intro e f name h
    exact Entity.uses_of_field h
  · intro f wire h
    rw [EntityField.wireName, h, Option.getD_some]

/-- Two letters, joined and split, and a field that is given the empty name. -/
theorem derived_names_letters :
    let joined : EntityField := ⟨"ab", .int, none⟩
    let split : EntityField := ⟨"a_b", .text, none⟩
    let given : EntityField := ⟨"seen_at", .timestamp, some ""⟩
    let e : Entity := ⟨"film", [joined, split, given]⟩
    (joined.Derived ∧ split.Derived ∧ joined.wireName ≠ split.wireName) ∧ split.wireName = "aB" ∧
      (e.Addresses "ab" "ab" ∧ e.Addresses "a_b" "aB" ∧ "ab" ≠ "aB") ∧ given.wireName = "" := by
  intro joined split given e
  obtain ⟨hcamel, hinj, haddress, huses, hgiven⟩ := derived_names
  have ha : CamelCase.IsWord "a" := ⟨by decide, List.all_eq_true.1 (by decide)⟩
  have hb : CamelCase.IsWord "b" := ⟨by decide, List.all_eq_true.1 (by decide)⟩
  have hab : CamelCase.IsWord "ab" := ⟨by decide, List.all_eq_true.1 (by decide)⟩
  have hjoined : joined.Derived := ⟨rfl, ["ab"], by decide, by simpa using hab, by decide⟩
  have hwords : ∀ w ∈ ["a", "b"], CamelCase.IsWord w := by simpa using ⟨ha, hb⟩
  have hsplit : split.Derived := ⟨rfl, ["a", "b"], by decide, hwords, by decide⟩
  have hwire : split.wireName = "aB" := hcamel ["a", "b"] split (by decide) hwords (by decide) rfl
  have hplain : joined.wireName = "ab" :=
    hcamel ["ab"] joined (by decide) (by simpa using hab) (by decide) rfl
  have hordered : Query.orderKeyText e ⟨"ab", .asc⟩ = .ok joined.wireName := (huses e joined "ab" rfl).1
  rw [hplain] at hordered
  have hleft : e.Addresses "ab" "ab" := .ascending hordered
  have hright : e.Addresses "a_b" "aB" := @Entity.Addresses.filtered e "a_b" "aB" .text (by decide +kernel)
  exact ⟨⟨hjoined, hsplit, hinj _ _ hjoined hsplit (by decide)⟩, hwire,
    ⟨hleft, hright, haddress e joined split "ab" "a_b" rfl rfl hjoined hsplit (by decide) _ _ hleft hright⟩,
    hgiven _ _ rfl⟩

end TableQuery
