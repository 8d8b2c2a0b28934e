import TableQuery.Proofs.QueryReading
/-!
# Query strings cut at ampersands

A query string can be cut at its ampersands into the parameters it was made of, as long as there is none in
what the caller and the entity bring into it as it is: texts in the predicate and wire names. All
else in a query string is free of them.
-/

namespace TableQuery

namespace Query

/-! ## Pieces -/

/-- What stands between the ampersands of a text, from its start to its end. -/
def pieces (s : String) : List String := (s.split '&').toList.map String.Slice.copy

theorem pieces_eq (s : String) : pieces s = (s.toList.splitOn '&').map String.ofList :=
  String.toList_split_char

theorem pieces_append (s t : String) : pieces (s ++ "&" ++ t) = pieces s ++ pieces t := by
  have hlist : (s ++ "&" ++ t).toList = s.toList ++ '&' :: t.toList := by simp
  rw [pieces_eq, hlist, List.splitOn_append_cons_self, List.map_append, pieces_eq, pieces_eq]

theorem pieces_of_not_mem {s : String} (h : '&' ∉ s.toList) : pieces s = [s] := by
  rw [pieces_eq, List.splitOn_eq_singleton h, List.map_singleton, String.ofList_toList]

theorem length_pieces_pos (s : String) : 0 < (pieces s).length := by
  rw [pieces_eq, List.length_map]
  exact List.length_pos_iff.2 (List.splitOn_ne_nil '&' s.toList)

theorem one_lt_length_pieces {s : String} (h : '&' ∈ s.toList) : 1 < (pieces s).length := by
  obtain ⟨a, b, hs⟩ := List.append_of_mem h
  have hcut : s = String.ofList a ++ "&" ++ String.ofList b := by
    apply String.toList_inj.1
    simpa using hs
  have ha := length_pieces_pos (String.ofList a)
  have hb := length_pieces_pos (String.ofList b)
  rw [hcut, pieces_append, List.length_append]
  omega

theorem pieces_intercalate {ps : List String} (h : ps ≠ []) :
    pieces ("&".intercalate ps) = ps.flatMap pieces := by
  induction ps with
  | nil => exact absurd rfl h
  | cons p ps ih =>
    cases ps with
    | nil => simp
    | cons q ps =>
      rw [String.intercalate_cons_of_ne_nil (List.cons_ne_nil q ps), pieces_append, ih (List.cons_ne_nil q ps)]
      rfl

theorem flatMap_pieces_of_not_mem {ps : List String} (h : ∀ p ∈ ps, '&' ∉ p.toList) :
    ps.flatMap pieces = ps := by
  induction ps with
  | nil => rfl
  | cons p ps ih =>
    obtain ⟨hp, hps⟩ := List.forall_mem_cons.1 h
    rw [List.flatMap_cons, pieces_of_not_mem hp, ih hps]
    rfl

theorem length_le_flatMap_pieces (ps : List String) : ps.length ≤ (ps.flatMap pieces).length := by
  induction ps with
  | nil => exact Nat.le_refl 0
  | cons p ps ih =>
    have hp := length_pieces_pos p
    rw [List.flatMap_cons, List.length_append, List.length_cons]
    omega

theorem length_lt_flatMap_pieces {ps : List String} {p : String} (hp : p ∈ ps) (h : '&' ∈ p.toList) :
    ps.length < (ps.flatMap pieces).length := by
  obtain ⟨a, b, rfl⟩ := List.append_of_mem hp
  have hlt := one_lt_length_pieces h
  have ha := length_le_flatMap_pieces a
  have hb := length_le_flatMap_pieces b
  rw [List.flatMap_append, List.flatMap_cons, List.length_append, List.length_append, List.length_append,
    List.length_cons]
  omega

/-- Joined texts are cut into themselves just when none of them has an ampersand. -/
theorem pieces_intercalate_eq_iff {ps : List String} (h : ps ≠ []) :
    pieces ("&".intercalate ps) = ps ↔ ∀ p ∈ ps, '&' ∉ p.toList := by
  rw [pieces_intercalate h]
  constructor
  · intro heq p hp hmem
    have hlt := length_lt_flatMap_pieces hp hmem
    rw [heq] at hlt
    exact Nat.lt_irrefl _ hlt
  · exact flatMap_pieces_of_not_mem

end Query

/-! ## What is carried over -/

/-- What a leaf carries into a filter: its text, or the wire name of its field. -/
inductive Expr.Carries (e : Entity) : Expr → String → Prop
  | text (s : String) : Carries e (.const (.text s)) s
  | field {name : String} {type : ScalarType} {f : EntityField} (hf : e.field? name = some f) :
    Carries e (.field name type) f.wireName

/-- What a query carries into its string: the texts in its predicate, and the wire names of all fields it
names. -/
inductive Query.Carries (q : Query) (e : Entity) : String → Prop
  | predicate {x y : Expr} {s : String} (hx : q.predicate = some x) (hy : y.Within x) (hs : y.Carries e s) :
    Carries q e s
  | order {k : OrderKey} {f : EntityField} (hk : k ∈ q.order) (hf : e.field? k.field = some f) :
    Carries q e f.wireName
  | selection {name : String} {f : EntityField} (hname : name ∈ q.selection) (hf : e.field? name = some f) :
    Carries q e f.wireName

/-! ## Ampersands in filters -/

/-- Quoting adds nothing but quotes. -/
theorem Quoted.mem_encode_iff {c : Char} (hc : c ≠ '\'') {s : List Char} : c ∈ encode s ↔ c ∈ s := by
  have hescape : c ∈ escape s ↔ c ∈ s := by
    induction s with
    | nil => rfl
    | cons d s ih =>
      rw [escape, List.flatMap_cons, List.mem_append, List.mem_cons]
      refine or_congr ?_ ih
      split
      · rename_i hd
        simp [hd, hc]
      · exact List.mem_singleton
  simp [encode, hc, hescape]

namespace Value

/-- A constant is written with an ampersand only if it is a text with one. -/
theorem ampersand_mem_literalText {v : Value} (h : v.literalError? = none) :
    '&' ∈ v.literalText.toList ↔ ∃ s, v = text s ∧ '&' ∈ s.toList := by
  rw [← text_phrase h]
  rcases v.phrase_cases with ⟨sign, a, hn⟩ | ⟨k, hk, hp⟩ | ⟨s, rfl⟩ | ⟨t, rfl⟩
  · have hnot : '&' ∉ a.text.toList := a.isWord_text.not_mem (by decide)
    rw [(phrase_of_numeral? hn).1]
    refine iff_of_false ?_ ?_
    · cases sign <;> simpa [Phrase.signed, Phrase.text] using hnot
    · rintro ⟨s, rfl, -⟩
      cases hn
  · rw [hp]
    refine iff_of_false ((isWord_keyword hk).not_mem (by decide)) ?_
    rintro ⟨s, rfl, -⟩
    cases hp
  · rw [phrase, Phrase.text, Quoted.mem_encode_iff (by decide)]
    simp
  · have hnot : '&' ∉ t.stamp.toList := (Instant.isWord_stamp (literalError?_timestamp.1 h)).not_mem (by decide)
    simp [phrase, Phrase.text, Phrase.argumentsText, hnot]

end Value

namespace Filter

variable {e : Entity}

/-- A node has the ampersands of its operands and of what it carries itself. -/
theorem ampersand_mem_node {x : Expr} (h : nodeFault? e x = none) :
    '&' ∈ (text e x).toList ↔
      (∃ s, x.Carries e s ∧ '&' ∈ s.toList) ∨ ∃ z ∈ x.operands, '&' ∈ (text e z).toList := by
  cases x with
  | const v =>
    rw [text, Value.ampersand_mem_literalText (by simpa [nodeFault?] using h)]
    constructor
    · rintro ⟨s, rfl, hs⟩
      exact .inl ⟨s, .text s, hs⟩
    · rintro (⟨s, hs, hmem⟩ | ⟨z, hz, -⟩)
      · cases hs
        exact ⟨s, rfl, hmem⟩
      · cases hz
  | field name type =>
    obtain ⟨f, hf, -, hwire⟩ := Expr.exists_field_of_nodeFault? h
    rw [text, hwire]
    constructor
    · intro hmem
      exact .inl ⟨f.wireName, .field hf, hmem⟩
    · rintro (⟨s, hs, hmem⟩ | ⟨z, hz, -⟩)
      · cases hs with
        | field hg =>
          rw [hf] at hg
          cases hg
          exact hmem
      · cases hz
  | unary op type x =>
    have hnone : ¬∃ s, (Expr.unary op type x).Carries e s ∧ '&' ∈ s.toList := by
      rintro ⟨s, hs, -⟩
      cases hs
    cases op <;> simp [text, UnaryOp.form, Expr.operands, hnone]
  | binary op type l r =>
    have hnone : ¬∃ s, (Expr.binary op type l r).Carries e s ∧ '&' ∈ s.toList := by
      rintro ⟨s, hs, -⟩
      cases hs
    have hop : '&' ∉ op.token.toList := (Expr.isWord_token op).not_mem (by decide)
    simp [text, Expr.operands, hnone, hop]
  | call f type args =>
    have hnone : ¬∃ s, (Expr.call f type args).Carries e s ∧ '&' ∈ s.toList := by
      rintro ⟨s, hs, -⟩
      cases hs
    have hname : '&' ∉ f.name.toList := (Expr.isWord_name f).not_mem (by decide)
    have hcomma : '&' ∉ ",".toList := by decide
    simp only [text, texts_eq, String.toList_append, List.mem_append, mem_intercalate_iff hcomma]
    simp [Expr.operands, hnone, hname]

/-- A filter has an ampersand only if one is carried into it. -/
theorem ampersand_mem_text {x : Expr} (h : x.Every fun y => nodeFault? e y = none) :
    '&' ∈ (text e x).toList ↔
      ∃ (y : Expr) (s : String), y.Within x ∧ y.Carries e s ∧ '&' ∈ s.toList := by
  induction x using Expr.operandInduct with
  | h x ih =>
    rw [ampersand_mem_node h.here]
    constructor
    · rintro (⟨s, hs, hmem⟩ | ⟨z, hz, hmem⟩)
      · exact ⟨x, s, .root x, hs, hmem⟩
      · obtain ⟨y, s, hy, hs, hmem⟩ := (ih z hz (h.operand hz)).1 hmem
        exact ⟨y, s, .under hz hy, hs, hmem⟩
    · rintro ⟨y, s, hy, hs, hmem⟩
      rcases Expr.within_iff.1 hy with rfl | ⟨z, hz, hy⟩
      · exact .inl ⟨s, hs, hmem⟩
      · exact .inr ⟨z, hz, (ih z hz (h.operand hz)).2 ⟨y, s, hy, hs, hmem⟩⟩

end Filter

/-! ## Ampersands in query strings -/

namespace Query

variable {q : Query} {e : Entity} {l : Limits}

theorem ampersand_mem_orderText (k : OrderKey) :
    '&' ∈ (orderText e k).toList ↔ '&' ∈ (Filter.wireText e k.field).toList := by
  unfold orderText
  cases k.direction <;> simp

/-- Names that are looked up have an ampersand between them if one of their wire names has. -/
theorem ampersand_mem_names {α : Type} {f name : α → String} {xs : List α}
    (hf : ∀ x, '&' ∈ (f x).toList ↔ '&' ∈ (Filter.wireText e (name x)).toList)
    (h : ∀ x ∈ xs, nameFault? e (name x) = none) :
    '&' ∈ (",".intercalate (xs.map f)).toList ↔
      ∃ x ∈ xs, ∃ g, e.field? (name x) = some g ∧ '&' ∈ g.wireName.toList := by
  have hcomma : '&' ∉ ",".toList := by decide
  have hone {x : α} (hx : x ∈ xs) :
      '&' ∈ (f x).toList ↔ ∃ g, e.field? (name x) = some g ∧ '&' ∈ g.wireName.toList := by
    obtain ⟨g, hg, hwire⟩ := field_of_nameFault? (h x hx)
    rw [hf, hwire, hg]
    simp
  rw [mem_intercalate_iff hcomma]
  constructor
  · rintro ⟨s, hs, hmem⟩
    obtain ⟨x, hx, rfl⟩ := List.mem_map.1 hs
    exact ⟨x, hx, (hone hx).1 hmem⟩
  · rintro ⟨x, hx, hg⟩
    exact ⟨f x, List.mem_map_of_mem hx, (hone hx).2 hg⟩

/-- The service's parameters have an ampersand only if one is carried into them. -/
theorem ampersand_mem_value? (h : q.fault? e l = none) :
    (∃ p v, q.value? e p = some v ∧ '&' ∈ v.toList) ↔ ∃ s, q.Carries e s ∧ '&' ∈ s.toList := by
  obtain ⟨-, hfilter, horder, hselect, -, -⟩ := fault?_eq_none.1 h
  have hevery {x : Expr} (hx : q.predicate = some x) : x.Every fun y => Filter.nodeFault? e y = none :=
    Filter.every_of_render (render_of_filterFault? hfilter hx)
  have horders := ampersand_mem_names (ampersand_mem_orderText (e := e)) (nameFault?_of_orderFault? horder)
  have hselects := ampersand_mem_names (fun _ => Iff.rfl) (List.findSome?_eq_none_iff.1 hselect)
  constructor
  · rintro ⟨p, v, hv, hmem⟩
    cases p with
    | deleted | count =>
      simp only [value?, Option.ite_none_right_eq_some, Option.some.injEq] at hv
      rw [← hv.2] at hmem
      exact absurd hmem (by decide)
    | filter =>
      obtain ⟨x, hx, rfl⟩ := Option.map_eq_some_iff.1 hv
      obtain ⟨y, s, hy, hs, hmem⟩ := (Filter.ampersand_mem_text (hevery hx)).1 hmem
      exact ⟨s, .predicate hx hy hs, hmem⟩
    | orderBy =>
      simp only [value?, Option.ite_none_left_eq_some, Option.some.injEq] at hv
      rw [← hv.2] at hmem
      obtain ⟨k, hk, f, hf, hmem⟩ := horders.1 hmem
      exact ⟨f.wireName, .order hk hf, hmem⟩
    | select =>
      simp only [value?, Option.ite_none_left_eq_some, Option.some.injEq] at hv
      rw [← hv.2] at hmem
      obtain ⟨name, hname, f, hf, hmem⟩ := hselects.1 hmem
      exact ⟨f.wireName, .selection hname hf, hmem⟩
    | skip | top =>
      obtain ⟨n, -, rfl⟩ := Option.map_eq_some_iff.1 hv
      exact absurd hmem (not_mem_toString n (by decide))
  · rintro ⟨s, hs, hmem⟩
    cases hs with
    | predicate hx hy hs =>
      refine ⟨.filter, _, congrArg (Option.map (Filter.text e)) hx, ?_⟩
      exact (Filter.ampersand_mem_text (hevery hx)).2 ⟨_, s, hy, hs, hmem⟩
    | order hk hf =>
      refine ⟨.orderBy, _, if_neg (List.ne_nil_of_mem hk), ?_⟩
      exact horders.2 ⟨_, hk, _, hf, hmem⟩
    | selection hname hf =>
      refine ⟨.select, _, if_neg (List.ne_nil_of_mem hname), ?_⟩
      exact hselects.2 ⟨_, hname, _, hf, hmem⟩

/-- Keys have no ampersand, and what is encoded has none either. -/
theorem ampersand_mem_pairs (h : q.fault? e l = none) :
    (∃ a ∈ (q.pairs e).map pairText, '&' ∈ a.toList) ↔ ∃ s, q.Carries e s ∧ '&' ∈ s.toList := by
  have hencoded (s : String) : '&' ∉ (FormEncoding.encode s).toList :=
    FormEncoding.not_mem_encode (by decide) (by decide) (by decide)
  have hkey (p : ServiceParameter) : '&' ∉ p.name.toList := by cases p <;> decide
  rw [← ampersand_mem_value? h]
  constructor
  · rintro ⟨text, htext, hmem⟩
    obtain ⟨a, ha, rfl⟩ := List.mem_map.1 htext
    rcases List.mem_append.1 ha with ha | ha
    · obtain ⟨p, v, hv, rfl⟩ := mem_servicePairs.1 ha
      refine ⟨p, v, hv, ?_⟩
      simpa [pairText, hkey] using hmem
    · obtain ⟨entry, -, rfl⟩ := List.mem_map.1 ha
      simp [pairText, encodedPair, hencoded] at hmem
  · rintro ⟨p, v, hv, hmem⟩
    refine ⟨pairText (p.name, v), List.mem_map_of_mem (List.mem_append_left _ ?_), ?_⟩
    · exact mem_servicePairs.2 ⟨p, v, hv, rfl⟩
    · simp [pairText, hmem]

/-- A query string of some parameters is cut at its ampersands into just these if no ampersand was carried into
it. Otherwise there are more pieces than parameters. -/
theorem pieces_compose {ps : List String} (h : q.parameterTexts e l = .ok ps) (hne : ps ≠ []) :
    ∃ out, q.compose e l = .ok out ∧ (pieces out = ps ↔ ∀ s, q.Carries e s → '&' ∉ s.toList) ∧
      ((∃ s, q.Carries e s ∧ '&' ∈ s.toList) → ps.length < (pieces out).length) := by
  rw [parameterTexts_eq, outcome_eq_ok] at h
  obtain ⟨hfault, rfl⟩ := h
  refine ⟨_, compose_eq_ok.2 ⟨hfault, rfl⟩, ?_, ?_⟩
  · have hcarries := not_congr (ampersand_mem_pairs hfault)
    rw [pieces_intercalate_eq_iff hne]
    simpa only [not_exists, not_and] using hcarries
  · intro hs
    obtain ⟨a, ha, hmem⟩ := (ampersand_mem_pairs hfault).2 hs
    rw [pieces_intercalate hne]
    exact length_lt_flatMap_pieces ha hmem

/-- A text with an ampersand, in a query of two parameters. -/
theorem pieces_compose_quoted :
    let e : Entity := ⟨"film", [⟨"title", .text, none⟩]⟩
    let q : Query :=
      { predicate := some (.binary (.comparison .eq) .bool (.field "title" .text) (.const (.text "a&b")))
        top := some 2 }
    q.parameterTexts e {} = .ok ["$filter=(title eq 'a&b')", "$top=2"] ∧
      ∃ out, q.compose e {} = .ok out ∧ 2 < (pieces out).length := by
  intro e q
  have h : q.parameterTexts e {} = .ok ["$filter=(title eq 'a&b')", "$top=2"] := by rfl
  obtain ⟨out, hout, -, hlt⟩ := pieces_compose h (by simp)
  refine ⟨h, out, hout, hlt ⟨"a&b", ?_, by decide⟩⟩
  exact .predicate rfl (.under (List.mem_cons_of_mem _ List.mem_cons_self) (.root _)) (.text "a&b")

end Query

end TableQuery
