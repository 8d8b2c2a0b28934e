import TableQuery.Proofs.Offences
import TableQuery.Proofs.Requirements
/-!
# What a query reads of its entity

A query names fields in its predicate, its order keys and its selection. Composition asks the entity for the
columns of these names and for nothing else about its fields, so two entities that agree on them give the same
result. Fields added behind the others are found only by names that were lost before.
-/

namespace TableQuery

/-- What a query learns of a field: its type and the service's name for it. -/
def Entity.column? (e : Entity) (name : String) : Option (ScalarType × String) :=
  (e.field? name).map fun f => (f.type, f.wireName)

/-- The entity with more fields behind its own. -/
def Entity.extend (e : Entity) (more : List EntityField) : Entity := { e with fields := e.fields ++ more }

/-- The names a query uses for fields. -/
inductive Query.Mentions (q : Query) : String → Prop
  | predicate {x : Expr} {name : String} {type : ScalarType} (hx : q.predicate = some x)
    (h : (Expr.field name type).Within x) : Mentions q name
  | order {k : OrderKey} (h : k ∈ q.order) : Mentions q k.field
  | selection {name : String} (h : name ∈ q.selection) : Mentions q name

variable {e e' : Entity}

/-! ## Lookups -/

theorem Entity.column?_extend {name : String} {f : EntityField} (h : e.field? name = some f)
    (more : List EntityField) : (e.extend more).column? name = e.column? name := by
  have hfound : (e.extend more).field? name = some f := by
    rw [field?, extend, List.find?_append]
    exact congrArg (Option.or · _) h
  rw [column?, column?, hfound, h]

theorem Query.nameFault?_eq_column (e : Entity) (name : String) :
    nameFault? e name =
      match e.column? name with
      | some _ => none
      | none => some (.render (.unknownField e.name name)) := by
  unfold nameFault? Entity.column?
  cases e.field? name <;> rfl

namespace Filter

variable {max : Nat}

theorem wireText_eq_column (e : Entity) (name : String) :
    wireText e name = (e.column? name).elim "" Prod.snd := by
  unfold wireText Entity.column?
  cases e.field? name <;> rfl

theorem nodeFault?_eq_column (e : Entity) (name : String) (type : ScalarType) :
    nodeFault? e (.field name type) =
      match e.column? name with
      | none => some (.unknownField e.name name)
      | some (declared, _) => if declared = type then none else some (.fieldType e.name name declared type) := by
  rw [nodeFault?_field, Entity.column?]
  cases e.field? name <;> rfl

/-! ## Filters -/

/-- If the node is a field, both entities have the same column for it. -/
def SharesField (e e' : Entity) (x : Expr) : Prop :=
  ∀ name type, x = .field name type → e.column? name = e'.column? name

theorem nodeFault?_congr (hname : e.name = e'.name) {x : Expr} (h : SharesField e e' x) :
    nodeFault? e x = nodeFault? e' x := by
  cases x with
  | field name type =>
    rw [nodeFault?_eq_column, nodeFault?_eq_column, hname, h name type rfl]
  | _ => rfl

theorem placedFault?_congr (hname : e.name = e'.name) {p : Nat × Expr} (h : SharesField e e' p.2) :
    placedFault? e max p = placedFault? e' max p := by
  unfold placedFault?
  rw [nodeFault?_congr hname h]

theorem fault?_congr (hname : e.name = e'.name) {x : Expr} (h : x.Every (SharesField e e')) (d : Nat) :
    fault? e max d x = fault? e' max d x := by
  refine findSome?_congr ?_
  intro p hp
  exact placedFault?_congr hname (h p.2 (Expr.exists_mem_placed_iff.1 ⟨p.1, hp⟩))

theorem text_congr {x : Expr} (h : x.Every (SharesField e e')) : text e x = text e' x := by
  -- Only the leaves look anything up, and every operand keeps the assumption.
  induction x with
  | const v => rfl
  | field name type =>
    rw [text, text, wireText_eq_column, wireText_eq_column, h.here name type rfl]
  | unary op type x ih =>
    rw [text, text, ih (Expr.every_unary.1 h).2]
  | binary op type l r ihl ihr =>
    obtain ⟨-, hl, hr⟩ := Expr.every_binary.1 h
    rw [text, text, ihl hl, ihr hr]
  | call f type args ih =>
    obtain ⟨-, hargs⟩ := Expr.every_call.1 h
    rw [text, text, texts_eq, texts_eq, List.map_congr_left fun x hx => ih x hx (hargs x hx)]

end Filter

namespace Query

variable {q : Query} {l : Limits}

/-! ## Parts of a query -/

theorem every_sharesField (h : ∀ name, q.Mentions name → e.column? name = e'.column? name) {x : Expr}
    (hx : q.predicate = some x) : x.Every (Filter.SharesField e e') := by
  rintro y hy name type rfl
  exact h name (.predicate hx hy)

theorem wireText_congr (h : ∀ name, q.Mentions name → e.column? name = e'.column? name) {name : String}
    (hn : q.Mentions name) : Filter.wireText e name = Filter.wireText e' name := by
  rw [Filter.wireText_eq_column, Filter.wireText_eq_column, h name hn]

theorem fault?_congr (hname : e.name = e'.name)
    (h : ∀ name, q.Mentions name → e.column? name = e'.column? name) : q.fault? e l = q.fault? e' l := by
  have hfilter : q.filterFault? e l = q.filterFault? e' l := by
    unfold filterFault?
    cases hx : q.predicate with
    | none => rfl
    | some x => rw [Option.bind_some, Option.bind_some, Filter.fault?_congr hname (every_sharesField h hx)]
  have horder : q.orderFault? e l = q.orderFault? e' l := by
    have hkeys : ∀ k ∈ q.order, nameFault? e k.field = nameFault? e' k.field := by
      intro k hk
      rw [nameFault?_eq_column, nameFault?_eq_column, hname, h _ (.order hk)]
    rw [orderFault?, orderFault?, findSome?_congr hkeys]
  have hselect : q.selectFault? e = q.selectFault? e' := by
    refine findSome?_congr ?_
    intro name hn
    rw [nameFault?_eq_column, nameFault?_eq_column, hname, h name (.selection hn)]
  rw [fault?, fault?, hfilter, horder, hselect]

theorem value?_congr (h : ∀ name, q.Mentions name → e.column? name = e'.column? name) (p : ServiceParameter) :
    q.value? e p = q.value? e' p := by
  cases p with
  | filter =>
    unfold value?
    cases hx : q.predicate with
    | none => rfl
    | some x => rw [Option.map_some, Option.map_some, Filter.text_congr (every_sharesField h hx)]
  | orderBy =>
    have hkeys : q.order.map (orderText e) = q.order.map (orderText e') := by
      refine List.map_congr_left ?_
      intro k hk
      rw [orderText, orderText, wireText_congr h (.order hk)]
    rw [value?, value?, hkeys]
  | select =>
    have hnames : q.selection.map (Filter.wireText e) = q.selection.map (Filter.wireText e') := by
      refine List.map_congr_left ?_
      intro name hn
      exact wireText_congr h (.selection hn)
    rw [value?, value?, hnames]
  | _ => rfl

theorem pairs_congr (h : ∀ name, q.Mentions name → e.column? name = e'.column? name) :
    q.pairs e = q.pairs e' := by
  unfold pairs servicePairs
  simp only [value?_congr h]

theorem parameterTexts_congr (hname : e.name = e'.name)
    (h : ∀ name, q.Mentions name → e.column? name = e'.column? name) :
    q.parameterTexts e l = q.parameterTexts e' l := by
  rw [parameterTexts_eq, parameterTexts_eq, fault?_congr hname h, pairs_congr h]

/-! ## Fields that are found -/

/-- A query that is composed has a field for every name it mentions. -/
theorem Composable.field_of_mentions (h : q.Composable e l) {name : String} (hn : q.Mentions name) :
    ∃ f, e.field? name = some f := by
  cases hn with
  | @predicate x _ type hx hfield =>
    obtain ⟨text, htext⟩ := h.filter x hx
    obtain ⟨f, hf, -⟩ := Filter.nodeFault?_eq_none.1 (Filter.every_of_render htext _ hfield)
    exact ⟨f, hf⟩
  | @order k hk =>
    rcases h.order with hnil | ⟨-, hkeys⟩
    · rw [hnil] at hk
      cases hk
    · exact hkeys k hk
  | selection hmem => exact h.selection name hmem

/-- Entities of one name that agree on the columns a query mentions give it the same result, be it an error. So
fields behind those of an entity, whatever they are called, leave every query as it was composed before. -/
theorem compose_by_mentions (q : Query) (l : Limits) :
    (∀ e e' : Entity, e.name = e'.name → (∀ name, q.Mentions name → e.column? name = e'.column? name) →
      q.parameterTexts e l = q.parameterTexts e' l ∧ q.compose e l = q.compose e' l) ∧
      ∀ (e : Entity) (more : List EntityField),
        (∀ ps, q.parameterTexts e l = .ok ps → q.parameterTexts (e.extend more) l = .ok ps) ∧
          ∀ s, q.compose e l = .ok s → q.compose (e.extend more) l = .ok s := by
  constructor
  · intro e e' hname h
    have hparams := parameterTexts_congr (l := l) hname h
    exact ⟨hparams, by rw [compose, compose, hparams]⟩
  · intro e more
    -- The first field of a name stays the first one.
    have hsame : ∀ ps, q.parameterTexts e l = .ok ps → q.parameterTexts e l = q.parameterTexts (e.extend more) l := by
      intro ps hps
      refine parameterTexts_congr rfl ?_
      intro name hn
      obtain ⟨f, hf⟩ := (parameterTexts_eq_ok.1 hps).1.field_of_mentions hn
      exact (Entity.column?_extend hf more).symm
    constructor
    · intro ps hps
      rw [← hsame ps hps, hps]
    · intro s hs
      rw [compose] at hs ⊢
      obtain ⟨ps, hps, hs⟩ := bind_eq_ok.1 hs
      rw [← hsame ps hps, hps]
      exact hs

/-- A film that has more fields, one of them under a name that is taken, is ordered by the same column. -/
theorem compose_by_mentions_duplicate :
    let film : Entity := ⟨"film", [⟨"seen_at", .timestamp, none⟩]⟩
    let other : Entity := ⟨"film", [⟨"title", .text, none⟩, ⟨"seen_at", .timestamp, some "seenAt"⟩]⟩
    let more : List EntityField := [⟨"seen_at", .text, some "note"⟩]
    let q : Query := { order := [⟨"seen_at", .desc⟩] }
    (film.name = other.name ∧ (∀ name, q.Mentions name → film.column? name = other.column? name) ∧
      q.compose film {} = q.compose other {}) ∧
      q.compose film {} = .ok "$orderby=seenAt desc" ∧
      q.compose (film.extend more) {} = .ok "$orderby=seenAt desc" := by
  intro film other more q
  have hcolumn : film.column? "seen_at" = other.column? "seen_at" := by decide +kernel
  have hmentions : ∀ name, q.Mentions name → film.column? name = other.column? name := by
    intro name hn
    cases hn with
    | predicate hx => cases hx
    | order hk =>
      cases List.mem_singleton.1 hk
      exact hcolumn
    | selection hmem => cases hmem
  have hok : q.compose film {} = .ok "$orderby=seenAt desc" := by decide +kernel
  have hresult := compose_by_mentions q {}
  exact ⟨⟨rfl, hmentions, (hresult.1 film other rfl hmentions).2⟩, hok, (hresult.2 film more).2 _ hok⟩

end Query

end TableQuery
