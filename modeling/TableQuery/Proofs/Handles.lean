import Mathlib.Data.List.Nodup
import TableQuery.Declaration
import TableQuery.Proofs.Refusals
/-!
# Queries built with handles

A handle is a field's name with the type the entity declares for it. Conditions made of handles by
operators and functions name no other field. A query that names fields only through handles of its own
entity is never refused for what it names: what is left to stop it are the three limits, in the order in
which they are checked.
-/

namespace TableQuery

/-! ## Handles of an entity -/

namespace Entity

/-- The handles of an entity: those on its fields, and the constants of a declaration of it. -/
inductive Handle (e : Entity) : FieldRef → Prop
  | ofField {f : EntityField} (h : f ∈ e.fields) : Handle e (.ofField f)
  | constant {d : Declaration} {r : FieldRef} (hd : d.toEntity = e) (h : r ∈ d.constants) : Handle e r

/-- Constants are handles on the fields declared with them. -/
theorem handle_iff {e : Entity} {r : FieldRef} :
    e.Handle r ↔ ∃ f ∈ e.fields, r = .ofField f := by
  constructor
  · intro h
    cases h with
    | ofField hf => exact ⟨_, hf, rfl⟩
    | constant hd hr =>
      subst hd
      obtain ⟨l, hl, rfl⟩ := List.mem_map.1 hr
      exact ⟨l.entityField, List.mem_map_of_mem hl, rfl⟩
  · rintro ⟨f, hf, rfl⟩
    exact .ofField hf

/-- With names that differ, every field is the one found under its name. -/
theorem field?_of_mem {e : Entity} (hnames : (e.fields.map EntityField.name).Nodup) {f : EntityField}
    (hf : f ∈ e.fields) : e.field? f.name = some f := by
  unfold field?
  cases h : e.fields.find? fun g => g.name == f.name with
  | none => exact absurd (List.find?_eq_none.1 h f hf) (by simp)
  | some g =>
    have hname : g.name = f.name := by simpa using List.find?_some h
    rw [List.inj_on_of_nodup_map hnames (List.mem_of_find?_eq_some h) hf hname]

theorem field?_of_handle {e : Entity} (hnames : (e.fields.map EntityField.name).Nodup) {r : FieldRef}
    (hr : e.Handle r) : ∃ f, e.field? r.name = some f ∧ f.type = r.type := by
  obtain ⟨f, hf, rfl⟩ := handle_iff.1 hr
  exact ⟨f, field?_of_mem hnames hf, rfl⟩

theorem access_of_handle {e : Entity} (hnames : (e.fields.map EntityField.name).Nodup) {r : FieldRef}
    (hr : e.Handle r) : ∃ s, e.access r.name r.type = .ok s := by
  obtain ⟨f, hf, ht⟩ := field?_of_handle hnames hr
  exact ⟨f.wireName, access_eq_ok.2 ⟨f, hf, ht, rfl⟩⟩

end Entity

/-! ## Naming fields through handles -/

namespace Expr

/-- Expressions that are made of handles and constants. -/
inductive OfHandles (e : Entity) : Expr → Prop
  | const (v : Value) : OfHandles e (.const v)
  | handle {r : FieldRef} (hr : e.Handle r) : OfHandles e r.expr
  | unary {op : UnaryOp} {x y : Expr} (hx : OfHandles e x) (h : op.apply x = .ok y) : OfHandles e y
  | binary {op : BinaryOp} {l r y : Expr} (hl : OfHandles e l) (hr : OfHandles e r) (h : op.apply l r = .ok y) :
    OfHandles e y
  | call {f : Function} {args : List Expr} {y : Expr} (hargs : ∀ x ∈ args, OfHandles e x)
    (h : f.apply args = .ok y) : OfHandles e y

/-- If the expression is a field, it is one that a handle stands for. -/
def NamesHandle (e : Entity) : Expr → Prop
  | .field name type => e.Handle ⟨name, type⟩
  | _ => True

variable {e : Entity} {x : Expr}

theorem OfHandles.built (h : x.OfHandles e) : x.Built := by
  induction h with
  | const v => exact .const v
  | handle hr => exact .field _ _
  | unary _ h ih => exact .unary ih h
  | binary _ _ h ihl ihr => exact .binary ihl ihr h
  | call _ h ih => exact .call ih h

/-- Operators and functions bring in no field that their operands did not name. -/
theorem OfHandles.every_namesHandle (h : x.OfHandles e) : x.Every (NamesHandle e) := by
  have hconst (v : Value) : NamesHandle e (.const v) := trivial
  induction h with
  | const v => exact every_const.2 trivial
  | handle hr => exact every_field.2 hr
  | unary _ h ih =>
    obtain ⟨-, t, -, rfl⟩ := UnaryOp.apply_eq_ok.1 h
    exact every_unary.2 ⟨trivial, ih⟩
  | binary _ _ h ihl ihr =>
    obtain ⟨-, -, h⟩ := BinaryOp.apply_eq_ok.1 h
    split at h
    · subst h
      exact every_call.2 ⟨trivial, by simp [ihl, ihr]⟩
    · obtain ⟨t, -, rfl⟩ := h
      exact every_binary.2 ⟨trivial, every_aligned hconst ihl ihr⟩
  | call _ h ih =>
    obtain ⟨-, -, rfl⟩ := Function.apply_eq_ok.1 h
    exact every_call.2 ⟨trivial, ih⟩

end Expr

/-- The name is that of a handle. -/
def Entity.Named (e : Entity) (name : String) : Prop := ∃ r, e.Handle r ∧ r.name = name

/-- The call names fields only through handles. -/
def Call.UsesHandles (e : Entity) : Call → Prop
  | .filter x => x.Built ∧ ∀ name type, (Expr.field name type).Within x → e.Handle ⟨name, type⟩
  | .orderBy k => e.Named k.field
  | .thenBy k => e.Named k.field
  | .select fields => ∀ f ∈ fields, e.Named f
  | _ => True

theorem Call.usesHandles_filter {e : Entity} {x : Expr} (h : x.OfHandles e) : (filter x).UsesHandles e :=
  ⟨h.built, fun _ _ hw => h.every_namesHandle _ hw⟩

/-! ## Queries of handles -/

namespace Query

/-- Every field that the query names is named through a handle. -/
structure OfHandles (e : Entity) (q : Query) : Prop where
  valid : q.Valid
  predicate : ∀ x, q.predicate = some x →
    ∀ name type, (Expr.field name type).Within x → e.Handle ⟨name, type⟩
  order : ∀ k ∈ q.order, e.Named k.field
  selection : ∀ f ∈ q.selection, e.Named f

variable {e : Entity} {l : Limits} {q : Query}

theorem ofHandles_empty : OfHandles e {} where
  valid := valid_empty
  predicate _ h := by cases h
  order _ h := by cases h
  selection _ h := by cases h

theorem within_conjunction {held? : Option Expr} {x y : Expr} (h : y.Within (conjunction held? x)) :
    y = conjunction held? x ∨ (∃ held, held? = some held ∧ y.Within held) ∨ y.Within x := by
  cases held? with
  | none => exact .inr (.inr h)
  | some held =>
    rcases Expr.within_iff.1 h with rfl | ⟨z, hz, hy⟩
    · exact .inl rfl
    · simp only [conjunction, Option.elim_some, Expr.operands, List.mem_cons, List.not_mem_nil,
        or_false] at hz
      rcases hz with rfl | rfl
      · exact .inr (.inl ⟨z, rfl, hy⟩)
      · exact .inr (.inr hy)

theorem OfHandles.call {r : Query} {c : Call} (hq : q.OfHandles e) (hc : c.UsesHandles e)
    (h : q.call c = .ok r) : r.OfHandles e := by
  have hbuilt : c.BringsBuilt := by
    cases c with
    | filter x => exact hc.1
    | _ => trivial
  have hvalid := hq.valid.call hbuilt h
  obtain ⟨-, rfl⟩ := (call_eq_ok hq.valid.boolean).1 h
  cases c with
  | filter x =>
    refine ⟨hvalid, ?_, hq.order, hq.selection⟩
    intro y hy name type hw
    cases hy
    rcases within_conjunction hw with heq | ⟨held, hheld, hw⟩ | hw
    · -- A field that is the whole predicate is the one just added.
      cases hp : q.predicate with
      | none =>
        rw [hp] at heq
        exact hc.2 name type (heq ▸ .root _)
      | some held =>
        rw [hp] at heq
        cases heq
    · exact hq.predicate held hheld name type hw
    · exact hc.2 name type hw
  | orderBy k => exact ⟨hvalid, hq.predicate, List.forall_mem_singleton.2 hc, hq.selection⟩
  | thenBy k =>
    refine ⟨hvalid, hq.predicate, ?_, hq.selection⟩
    intro k' hk
    rcases List.mem_append.1 hk with hk | hk
    · exact hq.order k' hk
    · rw [List.mem_singleton.1 hk]
      exact hc
  | select fields => exact ⟨hvalid, hq.predicate, hq.order, hc⟩
  | _ => exact ⟨hvalid, hq.predicate, hq.order, hq.selection⟩

theorem ofHandles_after {calls : List Call}
    (h : ∀ c ∈ ({} : Query).accepted calls, c.UsesHandles e) : (({} : Query).after calls).OfHandles e := by
  apply holds_after _ ofHandles_empty h
  intro q c r hq hc hr
  exact hq.call hc hr

/-! ## Faults -/

theorem nameFault?_of_named (hnames : (e.fields.map EntityField.name).Nodup) {name : String}
    (h : e.Named name) : nameFault? e name = none := by
  obtain ⟨r, hr, rfl⟩ := h
  obtain ⟨f, hf, -⟩ := Entity.field?_of_handle hnames hr
  rw [nameFault?, hf]

/-- No node of the predicate is wrong in itself. -/
theorem OfHandles.every_nodeFault? (hnames : (e.fields.map EntityField.name).Nodup)
    (hq : q.OfHandles e) {x : Expr} (hx : q.predicate = some x) :
    x.Every fun y => Filter.nodeFault? e y = none := by
  intro y hy
  cases y with
  | const v =>
    rw [Filter.nodeFault?, hq.valid.literalError?_eq_none hx hy]
    rfl
  | field name type =>
    obtain ⟨s, hs⟩ := Entity.access_of_handle hnames (hq.predicate x hx name type hy)
    rw [Filter.nodeFault?, hs]
  | _ => rfl

/-- The predicate is no deeper than the limit. -/
def DepthKept (q : Query) (l : Limits) : Prop := ∀ x, q.predicate = some x → x.depth ≤ l.filterDepth

def OrderKept (q : Query) (l : Limits) : Prop := q.order.length ≤ l.orderKeys

def TopKept (q : Query) (l : Limits) : Prop :=
  ∀ n max, q.top = some n → l.top = some max → n ≤ max

theorem OfHandles.filterFault?_of_kept (hnames : (e.fields.map EntityField.name).Nodup)
    (hq : q.OfHandles e) (h : q.DepthKept l) : q.filterFault? e l = none := by
  unfold filterFault?
  cases hp : q.predicate with
  | none => rfl
  | some x =>
    have hx := h x hp
    rw [Option.bind_some, Filter.fault?_of_every (hq.every_nodeFault? hnames hp), if_pos (by omega)]
    rfl

theorem OfHandles.filterFault?_of_not_kept (hnames : (e.fields.map EntityField.name).Nodup)
    (hq : q.OfHandles e) (h : ¬q.DepthKept l) :
    q.filterFault? e l = some (.render (.tooDeep l.filterDepth)) := by
  unfold DepthKept at h
  push Not at h
  obtain ⟨x, hp, hx⟩ := h
  unfold filterFault?
  rw [hp, Option.bind_some, Filter.fault?_of_every (hq.every_nodeFault? hnames hp), if_neg (by omega)]
  rfl

theorem OfHandles.orderFault?_of_kept (hnames : (e.fields.map EntityField.name).Nodup)
    (hq : q.OfHandles e) (h : q.OrderKept l) : q.orderFault? e l = none := by
  unfold OrderKept at h
  rw [orderFault?, if_neg (by omega), List.findSome?_eq_none_iff]
  intro k hk
  exact nameFault?_of_named hnames (hq.order k hk)

theorem orderFault?_of_not_kept (h : ¬q.OrderKept l) :
    q.orderFault? e l = some (.tooManyOrderKeys q.order.length l.orderKeys) := by
  unfold OrderKept at h
  rw [orderFault?, if_pos (by omega)]

theorem OfHandles.selectFault?_eq_none (hnames : (e.fields.map EntityField.name).Nodup) (hq : q.OfHandles e) :
    q.selectFault? e = none := by
  apply List.findSome?_eq_none_iff.2
  intro f hf
  exact nameFault?_of_named hnames (hq.selection f hf)

/-- Only the limits are left to give a fault. -/
theorem OfHandles.fault?_eq (hnames : (e.fields.map EntityField.name).Nodup) (hq : q.OfHandles e) :
    q.fault? e l = (q.filterFault? e l).or ((q.orderFault? e l).or (q.topFault? l)) := by
  rw [Query.fault?, hq.valid.predicateFault?_eq_none, hq.selectFault?_eq_none hnames,
    hq.valid.keyFault?_eq_none, Option.none_or, Option.none_or, Option.or_none]

theorem topFault?_of_kept (h : q.TopKept l) : q.topFault? l = none := by
  unfold topFault?
  cases hn : q.top with
  | none => rfl
  | some n =>
    cases hm : l.top with
    | none => rfl
    | some max =>
      have := h n max hn hm
      simp only [Option.bind_some]
      rw [if_neg (by omega)]

theorem topFault?_of_not_kept {n max : Nat} (hn : q.top = some n) (hm : l.top = some max)
    (h : max < n) : q.topFault? l = some (.topExceeded n max) := by
  simp only [topFault?, hn, hm, Option.bind_some, if_pos h]

theorem OfHandles.compose_of_kept (hnames : (e.fields.map EntityField.name).Nodup) (hq : q.OfHandles e)
    (hd : q.DepthKept l) (ho : q.OrderKept l) (ht : q.TopKept l) : ∃ s, q.compose e l = .ok s := by
  have hfault := hq.fault?_eq (l := l) hnames
  rw [hq.filterFault?_of_kept hnames hd, hq.orderFault?_of_kept hnames ho, topFault?_of_kept ht] at hfault
  exact ⟨_, compose_eq_ok.2 ⟨hfault, rfl⟩⟩

theorem OfHandles.compose_of_deep (hnames : (e.fields.map EntityField.name).Nodup) (hq : q.OfHandles e)
    (hd : ¬q.DepthKept l) : q.compose e l = .error (.render (.tooDeep l.filterDepth)) := by
  apply compose_eq_error.2
  rw [hq.fault?_eq hnames, hq.filterFault?_of_not_kept hnames hd, Option.some_or]

theorem OfHandles.compose_of_many_keys (hnames : (e.fields.map EntityField.name).Nodup)
    (hq : q.OfHandles e) (hd : q.DepthKept l) (ho : ¬q.OrderKept l) :
    q.compose e l = .error (.tooManyOrderKeys q.order.length l.orderKeys) := by
  apply compose_eq_error.2
  rw [hq.fault?_eq hnames, hq.filterFault?_of_kept hnames hd, Option.none_or, orderFault?_of_not_kept ho,
    Option.some_or]

theorem OfHandles.compose_of_top_exceeded (hnames : (e.fields.map EntityField.name).Nodup)
    (hq : q.OfHandles e) (hd : q.DepthKept l) (ho : q.OrderKept l) {n max : Nat} (hn : q.top = some n)
    (hm : l.top = some max) (h : max < n) : q.compose e l = .error (.topExceeded n max) := by
  apply compose_eq_error.2
  rw [hq.fault?_eq hnames, hq.filterFault?_of_kept hnames hd, Option.none_or,
    hq.orderFault?_of_kept hnames ho, Option.none_or, topFault?_of_not_kept hn hm h]

/-- A query of handles is composed just when it keeps the three limits, and otherwise fails at the
first of them that it does not keep. -/
theorem compose_of_handles (hnames : (e.fields.map EntityField.name).Nodup) {calls : List Call}
    (hcalls : ∀ c ∈ ({} : Query).accepted calls, c.UsesHandles e) (l : Limits) :
    let q := ({} : Query).after calls
    ((∃ s, q.compose e l = .ok s) ↔ q.DepthKept l ∧ q.OrderKept l ∧ q.TopKept l) ∧
      (¬q.DepthKept l → q.compose e l = .error (.render (.tooDeep l.filterDepth))) ∧
      (q.DepthKept l → ¬q.OrderKept l →
        q.compose e l = .error (.tooManyOrderKeys q.order.length l.orderKeys)) ∧
      (q.DepthKept l → q.OrderKept l → ∀ n max, q.top = some n → l.top = some max → max < n →
        q.compose e l = .error (.topExceeded n max)) := by
  intro q
  have hq : q.OfHandles e := ofHandles_after hcalls
  refine ⟨?_, hq.compose_of_deep hnames, hq.compose_of_many_keys hnames, ?_⟩
  · constructor
    · rintro ⟨s, hs⟩
      -- A limit that is not kept gives an error, in the order in which they are checked.
      have hd : q.DepthKept l := by
        by_contra hd
        rw [hq.compose_of_deep hnames hd] at hs
        cases hs
      have ho : q.OrderKept l := by
        by_contra ho
        rw [hq.compose_of_many_keys hnames hd ho] at hs
        cases hs
      refine ⟨hd, ho, ?_⟩
      intro n max hn hm
      by_contra hle
      rw [hq.compose_of_top_exceeded hnames hd ho hn hm (by omega)] at hs
      cases hs
    · rintro ⟨hd, ho, ht⟩
      exact hq.compose_of_kept hnames hd ho ht
  · intro hd ho n max hn hm h
    exact hq.compose_of_top_exceeded hnames hd ho hn hm h

/-- A flag of films, asked for under a limit of no nodes at all. -/
theorem compose_of_handles_seen :
    let e : Entity := ⟨"film", [⟨"seen", .bool, none⟩]⟩
    let calls : List Call := [.filter (.field "seen" .bool), .orderBy ⟨"seen", .desc⟩]
    (e.fields.map EntityField.name).Nodup ∧
      (∀ c ∈ ({} : Query).accepted calls, c.UsesHandles e) ∧
      (({} : Query).after calls).compose e ⟨0, 0, none⟩ = .error (.render (.tooDeep 0)) := by
  intro e calls
  have hnames : (e.fields.map EntityField.name).Nodup := by decide
  have hhandle : e.Handle ⟨"seen", .bool⟩ := .ofField (f := ⟨"seen", .bool, none⟩) List.mem_cons_self
  have hcalls : ∀ c ∈ ({} : Query).accepted calls, c.UsesHandles e := by
    intro c hc
    have hmem : c = .filter (.field "seen" .bool) ∨ c = .orderBy ⟨"seen", .desc⟩ := by
      simpa [calls, accepted, call, addPredicate, Expr.isBoolean, Expr.type, Expr.check, pure,
        Except.pure] using hc
    rcases hmem with rfl | rfl
    · exact Call.usesHandles_filter (.handle hhandle)
    · exact ⟨_, hhandle, rfl⟩
  obtain ⟨-, hdeep, -⟩ := compose_of_handles hnames hcalls ⟨0, 0, none⟩
  refine ⟨hnames, hcalls, hdeep ?_⟩
  intro hkept
  exact absurd (hkept (.field "seen" .bool) rfl) (by decide)

end Query

end TableQuery
