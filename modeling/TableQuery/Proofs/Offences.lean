import TableQuery.Proofs.FilterText
/-!
# Where rendering stops

Rendering goes by the nodes in reading order and asks of each whether it stands too deep and, if not, whether
it is wrong in itself. It stops at the first node that offends, with the error of that one, and gives the text
where there is none.
-/

namespace TableQuery

namespace Filter

/-- What a node at its depth, which counts from 1 at the root, is refused with. A node too deep is refused for
that, whatever it holds. -/
inductive Offends (e : Entity) (max : Nat) : Nat × Expr → RenderError → Prop
  | tooDeep {d : Nat} {x : Expr} (hd : max < d) : Offends e max (d, x) (.tooDeep max)
  | literal {d : Nat} {v : Value} {err : LiteralError} (hd : d ≤ max) (h : v.literalError? = some err) :
    Offends e max (d, .const v) (.literal err)
  | unknownField {d : Nat} {name : String} {type : ScalarType} (hd : d ≤ max) (h : e.field? name = none) :
    Offends e max (d, .field name type) (.unknownField e.name name)
  | fieldType {d : Nat} {name : String} {type : ScalarType} {f : EntityField} (hd : d ≤ max)
    (h : e.field? name = some f) (ht : f.type ≠ type) :
    Offends e max (d, .field name type) (.fieldType e.name name f.type type)

/-- All nodes before the one with the error are in order. -/
def FirstOffence (e : Entity) (max : Nat) (x : Expr) (err : RenderError) : Prop :=
  ∃ before p after, x.placed 1 = before ++ p :: after ∧ Offends e max p err ∧
    ∀ b ∈ before, ∀ other, ¬Offends e max b other

/-- A leaf that has a text: a constant with a literal, or a field that the entity has with the same type. Any
other node has one if its operands have. -/
def Acceptable (e : Entity) : Expr → Prop
  | .const v => v.literalError? = none
  | .field name type => ∃ f, e.field? name = some f ∧ f.type = type
  | _ => True

variable {e : Entity} {max : Nat}

/-! ## One node -/

theorem nodeFault?_field (name : String) (type : ScalarType) :
    nodeFault? e (.field name type) =
      match e.field? name with
      | none => some (.unknownField e.name name)
      | some f => if f.type = type then none else some (.fieldType e.name name f.type type) := by
  cases hf : e.field? name with
  | none => simp [nodeFault?, Entity.access, Entity.resolve, hf]
  | some f =>
    by_cases ht : f.type = type <;> simp [nodeFault?, Entity.access, Entity.resolve, hf, ht, pure, Except.pure]

theorem nodeFault?_eq_none {x : Expr} : nodeFault? e x = none ↔ Acceptable e x := by
  cases x with
  | const v => simp [nodeFault?, Acceptable]
  | field name type =>
    rw [nodeFault?_field, Acceptable]
    cases e.field? name <;> simp
  | _ => simp [nodeFault?, Acceptable]

theorem offends_iff {p : Nat × Expr} {err : RenderError} :
    Offends e max p err ↔ placedFault? e max p = some err := by
  obtain ⟨d, x⟩ := p
  constructor
  · intro h
    cases h with
    | tooDeep hd => exact if_pos hd
    | literal hd h => simp [placedFault?, Nat.not_lt.2 hd, nodeFault?, h]
    | unknownField hd h => simp [placedFault?, Nat.not_lt.2 hd, nodeFault?_field, h]
    | fieldType hd h ht => simp [placedFault?, Nat.not_lt.2 hd, nodeFault?_field, h, ht]
  · intro h
    unfold placedFault? at h
    split at h
    · cases h
      exact .tooDeep ‹_›
    · rename_i hd
      have hle : d ≤ max := Nat.not_lt.1 hd
      cases x with
      | const v =>
        obtain ⟨lit, hlit, rfl⟩ := Option.map_eq_some_iff.1 h
        exact .literal hle hlit
      | field name type =>
        rw [nodeFault?_field] at h
        split at h
        · cases h
          exact .unknownField hle ‹_›
        · split at h
          · cases h
          · cases h
            exact .fieldType hle ‹_› ‹_›
      | _ => cases h

/-! ## All nodes -/

theorem not_offends_iff {p : Nat × Expr} :
    (∀ err, ¬Offends e max p err) ↔ placedFault? e max p = none := by
  simp only [offends_iff, Option.eq_none_iff_forall_ne_some, ne_eq]

theorem fault?_eq_some_iff {x : Expr} {err : RenderError} :
    fault? e max 1 x = some err ↔ FirstOffence e max x err := by
  simp only [fault?, List.findSome?_eq_some_iff, FirstOffence, offends_iff, ← not_offends_iff]

theorem fault?_eq_none_iff {x : Expr} :
    fault? e max 1 x = none ↔ ∀ p ∈ x.placed 1, ∀ err, ¬Offends e max p err := by
  simp only [fault?, List.findSome?_eq_none_iff, not_offends_iff]

/-- Rendering fails with the error of the first node that offends, and succeeds when none does. Where all
leaves are acceptable that is a matter of depth. The bound on the depth never changes the text. -/
theorem render_at_first_offence (e : Entity) (max : Nat) (x : Expr) :
    (∀ err, render e max x = .error err ↔ FirstOffence e max x err) ∧
      ((∃ s, render e max x = .ok s) ↔ ∀ p ∈ x.placed 1, ∀ err, ¬Offends e max p err) ∧
      ((∀ y : Expr, y.Within x → Acceptable e y) → ((∃ s, render e max x = .ok s) ↔ x.depth ≤ max)) ∧
      ∀ other s t, render e max x = .ok s → render e other x = .ok t → s = t := by
  have hok : (∃ s, render e max x = .ok s) ↔ fault? e max 1 x = none := by simp [render_eq_ok]
  refine ⟨?_, ?_, ?_, ?_⟩
  · intro err
    rw [render_eq, outcome_eq_error, fault?_eq_some_iff]
  · rw [hok, fault?_eq_none_iff]
  · intro hleaves
    have hevery : x.Every fun y => nodeFault? e y = none := by
      intro y hy
      exact nodeFault?_eq_none.2 (hleaves y hy)
    rw [hok, fault?_of_every hevery]
    split
    · exact iff_of_true rfl (by omega)
    · exact iff_of_false (by simp) (by omega)
  · intro other s t hs ht
    rw [← (render_eq_ok.1 hs).2, (render_eq_ok.1 ht).2]

/-- A field that is lost stands behind one that is too deep. -/
example :
    render ⟨"film", []⟩ 2
        (.binary (.logical .and) .bool (.unary .not .bool (.field "seen" .bool)) (.field "lost" .bool)) =
      .error (.tooDeep 2) := rfl

end Filter

end TableQuery
