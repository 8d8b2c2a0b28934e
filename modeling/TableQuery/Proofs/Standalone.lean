import TableQuery.Proofs.Confinement
import TableQuery.Proofs.Offences
/-!
# Texts that stand alone

The writer takes along what has been written and how deep it stands, and neither shows. Writing a node at some
depth is rendering it alone under the levels that are left, put behind what was there. So a subtree has one text,
and the context around it only says what stands in front of it and behind it.
-/

namespace TableQuery

/-- The error with the bound of the whole tree, where it is a matter of depth. -/
def RenderError.reporting (max : Nat) : RenderError → RenderError
  | tooDeep _ => tooDeep max
  | err => err

/-- How many nodes stand above the hole. -/
def Expr.Context.level : Context → Nat
  | hole => 0
  | unary _ _ c => c.level + 1
  | left _ _ c _ => c.level + 1
  | right _ _ _ c => c.level + 1
  | argument _ _ _ c _ => c.level + 1

namespace Filter

variable {e : Entity} {max : Nat}

/-! ## Depths from another start -/

/-- What is wrong with a node in itself reports no bound. -/
theorem reporting_nodeFault? (x : Expr) : (nodeFault? e x).map (.reporting max) = nodeFault? e x := by
  cases x with
  | const v => cases h : v.literalError? <;> simp [nodeFault?, h, RenderError.reporting]
  | field name type =>
    rw [nodeFault?_field]
    cases e.field? name with
    | none => rfl
    | some f => by_cases ht : f.type = type <;> simp [ht, RenderError.reporting]
  | _ => rfl

theorem placedFault?_add (k d : Nat) (x : Expr) :
    placedFault? e (max + k) (d + k, x) = (placedFault? e max (d, x)).map (.reporting (max + k)) := by
  unfold placedFault?
  by_cases hd : max < d
  · rw [if_pos hd, if_pos (by omega)]
    rfl
  · rw [if_neg hd, if_neg (by omega), reporting_nodeFault?]

/-- Levels that are added above an expression and to the bound change the bound that is reported, nothing else. -/
theorem fault?_add (k d : Nat) (x : Expr) :
    fault? e (max + k) (d + k) x = (fault? e max d x).map (.reporting (max + k)) := by
  induction x using Expr.operandInduct generalizing d with
  | h x ih =>
    have hoperands : x.operands.findSome? (fault? e (max + k) (d + k + 1)) =
        (x.operands.findSome? (fault? e max (d + 1))).map (.reporting (max + k)) := by
      rw [List.map_findSome?]
      refine findSome?_congr ?_
      intro z hz
      rw [Nat.add_right_comm, ih z hz (d + 1), Function.comp_apply]
    rw [fault?_eq, fault?_eq, Option.map_or, placedFault?_add, hoperands]

/-- The fault of a node at depth `d` is the one it has alone, under the levels that are left. -/
theorem fault?_eq_alone {d : Nat} (h : 1 ≤ d) (hd : d - 1 ≤ max) (x : Expr) :
    fault? e max d x = (fault? e (max - (d - 1)) 1 x).map (.reporting max) := by
  have hshift : fault? e (max - (d - 1) + (d - 1)) (1 + (d - 1)) x =
      (fault? e (max - (d - 1)) 1 x).map (.reporting (max - (d - 1) + (d - 1))) := fault?_add (d - 1) 1 x
  rwa [Nat.sub_add_cancel hd, Nat.add_sub_cancel' h] at hshift

theorem fault?_of_lt {d : Nat} (h : max < d) (x : Expr) : fault? e max d x = some (.tooDeep max) := by
  rw [fault?_eq, placedFault?, if_pos h]
  rfl

/-- A node at depth `d` is in order when it is so alone and its own level is not too deep. -/
theorem fault?_eq_none_iff_alone {d : Nat} (h : 1 ≤ d) (x : Expr) :
    fault? e max d x = none ↔ d - 1 ≤ max ∧ fault? e (max - (d - 1)) 1 x = none := by
  by_cases hd : d - 1 ≤ max
  · rw [fault?_eq_alone h hd, Option.map_eq_none_iff, and_iff_right hd]
  · rw [fault?_of_lt (by omega)]
    simp [hd]

/-! ## Under a context -/

theorem fault?_operand {d : Nat} {x z : Expr} (h : fault? e max d x = none) (hz : z ∈ x.operands) :
    fault? e max (d + 1) z = none := by
  rw [fault?_eq, Option.or_eq_none_iff, List.findSome?_eq_none_iff] at h
  exact h.2 z hz

/-- What stands some levels below an operand stands one more below the node. -/
theorem fault?_below {d k : Nat} {x y z : Expr} (h : fault? e max d x = none) (hz : z ∈ x.operands)
    (hy : ∀ d, fault? e max d z = none → fault? e max (d + k) y = none) : fault? e max (d + (k + 1)) y = none := by
  rw [← Nat.add_assoc, Nat.add_right_comm]
  exact hy (d + 1) (fault?_operand h hz)

/-- A tree without faults has none in what fills a hole of it, which stands deeper by the level of the hole. -/
theorem fault?_hole {c : Expr.Context} {d : Nat} {x : Expr} (h : fault? e max d (c.fill x) = none) :
    fault? e max (d + c.level) x = none := by
  -- The hole lies in one operand, and what is left of the context begins there.
  induction c generalizing d with
  | hole => exact h
  | unary op t c ih => exact fault?_below h List.mem_cons_self fun _ => ih
  | left op t c r ih => exact fault?_below h List.mem_cons_self fun _ => ih
  | right op t l c ih => exact fault?_below h (List.mem_cons_of_mem l List.mem_cons_self) fun _ => ih
  | argument f t before c after ih =>
    exact fault?_below h (List.mem_append_right before List.mem_cons_self) fun _ => ih

/-! ## Writing -/

theorem write_eq_ok {x : Expr} {out s : String} {d : Nat} :
    write e max out d x = .ok s ↔ fault? e max d x = none ∧ out ++ text e x = s := by
  rw [write_eq, outcome_eq_ok]

theorem write_eq_error {x : Expr} {out : String} {d : Nat} {err : RenderError} :
    write e max out d x = .error err ↔ fault? e max d x = some err := by
  rw [write_eq, outcome_eq_error]

theorem render_eq_error {x : Expr} {err : RenderError} :
    render e max x = .error err ↔ fault? e max 1 x = some err := write_eq_error

theorem exists_write_iff {x : Expr} {out : String} {d : Nat} :
    (∃ s, write e max out d x = .ok s) ↔ fault? e max d x = none := by
  simp [write_eq_ok]

theorem exists_render_iff {x : Expr} : (∃ s, render e max x = .ok s) ↔ fault? e max 1 x = none := exists_write_iff

/-- Where all leaves are acceptable, a node is written when the levels that are left are enough for it. -/
theorem exists_write_iff_depth {x : Expr} (hx : x.Every (Acceptable e)) {out : String} {d : Nat} :
    (∃ s, write e max out d x = .ok s) ↔ d + x.depth ≤ max + 1 := by
  rw [exists_write_iff, fault?_of_every (hx.mono fun _ => nodeFault?_eq_none.2)]
  split
  · exact iff_of_true rfl ‹_›
  · exact iff_of_false (by simp) ‹_›

section Alone
variable {d : Nat} (h : 1 ≤ d) {x : Expr} {out : String}
include h

theorem exists_write_iff_alone :
    (∃ s, write e max out d x = .ok s) ↔
      (d = 1 ∧ ∃ t, render e max x = .ok t) ∨
        (1 < d ∧ d - 1 ≤ max ∧ ∃ t, render e (max - (d - 1)) x = .ok t) := by
  rw [exists_write_iff, exists_render_iff, exists_render_iff, fault?_eq_none_iff_alone h]
  rcases Nat.eq_or_lt_of_le h with rfl | hd
  · simp
  · simp [hd, Nat.ne_of_gt hd]

theorem eq_of_write {s : String} (hs : write e max out d x = .ok s) :
    s = out ++ text e x ∧ render e (max - (d - 1)) x = .ok (text e x) := by
  obtain ⟨hnone, rfl⟩ := write_eq_ok.1 hs
  exact ⟨rfl, render_eq_ok.2 ⟨((fault?_eq_none_iff_alone h x).1 hnone).2, rfl⟩⟩

theorem write_eq_error_iff_alone {err : RenderError} :
    write e max out d x = .error err ↔
      (max < d ∧ err = .tooDeep max) ∨
        (d - 1 ≤ max ∧ ∃ alone, render e (max - (d - 1)) x = .error alone ∧ err = alone.reporting max) := by
  rw [write_eq_error]
  constructor
  · intro hfault
    by_cases hd : d - 1 ≤ max
    · rw [fault?_eq_alone h hd] at hfault
      obtain ⟨alone, halone, rfl⟩ := Option.map_eq_some_iff.1 hfault
      exact .inr ⟨hd, alone, render_eq_error.2 halone, rfl⟩
    · rw [fault?_of_lt (by omega)] at hfault
      cases hfault
      exact .inl ⟨by omega, rfl⟩
  · rintro (⟨hd, rfl⟩ | ⟨hd, alone, halone, rfl⟩)
    · exact fault?_of_lt hd x
    · rw [fault?_eq_alone h hd, render_eq_error.1 halone]
      rfl

end Alone

/-- What fills a context that is written is written at the depth of the hole too, whatever stands in front. -/
theorem write_hole {c : Expr.Context} {d : Nat} {x : Expr} {out s : String} (p : String)
    (hs : write e max out d (c.fill x) = .ok s) :
    write e max (out ++ p) (d + c.level) x = .ok (out ++ p ++ text e x) :=
  write_eq_ok.2 ⟨fault?_hole (write_eq_ok.1 hs).1, rfl⟩

/-- The writer is context free. A node at depth `d` is written when it can be rendered alone under the levels
that are left, and then as that text behind what was there. Otherwise it fails with the error that it has alone,
or for its depth. Only the number of levels matters to one whose leaves are acceptable. What fills a context is
written at its place as it would be alone, between two texts that are up to the context. -/
theorem write_context_free (e : Entity) :
    (∀ (x : Expr) (max : Nat) (out : String) (d : Nat), 1 ≤ d →
      ((∃ s, write e max out d x = .ok s) ↔
          (d = 1 ∧ ∃ t, render e max x = .ok t) ∨
            (1 < d ∧ d - 1 ≤ max ∧ ∃ t, render e (max - (d - 1)) x = .ok t)) ∧
        (∀ s, write e max out d x = .ok s →
          s = out ++ text e x ∧ render e (max - (d - 1)) x = .ok (text e x)) ∧
        (∀ err, write e max out d x = .error err ↔
          (max < d ∧ err = .tooDeep max) ∨
            (d - 1 ≤ max ∧ ∃ alone, render e (max - (d - 1)) x = .error alone ∧ err = alone.reporting max)) ∧
        (x.Every (Acceptable e) → ((∃ s, write e max out d x = .ok s) ↔ d + x.depth ≤ max + 1))) ∧
      ∀ c : Expr.Context, ∃ p q : String, ∀ (x : Expr) (max : Nat) (out : String) (d : Nat) (s : String), 1 ≤ d →
        write e max out d (c.fill x) = .ok s →
          s = out ++ p ++ text e x ++ q ∧
            write e max (out ++ p) (d + c.level) x = .ok (out ++ p ++ text e x) ∧
              render e (max - (d + c.level - 1)) x = .ok (text e x) := by
  refine ⟨?_, ?_⟩
  · intro x max out d hd
    exact ⟨exists_write_iff_alone hd, fun s hs => eq_of_write hd hs, fun err => write_eq_error_iff_alone hd,
      fun hx => exists_write_iff_depth hx⟩
  · intro c
    obtain ⟨p, q, htext, -⟩ := exists_text_fill e c
    refine ⟨p, q, ?_⟩
    intro x max out d s hd hs
    have hplace := write_hole p hs
    refine ⟨?_, hplace, (eq_of_write (by omega) hplace).2⟩
    rw [← (write_eq_ok.1 hs).2, htext]
    simp only [String.append_assoc]

/-- A node written at depth 2 as it is alone with one level less, and its operand at depth 3. The bound in the
report is that of the whole tree. -/
theorem write_context_free_and :
    let film : Entity := ⟨"film", [⟨"seen", .bool, some "Seen"⟩]⟩
    let x : Expr := .unary .not .bool (.field "seen" .bool)
    let c : Expr.Context := .right (.logical .and) .bool (.field "seen" .bool) .hole
    1 ≤ 2 ∧
      (write film 4 "not(" 2 (c.fill x) = .ok "not((Seen and not(Seen))" ∧
        render film 3 (c.fill x) = .ok "(Seen and not(Seen))") ∧
      (render film 2 (c.fill x) = .error (.tooDeep 2) ∧
        write film 3 "not(" 2 (c.fill x) = .error (.tooDeep 3)) ∧
      (x.Every (Acceptable film) ∧ ∃ s, write film 4 "not(" 3 x = .ok s) ∧
      ∃ p q : String, "not((Seen and not(Seen))" = "not(" ++ p ++ "not(Seen)" ++ q ∧
        write film 4 ("not(" ++ p) 3 x = .ok ("not(" ++ p ++ "not(Seen)") ∧
          render film 2 x = .ok "not(Seen)" := by
  intro film x c
  have hwrite : write film 4 "not(" 2 (c.fill x) = .ok "not((Seen and not(Seen))" := rfl
  have halone : render film 2 (c.fill x) = .error (.tooDeep 2) := rfl
  have hleaves : x.Every (Acceptable film) :=
    Expr.every_unary.2 ⟨trivial, Expr.every_field.2 ⟨⟨"seen", .bool, some "Seen"⟩, rfl, rfl⟩⟩
  obtain ⟨hnode, hplace⟩ := write_context_free film
  obtain ⟨-, htext, -, -⟩ := hnode (c.fill x) 4 "not(" 2 (by decide)
  obtain ⟨-, -, herror, -⟩ := hnode (c.fill x) 3 "not(" 2 (by decide)
  obtain ⟨-, -, -, hdepth⟩ := hnode x 4 "not(" 3 (by decide)
  obtain ⟨p, q, hfill⟩ := hplace c
  exact ⟨by decide, ⟨hwrite, (htext _ hwrite).2⟩,
    ⟨halone, (herror _).2 (.inr ⟨by decide, .tooDeep 2, halone, rfl⟩)⟩, ⟨hleaves, (hdepth hleaves).2 (by decide)⟩,
    p, q, hfill x 4 "not(" 2 _ (by decide) hwrite⟩

end Filter

end TableQuery
