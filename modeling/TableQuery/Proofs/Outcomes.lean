/-!
# Outcomes

What a computation that can fail has done when it has succeeded, and computations given by what stops
them and what they would otherwise give.
-/

namespace TableQuery

variable {ε α β : Type}

/-! ## Steps -/

theorem bind_eq_ok {x : Except ε α} {f : α → Except ε β} {b : β} :
    x >>= f = .ok b ↔ ∃ a, x = .ok a ∧ f a = .ok b := by
  cases x <;> simp [bind, Except.bind]

/-- A check that gives nothing but its success. -/
theorem check_bind_eq_ok {x : Except ε Unit} {f : Unit → Except ε β} {b : β} :
    x >>= f = .ok b ↔ x = .ok () ∧ f () = .ok b := by
  rw [bind_eq_ok]
  exact ⟨fun ⟨(), h⟩ => h, fun h => ⟨(), h⟩⟩

theorem check_bind_eq_error {x : Except ε Unit} {f : Unit → Except ε β} {e : ε} :
    x >>= f = .error e ↔ x = .error e ∨ (x = .ok () ∧ f () = .error e) := by
  cases x <;> simp [bind, Except.bind]

@[simp]
theorem ok_bind (a : α) (f : α → Except ε β) : Except.ok a >>= f = f a := rfl

@[simp]
theorem error_bind (e : ε) (f : α → Except ε β) : Except.error e >>= f = .error e := rfl

@[simp]
theorem pure_eq_ok_iff {a b : α} : (pure a : Except ε α) = .ok b ↔ a = b := by simp [pure, Except.pure]

/-! ## Faults -/

/-- A fault, or else a result. -/
def outcome (fault : Option ε) (a : α) : Except ε α := fault.elim (.ok a) .error

@[simp]
theorem outcome_none (a : α) : outcome (none : Option ε) a = .ok a := rfl

@[simp]
theorem outcome_some (e : ε) (a : α) : outcome (some e) a = .error e := rfl

theorem outcome_eq_ok {fault : Option ε} {a b : α} : outcome fault a = .ok b ↔ fault = none ∧ a = b := by
  cases fault <;> simp

theorem outcome_eq_error {fault : Option ε} {a : α} {e : ε} :
    outcome fault a = .error e ↔ fault = some e := by
  cases fault <;> simp

/-- What goes on after a result goes on unless there was a fault. -/
theorem outcome_bind {p q : Option ε} {a : α} {b : β} {f : α → Except ε β} (h : f a = outcome q b) :
    outcome p a >>= f = outcome (p.or q) b := by
  cases p with
  | none => exact h
  | some e => rfl

theorem outcome_map (p : Option ε) (a : α) (f : α → β) :
    (outcome p a >>= fun t => pure (f t)) = outcome p (f a) := by
  cases p <;> rfl

theorem findSome?_cons_or (f : α → Option β) (x : α) (xs : List α) :
    (x :: xs).findSome? f = (f x).or (xs.findSome? f) := by
  rw [List.findSome?_cons]
  cases f x <;> rfl

theorem findSome?_congr {f g : α → Option β} {xs : List α} (h : ∀ x ∈ xs, f x = g x) :
    xs.findSome? f = xs.findSome? g := by
  induction xs with
  | nil => rfl
  | cons x xs ih =>
    obtain ⟨hx, hxs⟩ := List.forall_mem_cons.1 h
    rw [findSome?_cons_or, findSome?_cons_or, hx, ih hxs]

/-- A list of steps fails with the first fault in it. -/
theorem mapM_eq_outcome {f : α → Except ε β} {fault : α → Option ε} {g : α → β}
    (h : ∀ x, f x = outcome (fault x) (g x)) (xs : List α) :
    xs.mapM f = outcome (xs.findSome? fault) (xs.map g) := by
  induction xs with
  | nil => rfl
  | cons x xs ih =>
    rw [List.mapM_cons, ih, h, findSome?_cons_or]
    exact outcome_bind (by rw [outcome_map, List.map_cons])

end TableQuery
