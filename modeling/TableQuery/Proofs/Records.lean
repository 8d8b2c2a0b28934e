import TableQuery.Assumed.Toml.Record
/-!
# Records in a document

A record is read from its table in whichever of three ways that is written (`recordIn?_of_tabulates`). What is read
under a path is a field with a number, so nothing in the table has another name.
-/

namespace TableQuery.Toml

/-! ## Tables and names -/

/-- The statements of a document that is one table of these entries: under a header, as a value, or as dotted
assignments. -/
inductive Tabulates (name : String) (entries : List (String × Value)) : List Statement → Prop
  | header : Tabulates name entries (.table [name] :: entries.map fun e => .assign [e.1] e.2)
  | value : Tabulates name entries [.assign [name] (.table (entries.map fun e => ([e.1], e.2)))]
  | dotted : Tabulates name entries (entries.map fun e => .assign [name, e.1] e.2)

/-- `v.HasPath path`: in the value there is something at the path. -/
inductive Value.HasPath : Value → List String → Prop
  | here (v : Value) : HasPath v []
  | inside {entries : List (List String × Value)} {path rest : List String} {v : Value} (hmem : (path, v) ∈ entries)
      (hrest : HasPath v rest) : HasPath (.table entries) (path ++ rest)

/-- `Names header statements path`: the statements, which stand under a header, give something the path. -/
inductive Names : List String → List Statement → List String → Prop
  | table (header path : List String) (rest : List Statement) : Names header (.table path :: rest) path
  | arrayItem (header path : List String) (rest : List Statement) : Names header (.arrayItem path :: rest) path
  | assign (header path : List String) {v : Value} {inner : List String} (rest : List Statement)
      (hv : v.HasPath inner) : Names header (.assign path v :: rest) (header ++ path ++ inner)
  | afterTable (header : List String) {path p : List String} {rest : List Statement} (h : Names path rest p) :
      Names header (.table path :: rest) p
  | afterArrayItem (header : List String) {path p : List String} {rest : List Statement} (h : Names path rest p) :
      Names header (.arrayItem path :: rest) p
  | afterAssign {header p : List String} (path : List String) (v : Value) {rest : List Statement}
      (h : Names header rest p) : Names header (.assign path v :: rest) p

theorem Value.HasPath.eq_nil_of_integer {i : Int} {path : List String} (h : HasPath (.integer i) path) :
    path = [] := by
  cases h
  rfl

theorem eq_of_natural? {v : Value} {n : Nat} (h : v.natural? = some n) : v = .integer n := by
  cases v with
  | integer i =>
    rw [Value.natural?] at h
    split at h
    · cases h
      congr 1
      omega
    · cases h
  | array => cases h
  | table => cases h
  | other => cases h

/-! ## Reading -/

section Records
variable {α : Type} {fields : List α} {name : α → String} {table : String}

theorem eq_of_fieldAt? {path : List String} {s : α} (h : fieldAt? fields name path = some s) : path = [name s] := by
  have hs : (path == [name s]) = true := List.find?_some (p := fun s : α => path == [name s]) h
  exact eq_of_beq hs

theorem assignments?_map (f : String × Value → List String) (entries : List (String × Value)) :
    assignments? (entries.map fun e => .assign (f e) e.2) = some (entries.map fun e => (f e, e.2)) := by
  induction entries with
  | nil => rfl
  | cons e entries ih => simp [assignments?, ih]

theorem assignments?_eq_some {statements : List Statement} {entries : List (List String × Value)}
    (h : assignments? statements = some entries) : statements = entries.map fun e => .assign e.1 e.2 := by
  induction statements generalizing entries with
  | nil =>
    cases h
    rfl
  | cons s statements ih =>
    cases s with
    | assign path v =>
      rw [assignments?, Option.map_eq_some_iff] at h
      obtain ⟨es, hes, rfl⟩ := h
      rw [ih hes, List.map_cons]
    | table => cases h
    | arrayItem => cases h

theorem inTable?_map (entries : List (String × Value)) :
    inTable? table (entries.map fun e => ([table, e.1], e.2)) = some (entries.map fun e => ([e.1], e.2)) := by
  induction entries with
  | nil => rfl
  | cons e entries ih =>
    rw [inTable?] at ih ⊢
    simp [ih]

/-- What is in the table stood behind its name. -/
theorem eq_of_mem_inTable? {entries inner : List (List String × Value)} (h : inTable? table entries = some inner)
    {path : List String} {v : Value} (hmem : (path, v) ∈ entries) :
    ∃ rest, path = table :: rest ∧ (rest, v) ∈ inner := by
  induction entries generalizing inner with
  | nil => cases hmem
  | cons e entries ih =>
    obtain ⟨p, w⟩ := e
    rw [inTable?, List.mapM_cons] at h
    obtain ⟨⟨rest, w'⟩, hhead, h⟩ := Option.bind_eq_some_iff.1 h
    obtain ⟨tail, htail, h⟩ := Option.bind_eq_some_iff.1 h
    cases h
    rcases List.mem_cons.1 hmem with heq | hmem
    · cases heq
      cases path with
      | nil => cases hhead
      | cons key path =>
        obtain ⟨hkey, h⟩ := Option.ite_none_right_eq_some.1 hhead
        cases h
        exact ⟨rest, by rw [hkey], List.mem_cons_self⟩
    · obtain ⟨rest', hpath, hin⟩ := ih htail hmem
      exact ⟨rest', hpath, List.mem_cons_of_mem _ hin⟩

/-- Assignments name what their values have inside. -/
theorem names_assignments {header : List String} {entries : List (List String × Value)} {p : List String}
    (h : Names header (entries.map fun e => .assign e.1 e.2) p) :
    ∃ path v inner, (path, v) ∈ entries ∧ v.HasPath inner ∧ p = header ++ path ++ inner := by
  induction entries with
  | nil => cases h
  | cons e entries ih =>
    cases h with
    | assign _ _ _ hv => exact ⟨e.1, e.2, _, List.mem_cons_self, hv, rfl⟩
    | afterAssign _ _ h =>
      obtain ⟨path, v, inner, hmem, hv, hp⟩ := ih h
      exact ⟨path, v, inner, List.mem_cons_of_mem e hmem, hv, hp⟩

variable [DecidableEq α]

/-- What is read by path is a field and a number. -/
theorem eq_of_mem_fieldsAt? {done : List α} {entries : List (List String × Value)} {values : List (α × Nat)}
    (h : fieldsAt? fields name done entries = some values) {path : List String} {v : Value}
    (hmem : (path, v) ∈ entries) : ∃ (s : α) (n : Nat), path = [name s] ∧ v = .integer n := by
  induction entries generalizing done values with
  | nil => cases hmem
  | cons e entries ih =>
    obtain ⟨p, w⟩ := e
    rw [fieldsAt?] at h
    split at h
    · next s n hs hn =>
      split at h
      · cases h
      · obtain ⟨rest, hrest, rfl⟩ := Option.map_eq_some_iff.1 h
        rcases List.mem_cons.1 hmem with heq | hmem
        · cases heq
          exact ⟨s, n, eq_of_fieldAt? hs, eq_of_natural? hn⟩
        · exact ih hrest hmem
    · cases h

/-- However the table is written, its entries are read as fields. -/
theorem recordIn?_of_tabulates {entries : List (String × Value)} {statements : List Statement}
    (h : Tabulates table entries statements) :
    recordIn? fields name table statements = fieldsAt? fields name [] (entries.map fun e => ([e.1], e.2)) := by
  cases h with
  | header =>
    rw [recordIn?, if_pos rfl, assignments?_map (fun e => [e.1])]
    rfl
  | value =>
    rw [recordIn?, if_pos rfl]
    rfl
  | dotted =>
    rw [recordIn?]
    · rw [assignments?_map (fun e => [table, e.1])]
      simp [inTable?_map]
    · intro key body hbody
      cases entries with
      | nil => cases hbody
      | cons e entries => cases hbody
    · intro key v hassign
      cases entries with
      | nil => cases hassign
      | cons e entries => cases hassign

end Records

end TableQuery.Toml
