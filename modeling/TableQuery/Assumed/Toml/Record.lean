import TableQuery.Assumed.Toml.Document
/-!
# Records in TOML documents

A record of natural numbers, any of which can be left out, that stands in a document as its only table. Its fields
are given by name, in any order, or by position in an array.

Assumed of the way in which a record is read that is declared to have no other fields: one that is unknown or
comes twice is refused, and so is a value that is no natural number of 64 bits. Which fields there are and what
they default to is decided in `TableQuery.Limits`.
-/

namespace TableQuery.Toml

def Value.natural? : Value → Option Nat
  | integer n => if 0 ≤ n ∧ n < 18446744073709551616 then some n.toNat else none
  | _ => none

/-! ## The table -/

/-- The paths and values of statements that are all assignments. -/
def assignments? : List Statement → Option (List (List String × Value))
  | [] => some []
  | .assign path v :: rest => (assignments? rest).map ((path, v) :: ·)
  | _ :: _ => none

/-- Paths inside the table. -/
def inTable? (table : String) (entries : List (List String × Value)) : Option (List (List String × Value)) :=
  entries.mapM fun (path, v) =>
    match path with
    | key :: rest => if key = table then some (rest, v) else none
    | [] => none

/-! ## Fields -/

section Fields
variable {α : Type}

/-- As many fields as there are items, in their order. Further items are passed over. -/
def fieldsOf? : List α → List Value → Option (List (α × Nat))
  | s :: fields, v :: items =>
    match v.natural? with
    | some n => (fieldsOf? fields items).map ((s, n) :: ·)
    | none => none
  | _, _ => some []

variable (fields : List α) (name : α → String)

/-- The field at a path inside the table. -/
def fieldAt? (path : List String) : Option α := fields.find? fun s => path == [name s]

variable [DecidableEq α]

/-- The fields at some paths with their values. Those in `done` cannot come again. -/
def fieldsAt? (done : List α) : List (List String × Value) → Option (List (α × Nat))
  | [] => some []
  | (path, v) :: rest =>
    match fieldAt? fields name path, v.natural? with
    | some s, some n => if s ∈ done then none else (fieldsAt? (s :: done) rest).map ((s, n) :: ·)
    | _, _ => none

def record? : Value → Option (List (α × Nat))
  | .table entries => fieldsAt? fields name [] entries
  | .array items => fieldsOf? fields items
  | _ => none

/-- The fields of a record with their values. Its table is there once: under a header, as a value, or as dotted
assignments. -/
def recordIn? (table : String) : List Statement → Option (List (α × Nat))
  | .table [key] :: body => if key = table then assignments? body >>= fieldsAt? fields name [] else none
  | [.assign [key] v] => if key = table then record? fields name v else none
  | statements => assignments? statements >>= inTable? table >>= fieldsAt? fields name []

end Fields

end TableQuery.Toml
