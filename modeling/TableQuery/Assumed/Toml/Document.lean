import TableQuery.Assumed.Toml.Value
/-!
# TOML documents

A document as its statements, one a line.

This is all that is assumed of the reader of documents: which texts it accepts, and the keys and values it finds
in them. What they mean for limits is decided in `TableQuery.Limits.File`.
-/

namespace TableQuery.Toml

inductive Statement
  | assign (path : List String) (v : Value)
  /-- The table that the assignments after it belong to. -/
  | table (path : List String)
  /-- One more table of an array. -/
  | arrayItem (path : List String)

/-- Reads a statement with the end of its line. Every step that uses fuel takes a character. -/
def readStatement (fuel : Nat) (cs : List Char) : Option (Statement × List Char) :=
  match cs with
  | '[' :: '[' :: rest =>
    match readPath rest with
    | some (path, ']' :: ']' :: rest) => (endLine? rest).map (Statement.arrayItem path, ·)
    | _ => none
  | '[' :: rest =>
    match readPath rest with
    | some (path, ']' :: rest) => (endLine? rest).map (Statement.table path, ·)
    | _ => none
  | _ =>
    match readTarget skipBlanks cs with
    | none => none
    | some (path, rest) =>
      match readValue fuel maxNesting rest with
      | some (v, rest) => (endLine? rest).map (Statement.assign path v, ·)
      | none => none

def readStatements (fuel : Nat) : Nat → List Char → Option (List Statement)
  | 0, _ => none
  | lines + 1, cs =>
    match skipFiller false cs with
    | [] => some []
    | cs =>
      match readStatement fuel cs with
      | some (s, rest) => (readStatements fuel lines rest).map (s :: ·)
      | none => none

/-- The statements of a document, which can begin with a byte order mark. -/
def readDocument (cs : List Char) : Option (List Statement) :=
  let cs := match cs with
    | '\uFEFF' :: rest => rest
    | _ => cs
  readStatements (3 * cs.length + 3) (cs.length + 1) cs

end TableQuery.Toml
