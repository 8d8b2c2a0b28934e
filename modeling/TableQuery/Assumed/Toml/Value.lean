import TableQuery.Assumed.Toml.Scalar
/-!
# Keys and values of TOML

Values nest in arrays and in tables of one line. Of all others only integers keep what they are. Assumed of
the reader of documents, as are its bounds on nesting.
-/

namespace TableQuery.Toml

inductive Value
  | integer (n : Int)
  | array (items : List Value)
  /-- The values of a table at the end of their paths. -/
  | table (entries : List (List String × Value))
  /-- A string, a boolean, a float, a date or a time. -/
  | other

/-! ## Keys -/

def isBareChar (c : Char) : Bool := c.isAlphanum || c == '_' || c == '-'

def readKey (cs : List Char) : Option (String × List Char) :=
  match cs with
  | '"' :: rest => (basicString .plain rest).map fun (s, r) => (String.ofList s, r)
  | '\'' :: rest => (literalString rest).map fun (s, r) => (String.ofList s, r)
  | _ =>
    let text := cs.takeWhile isBareChar
    if text.isEmpty then none else some (String.ofList text, cs.dropWhile isBareChar)

/-- Reads at most so many keys with points between them, and blanks around both. -/
def readKeys : Nat → List Char → Option (List String × List Char)
  | 0, _ => none
  | keys + 1, cs =>
    match readKey (skipBlanks cs) with
    | none => none
    | some (key, rest) =>
      match skipBlanks rest with
      | '.' :: rest => (readKeys keys rest).map fun (path, r) => (key :: path, r)
      | rest => some ([key], rest)

/-- How deep arrays and tables can nest, and how many keys a path can have. -/
def maxNesting : Nat := 80

def readPath (cs : List Char) : Option (List String × List Char) := readKeys maxNesting cs

/-- Reads a path and an equals sign, with what `skip` passes over around the sign. -/
def readTarget (skip : List Char → List Char) (cs : List Char) :
    Option (List String × List Char) :=
  match readPath cs with
  | none => none
  | some (path, rest) =>
    match skip rest with
    | '=' :: rest => some (path, skip rest)
    | _ => none

/-- Whether no path leads through the end of another, so that each can have its value. -/
def distinctPaths : List (List String) → Bool
  | [] => true
  | p :: rest => rest.all (fun q => !p.isPrefixOf q && !q.isPrefixOf p) && distinctPaths rest

/-! ## Values -/

mutual
/-- Reads a value inside which `depth` more brackets can open. -/
def readValue : Nat → Nat → List Char → Option (Value × List Char)
  | 0, _, _ => none
  | fuel + 1, depth, cs =>
    match cs, depth with
    | '"' :: '"' :: '"' :: rest, _ => (skipBlock '"' .plain rest).map (Value.other, ·)
    | '\'' :: '\'' :: '\'' :: rest, _ => (skipBlock '\'' .plain rest).map (Value.other, ·)
    | '"' :: rest, _ => (basicString .plain rest).map fun (_, r) => (.other, r)
    | '\'' :: rest, _ => (literalString rest).map fun (_, r) => (.other, r)
    | '[' :: rest, depth + 1 =>
      (readItems fuel depth (skipFiller false rest)).map fun (items, r) => (.array items, r)
    | '{' :: rest, depth + 1 =>
      match readEntries fuel depth (skipFiller false rest) with
      | some (entries, r) =>
        if distinctPaths (entries.map (·.1)) then some (.table entries, r) else none
      | none => none
    | cs, _ =>
      let (text, rest) := scalarText cs
      match Scalar.ofText? text with
      | some (.integer n) => some (.integer n, rest)
      | some .other => some (.other, rest)
      | none => none

/-- Reads the items of an array up to its closing bracket. -/
def readItems : Nat → Nat → List Char → Option (List Value × List Char)
  | 0, _, _ => none
  | fuel + 1, depth, cs =>
    match cs with
    | ']' :: rest => some ([], rest)
    | _ =>
      match readValue fuel depth cs with
      | none => none
      | some (v, rest) =>
        match skipFiller false rest with
        | ',' :: rest =>
          (readItems fuel depth (skipFiller false rest)).map fun (vs, r) => (v :: vs, r)
        | ']' :: rest => some ([v], rest)
        | _ => none

/-- Reads the entries of a table up to its closing brace. -/
def readEntries : Nat → Nat → List Char → Option (List (List String × Value) × List Char)
  | 0, _, _ => none
  | fuel + 1, depth, cs =>
    match cs with
    | '\x7d' :: rest => some ([], rest)
    | _ =>
      match readTarget (skipFiller false) cs with
      | none => none
      | some (path, rest) =>
        match readValue fuel depth rest with
        | none => none
        | some (v, rest) =>
          match skipFiller false rest with
          | ',' :: rest =>
            (readEntries fuel depth (skipFiller false rest)).map fun (es, r) => ((path, v) :: es, r)
          | '\x7d' :: rest => some ([(path, v)], rest)
          | _ => none
end

end TableQuery.Toml
