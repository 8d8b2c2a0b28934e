/-!
# Characters and strings of TOML

What separates the parts of a document, and quoted strings. Every reader takes the characters that
are left and gives those it leaves. Assumed of the reader of documents.
-/

namespace TableQuery.Toml

def isBlank (c : Char) : Bool := c == ' ' || c == '\t'

/-- Characters of comments and of one line of a string. -/
def isText (c : Char) : Bool := c == '\t' || (' ' ≤ c && c != '\x7F')

def skipBlanks (cs : List Char) : List Char := cs.dropWhile isBlank

/-- Skips a comment to the end of its text. -/
def skipComment : List Char → List Char
  | '#' :: rest => rest.dropWhile isText
  | cs => cs

/-- Skips blanks, line breaks and comments. -/
def skipFiller (inComment : Bool) : List Char → List Char
  | [] => []
  | '\n' :: rest => skipFiller false rest
  | '\r' :: '\n' :: rest => skipFiller false rest
  | c :: rest =>
    if inComment then if isText c then skipFiller true rest else c :: rest
    else if isBlank c then skipFiller false rest
    else if c = '#' then skipFiller true rest
    else c :: rest

/-- Skips blanks and a comment, and a line break unless the document ends. -/
def endLine? (cs : List Char) : Option (List Char) :=
  match skipComment (skipBlanks cs) with
  | [] => some []
  | '\n' :: rest => some rest
  | '\r' :: '\n' :: rest => some rest
  | _ => none

/-! ## Digits -/

def hexDigit? (c : Char) : Option Nat :=
  if c.isDigit then some (c.toNat - '0'.toNat)
  else if 'a' ≤ c ∧ c ≤ 'f' then some (c.toNat - 'a'.toNat + 10)
  else if 'A' ≤ c ∧ c ≤ 'F' then some (c.toNat - 'A'.toNat + 10)
  else none

def scalar? (n : Nat) : Option Char := if n.isValidChar then some (Char.ofNat n) else none

/-! ## Strings of one line -/

/-- Where a string stands between two characters. -/
inductive StringState
  | plain
  | escaped
  /-- `left + 1` digits of a code point are to come after those of `n`. -/
  | digits (left n : Nat)
  deriving DecidableEq

/-- The character of a one-letter escape. -/
def escape? : Char → Option Char
  | 'b' => some '\x08'
  | 't' => some '\t'
  | 'n' => some '\n'
  | 'f' => some '\x0C'
  | 'r' => some '\r'
  | 'e' => some '\x1B'
  | '"' => some '"'
  | '\\' => some '\\'
  | _ => none

/-- How many digits follow the letter of an escape. -/
def escapeDigits? : Char → Option Nat
  | 'x' => some 2
  | 'u' => some 4
  | 'U' => some 8
  | _ => none

/-- The rest of a double-quoted string. -/
def basicString : StringState → List Char → Option (List Char × List Char)
  | _, [] => none
  | .plain, c :: rest =>
    if c = '"' then some ([], rest)
    else if c = '\\' then basicString .escaped rest
    else if isText c then (basicString .plain rest).map fun (s, r) => (c :: s, r)
    else none
  | .escaped, c :: rest =>
    match escape? c, escapeDigits? c with
    | some e, _ => (basicString .plain rest).map fun (s, r) => (e :: s, r)
    | none, some (n + 1) => basicString (.digits n 0) rest
    | none, _ => none
  | .digits left n, c :: rest =>
    match hexDigit? c, left with
    | none, _ => none
    | some d, left + 1 => basicString (.digits left (16 * n + d)) rest
    | some d, 0 =>
      match scalar? (16 * n + d) with
      | some e => (basicString .plain rest).map fun (s, r) => (e :: s, r)
      | none => none

/-- The rest of a single-quoted string, which has no escapes. -/
def literalString : List Char → Option (List Char × List Char)
  | [] => none
  | c :: rest =>
    if c = '\'' then some ([], rest)
    else if isText c then (literalString rest).map fun (s, r) => (c :: s, r)
    else none

/-! ## Strings of several lines -/

/-- Where a string of several lines stands between two characters. -/
inductive BlockState
  | plain
  /-- So many quotes stand last. Three of them can close the string. -/
  | quotes (n : Nat)
  | escaped
  | digits (left n : Nat)
  /-- Only blanks stand between a backslash and here, and a line break has to follow. -/
  | continued
  /-- A line feed has to follow. -/
  | returned
  deriving DecidableEq

namespace BlockState

/-- The state after a character of the text. Escapes stand between double quotes only. -/
def text? (quote c : Char) : Option BlockState :=
  if c = quote then some (quotes 1)
  else if c = '\\' ∧ quote = '"' then some escaped
  else if c = '\r' then some returned
  else if c = '\n' ∨ isText c then some plain
  else none

/-- The state after a character behind a backslash that begins no escape. -/
def continued? (c : Char) : Option BlockState :=
  if c = '\n' then some plain
  else if c = '\r' then some returned
  else if isBlank c then some continued
  else none

/-- The state after one more character, none where it cannot stand. -/
def next? (quote : Char) : BlockState → Char → Option BlockState
  | plain, c => text? quote c
  | quotes n, c => if c = quote then some (quotes (n + 1)) else text? quote c
  | escaped, c =>
    match escape? c, escapeDigits? c with
    | some _, _ => some plain
    | none, some (n + 1) => some (digits n 0)
    | none, _ => continued? c
  | digits left n, c =>
    match hexDigit? c, left with
    | none, _ => none
    | some d, left + 1 => some (digits left (16 * n + d))
    | some d, 0 => if (16 * n + d).isValidChar then some plain else none
  | continued, c => continued? c
  | returned, c => if c = '\n' then some plain else none

/-- Whether the string is closed unless one of its quotes follows. -/
def isClosed : BlockState → Bool
  | quotes n => 3 ≤ n
  | _ => false

end BlockState

/-- Skips the rest of a string between three quotes of kind `quote`. Up to two quotes can stand before
the closing ones. -/
def skipBlock (quote : Char) (s : BlockState) : List Char → Option (List Char)
  | [] => if s.isClosed then some [] else none
  | c :: rest =>
    if s.isClosed ∧ (c ≠ quote ∨ s = .quotes 5) then some (c :: rest)
    else
      match s.next? quote c with
      | some t => skipBlock quote t rest
      | none => none

end TableQuery.Toml
