import TableQuery.Assumed.Toml.Text
/-!
# Numbers, booleans and dates of TOML

Values written without quotes. Of numbers only the integers keep their value. Assumed of the reader of
documents, with what it leaves unchecked in a value that is passed over.
-/

namespace TableQuery.Toml

/-- Digits with single underscores between them. -/
def isDigits (p : Char → Bool) : List Char → Bool
  | [] => false
  | [c] => p c
  | c :: '_' :: rest => p c && isDigits p rest
  | c :: rest => p c && isDigits p rest

/-- Whether there are characters, and no zero in front of others. -/
def isWhole : List Char → Bool
  | [] => false
  | c :: rest => c != '0' || rest.isEmpty

/-- Whether every underscore stands between two characters of a kind. Where it comes first, `joined`
stands for the character before it. -/
def separates (p : Char → Bool) (joined : Bool) : List Char → Bool
  | [] => true
  | [c] => c != '_'
  | c :: d :: rest =>
    if c = '_' then joined && p d && separates p false (d :: rest)
    else separates p (p c) (d :: rest)

/-- The number that digits stand for, in some base. -/
def digitsValue (base : Nat) (cs : List Char) : Nat :=
  cs.foldl (fun n c => (hexDigit? c).elim n fun d => base * n + d) 0

/-- The base that a letter behind a zero stands for. -/
def base? : Char → Option Nat
  | 'x' => some 16
  | 'o' => some 8
  | 'b' => some 2
  | _ => none

def isDigitOf (base : Nat) (c : Char) : Bool := (hexDigit? c).any (· < base)

inductive Sign
  | plus
  | minus
  deriving DecidableEq

/-- The sign of a number, and its other characters. -/
def splitSign : List Char → Option Sign × List Char
  | '-' :: rest => (some .minus, rest)
  | '+' :: rest => (some .plus, rest)
  | cs => (none, cs)

def applySign (sign : Option Sign) (n : Nat) : Int := if sign = some .minus then -n else n

/-! ## Floats -/

def isDigitOrBar (c : Char) : Bool := c.isDigit || c == '_'

/-- An exponent to the end. -/
def isExponent : List Char → Bool
  | c :: rest => (c == 'e' || c == 'E') && isDigits Char.isDigit (splitSign rest).2
  | [] => false

/-- Characters that only floats have. -/
def isFloatMark (c : Char) : Bool := c == '.' || c == 'e' || c == 'E'

/-- A float behind its sign, if it has one. -/
def isFloat (signed : Bool) (cs : List Char) : Bool :=
  separates Char.isDigit signed cs && isWhole (cs.takeWhile isDigitOrBar) &&
    match cs.dropWhile isDigitOrBar with
    | '.' :: rest =>
      isDigits Char.isDigit (rest.takeWhile isDigitOrBar) &&
        (let rest := rest.dropWhile isDigitOrBar
        rest.isEmpty || isExponent rest)
    | rest => isExponent rest

/-! ## Dates and times -/

/-- A number of so many digits within bounds, and the rest. -/
def field? (digits low high : Nat) (cs : List Char) : Option (Nat × List Char) :=
  let ds := cs.take digits
  let n := digitsValue 10 ds
  if ds.length = digits ∧ ds.all Char.isDigit ∧ low ≤ n ∧ n ≤ high then some (n, cs.drop digits)
  else none

def expect? (c : Char) : List Char → Option (List Char)
  | d :: rest => if c = d then some rest else none
  | [] => none

def daysInMonth (year month : Nat) : Nat :=
  if month = 2 then
    if year % 4 = 0 ∧ (year % 100 ≠ 0 ∨ year % 400 = 0) then 29 else 28
  else if month = 4 ∨ month = 6 ∨ month = 9 ∨ month = 11 then 30
  else 31

/-- Skips a calendar date. -/
def skipDate? (cs : List Char) : Option (List Char) := do
  let (year, cs) ← field? 4 0 9999 cs
  let (month, cs) ← field? 2 1 12 (← expect? '-' cs)
  let (_, cs) ← field? 2 1 (daysInMonth year month) (← expect? '-' cs)
  return cs

/-- Skips a time of day, whose seconds can be left out. -/
def skipTime? (cs : List Char) : Option (List Char) := do
  let (_, cs) ← field? 2 0 23 cs
  let (_, cs) ← field? 2 0 59 (← expect? ':' cs)
  match cs with
  | ':' :: rest =>
    let (_, cs) ← field? 2 0 60 rest
    match cs with
    | '.' :: rest =>
      if (rest.takeWhile Char.isDigit).isEmpty then none else return rest.dropWhile Char.isDigit
    | _ => return cs
  | _ => return cs

/-- Skips a distance from UTC. -/
def skipOffset? : List Char → Option (List Char)
  | 'Z' :: rest => some rest
  | 'z' :: rest => some rest
  | c :: rest =>
    if c = '+' ∨ c = '-' then do
      let (_, cs) ← field? 2 0 23 rest
      let (_, cs) ← field? 2 0 59 (← expect? ':' cs)
      return cs
    else none
  | [] => none

/-- A time, a date, or a date and a time that can have an offset. -/
def isDateTime (cs : List Char) : Bool :=
  if skipTime? cs = some [] then true
  else
    match skipDate? cs with
    | some [] => true
    | some (c :: rest) =>
      (c == 'T' || c == 't' || c == ' ') &&
        match skipTime? rest with
        | some [] => true
        | some rest => skipOffset? rest == some []
        | none => false
    | none => false

/-! ## The value -/

/-- A value without quotes or brackets. -/
inductive Scalar
  | integer (n : Int)
  /-- A boolean, a float, a date, a time, or what only looks like an integer. -/
  | other
  deriving DecidableEq

/-- Characters that a value without quotes can have. -/
def isScalarChar (c : Char) : Bool :=
  !isBlank c && c ∉ ['\n', '\r', '=', ',', '[', ']', '\x7b', '\x7d', '#']

/-- Whether a value goes on behind a blank. A string does not continue it. -/
def continues (cs : List Char) : Bool :=
  match skipBlanks cs with
  | c :: _ => isScalarChar c && c != '"' && c != '\''
  | [] => false

/-- The characters of a value, and the rest. -/
def scalarText : List Char → List Char × List Char
  | [] => ([], [])
  | c :: rest =>
    if isScalarChar c || (isBlank c && continues rest) then
      let (text, rest) := scalarText rest
      (c :: text, rest)
    else ([], c :: rest)

namespace Scalar

/-- A number in a base other than ten. Without digits it has no value but can still stand in a
document. -/
def ofBase? (base : Nat) (cs : List Char) : Option Scalar :=
  if cs.isEmpty then some other
  else if isDigits (isDigitOf base) cs then some (integer (digitsValue base cs : Nat))
  else none

/-- An integer that begins with decimal digits. Hexadecimal digits can stand around its underscores,
and anything behind them: it then has no value but can still stand in a document. -/
def ofDecimal? (sign : Option Sign) (cs : List Char) : Option Scalar :=
  if isWhole cs && separates (isDigitOf 16) sign.isSome cs then
    let digits := cs.filter (· != '_')
    if digits.all Char.isDigit then some (integer (applySign sign (digitsValue 10 digits)))
    else some other
  else none

/-- A date, a time, a float or a decimal integer. What follows its first digits tells them apart. -/
def ofNumber? (cs : List Char) : Option Scalar :=
  let (sign, body) := splitSign cs
  let rest := body.dropWhile Char.isDigit
  if rest.head? = some '-' ∨ rest.head? = some ':' then
    if isDateTime cs then some other else none
  else if ' ' ∈ rest then none
  else if rest.any isFloatMark then
    if isFloat sign.isSome body then some other else none
  else if rest.isEmpty ∨ rest.head? = some '_' then ofDecimal? sign body
  else none

/-- Words that are values, of which those for floats can have a sign. -/
def isWord (cs : List Char) : Bool :=
  cs == ['t', 'r', 'u', 'e'] || cs == ['f', 'a', 'l', 's', 'e'] ||
    (splitSign cs).2 == ['i', 'n', 'f'] || (splitSign cs).2 == ['n', 'a', 'n']

/-- The value with these characters. Only decimal numbers have a sign. -/
def ofText? (cs : List Char) : Option Scalar :=
  if isWord cs then some other
  else
    match cs with
    | '0' :: c :: rest =>
      match base? c with
      | some base => ofBase? base rest
      | none => ofNumber? cs
    | _ => ofNumber? cs

end Scalar

end TableQuery.Toml
