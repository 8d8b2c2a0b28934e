/-!
# Quoted text

Text between single quotes, with every quote inside written twice.
-/

namespace TableQuery.Quoted

def escape (s : List Char) : List Char := s.flatMap fun c => if c = '\'' then ['\'', '\''] else [c]

def encode (s : List Char) : List Char := '\'' :: escape s ++ ['\'']

/-- The text up to the first quote that stands alone, and what follows that quote. -/
def scan : List Char → Option (List Char × List Char)
  | [] => none
  | [c] => if c = '\'' then some ([], []) else none
  | c :: d :: rest =>
    if c = '\'' then
      if d = '\'' then (scan rest).map fun (s, r) => ('\'' :: s, r) else some ([], d :: rest)
    else (scan (d :: rest)).map fun (s, r) => (c :: s, r)

/-- Reads quoted text from its opening quote. -/
def decode : List Char → Option (List Char × List Char)
  | [] => none
  | c :: rest => if c = '\'' then scan rest else none

end TableQuery.Quoted
