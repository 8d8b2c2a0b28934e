import TableQuery.Assumed.Text.CaseRanges
/-!
# Letter case

The full case mappings of Unicode, under which one letter can become several. Assumed of the conversion of
names.
-/

namespace TableQuery.Case

/-- A character in upper case. -/
def upper (c : Char) : List Char :=
  if c.toNat < 128 then [c.toUpper]
  else
    match CaseRanges.upperSpecial.lookup c.toNat with
    | some cs => cs.map Char.ofNat
    | none => [(CaseRun.map? CaseRanges.upper c).getD c]

/-- A character in lower case, wherever it stands. -/
def lower (c : Char) : List Char :=
  if c.toNat < 128 then [c.toLower]
  else
    match CaseRanges.lowerSpecial.lookup c.toNat with
    | some cs => cs.map Char.ofNat
    | none => [(CaseRun.map? CaseRanges.lower c).getD c]

/-- Whether the first character that is not passed over is a letter with a case. -/
def meetsLetter (cs : List Char) : Bool :=
  match cs.dropWhile (CharRange.anyHolds CaseRanges.ignorable) with
  | [] => false
  | c :: _ => CharRange.anyHolds CaseRanges.cased c

/-- Lower case of the text after `before`, which is given backwards. A sigma at the end of a word has a
form of its own. -/
def lowerAfter (before : List Char) : List Char → List Char
  | [] => []
  | c :: rest =>
    (if c = 'Σ' then [if meetsLetter before && !meetsLetter rest then 'ς' else 'σ'] else lower c) ++
      lowerAfter (c :: before) rest

def lowerText (cs : List Char) : List Char := lowerAfter [] cs

def upperText (cs : List Char) : List Char := cs.flatMap upper

/-- The first character in upper case and the others in lower case, as a text of their own. -/
def capitalize : List Char → List Char
  | [] => []
  | c :: rest => upper c ++ lowerText rest

end TableQuery.Case
