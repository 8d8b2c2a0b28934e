import TableQuery.Assumed.Text.ClusterRanges
/-!
# Grapheme clusters

Text cut into what a reader takes for one character each, by the extended cluster rules of Unicode. Assumed of
the conversion of names.
-/

namespace TableQuery

/-- How a character takes part in clusters. -/
inductive ClusterClass
  | carriageReturn
  | lineFeed
  | control
  | extend
  | linker
  /-- Extends a cluster but not a conjunct. -/
  | nonJoiner
  | joiner
  | spacing
  | prepended
  | regional
  | leading
  | vowel
  | trailing
  /-- A Hangul syllable without a trailing consonant. -/
  | openSyllable
  | closedSyllable
  | pictograph
  | consonant
  | other
  deriving DecidableEq

namespace ClusterClass

open CharRange in
/-- The class of a character from U+0080. -/
def ofWide (c : Char) : ClusterClass :=
  if c.toNat = 0x200C then nonJoiner
  else if c.toNat = 0x200D then joiner
  else if 0xAC00 ≤ c.toNat ∧ c.toNat < 0xD7A4 then
    if (c.toNat - 0xAC00) % 28 = 0 then openSyllable else closedSyllable
  else if 0x1F1E6 ≤ c.toNat ∧ c.toNat ≤ 0x1F1FF then regional
  else if anyHolds ClusterRanges.linker c then linker
  else if anyHolds ClusterRanges.extend c then extend
  else if anyHolds ClusterRanges.spacing c then spacing
  else if anyHolds ClusterRanges.prepended c then prepended
  else if anyHolds ClusterRanges.consonant c then consonant
  else if anyHolds ClusterRanges.pictograph c then pictograph
  else if anyHolds ClusterRanges.leading c then leading
  else if anyHolds ClusterRanges.vowel c then vowel
  else if anyHolds ClusterRanges.trailing c then trailing
  else if anyHolds ClusterRanges.control c then control
  else other

def ofChar (c : Char) : ClusterClass :=
  if c = '\r' then carriageReturn
  else if c = '\n' then lineFeed
  else if c.toNat < 0x20 ∨ c.toNat = 0x7F then control
  else if c.toNat < 0x80 then other
  else ofWide c

/-- Breaks stand on both sides of controls, between a carriage return and its line feed apart. -/
def isControl (k : ClusterClass) : Bool := k == carriageReturn || k == lineFeed || k == control

/-- Extends the cluster before it. -/
def extendsCluster (k : ClusterClass) : Bool :=
  k == extend || k == linker || k == nonJoiner || k == joiner || k == spacing

end ClusterClass

/-- A consonant that waits for a linker and the next consonant. -/
inductive ConjunctState
  | none
  | begun
  | linked
  deriving DecidableEq

/-- A pictograph that waits for a joiner and the next pictograph. -/
inductive PictographState
  | none
  | begun
  | joined
  deriving DecidableEq

/-- What the characters so far decide about the next one. -/
structure ClusterState where
  last : ClusterClass
  conjunct : ConjunctState
  pictograph : PictographState
  /-- An odd number of regional indicators stands last. -/
  oddRegional : Bool
  deriving DecidableEq

namespace ClusterState

def initial : ClusterState := ⟨.other, .none, .none, false⟩

/-- The state after one more character. -/
def push (s : ClusterState) (k : ClusterClass) : ClusterState where
  last := k
  conjunct :=
    match k, s.conjunct with
    | .consonant, _ => .begun
    | .linker, .none => .none
    | .linker, _ => .linked
    | .extend, c | .joiner, c => c
    | _, _ => .none
  pictograph :=
    match k, s.pictograph with
    | .pictograph, _ => .begun
    | .extend, .begun | .linker, .begun | .nonJoiner, .begun => .begun
    | .joiner, .begun => .joined
    | _, _ => .none
  oddRegional := k == .regional && !s.oddRegional

/-- Whether the next character stays in the cluster. -/
def joins (s : ClusterState) (k : ClusterClass) : Bool :=
  if s.last.isControl || k.isControl then s.last == .carriageReturn && k == .lineFeed
  else if k.extendsCluster || s.last == .prepended then true
  else
    match s.last, k with
    | .leading, .leading | .leading, .vowel | .leading, .openSyllable | .leading, .closedSyllable
    | .openSyllable, .vowel | .openSyllable, .trailing | .vowel, .vowel | .vowel, .trailing
    | .closedSyllable, .trailing | .trailing, .trailing => true
    | _, .consonant => s.conjunct == .linked
    | _, .pictograph => s.pictograph == .joined
    | _, .regional => s.oddRegional
    | _, _ => false

end ClusterState

namespace Cluster

/-- The rest of the open cluster, and the clusters after it. -/
def splitAfter (s : ClusterState) : List Char → List Char × List (List Char)
  | [] => ([], [])
  | c :: cs =>
    let k := ClusterClass.ofChar c
    let (own, rest) := splitAfter (s.push k) cs
    if s.joins k then (c :: own, rest) else ([], (c :: own) :: rest)

/-- The clusters of a text, in order. -/
def split : List Char → List (List Char)
  | [] => []
  | c :: cs =>
    let (own, rest) := splitAfter (ClusterState.initial.push (ClusterClass.ofChar c)) cs
    (c :: own) :: rest

end Cluster

end TableQuery
