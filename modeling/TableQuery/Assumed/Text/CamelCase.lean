import TableQuery.Assumed.Text.Case
import TableQuery.Assumed.Text.Cluster
/-!
# Camel case

A name cut into words, at separators and where the kind of its characters changes, and the words
joined again with capitals in place of the cuts. Assumed of the conversion of names, with its usual set of
boundaries. Which names are converted is decided in `TableQuery.Entity`.
-/

namespace TableQuery.CamelCase

/-- What a cluster tells about the words around it. -/
inductive ClusterKind
  | separator
  | lower
  | upper
  | digit
  | other
  deriving DecidableEq

namespace ClusterKind

/-- Letters are told by their case. -/
def ofLetter (cluster : List Char) : ClusterKind :=
  let lowered := Case.lowerText cluster
  let raised := Case.upperText cluster
  if lowered = raised then other
  else if cluster = lowered then lower
  else if cluster = raised then upper
  else other

/-- Digits are those of ASCII. -/
def ofCluster (cluster : List Char) : ClusterKind :=
  match cluster with
  | [c] => if c = '_' ∨ c = '-' ∨ c = ' ' then separator else if c.isDigit then digit else ofLetter [c]
  | _ => ofLetter cluster

end ClusterKind

/-- Whether a word ends after a cluster of kind `k`, given the kinds that follow. The last capital of
several begins the word of the small letter after it. -/
def endsWord (k : ClusterKind) (following : List ClusterKind) : Bool :=
  match k, following with
  | .lower, .upper :: _ | .lower, .digit :: _ | .upper, .digit :: _ | .digit, .lower :: _
  | .digit, .upper :: _ | .upper, .upper :: .lower :: _ => true
  | _, _ => false

/-- The words of a name given as clusters. Separators are dropped, and words can be empty. -/
def words : List (List Char) → List (List Char)
  | [] => [[]]
  | c :: rest =>
    let k := ClusterKind.ofCluster c
    let tail := words rest
    if k = .separator then [] :: tail
    else if endsWord k ((rest.take 2).map ClusterKind.ofCluster) then c :: tail
    else
      match tail with
      | [] => [c]
      | w :: ws => (c ++ w) :: ws

/-- The first word in lower case and the others capitalized. -/
def joinWords : List (List Char) → List Char
  | [] => []
  | w :: ws => Case.lowerText w ++ ws.flatMap Case.capitalize

def ofName (name : String) : String :=
  String.ofList (joinWords (words (Cluster.split name.toList)))

end TableQuery.CamelCase
