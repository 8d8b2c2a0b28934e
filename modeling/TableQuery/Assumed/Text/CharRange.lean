/-!
# Ranges of code points
-/

namespace TableQuery

/-- The first and the last code point. -/
abbrev CharRange := Nat × Nat

/-- Whether one of the ranges holds the character. -/
def CharRange.anyHolds (ranges : List CharRange) (c : Char) : Bool :=
  ranges.any fun r => r.1 ≤ c.toNat && c.toNat ≤ r.2

/-- Every `step`-th code point from `first` to `last`, the first of which maps to `target` and the
others to code points at the same distance. -/
structure CaseRun where
  first : Nat
  last : Nat
  step : Nat
  target : Nat

/-- What a character maps to under the first run that holds it. -/
def CaseRun.map? (runs : List CaseRun) (c : Char) : Option Char :=
  (runs.find? fun r => r.first ≤ c.toNat && c.toNat ≤ r.last && (c.toNat - r.first) % r.step == 0).map
    fun r => Char.ofNat (r.target + (c.toNat - r.first))

end TableQuery
