import TableQuery.Number.BinaryFloat
/-!
# Decimals

Positional decimal text, and the decimal that stands for a float: of all decimals that read back as
the float, one with the fewest digits, and of those the nearest to it.
-/

namespace TableQuery

/-- The number in at least `width` digits. -/
def zeroPadded (width n : Nat) : String :=
  let digits := n.repr
  String.ofList (List.replicate (width - digits.length) '0') ++ digits

/-- Powers of ten. -/
abbrev tenTo (n : Nat) : Nat := Nat.pow 10 n

/-- The number `coefficient / 10 ^ places`. -/
structure Decimal where
  coefficient : Nat
  places : Nat
  deriving DecidableEq

/-- The digits before the point. -/
def Decimal.wholeText (d : Decimal) : String := (d.coefficient / tenTo d.places).repr

/-- All its digits, with a point only where there are places. -/
def Decimal.shown (d : Decimal) : String :=
  if d.places = 0 then d.wholeText
  else d.wholeText ++ "." ++ zeroPadded d.places (d.coefficient % tenTo d.places)

/-! ## Shortest decimals -/

/-- The numbers that round to one value: those between `low / den` and `high / den`, the two ends
included if `closed`. -/
structure RoundingInterval where
  low : Nat
  value : Nat
  high : Nat
  den : Nat
  closed : Bool

namespace RoundingInterval

/-- Whether `num / d` lies in the interval. -/
def contains (r : RoundingInterval) (num d : Nat) : Bool :=
  if r.closed then r.low * d ≤ num * r.den && num * r.den ≤ r.high * d
  else r.low * d < num * r.den && num * r.den < r.high * d

/-- The multiple of `10 ^ zeros / 10 ^ places` in the interval that is nearest to the value, the
upper one of two at the same distance. Where the interval holds any, it holds one of the value's
two neighbours. -/
def onGrid? (r : RoundingInterval) (zeros places : Nat) : Option Decimal :=
  let unit := r.den * tenTo zeros
  let below := r.value * tenTo places / unit
  let rest := r.value * tenTo places % unit
  let decimal (c : Nat) : Decimal := ⟨c * tenTo zeros, places⟩
  let holds (c : Nat) : Bool := r.contains (c * tenTo zeros) (tenTo places)
  match holds below, holds (below + 1) with
  | true, true => some (decimal (if 2 * rest < unit then below else below + 1))
  | true, false => some (decimal below)
  | false, true => some (decimal (below + 1))
  | false, false => none

end RoundingInterval

namespace FloatFormat

/-- Half way to the neighbouring patterns on both sides. The ends round to the even pattern. -/
def interval (f : FloatFormat) (p : Nat) : RoundingInterval where
  low := f.units (p - 1) + f.units p
  value := 2 * f.units p
  high := f.units p + f.units (p + 1)
  den := twoTo (f.scale + 1)
  closed := p % 2 = 0

/-- The value itself, all digits written. -/
def exactDecimal (f : FloatFormat) (p : Nat) : Decimal := ⟨f.units p * Nat.pow 5 f.scale, f.scale⟩

/-- The first decimal found on ever finer grids, from one coarser than the value. -/
def shortest (f : FloatFormat) (p : Nat) : Decimal :=
  let r := f.interval p
  let zeros := (f.units p / twoTo f.scale).log2 / 3 + 1
  let grids := (List.range (zeros + 1)).reverse.map (·, 0) ++ (List.range' 1 f.scale).map (0, ·)
  (grids.findSome? fun (z, p) => r.onGrid? z p).getD (f.exactDecimal p)

end FloatFormat

namespace BinaryFloat

variable {f : FloatFormat}

/-- A minus for a set sign, zero included. -/
def signText (x : BinaryFloat f) : String := if x.negative then "-" else ""

/-- The shortest decimal behind the sign, so whole numbers have no point. -/
def shown (x : BinaryFloat f) : String :=
  if x.isNaN then "NaN"
  else x.signText ++ if x.isFinite then (f.shortest x.pattern).shown else "inf"

end BinaryFloat

end TableQuery
