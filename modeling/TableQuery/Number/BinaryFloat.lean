/-!
# Binary floating point

A float is a sign and the pattern of its other bits. Patterns are ordered as the magnitudes they
stand for: the finite ones first, then infinity, then the NaNs. Every finite magnitude is a whole
number of the format's smallest step (`FloatFormat.units`), so nothing here leaves `Nat`.
-/

namespace TableQuery

/-- Powers of two. -/
abbrev twoTo (n : Nat) : Nat := Nat.pow 2 n

structure FloatFormat where
  exponentBits : Nat
  fractionBits : Nat
  deriving DecidableEq

namespace FloatFormat

def single : FloatFormat := ⟨8, 23⟩

def double : FloatFormat := ⟨11, 52⟩

/-- The number of patterns. -/
def patterns (f : FloatFormat) : Nat := twoTo f.exponentBits * twoTo f.fractionBits

/-- The pattern of infinity. Finite patterns lie below it and NaNs above. -/
def infinity (f : FloatFormat) : Nat := (twoTo f.exponentBits - 1) * twoTo f.fractionBits

theorem infinity_lt_patterns (f : FloatFormat) : f.infinity < f.patterns := by
  unfold infinity patterns
  exact Nat.mul_lt_mul_of_pos_right (Nat.sub_lt (Nat.two_pow_pos _) Nat.one_pos) (Nat.two_pow_pos _)

/-- The smallest step between two magnitudes is `2 ^ -scale`. -/
def scale (f : FloatFormat) : Nat := twoTo (f.exponentBits - 1) - 2 + f.fractionBits

/-- The magnitude of pattern `p` in steps of `2 ^ -scale`. -/
def units (f : FloatFormat) (p : Nat) : Nat :=
  let exponent := p / twoTo f.fractionBits
  let fraction := p % twoTo f.fractionBits
  if exponent = 0 then fraction else (twoTo f.fractionBits + fraction) * twoTo (exponent - 1)

/-- The whole number nearest to `n / d`, a half going to the even one. -/
def roundHalfEven (n d : Nat) : Nat :=
  let q := n / d
  let r := n % d
  if 2 * r < d ∨ (2 * r = d ∧ q % 2 = 0) then q else q + 1

/-- The pattern nearest to `num / den`, a half going to the even one. The significand is rounded to
`fractionBits + 1` bits, or to whole units where those are coarser. A carry out of it lands on the
first pattern of the next exponent, and one past the last finite pattern lands on infinity. -/
def nearest (f : FloatFormat) (num den : Nat) : Nat :=
  let n := num * twoTo f.scale
  let shift := (n / den).log2 - f.fractionBits
  min f.infinity (shift * twoTo f.fractionBits + roundHalfEven n (den * twoTo shift))

theorem nearest_lt_patterns (f : FloatFormat) (num den : Nat) : f.nearest num den < f.patterns :=
  Nat.lt_of_le_of_lt (Nat.min_le_left _ _) f.infinity_lt_patterns

end FloatFormat

structure BinaryFloat (f : FloatFormat) where
  negative : Bool
  pattern : Nat
  pattern_lt : pattern < f.patterns
  deriving DecidableEq

namespace BinaryFloat

variable {f : FloatFormat}

/-! ## Bits -/

/-- Reads the sign off the bit above the pattern. Higher bits are ignored. -/
def ofBits (bits : Nat) : BinaryFloat f where
  negative := bits / f.patterns % 2 = 1
  pattern := bits % f.patterns
  pattern_lt := Nat.mod_lt _ (Nat.mul_pos (Nat.two_pow_pos _) (Nat.two_pow_pos _))

def toBits (x : BinaryFloat f) : Nat := (if x.negative then f.patterns else 0) + x.pattern

def isFinite (x : BinaryFloat f) : Bool := x.pattern < f.infinity

def isNaN (x : BinaryFloat f) : Bool := f.infinity < x.pattern

/-- Comparison as numbers: a NaN differs from everything, and the two zeros are equal. -/
def equal (x y : BinaryFloat f) : Bool :=
  !x.isNaN && !y.isNaN && x.pattern == y.pattern && (x.negative == y.negative || x.pattern == 0)

/-! ## Conversion -/

/-- The float nearest to `± num / den`. -/
def ofRatio (negative : Bool) (num den : Nat) : BinaryFloat f :=
  ⟨negative, f.nearest num den, f.nearest_lt_patterns num den⟩

def ofInt (n : Int) : BinaryFloat f := ofRatio (n < 0) n.natAbs 1

/-- The quotient of two counts, each of which is rounded to the format first. -/
def ofCounts (num den : Nat) : BinaryFloat f :=
  ofRatio false (f.units (f.nearest num 1)) (f.units (f.nearest den 1))

def infinite (negative : Bool) : BinaryFloat f := ⟨negative, f.infinity, f.infinity_lt_patterns⟩

/-- The value in another format. A NaN stays one. -/
def convert {g : FloatFormat} (x : BinaryFloat f) : BinaryFloat g :=
  if x.isFinite then ofRatio x.negative (f.units x.pattern) (twoTo f.scale)
  else if x.isNaN then ofBits (g.patterns - 1)
  else infinite x.negative

end BinaryFloat

end TableQuery
