import Mathlib.Algebra.Order.Field.Power
import Mathlib.Data.Nat.Cast.Order.Field
import Mathlib.Tactic.FieldSimp
import TableQuery.Proofs.Rounding
/-!
# Shortest decimals

The decimals that read back as a float lie in an interval, so where a grid of decimals has one of them, a
neighbour of the float on the grid is one. The search takes the coarsest grid that has any, and no decimal of
fewer digits reads back (`shortest_spec`, `lt_of_rounds`).
-/

namespace TableQuery

namespace FloatFormat

variable {f : FloatFormat} {p : Nat}

/-! ## Intervals -/

theorem Rounds.convex {a b r : ℚ} (ha : f.Rounds p a) (hb : f.Rounds p b) (har : a ≤ r) (hrb : r ≤ b) :
    f.Rounds p r := by
  unfold Rounds at *
  split at ha
  · rw [if_pos ‹_›] at hb ⊢
    constructor <;> linarith [ha.1, hb.2]
  · rw [if_neg ‹_›] at hb ⊢
    constructor <;> linarith [ha.1, hb.2]

theorem rounds_magnitude (f : FloatFormat) (p : Nat) : f.Rounds p (f.magnitude p) := by
  have hup := magnitude_lt (f := f) (Nat.lt_succ_self p)
  unfold Rounds
  split
  · have hdown := magnitude_le (f := f) (Nat.sub_le p 1)
    constructor <;> linarith
  · have hdown := magnitude_lt (f := f) (by omega : p - 1 < p)
    constructor <;> linarith

/-! ## Grids -/

/-- The step of the grid of the multiples of `10 ^ zeros / 10 ^ places`. -/
def step (zeros places : Nat) : ℚ := (10 : ℚ) ^ ((zeros : ℤ) - places)

theorem step_pos (zeros places : Nat) : 0 < step zeros places := zpow_pos (by norm_num) _

theorem tenTo_cast (n : Nat) : ((tenTo n : Nat) : ℚ) = 10 ^ n := by
  rw [tenTo, Nat.pow_eq, Nat.cast_pow]
  rfl

theorem step_eq (zeros places : Nat) : step zeros places = (tenTo zeros : ℚ) / tenTo places := by
  rw [step, zpow_sub₀ (by norm_num), zpow_natCast, zpow_natCast, tenTo_cast, tenTo_cast]

theorem grid_eq (c zeros places : Nat) :
    ((c * tenTo zeros : Nat) : ℚ) / tenTo places = c * step zeros places := by
  rw [step_eq, Nat.cast_mul, mul_div_assoc]

theorem contains_iff_grid (c zeros places : Nat) :
    (f.interval p).contains (c * tenTo zeros) (tenTo places) = true ↔ f.Rounds p (c * step zeros places) := by
  rw [contains_iff_rounds (tenTo_pos places), grid_eq]

/-- The value of the pattern in steps of the grid, rounded down. -/
def below (f : FloatFormat) (p zeros places : Nat) : Nat :=
  (f.interval p).value * tenTo places / ((f.interval p).den * tenTo zeros)

theorem magnitude_eq_steps (f : FloatFormat) (p zeros places : Nat) :
    f.magnitude p = ((f.interval p).value * tenTo places : Nat) / ((f.interval p).den * tenTo zeros : Nat) *
      step zeros places := by
  have htwo := twoTo_cast_pos f.scale
  have hz : (0 : ℚ) < tenTo zeros := Nat.cast_pos.2 (tenTo_pos zeros)
  have hp : (0 : ℚ) < tenTo places := Nat.cast_pos.2 (tenTo_pos places)
  simp only [interval, magnitude, step_eq, twoTo_succ, Nat.cast_mul]
  field_simp

theorem below_le (f : FloatFormat) (p zeros places : Nat) :
    f.below p zeros places * step zeros places ≤ f.magnitude p := by
  rw [magnitude_eq_steps f p zeros places]
  exact mul_le_mul_of_nonneg_right Nat.cast_div_le (step_pos _ _).le

theorem lt_below_succ (f : FloatFormat) (p zeros places : Nat) :
    f.magnitude p < (f.below p zeros places + 1 : Nat) * step zeros places := by
  have hunit : 0 < (f.interval p).den * tenTo zeros := Nat.mul_pos (twoTo_pos _) (tenTo_pos _)
  rw [magnitude_eq_steps f p zeros places]
  refine mul_lt_mul_of_pos_right ?_ (step_pos _ _)
  rw [div_lt_iff₀ (Nat.cast_pos.2 hunit), ← Nat.cast_mul, Nat.cast_lt, Nat.mul_comm (f.below p zeros places + 1)]
  exact Nat.lt_mul_div_succ _ hunit

/-- Where the grid has a point in the interval, one of the value's neighbours is in it, the one on the side
of that point. -/
theorem rounds_neighbour {c zeros places : Nat} (h : f.Rounds p (c * step zeros places)) :
    (c ≤ f.below p zeros places ∧ f.Rounds p (f.below p zeros places * step zeros places)) ∨
      (f.below p zeros places + 1 ≤ c ∧ f.Rounds p ((f.below p zeros places + 1 : Nat) * step zeros places)) := by
  have hstep := (step_pos zeros places).le
  rcases Nat.lt_or_ge (f.below p zeros places) c with hlt | hle
  · refine .inr ⟨hlt, (rounds_magnitude f p).convex h (lt_below_succ f p zeros places).le ?_⟩
    exact mul_le_mul_of_nonneg_right (Nat.cast_le.2 hlt) hstep
  · refine .inl ⟨hle, h.convex (rounds_magnitude f p) ?_ (below_le f p zeros places)⟩
    exact mul_le_mul_of_nonneg_right (Nat.cast_le.2 hle) hstep

/-! ## One grid -/

theorem onGrid?_eq_none {zeros places : Nat} (h : (f.interval p).onGrid? zeros places = none) (c : Nat) :
    ¬f.Rounds p (c * step zeros places) := by
  intro hc
  unfold RoundingInterval.onGrid? at h
  dsimp only at h
  split at h
  · cases h
  · cases h
  · cases h
  · rename_i hbelow habove
    rcases rounds_neighbour hc with ⟨-, hn⟩ | ⟨-, hn⟩
    · exact absurd ((contains_iff_grid _ _ _).2 hn) (Bool.eq_false_iff.1 hbelow)
    · exact absurd ((contains_iff_grid _ _ _).2 hn) (Bool.eq_false_iff.1 habove)

/-- The lower neighbour is nearest to the value among the grid points below it, the upper one among those
above it. -/
theorem below_nearest {c zeros places : Nat} (hc : c ≤ f.below p zeros places) :
    |f.below p zeros places * step zeros places - f.magnitude p| ≤ |c * step zeros places - f.magnitude p| := by
  have hlow := below_le f p zeros places
  have hmono := mul_le_mul_of_nonneg_right (Nat.cast_le (α := ℚ).2 hc) (step_pos zeros places).le
  rw [abs_of_nonpos (by linarith), abs_of_nonpos (by linarith)]
  linarith

theorem above_nearest {c zeros places : Nat} (hc : f.below p zeros places + 1 ≤ c) :
    |(f.below p zeros places + 1 : Nat) * step zeros places - f.magnitude p| ≤
      |c * step zeros places - f.magnitude p| := by
  have hhigh := lt_below_succ f p zeros places
  have hmono := mul_le_mul_of_nonneg_right (Nat.cast_le (α := ℚ).2 hc) (step_pos zeros places).le
  rw [abs_of_nonneg (by linarith), abs_of_nonneg (by linarith)]
  linarith

/-- Less than half a step is left where the value lies below the middle of its neighbours. -/
theorem rest_lt_iff (f : FloatFormat) (p zeros places : Nat) :
    2 * ((f.interval p).value * tenTo places % ((f.interval p).den * tenTo zeros)) <
        (f.interval p).den * tenTo zeros ↔
      2 * f.magnitude p <
        f.below p zeros places * step zeros places + (f.below p zeros places + 1 : Nat) * step zeros places := by
  have hunit : 0 < (f.interval p).den * tenTo zeros := Nat.mul_pos (twoTo_pos _) (tenTo_pos _)
  rw [magnitude_eq_steps f p zeros places, below]
  generalize (f.interval p).value * tenTo places = n
  generalize (f.interval p).den * tenTo zeros = d at hunit
  have hd : (0 : ℚ) < d := Nat.cast_pos.2 hunit
  have hn : (n : ℚ) = (n / d : Nat) * d + (n % d : Nat) := by
    rw [← Nat.cast_mul, ← Nat.cast_add, Nat.div_add_mod']
  have hleft : 2 * ((n : ℚ) / d * step zeros places) = 2 * n / d * step zeros places := by ring
  have hright : ((n / d : Nat) : ℚ) * step zeros places + (n / d + 1 : Nat) * step zeros places =
      (2 * (n / d : Nat) + 1) * step zeros places := by
    rw [Nat.cast_succ]
    ring
  rw [hleft, hright, mul_lt_mul_iff_left₀ (step_pos _ _), div_lt_iff₀ hd, ← Nat.cast_lt (α := ℚ), Nat.cast_mul,
    Nat.cast_ofNat]
  constructor <;> intro h <;> linarith

/-- Of both neighbours the one on the value's side of their middle is nearest. -/
theorem neighbour_nearest (f : FloatFormat) (p zeros places b : Nat) :
    let c := if 2 * ((f.interval p).value * tenTo places % ((f.interval p).den * tenTo zeros)) <
      (f.interval p).den * tenTo zeros then f.below p zeros places else f.below p zeros places + 1
    |c * step zeros places - f.magnitude p| ≤ |b * step zeros places - f.magnitude p| := by
  have hlt : f.below p zeros places * step zeros places <
      (f.below p zeros places + 1 : Nat) * step zeros places :=
    mul_lt_mul_of_pos_right (Nat.cast_lt.2 (Nat.lt_succ_self _)) (step_pos _ _)
  obtain ⟨hlower, hupper⟩ := abs_sub_le_iff_of_lt hlt (f.magnitude p)
  have hmiddle := rest_lt_iff f p zeros places
  dsimp only
  split
  · rename_i hrest
    rcases Nat.lt_or_ge (f.below p zeros places) b with hb | hb
    · exact (hlower.2 (hmiddle.1 hrest).le).trans (above_nearest hb)
    · exact below_nearest hb
  · rename_i hrest
    rcases Nat.lt_or_ge (f.below p zeros places) b with hb | hb
    · exact above_nearest hb
    · exact (hupper.2 (not_lt.1 (mt hmiddle.2 hrest))).trans (below_nearest hb)

/-- What is found on a grid is one of the neighbours and reads back, and of the decimals on the grid that read
back none is nearer. -/
theorem onGrid?_eq_some {zeros places : Nat} {d : Decimal}
    (h : (f.interval p).onGrid? zeros places = some d) :
    ∃ c, d = ⟨c * tenTo zeros, places⟩ ∧ c ≤ f.below p zeros places + 1 ∧
      f.Rounds p (c * step zeros places) ∧
      ∀ b : Nat, f.Rounds p (b * step zeros places) →
        |c * step zeros places - f.magnitude p| ≤ |b * step zeros places - f.magnitude p| := by
  unfold RoundingInterval.onGrid? at h
  dsimp only at h
  split at h
  · rename_i hbelow habove
    cases h
    refine ⟨_, rfl, ?_, ?_, fun b _ => neighbour_nearest f p zeros places b⟩
    · split
      · exact Nat.le_succ _
      · exact Nat.le_refl _
    · split
      · exact (contains_iff_grid _ _ _).1 hbelow
      · exact (contains_iff_grid _ _ _).1 habove
  · rename_i hbelow habove
    cases h
    refine ⟨_, rfl, Nat.le_succ _, (contains_iff_grid _ _ _).1 hbelow, ?_⟩
    intro b hb
    rcases rounds_neighbour hb with ⟨hle, -⟩ | ⟨-, hn⟩
    · exact below_nearest hle
    · exact absurd ((contains_iff_grid _ _ _).2 hn) (Bool.eq_false_iff.1 habove)
  · rename_i hbelow habove
    cases h
    refine ⟨_, rfl, Nat.le_refl _, (contains_iff_grid _ _ _).1 habove, ?_⟩
    intro b hb
    rcases rounds_neighbour hb with ⟨-, hn⟩ | ⟨hle, -⟩
    · exact absurd ((contains_iff_grid _ _ _).2 hn) (Bool.eq_false_iff.1 hbelow)
    · exact above_nearest hle
  · cases h

/-! ## All grids -/

/-- The zeros of the first grid, which is coarser than the value. -/
def mostZeros (f : FloatFormat) (p : Nat) : Nat := (f.units p / twoTo f.scale).log2 / 3 + 1

/-- The grids in the order of the search, from coarse to fine. -/
def grids (f : FloatFormat) (p : Nat) : List (Nat × Nat) :=
  (List.range (f.mostZeros p + 1)).reverse.map (·, 0) ++ (List.range' 1 f.scale).map (0, ·)

theorem shortest_eq (f : FloatFormat) (p : Nat) :
    f.shortest p =
      ((f.grids p).findSome? fun g => (f.interval p).onGrid? g.1 g.2).getD (f.exactDecimal p) := rfl

theorem mem_grids {g : Nat × Nat} :
    g ∈ f.grids p ↔ (g.1 ≤ f.mostZeros p ∧ g.2 = 0) ∨ (g.1 = 0 ∧ 1 ≤ g.2 ∧ g.2 ≤ f.scale) := by
  obtain ⟨z, k⟩ := g
  simp only [grids, List.mem_append, List.mem_map, List.mem_reverse, List.mem_range, List.mem_range'_1,
    Prod.mk.injEq]
  constructor
  · rintro (⟨a, ha, rfl, rfl⟩ | ⟨a, ha, rfl, rfl⟩)
    · exact .inl ⟨by omega, rfl⟩
    · exact .inr ⟨rfl, by omega, by omega⟩
  · rintro (⟨hz, rfl⟩ | ⟨rfl, hk⟩)
    · exact .inl ⟨z, by omega, rfl, rfl⟩
    · exact .inr ⟨k, by omega, rfl, rfl⟩

/-- The exponent of the step of a grid. -/
def exponent (g : Nat × Nat) : Int := (g.1 : Int) - g.2

theorem pairwise_grids (f : FloatFormat) (p : Nat) :
    (f.grids p).Pairwise fun g h => exponent h < exponent g := by
  unfold grids
  refine List.pairwise_append.2 ⟨?_, ?_, ?_⟩
  · rw [List.pairwise_map, List.pairwise_reverse]
    refine List.pairwise_lt_range.imp ?_
    intro a b hab
    simp only [exponent]
    omega
  · rw [List.pairwise_map]
    refine (List.pairwise_lt_range' ..).imp ?_
    intro a b hab
    simp only [exponent]
    omega
  · simp only [List.mem_map, List.mem_range'_1]
    rintro _ ⟨a, -, rfl⟩ _ ⟨b, hb, rfl⟩
    simp only [exponent]
    omega

/-- The first success of a search through grids is on the coarsest of those with any. -/
theorem findSome?_coarsest {α : Type} {find : Nat × Nat → Option α} {d : α}
    (h : (f.grids p).findSome? find = some d) :
    ∃ g ∈ f.grids p, find g = some d ∧ ∀ b ∈ f.grids p, exponent g < exponent b → find b = none := by
  obtain ⟨before, g, after, heq, hg, hbefore⟩ := List.findSome?_eq_some_iff.1 h
  have hsorted := pairwise_grids f p
  rw [heq] at hsorted ⊢
  refine ⟨g, by simp, hg, ?_⟩
  intro b hb hcoarser
  rcases List.mem_append.1 hb with hb | hb
  · exact hbefore b hb
  · -- The grids behind are finer, and the grid itself is as fine.
    rcases List.mem_cons.1 hb with rfl | hb
    · exact absurd hcoarser (lt_irrefl _)
    · have hfiner := List.rel_of_pairwise_cons (List.pairwise_append.1 hsorted).2.1 hb
      exact absurd hfiner hcoarser.not_gt

/-- The finest grid has the value itself. -/
theorem findSome?_grids_ne_none (f : FloatFormat) (p : Nat) :
    (f.grids p).findSome? (fun g => (f.interval p).onGrid? g.1 g.2) ≠ none := by
  intro h
  have hmem : (0, f.scale) ∈ f.grids p := by
    rw [mem_grids]
    by_cases hscale : f.scale = 0
    · exact .inl ⟨Nat.zero_le _, hscale⟩
    · exact .inr ⟨rfl, by omega, Nat.le_refl _⟩
  have hnone := List.findSome?_eq_none_iff.1 h _ hmem
  refine onGrid?_eq_none hnone (f.units p * Nat.pow 5 f.scale) ((contains_iff_grid _ _ _).1 ?_)
  have hexact := contains_exactDecimal f p
  simpa [exactDecimal] using hexact

theorem twoTo_le_tenTo (n : Nat) : twoTo (3 * n) ≤ tenTo n := by
  rw [show twoTo (3 * n) = Nat.pow (Nat.pow 2 3) n from Nat.pow_mul 2 3 n]
  exact Nat.pow_le_pow_left (by decide) n

/-- The first step is greater than the value. -/
theorem below_mostZeros (f : FloatFormat) (p : Nat) : f.below p (f.mostZeros p) 0 = 0 := by
  have hlog := Nat.lt_log2_self (n := f.units p / twoTo f.scale)
  have hten : f.units p / twoTo f.scale < tenTo (f.mostZeros p) :=
    Nat.lt_of_lt_of_le hlog (Nat.le_trans (twoTo_le (by unfold mostZeros; omega)) (twoTo_le_tenTo _))
  have hunits := (Nat.div_lt_iff_lt_mul (twoTo_pos f.scale)).1 hten
  refine Nat.div_eq_of_lt ?_
  simp only [interval, twoTo_succ, show tenTo 0 = 1 from rfl, Nat.mul_one]
  rw [Nat.mul_assoc, Nat.mul_comm (twoTo f.scale)]
  omega

/-! ## The shortest decimal -/

/-- The shortest decimal stands on a grid, with nothing coarser that reads back. On the first grid it is the
step itself or zero. -/
theorem shortest_spec (f : FloatFormat) (p : Nat) :
    ∃ c zeros places, f.shortest p = ⟨c * tenTo zeros, places⟩ ∧ (zeros = 0 ∨ places = 0) ∧
      f.Rounds p (c * step zeros places) ∧
      (∀ b : Nat, f.Rounds p (b * step zeros places) →
        |c * step zeros places - f.magnitude p| ≤ |b * step zeros places - f.magnitude p|) ∧
      ((places = 0 ∧ c ≤ 1) ∨ ∀ b : Nat, ¬f.Rounds p (b * (10 * step zeros places))) := by
  obtain ⟨d, hd⟩ := Option.ne_none_iff_exists'.1 (findSome?_grids_ne_none f p)
  obtain ⟨⟨z, k⟩, hmem, hgrid, hcoarsest⟩ := findSome?_coarsest hd
  obtain ⟨c, rfl, hc, hrounds, hnearest⟩ := onGrid?_eq_some hgrid
  have hcase := mem_grids.1 hmem
  refine ⟨c, z, k, ?_, by omega, hrounds, hnearest, ?_⟩
  · rw [shortest_eq, hd]
    rfl
  · have hten (a b : Nat) (hab : ((a : Int) - b) = (z : Int) - k + 1) : step a b = 10 * step z k := by
      rw [step, step, hab, zpow_add_one₀ (by norm_num), mul_comm]
    by_cases hfirst : z = f.mostZeros p ∧ k = 0
    · obtain ⟨rfl, rfl⟩ := hfirst
      rw [below_mostZeros] at hc
      exact .inl ⟨rfl, hc⟩
    · right
      intro b
      -- The next coarser grid has been searched.
      by_cases hk : k = 0
      · rw [← hten (z + 1) 0 (by omega)]
        exact onGrid?_eq_none (hcoarsest (z + 1, 0) (mem_grids.2 (by dsimp only; omega))
          (by simp only [exponent]; omega)) b
      · rw [← hten 0 (k - 1) (by omega)]
        exact onGrid?_eq_none (hcoarsest (0, k - 1) (mem_grids.2 (by dsimp only; omega))
          (by simp only [exponent]; omega)) b

/-- Behind a point the last digit is no zero, or the decimal would stand on a coarser grid. -/
theorem places_eq_zero_of_mod_ten {c zeros places : Nat} (hc : f.Rounds p (c * step zeros places))
    (hcoarsest : (places = 0 ∧ c ≤ 1) ∨ ∀ b : Nat, ¬f.Rounds p (b * (10 * step zeros places)))
    (hlast : c % 10 = 0) : places = 0 := by
  rcases hcoarsest with ⟨hp, -⟩ | hnone
  · exact hp
  · obtain ⟨b, rfl⟩ := Nat.dvd_of_mod_eq_zero hlast
    refine absurd ?_ (hnone b)
    rw [mul_left_comm, ← mul_assoc, ← Nat.cast_ofNat, ← Nat.cast_mul]
    exact hc

/-- Where a decimal of at most `n` digits reads back, the shortest one has at most `n` too. Otherwise a power
of ten would lie between the two, on a coarser grid. -/
theorem lt_of_rounds {n a c zeros places : Nat} {k : ℤ} (hn : 0 < n) (ha : a < tenTo n)
    (hread : f.Rounds p (a * (10 : ℚ) ^ k)) (hc : f.Rounds p (c * step zeros places))
    (hcoarsest : (places = 0 ∧ c ≤ 1) ∨ ∀ b : Nat, ¬f.Rounds p (b * (10 * step zeros places))) :
    c < tenTo n := by
  obtain ⟨m, rfl⟩ := Nat.exists_eq_add_of_lt hn
  rw [Nat.zero_add] at ha ⊢
  have hten : tenTo (m + 1) = tenTo m * 10 := rfl
  have hpos := tenTo_pos m
  rcases hcoarsest with ⟨-, hone⟩ | hnone
  · omega
  · by_contra hge
    rcases Int.lt_or_le ((zeros : ℤ) - places) k with hcoarser | hfiner
    · -- The other decimal is on a coarser grid itself.
      obtain ⟨t, ht⟩ := Int.le.dest hcoarser
      refine hnone (a * tenTo t) ?_
      have heq : ((a * tenTo t : Nat) : ℚ) * (10 * step zeros places) = a * (10 : ℚ) ^ k := by
        rw [← ht, step, Nat.cast_mul, tenTo_cast, zpow_add₀ (by norm_num), zpow_add_one₀ (by norm_num),
          zpow_natCast]
        ring
      rw [heq]
      exact hread
    · refine hnone (tenTo m) (hread.convex hc ?_ ?_)
      · have hstep : (10 : ℚ) ^ k ≤ step zeros places := zpow_le_zpow_right₀ (by norm_num) hfiner
        have hle : (a : ℚ) ≤ (tenTo m * 10 : Nat) := Nat.cast_le.2 (hten ▸ ha.le)
        calc (a : ℚ) * 10 ^ k
            ≤ (tenTo m * 10 : Nat) * step zeros places :=
              mul_le_mul hle hstep (zpow_nonneg (by norm_num) _) (Nat.cast_nonneg _)
          _ = tenTo m * (10 * step zeros places) := by
              rw [Nat.cast_mul, Nat.cast_ofNat, mul_assoc]
      · rw [← mul_assoc]
        refine mul_le_mul_of_nonneg_right ?_ (step_pos _ _).le
        rw [← Nat.cast_ofNat, ← Nat.cast_mul, Nat.cast_le]
        omega

end FloatFormat

end TableQuery
