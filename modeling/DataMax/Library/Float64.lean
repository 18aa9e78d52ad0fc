import Mathlib.Algebra.Order.Ring.Unbundled.Rat
import Mathlib.Algebra.Ring.Nat
import Mathlib.Data.Nat.Log

/-! Double precision numbers by their place in the order of the doubles, with
arithmetic rounded to the nearest double and ties to the even one. -/

namespace DataMax.Library

/-- The place of infinity: as many doubles lie between it and zero. -/
def infinityRank : Nat := 0x7FF0000000000000

/-- The doubles from one power of two to the next. -/
def fractionCount : Nat := 2 ^ 52

/-- A double that is a number is counted from zero, upwards and downwards; the
two zeros, which are equal, are one value. -/
inductive Float64 where
  | nan
  | ranked (rank : Int) (bounded : rank.natAbs ≤ infinityRank)
  deriving DecidableEq

namespace Float64

def isFinite : Float64 → Bool
  | .nan => false
  | .ranked rank _ => decide (rank.natAbs < infinityRank)

def rank? : Float64 → Option Int
  | .nan => none
  | .ranked rank _ => some rank

/-- The order that puts the not-a-number value first. -/
instance : Ord Float64 := ⟨compareOn rank?⟩

instance : Std.TransOrd Float64 := inferInstanceAs (Std.TransCmp (compareOn rank?))

instance : Std.LawfulEqOrd Float64 where
  eq_of_compare := by
    intro left right same
    have ranks : left.rank? = right.rank? :=
      Std.LawfulEqOrd.eq_of_compare (show compare left.rank? right.rank? = .eq from same)
    cases left <;> cases right <;> simp_all [rank?]

/-- `partial_cmp`. -/
def partialCmp : Float64 → Float64 → Option Ordering
  | .ranked left _, .ranked right _ => some (compare left right)
  | _, _ => none

def lt (left right : Float64) : Bool := left.partialCmp right == some .lt

theorem partialCmp_eq_compare {left right : Float64} (leftNumber : left ≠ nan) (rightNumber : right ≠ nan) :
    left.partialCmp right = some (compare left right) := by
  cases left with
  | nan => exact False.elim (leftNumber rfl)
  | ranked leftRank _ =>
    cases right with
    | nan => exact False.elim (rightNumber rfl)
    | ranked rightRank _ => rfl

theorem lt_eq_false_of_isLE {left right : Float64} (below : ((right.partialCmp left).getD .eq).isLE) :
    left.lt right = false := by
  cases left with
  | nan => rfl
  | ranked leftRank leftBounded =>
    cases right with
    | nan => rfl
    | ranked rightRank rightBounded =>
      simp only [partialCmp, Option.getD_some, ← Std.OrientedCmp.isGE_iff_isLE] at below
      cases compared : compare leftRank rightRank <;> simp_all [lt, partialCmp]

def clamp (value lower upper : Float64) : Float64 :=
  if value.lt lower then lower else if upper.lt value then upper else value

theorem lt_irrefl (value : Float64) : value.lt value = false := by
  cases value <;> simp [lt, partialCmp]

theorem clamp_cases (lower upper value : Float64) :
    value.clamp lower upper = lower ∨ value.clamp lower upper = upper ∨
      value.clamp lower upper = value ∧ value.lt lower = false ∧ upper.lt value = false := by
  unfold clamp
  split
  · exact .inl rfl
  · split
    · exact .inr (.inl rfl)
    · exact .inr (.inr ⟨rfl, by simp_all, by simp_all⟩)

theorem clamp_clamp {lower upper : Float64} (ordered : upper.lt lower = false) (value : Float64) :
    (value.clamp lower upper).clamp lower upper = value.clamp lower upper := by
  rcases clamp_cases lower upper value with same | same | ⟨same, above, below⟩
  · rw [same, clamp, lt_irrefl, ordered]
    rfl
  · rw [same, clamp, lt_irrefl, ordered]
    rfl
  · rw [same, clamp, above, below]
    rfl

/-- `f64::min`, which prefers the argument that is a number. -/
def minimum (left right : Float64) : Float64 :=
  match left, right with
  | .nan, right => right
  | left, .nan => left
  | left, right => if right.lt left then right else left

/-- `f64::max`. -/
def maximum (left right : Float64) : Float64 :=
  match left, right with
  | .nan, right => right
  | left, .nan => left
  | left, right => if left.lt right then right else left

@[simp] theorem maximum_self (value : Float64) : value.maximum value = value := by
  cases value <;> simp [maximum]

theorem minimum_ne_nan {left right : Float64} (number : right ≠ nan) : minimum left right ≠ nan := by
  cases left with
  | nan => exact number
  | ranked leftRank leftBounded =>
    cases right with
    | nan => exact False.elim (number rfl)
    | ranked rightRank rightBounded =>
      simp only [minimum]
      split <;> simp

section Arithmetic

/-- `value` times two to the power of `shift`. -/
def scale (value : ℚ) (shift : Int) : ℚ :=
  if 0 ≤ shift then value * 2 ^ shift.toNat else value / 2 ^ (-shift).toNat

/-- The natural number nearest to `value`, the even one of two. -/
def nearest (value : ℚ) : Nat :=
  let below := value.floor.toNat
  let rest := value - below
  if rest < 1 / 2 ∨ (rest = 1 / 2 ∧ below % 2 = 0) then below else below + 1

/-- The rank of the double nearest to a magnitude: 1022 exponents lie below
zero, and a fraction rounded up to a power of two carries into the exponent. -/
def nearestRank (magnitude : ℚ) : Nat :=
  if magnitude = 0 then 0
  else
    let quotient : Int := (magnitude.num.natAbs.log2 : Int) - magnitude.den.log2
    let exponent := max (if scale magnitude (-quotient) < 1 then quotient - 1 else quotient) (-1022)
    min ((exponent + 1022).toNat * fractionCount + nearest (scale magnitude (52 - exponent))) infinityRank

theorem nearestRank_le (magnitude : ℚ) : nearestRank magnitude ≤ infinityRank := by
  unfold nearestRank
  split
  · exact Nat.zero_le _
  · exact Nat.min_le_right _ _

def ofRat (value : ℚ) : Float64 :=
  let rank := nearestRank |value|
  .ranked (if value < 0 then -rank else rank) (by
    split
    · simpa using nearestRank_le |value|
    · simpa using nearestRank_le |value|)

/-- The value of the double with this rank. -/
def rankMagnitude (rank : Nat) : ℚ :=
  if rank < fractionCount then scale rank (-1074)
  else scale (fractionCount + rank % fractionCount : Nat) ((rank / fractionCount : Nat) - 1075)

def toRat : Float64 → ℚ
  | .nan => 0
  | .ranked rank _ => if rank < 0 then -rankMagnitude rank.natAbs else rankMagnitude rank.natAbs

def infinity (positive : Bool) : Float64 :=
  .ranked (if positive then infinityRank else -infinityRank) (by cases positive <;> simp)

def add (left right : Float64) : Float64 :=
  if left = nan ∨ right = nan then nan
  else match left.isFinite, right.isFinite with
    | true, true => ofRat (left.toRat + right.toRat)
    | true, false => right
    | false, true => left
    | false, false => if left = right then left else nan

def mul (left right : Float64) : Float64 :=
  if left = nan ∨ right = nan then nan
  else if left.isFinite ∧ right.isFinite then ofRat (left.toRat * right.toRat)
  else if left.toRat = 0 ∨ right.toRat = 0 then nan
  else infinity (decide (0 < left.toRat) == decide (0 < right.toRat))

/-- A zero divisor counts as the positive zero. -/
def div (left right : Float64) : Float64 :=
  if left = nan ∨ right = nan then nan
  else match left.isFinite, right.isFinite with
    | true, true =>
      if right.toRat ≠ 0 then ofRat (left.toRat / right.toRat)
      else if left.toRat = 0 then nan else infinity (0 < left.toRat)
    | true, false => ofRat 0
    | false, true => infinity (decide (0 < left.toRat) == decide (0 ≤ right.toRat))
    | false, false => nan

/-- The conversion of an unsigned integer. -/
def ofNat (value : Nat) : Float64 := ofRat value

theorem ofRat_ne_nan (value : ℚ) : ofRat value ≠ nan := by simp [ofRat]

/-- The ends of the unit interval are finite and in order. -/
theorem unitInterval : ((ofRat 0).isFinite = true ∧ (ofRat 1).isFinite = true) ∧ (ofRat 1).lt (ofRat 0) = false := by
  decide +kernel

end Arithmetic

end Float64

end DataMax.Library
