import RecordQuery.Number.Basic

/-!
# Rounding integers to binary64

Rounding keeps the order of integers, weakly: a larger integer never rounds to a
smaller number. It follows that any two numbers of a record are comparable, and
that comparing them never contradicts the ranks of their binary64 forms.
-/

namespace RecordQuery

/-! ## Rounding magnitudes -/

theorem div_le_roundDiv (numerator denominator : Nat) :
    numerator / denominator ≤ roundDiv numerator denominator := by
  simp only [roundDiv]
  split
  · exact Nat.le_refl _
  · split <;> omega

theorem roundDiv_le_div_add_one (numerator denominator : Nat) :
    roundDiv numerator denominator ≤ numerator / denominator + 1 := by
  have parity := Nat.mod_lt (numerator / denominator) (show 0 < 2 by decide)
  simp only [roundDiv]
  split
  · exact Nat.le_add_right _ _
  · split <;> omega

/-- Rounding a quotient is monotone in the numerator. Only numerators with the
same whole part need an argument: there the remainders decide. -/
theorem roundDiv_mono {smaller larger : Nat} (denominator : Nat) (le : smaller ≤ larger) :
    roundDiv smaller denominator ≤ roundDiv larger denominator := by
  have wholeLe : smaller / denominator ≤ larger / denominator := Nat.div_le_div_right le
  rcases Nat.lt_or_eq_of_le wholeLe with apart | same
  · calc roundDiv smaller denominator
        ≤ smaller / denominator + 1 := roundDiv_le_div_add_one _ _
      _ ≤ larger / denominator := apart
      _ ≤ roundDiv larger denominator := div_le_roundDiv _ _
  · have restLe : smaller % denominator ≤ larger % denominator := by
      have smallerSplit := Nat.div_add_mod smaller denominator
      have largerSplit := Nat.div_add_mod larger denominator
      rw [same] at smallerSplit
      omega
    simp only [roundDiv, same]
    repeat' split
    all_goals omega

/-- Rounding to a magnitude is monotone. Within one exponent this is rounding a
quotient. Across exponents the smaller number cannot pass the first magnitude of
the next exponent, and the larger one does not fall below it. -/
theorem roundMagnitude_mono {smaller larger : Nat} (denominator : Nat) (le : smaller ≤ larger) :
    roundMagnitude smaller denominator ≤ roundMagnitude larger denominator := by
  have scaledLe : smaller * Nat.pow 2 1074 ≤ larger * Nat.pow 2 1074 :=
    Nat.mul_le_mul_right _ le
  simp only [roundMagnitude]
  generalize smaller * Nat.pow 2 1074 = low at *
  generalize larger * Nat.pow 2 1074 = high at *
  simp only [Nat.pow_eq]
  have wholeLe : low / denominator ≤ high / denominator := Nat.div_le_div_right scaledLe
  have logLe : (low / denominator).log2 ≤ (high / denominator).log2 := by
    rcases Nat.eq_zero_or_pos (low / denominator) with zero | positive
    · simp [zero]
    · have lowWhole := Nat.log2_self_le (Nat.ne_of_gt positive)
      exact (Nat.le_log2 (by omega)).2 (Nat.le_trans lowWhole wholeLe)
  have droppedLe : (low / denominator).log2 - 52 ≤ (high / denominator).log2 - 52 :=
    Nat.sub_le_sub_right logLe 52
  rcases Nat.lt_or_eq_of_le droppedLe with apart | same
  · generalize lowDropped : (low / denominator).log2 - 52 = dropped at *
    generalize highDropped : (high / denominator).log2 - 52 = more at *
    have lowBound : low / (denominator * 2 ^ dropped) < 2 ^ 53 := by
      rw [← Nat.div_div_eq_div_mul, Nat.div_lt_iff_lt_mul (Nat.two_pow_pos _), ← Nat.pow_add]
      exact Nat.lt_of_lt_of_le Nat.lt_log2_self (Nat.pow_le_pow_right (by decide) (by omega))
    have highBound : 2 ^ 52 ≤ high / (denominator * 2 ^ more) := by
      rw [← Nat.div_div_eq_div_mul, Nat.le_div_iff_mul_le (Nat.two_pow_pos _), ← Nat.pow_add]
      have exact : 52 + more = (high / denominator).log2 := by omega
      rw [exact]
      exact Nat.log2_self_le (by intro zero; simp [zero] at highDropped; omega)
    have lowRounded := roundDiv_le_div_add_one low (denominator * 2 ^ dropped)
    have highRounded := div_le_roundDiv high (denominator * 2 ^ more)
    simp only [fractionPatterns] at *
    omega
  · rw [same]
    exact Nat.add_le_add_left (roundDiv_mono _ scaledLe) _

/-! ## Ranks of numbers -/

/-- A magnitude beyond the finite ones ranks with infinity. -/
theorem Binary64.rank?_ofMagnitude (negative : Bool) (magnitude : Nat) :
    (ofMagnitude negative magnitude).rank? =
      some (if negative then -((min magnitude finiteMagnitudes : Nat) : Int)
        else ((min magnitude finiteMagnitudes : Nat) : Int)) := by
  by_cases fits : magnitude < finiteMagnitudes
  · have bounded : min magnitude finiteMagnitudes = magnitude :=
      Nat.min_eq_left (Nat.le_of_lt fits)
    simp [ofMagnitude, fits, rank?, Double.rank, bounded]
  · have bounded : min magnitude finiteMagnitudes = finiteMagnitudes :=
      Nat.min_eq_right (Nat.le_of_not_lt fits)
    cases negative <;> simp [ofMagnitude, fits, rank?, bounded]

namespace Number

/-- The place of a number among all binary64 numbers, after rounding. -/
def rank (number : Number) : Int := number.toBinary64.rank?.getD 0

theorem rank_int (value : Int) :
    rank (.int value) =
      if value < 0 then -((min (roundMagnitude value.natAbs 1) finiteMagnitudes : Nat) : Int)
      else ((min (roundMagnitude value.natAbs 1) finiteMagnitudes : Nat) : Int) := by
  simp [rank, toBinary64, Binary64.ofInt, Binary64.ofQuotient, Binary64.rank?_ofMagnitude]

@[simp] theorem rank_float (value : Double) : rank (.float value) = value.rank := rfl

/-- No number of a record is incomparable. -/
theorem rank?_toBinary64 (number : Number) : number.toBinary64.rank? = some number.rank := by
  cases number with
  | int value =>
      simp [rank, toBinary64, Binary64.ofInt, Binary64.ofQuotient, Binary64.rank?_ofMagnitude]
  | float value => rfl

/-- Rounding keeps the order of integers. -/
theorem rank_int_mono {smaller larger : Int} (le : smaller ≤ larger) :
    rank (.int smaller) ≤ rank (.int larger) := by
  rw [rank_int, rank_int]
  split
  case isTrue below =>
    split
    case isTrue =>
      have grown : roundMagnitude larger.natAbs 1 ≤ roundMagnitude smaller.natAbs 1 :=
        roundMagnitude_mono 1 (by omega)
      omega
    case isFalse => omega
  case isFalse above =>
    have grown : roundMagnitude smaller.natAbs 1 ≤ roundMagnitude larger.natAbs 1 :=
      roundMagnitude_mono 1 (by omega)
    rw [if_neg (by omega)]
    omega

theorem compare?_toBinary64 (left right : Number) :
    left.toBinary64.compare? right.toBinary64 = some (compare left.rank right.rank) := by
  simp only [Binary64.compare?, rank?_toBinary64]

/-- The order of two numbers: exact between integers, by rank otherwise. -/
def order (left right : Number) : Ordering :=
  match left, right with
  | .int left, .int right => compare left right
  | _, _ => compare left.rank right.rank

/-- Two numbers always compare. -/
theorem compare?_eq (left right : Number) : left.compare? right = some (left.order right) := by
  cases left with
  | int left =>
      cases right with
      | int right => rfl
      | float right => exact compare?_toBinary64 (.int left) (.float right)
  | float left => exact compare?_toBinary64 (.float left) right

theorem order_swap (left right : Number) : right.order left = (left.order right).swap := by
  cases left with
  | int left =>
      cases right with
      | int right => exact Std.OrientedOrd.eq_swap
      | float right => exact @Std.OrientedOrd.eq_swap Int _ _ (rank _) (rank _)
  | float left => cases right <;> exact @Std.OrientedOrd.eq_swap Int _ _ (rank _) (rank _)

/-- The order of numbers never contradicts their ranks. -/
theorem rank_le_of_order {left right : Number} (le : (left.order right).isLE) :
    left.rank ≤ right.rank := by
  cases left with
  | int left =>
      cases right with
      | int right => exact rank_int_mono (Int.isLE_compare.1 le)
      | float right => exact Int.isLE_compare.1 le
  | float left => exact Int.isLE_compare.1 le

/-- Only zero rounds to zero. -/
theorem rank_int_ne_zero {value : Int} (nonzero : value ≠ 0) : rank (.int value) ≠ 0 := by
  have positive : 0 < rank (.int 1) := by decide +kernel
  have negative : rank (.int (-1)) < 0 := by decide +kernel
  rcases Int.lt_or_gt_of_ne nonzero with below | above
  · have smaller : rank (.int value) ≤ rank (.int (-1)) := rank_int_mono (by omega)
    omega
  · have larger : rank (.int 1) ≤ rank (.int value) := rank_int_mono (by omega)
    omega

end Number

/-- A rank other than zero belongs to one finite number only. -/
theorem Binary64.eq_finite_of_rank? {number : Binary64} {float : Double}
    (same : number.rank? = some float.rank) (nonzero : float.rank ≠ 0) :
    number = .finite float := by
  obtain ⟨negative, magnitude, bounded⟩ := float
  cases number with
  | nan => simp [rank?] at same
  | infinite sign =>
      cases sign <;> cases negative <;>
        simp only [rank?, Double.rank, Option.some.injEq, if_true, Bool.false_eq_true,
          if_false] at same <;> omega
  | finite other =>
      obtain ⟨sign, size, _⟩ := other
      have sameRank : Double.rank ⟨sign, size, ‹_›⟩ = Double.rank ⟨negative, magnitude, bounded⟩ :=
        Option.some.inj same
      cases sign <;> cases negative <;>
        simp only [Double.rank, if_true, Bool.false_eq_true, if_false] at sameRank nonzero <;>
        simp <;> omega

/-- A float hides the difference of two integers when it is what both of them
round to. -/
def Double.Hides (float : Double) (left right : Int) : Prop :=
  left ≠ right ∧ Binary64.ofInt left = .finite float ∧ Binary64.ofInt right = .finite float

theorem Double.hides_iff {float : Double} {left right : Int} :
    float.Hides left right ↔ left ≠ right ∧ Number.rank (.int left) = float.rank ∧
      Number.rank (.int right) = float.rank := by
  have ranked : ∀ value : Int, (Binary64.ofInt value).rank? = some (Number.rank (.int value)) :=
    fun value => Number.rank?_toBinary64 (.int value)
  constructor
  · rintro ⟨apart, leftRounded, rightRounded⟩
    have leftRank := ranked left
    have rightRank := ranked right
    rw [leftRounded] at leftRank
    rw [rightRounded] at rightRank
    exact ⟨apart, (Option.some.inj leftRank).symm, (Option.some.inj rightRank).symm⟩
  · rintro ⟨apart, leftRank, rightRank⟩
    -- One of the two integers is not zero, so the common rank is not zero.
    have nonzero : float.rank ≠ 0 := by
      by_cases zero : left = 0
      · exact rightRank ▸ Number.rank_int_ne_zero (by omega)
      · exact leftRank ▸ Number.rank_int_ne_zero zero
    exact ⟨apart, Binary64.eq_finite_of_rank? (leftRank ▸ ranked left) nonzero,
      Binary64.eq_finite_of_rank? (rightRank ▸ ranked right) nonzero⟩

end RecordQuery
