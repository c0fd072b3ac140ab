import RecordQuery.Number.Basic

/-!
# Integers in machine words

An integer is read into a signed word of 64 bits if it fits one, and otherwise into an
unsigned word. Words of different kinds are compared without leaving 64 bits: a negative
word is below every unsigned one, and any other is cast to an unsigned word first.
-/

namespace RecordQuery.Number

/-- A machine word of 64 bits. -/
inductive Word where
  | signed (value : Int64)
  | unsigned (value : UInt64)
  deriving DecidableEq

namespace Word

/-- The word into which an integer is read. -/
def ofInt (value : Int) : Word :=
  if value < signedLimit then .signed (.ofInt value) else .unsigned (.ofNat value.toNat)

/-- The integer that a word stands for. -/
def toInt : Word → Int
  | .signed value => value.toInt
  | .unsigned value => value.toNat

/-- The order of words, word against word. -/
def compare : Word → Word → Ordering
  | .signed left, .signed right => Ord.compare left right
  | .unsigned left, .unsigned right => Ord.compare left right
  | .signed left, .unsigned right =>
      if left < 0 then .lt else Ord.compare left.toUInt64 right
  | .unsigned left, .signed right =>
      if right < 0 then .gt else Ord.compare left right.toUInt64

/-- No integer of 64 bits, with or without a sign, is cut off. -/
theorem toInt_ofInt {value : Int} (fits : fitsInteger value) : (ofInt value).toInt = value := by
  simp only [fitsInteger, signedLimit, unsignedLimit, Bool.and_eq_true,
    decide_eq_true_eq] at fits
  rw [ofInt, signedLimit]
  split
  · rename_i below
    exact Int64.toInt_ofInt_of_le fits.1 below
  · rename_i above
    have small : value.toNat < 2 ^ 64 := by omega
    have held : (UInt64.ofNat value.toNat).toNat = value.toNat := UInt64.toNat_ofNat_of_lt' small
    rw [toInt, held, Int.toNat_of_nonneg (by omega)]

theorem compare_signed (left right : Int64) :
    Ord.compare left right = Ord.compare left.toInt right.toInt := by
  show compareOfLessAndEq left right = compareOfLessAndEq left.toInt right.toInt
  simp only [compareOfLessAndEq, Int64.lt_iff_toInt_lt, Int64.toInt_inj]

theorem compare_unsigned (left right : UInt64) :
    Ord.compare left right = Ord.compare (left.toNat : Int) right.toNat := by
  show compareOfLessAndEq left right = compareOfLessAndEq (left.toNat : Int) right.toNat
  simp only [compareOfLessAndEq, UInt64.lt_iff_toNat_lt, Int.ofNat_lt, Int.ofNat_inj,
    UInt64.toNat_inj]

/-- A word that is not negative stands for the same integer when it is cast. -/
theorem toNat_cast {value : Int64} (nonneg : ¬value < 0) :
    (value.toUInt64.toNat : Int) = value.toInt := by
  have atLeast : 0 ≤ value := Int64.not_lt.1 nonneg
  rw [Int64.toNat_toUInt64_of_le atLeast, ← Int64.toNat_toInt]
  exact Int.toNat_of_nonneg (Int64.le_iff_toInt_le.1 atLeast)

/-- Comparing words is comparing the integers that they stand for. -/
theorem compare_eq (left right : Word) :
    compare left right = Ord.compare left.toInt right.toInt := by
  have below {word : Int64} (negative : word < 0) (other : UInt64) :
      word.toInt < other.toNat := by
    have minus : word.toInt < 0 := Int64.lt_iff_toInt_lt.1 negative
    omega
  cases left with
  | signed left =>
      cases right with
      | signed right => exact compare_signed left right
      | unsigned right =>
          rw [compare]
          split
          · rename_i negative
            exact (Int.compare_eq_lt.2 (below negative right)).symm
          · rename_i nonneg
            rw [compare_unsigned, toNat_cast nonneg]
            rfl
  | unsigned left =>
      cases right with
      | signed right =>
          rw [compare]
          split
          · rename_i negative
            exact (Int.compare_eq_gt.2 (below negative left)).symm
          · rename_i nonneg
            rw [compare_unsigned, toNat_cast nonneg]
            rfl
      | unsigned right => exact compare_unsigned left right

end Word

end RecordQuery.Number
