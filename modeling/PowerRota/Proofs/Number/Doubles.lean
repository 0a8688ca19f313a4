import Mathlib
import PowerRota.Number.Float

/-! Doubles that are not negative: zero, what is greater, and infinity.

The arithmetic of doubles is defined on their parts: a sign, a mantissa and an exponent. Sums and
products of doubles that are not negative are not negative again, and never undefined, as long as
no infinity is multiplied by zero. -/

set_option autoImplicit false

namespace PowerRota.Number

open Float.Model (Format UnpackedFloat)
open Float.Model.UnpackedFloat (Sign Accuracy)

abbrev parts (x : Float) : UnpackedFloat := x.toModel.unpack

section Bits

variable (b : BitVec Format.binary64.numBits)

theorem toNat_unpackMantissa :
    (UnpackedFloat.unpackMantissa b).toNat = b.toNat % capacity 52 := by
  simp [UnpackedFloat.unpackMantissa_def, capacity]

theorem toNat_unpackExponent :
    (UnpackedFloat.unpackExponent b).toNat = b.toNat / capacity 52 % capacity 11 := by
  simp [UnpackedFloat.unpackExponent_def, capacity, Nat.shiftRight_eq_div_pow]

theorem toNat_unpackSign :
    (UnpackedFloat.unpackSign b).toNat = b.toNat / capacity 63 := by
  have small : b.toNat < 2 ^ 64 := b.isLt
  simp [UnpackedFloat.unpackSign_def, capacity, Nat.shiftRight_eq_div_pow]
  omega

end Bits

theorem ofBitVec_eq_negative (v : BitVec 1) :
    (Sign.ofBitVec v == .negative) = (v.toNat == 1) := by
  have small : v.toNat < 2 := v.isLt
  have zero : v = 0#1 ↔ v.toNat = 0 := by rw [← BitVec.toNat_inj]; rfl
  by_cases positive : v.toNat = 0
  · rw [Sign.ofBitVec, if_pos (zero.mpr positive), positive]
    rfl
  · rw [Sign.ofBitVec, if_neg (mt zero.mp positive), show v.toNat = 1 by omega]
    rfl

def Binary64.ofParts : UnpackedFloat → Binary64
  | .infinity sign => .infinite (sign == .negative)
  | .notANumber => .nan
  | .zero sign => .finite ⟨sign == .negative, 0, -1074⟩
  | .finite sign mantissa exponent _ => .finite ⟨sign == .negative, mantissa, exponent⟩

theorem Binary64.ofFloat_eq_ofParts (x : Float) : ofFloat x = ofParts (parts x) := by
  let b : BitVec Format.binary64.numBits := x.toModel.toBits.toBitVec
  have bits : x.toBits.toNat = b.toNat := rfl
  have exponent := toNat_unpackExponent b
  have mantissa := toNat_unpackMantissa b
  have all_ones : UnpackedFloat.unpackExponent b = -1#_ ↔
      b.toNat / capacity 52 % capacity 11 = 2047 := by
    rw [← exponent, ← BitVec.toNat_inj]
    rfl
  have no_ones : UnpackedFloat.unpackExponent b = 0#_ ↔
      b.toNat / capacity 52 % capacity 11 = 0 := by
    rw [← exponent, ← BitVec.toNat_inj]
    rfl
  have no_fraction : UnpackedFloat.unpackMantissa b = 0#_ ↔ b.toNat % capacity 52 = 0 := by
    rw [← mantissa, ← BitVec.toNat_inj]
    rfl
  have sign := ofBitVec_eq_negative (UnpackedFloat.unpackSign b)
  rw [toNat_unpackSign] at sign
  simp only [Binary64.ofFloat, bits]
  show _ = ofParts (UnpackedFloat.unpack Format.binary64 b)
  unfold UnpackedFloat.unpack
  dsimp only
  -- all ones in the exponent mark infinity and what is no number, no ones the smallest numbers
  by_cases ones : b.toNat / capacity 52 % capacity 11 = 2047
  · rw [if_pos ones, if_pos (all_ones.mpr ones)]
    by_cases none : b.toNat % capacity 52 = 0
    · simp only [if_pos none, if_pos (no_fraction.mpr none), ofParts, sign]
    · simp only [if_neg none, if_neg (mt no_fraction.mp none), ofParts]
  · rw [if_neg ones, if_neg (mt all_ones.mp ones)]
    by_cases zeros : b.toNat / capacity 52 % capacity 11 = 0
    · rw [if_pos zeros, if_pos (no_ones.mpr zeros)]
      by_cases none : b.toNat % capacity 52 = 0
      · simp only [none, dif_pos (no_fraction.mpr none), ofParts, sign]
      · simp only [dif_neg (mt no_fraction.mp none), ofParts, sign, mantissa, exponent, zeros]
        rfl
    · rw [if_neg zeros, if_neg (mt no_ones.mp zeros)]
      have leading : (1#1 ++ UnpackedFloat.unpackMantissa b).toNat =
          b.toNat % capacity 52 + capacity 52 := by
        rw [BitVec.toNat_append, ← Nat.shiftLeft_add_eq_or_of_lt (BitVec.isLt _), mantissa,
          Nat.add_comm]
        rfl
      simp only [ofParts, sign, exponent, leading]
      rfl

def sign? : UnpackedFloat → Option Sign
  | .infinity sign => some sign
  | .notANumber => none
  | .zero sign => some sign
  | .finite sign _ _ _ => some sign

section Rounding

variable (format : Format) (sign : Sign) (mantissa : Nat) (exponent : Int)

theorem sign?_roundWithAccuracy (accuracy : Accuracy) :
    sign? (UnpackedFloat.roundWithAccuracy format sign mantissa exponent accuracy) =
      some sign := by
  unfold UnpackedFloat.roundWithAccuracy
  dsimp only
  split <;> rfl

theorem sign?_round :
    sign? (UnpackedFloat.round format sign mantissa exponent) = some sign :=
  sign?_roundWithAccuracy _ _ _ _ _

theorem sign?_normalize :
    sign? (UnpackedFloat.normalize format mantissa exponent .positive) = some .positive := by
  unfold UnpackedFloat.normalize
  split
  next below => exact absurd (Int.compare_eq_lt.mp below) (by omega)
  next => rfl
  next => exact sign?_round _ _ _ _

end Rounding

theorem sign?_unpack_packComponents {format : Format} (sign : Sign)
    {exponent : BitVec format.exponentBits}
    (bounded : exponent ≠ -1#_) (mantissa : BitVec format.mantissaBitsWithoutImplicit) :
    sign? (UnpackedFloat.unpack format
      (UnpackedFloat.packComponents format sign exponent mantissa)) = some sign := by
  unfold UnpackedFloat.unpack
  simp only [UnpackedFloat.unpackMantissa_packComponents,
    UnpackedFloat.unpackExponent_packComponents, UnpackedFloat.unpackSign_packComponents,
    Sign.ofBitVec_toBitVec, if_neg bounded]
  split
  · split <;> rfl
  · rfl

theorem sign?_unpack_packedInfinity (sign : Sign) :
    sign? (UnpackedFloat.unpack Format.binary64
      (UnpackedFloat.packedInfinity Format.binary64 sign)) = some sign := by
  cases sign <;> rfl

theorem sign?_unpack_pack (value : UnpackedFloat) :
    sign? (UnpackedFloat.unpack Format.binary64
      (UnpackedFloat.pack Format.binary64 value)) = sign? value := by
  cases value with
  | infinity sign => exact sign?_unpack_packedInfinity sign
  | notANumber => rfl
  | zero sign => exact sign?_unpack_packComponents sign (by decide) _
  | finite sign mantissa exponent pos =>
    unfold UnpackedFloat.pack
    dsimp only
    split
    · exact sign?_unpack_packedInfinity sign
    next small =>
      split
      · -- an exponent of all ones would have been packed as infinity
        refine sign?_unpack_packComponents sign (fun same => ?_) _
        generalize (exponent + Format.binary64.exponentBias +
          Format.binary64.mantissaBitsWithoutImplicit).toNat = biased at small same
        have ones : biased % 2 ^ 11 = 2047 := by simpa using congrArg BitVec.toNat same
        have below : biased + 1 < 2 ^ 11 := Nat.lt_of_not_le small
        omega
      · exact sign?_unpack_packComponents sign (by decide) _

inductive NoMinus : UnpackedFloat → Prop where
  | infinity : NoMinus (.infinity .positive)
  | zero : NoMinus (.zero .positive)
  | finite (mantissa : Nat) (exponent : Int) (pos : 0 < mantissa) :
      NoMinus (.finite .positive mantissa exponent pos)

theorem noMinus_iff {value : UnpackedFloat} : NoMinus value ↔ sign? value = some .positive := by
  constructor
  · rintro (_ | _ | _) <;> rfl
  · intro plus
    cases value <;> cases plus <;> constructor

def isPositive : UnpackedFloat → Bool
  | .finite sign _ _ _ => sign == .positive
  | _ => false

theorem exists_of_isPositive {value : UnpackedFloat} (positive : isPositive value = true) :
    ∃ mantissa exponent pos, value = .finite .positive mantissa exponent pos := by
  cases value with
  | finite sign mantissa exponent pos =>
    cases sign with
    | negative => cases positive
    | positive => exact ⟨mantissa, exponent, pos, rfl⟩
  | infinity | notANumber | zero => cases positive

namespace NoMinus

variable {x y : UnpackedFloat}

theorem add (left : NoMinus x) (right : NoMinus y) :
    NoMinus (UnpackedFloat.add Format.binary64 x y) := by
  rw [noMinus_iff]
  cases left <;> cases right
  case finite.finite =>
    unfold UnpackedFloat.add
    dsimp only [UnpackedFloat.Sign.apply]
    rw [← Int.natCast_add]
    exact sign?_normalize _ _ _
  all_goals rfl

theorem mul (left : NoMinus x) (right : isPositive y = true) :
    NoMinus (UnpackedFloat.mul Format.binary64 x y) := by
  obtain ⟨mantissa, exponent, pos, rfl⟩ := exists_of_isPositive right
  rw [noMinus_iff]
  cases left with
  | infinity => rfl
  | zero => rfl
  | finite => exact sign?_roundWithAccuracy _ _ _ _ _

theorem div (left : NoMinus x) (right : isPositive y = true) :
    NoMinus (UnpackedFloat.div Format.binary64 x y) := by
  obtain ⟨mantissa, exponent, pos, rfl⟩ := exists_of_isPositive right
  rw [noMinus_iff]
  cases left with
  | infinity => rfl
  | zero => rfl
  | finite => exact sign?_roundWithAccuracy _ _ _ _ _

theorem ofScientific (digits : Nat) (power : Int) :
    NoMinus (UnpackedFloat.ofScientific Format.binary64 digits power) := by
  unfold UnpackedFloat.ofScientific
  split
  · exact .zero
  split
  · exact .infinity
  split
  · exact .zero
  split
  · exact mul (.finite _ _ _) rfl
  · exact div (.finite _ _ _) rfl

end NoMinus

/-- A double with no minus: zero, anything greater, and infinity. -/
def Unsigned (x : Float) : Prop := NoMinus (parts x)

theorem unsigned_pack {value : UnpackedFloat} (unsigned : NoMinus value) :
    Unsigned (Float.ofModel (Float.Model.pack value)) :=
  noMinus_iff.mpr ((sign?_unpack_pack value).trans (noMinus_iff.mp unsigned))

theorem Unsigned.add {x y : Float} (left : Unsigned x) (right : Unsigned y) : Unsigned (x + y) :=
  unsigned_pack (NoMinus.add left right)

theorem Unsigned.mul {x y : Float} (left : Unsigned x) (right : isPositive (parts y) = true) :
    Unsigned (x * y) :=
  unsigned_pack (NoMinus.mul left right)

theorem Unsigned.div {x y : Float} (left : Unsigned x) (right : isPositive (parts y) = true) :
    Unsigned (x / y) :=
  unsigned_pack (NoMinus.div left right)

theorem unsigned_zero : Unsigned 0.0 := noMinus_iff.mpr rfl

theorem unsigned_toFloat (n : UInt64) : Unsigned n.toFloat := by
  refine unsigned_pack (noMinus_iff.mpr ?_)
  exact sign?_normalize _ _ _

theorem isPositive_powersOfTen {e : Nat} (h : e < Float.exactlyRepresentablePowersOfTen.size) :
    isPositive (parts Float.exactlyRepresentablePowersOfTen[e]) = true := by
  have all : Float.exactlyRepresentablePowersOfTen.all (isPositive ∘ parts) = true := by
    decide +kernel
  exact Array.all_eq_true.mp all e h

theorem unsigned_ofScientific (digits : Nat) (small : Bool) (power : Nat) :
    Unsigned (Float.ofScientific digits small power) := by
  unfold Float.ofScientific
  split
  · -- few digits and a small power: both are exact, and the power comes from a table
    dsimp only
    split
    · exact Unsigned.div (unsigned_toFloat _) (isPositive_powersOfTen _)
    · exact Unsigned.mul (unsigned_toFloat _) (isPositive_powersOfTen _)
  · exact unsigned_pack (NoMinus.ofScientific _ _)

theorem unsigned_ofDecimal (digits : Nat) (power : Int) : Unsigned (ofDecimal digits power) := by
  unfold ofDecimal
  dsimp only
  split
  · exact unsigned_zero
  split
  · exact noMinus_iff.mpr rfl
  split
  · exact unsigned_ofScientific _ _ _
  · exact unsigned_ofScientific _ _ _

theorem mantissa_bounds {x : Float} {sign : Sign} {mantissa : Nat} {exponent : Int}
    {pos : 0 < mantissa} (finite : parts x = .finite sign mantissa exponent pos) :
    mantissa < capacity 53 ∧ (exponent = -1074 ∨ capacity 52 ≤ mantissa) := by
  have made := Binary64.ofFloat_eq_ofParts x
  have fraction : x.toBits.toNat % capacity 52 < capacity 52 := Nat.mod_lt _ (by decide)
  have twice : capacity 53 = 2 * capacity 52 := capacity_succ 52
  rw [finite] at made
  unfold Binary64.ofFloat at made
  dsimp only at made
  split at made
  · split at made <;> cases made
  split at made <;>
    (simp only [Binary64.ofParts, Binary64.finite.injEq, Dyadic.mk.injEq] at made
     obtain ⟨-, rfl, rfl⟩ := made)
  · exact ⟨by omega, Or.inl rfl⟩
  · exact ⟨by omega, Or.inr (by omega)⟩

theorem lt_iff {x y : Float} : x < y ↔ UnpackedFloat.lt (parts x) (parts y) = true :=
  decide_eq_true_iff

theorem le_iff {x y : Float} : x ≤ y ↔ UnpackedFloat.le (parts x) (parts y) = true :=
  decide_eq_true_iff

theorem parts_word :
    parts 18446744073709551616.0 = .finite .positive (capacity 52) 12 (by decide) := rfl

inductive BelowWord : UnpackedFloat → Prop where
  | zero : BelowWord (.zero .positive)
  | finite {mantissa : Nat} {exponent : Int} (pos : 0 < mantissa) (bits : mantissa < capacity 53)
      (small : exponent < 12) : BelowWord (.finite .positive mantissa exponent pos)

inductive FromWord : UnpackedFloat → Prop where
  | infinity : FromWord (.infinity .positive)
  | finite {mantissa : Nat} {exponent : Int} (pos : 0 < mantissa) (bits : capacity 52 ≤ mantissa)
      (large : 12 ≤ exponent) : FromWord (.finite .positive mantissa exponent pos)

theorem Unsigned.below_or_from {x : Float} (unsigned : Unsigned x) :
    BelowWord (parts x) ∨ FromWord (parts x) := by
  unfold Unsigned at unsigned
  cases shape : parts x with
  | notANumber => rw [shape] at unsigned; cases unsigned
  | infinity sign => rw [shape] at unsigned; cases unsigned; exact Or.inr .infinity
  | zero sign => rw [shape] at unsigned; cases unsigned; exact Or.inl .zero
  | finite sign mantissa exponent pos =>
    rw [shape] at unsigned
    cases unsigned
    obtain ⟨bits, least⟩ := mantissa_bounds shape
    by_cases small : exponent < 12
    · exact Or.inl (.finite pos bits small)
    · exact Or.inr (.finite pos (least.resolve_left (by omega)) (by omega))

theorem BelowWord.lt {x : Float} (below : BelowWord (parts x)) :
    x < 18446744073709551616.0 ∧ ¬ 18446744073709551616.0 ≤ x := by
  rw [lt_iff, le_iff, parts_word]
  generalize parts x = value at below
  cases below with
  | zero => exact ⟨rfl, Bool.false_ne_true⟩
  | finite pos bits small =>
    simp only [UnpackedFloat.lt, UnpackedFloat.le, UnpackedFloat.compare,
      Int.compare_eq_lt.mpr small, Int.compare_eq_gt.mpr small]
    exact ⟨rfl, Bool.false_ne_true⟩

theorem FromWord.le {x : Float} (from_word : FromWord (parts x)) :
    18446744073709551616.0 ≤ x ∧ ¬ x < 18446744073709551616.0 := by
  rw [lt_iff, le_iff, parts_word]
  generalize parts x = value at from_word
  cases from_word with
  | infinity => exact ⟨rfl, Bool.false_ne_true⟩
  | @finite mantissa exponent pos bits large =>
    simp only [UnpackedFloat.lt, UnpackedFloat.le, UnpackedFloat.compare]
    rcases Int.lt_or_eq_of_le large with larger | rfl
    · rw [Int.compare_eq_lt.mpr larger, Int.compare_eq_gt.mpr larger]
      exact ⟨rfl, Bool.false_ne_true⟩
    · rw [show compare (12 : Int) 12 = .eq from rfl]
      have least : (compare (capacity 52) mantissa).isLE = true := Nat.isLE_compare.mpr bits
      have greatest : compare mantissa (capacity 52) ≠ .lt :=
        fun smaller => absurd (Nat.compare_eq_lt.mp smaller) (by omega)
      exact ⟨least, by simpa using greatest⟩

theorem unsigned_of_le {x : Float} (large : 18446744073709551616.0 ≤ x) : Unsigned x := by
  rw [le_iff, parts_word] at large
  unfold Unsigned
  generalize parts x = value at large
  cases value with
  | notANumber => cases large
  | zero sign => cases large
  | infinity sign =>
    cases sign with
    | positive => exact .infinity
    | negative => cases large
  | finite sign mantissa exponent pos =>
    cases sign with
    | positive => exact .finite mantissa exponent pos
    | negative => cases large

end PowerRota.Number
