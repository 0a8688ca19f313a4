import PowerRota.Proofs.Data.Steps
import PowerRota.Proofs.Duration.Notation
import PowerRota.Proofs.Number.Doubles

/-! Written durations that are too long.

The numbers of a written duration are summed as doubles, and a sum that is no duration is no fault
that can be reported: the program ends there. The sum is never negative and never undefined, so this
happens exactly to the texts of the notation that add up to two to the 64 seconds or more. Every
other text is read or refused. -/

set_option autoImplicit false

namespace PowerRota.Duration

open Text
open Number (BelowWord FromWord Unsigned)

theorem divideToEven_le (numerator denominator : Nat) :
    Number.divideToEven numerator denominator ≤ numerator / denominator + 1 := by
  unfold Number.divideToEven
  dsimp only
  split
  · omega
  split <;> omega

theorem scaledToEven_lt {mantissa : Nat} {exponent : Int} (bits : mantissa < Number.capacity 53)
    (small : exponent < 12) :
    (Number.Dyadic.mk false mantissa exponent).scaledToEven 1000000000 <
      18446744073709551616 * 1000000000 := by
  have bits : mantissa < 2 ^ 53 := bits
  unfold Number.Dyadic.scaledToEven
  dsimp only
  -- a whole number of seconds is exact; a fraction has at most 2 ^ 53 seconds, far from the limit
  split
  · have power : Nat.pow 2 exponent.toNat ≤ 2 ^ 11 :=
      Nat.pow_le_pow_right (by decide) (by omega)
    have seconds : mantissa * Nat.pow 2 exponent.toNat < 2 ^ 53 * 2 ^ 11 :=
      Nat.mul_lt_mul_of_lt_of_le bits power (by decide)
    omega
  · have rounded := divideToEven_le (mantissa * 1000000000) (Nat.pow 2 (-exponent).toNat)
    have quotient := Nat.div_le_self (mantissa * 1000000000) (Nat.pow 2 (-exponent).toNat)
    omega

theorem le_scaledToEven {mantissa : Nat} {exponent : Int} (bits : Number.capacity 52 ≤ mantissa)
    (large : 12 ≤ exponent) :
    18446744073709551616 * 1000000000 ≤
      (Number.Dyadic.mk false mantissa exponent).scaledToEven 1000000000 := by
  have power : 2 ^ 12 ≤ Nat.pow 2 exponent.toNat :=
    Nat.pow_le_pow_right (by decide) (by omega)
  have seconds : 2 ^ 52 * 2 ^ 12 ≤ mantissa * Nat.pow 2 exponent.toNat := Nat.mul_le_mul bits power
  unfold Number.Dyadic.scaledToEven
  dsimp only
  rw [if_pos (by omega)]
  omega

theorem exists_ofNanos? {nanos : Nat} (small : nanos < 18446744073709551616 * 1000000000) :
    ∃ duration, ofNanos? nanos = some duration :=
  ⟨_, dif_pos ⟨by omega, by omega⟩⟩

theorem ofNanos?_eq_none {nanos : Nat} (large : 18446744073709551616 * 1000000000 ≤ nanos) :
    ofNanos? nanos = none :=
  dif_neg fun fits => by omega

theorem ofFloat_of_plus {x : Float} {mantissa : Nat} {exponent : Int}
    (exactly : Number.Binary64.ofFloat x = .finite ⟨false, mantissa, exponent⟩) :
    ofFloat x =
      match ofNanos? ((Number.Dyadic.mk false mantissa exponent).scaledToEven 1000000000) with
      | some duration => .ok duration
      | none => .error .unrepresentable := by
  rw [ofFloat, exactly]
  rfl

theorem exists_ofFloat {x : Float} (below : BelowWord (Number.parts x)) :
    ∃ duration, ofFloat x = .ok duration := by
  have exactly := Number.Binary64.ofFloat_eq_ofParts x
  generalize Number.parts x = value at below exactly
  have fits : ∃ mantissa exponent, mantissa < Number.capacity 53 ∧ exponent < 12 ∧
      Number.Binary64.ofFloat x = .finite ⟨false, mantissa, exponent⟩ := by
    cases below with
    | zero => exact ⟨0, -1074, by decide, by decide, exactly⟩
    | finite _ bits small => exact ⟨_, _, bits, small, exactly⟩
  obtain ⟨mantissa, exponent, bits, small, exactly⟩ := fits
  obtain ⟨duration, made⟩ := exists_ofNanos? (scaledToEven_lt bits small)
  exact ⟨duration, by rw [ofFloat_of_plus exactly, made]⟩

theorem ofFloat_eq_unrepresentable {x : Float} (large : FromWord (Number.parts x)) :
    ofFloat x = .error .unrepresentable := by
  have exactly := Number.Binary64.ofFloat_eq_ofParts x
  generalize Number.parts x = value at large exactly
  cases large with
  | infinity => rw [ofFloat, exactly]; rfl
  | finite _ bits large =>
    rw [ofFloat_of_plus exactly, ofNanos?_eq_none (le_scaledToEven bits large)]

theorem exists_ofFloat_iff {x : Float} (unsigned : Unsigned x) :
    (∃ duration, ofFloat x = .ok duration) ↔ x < 18446744073709551616.0 := by
  rcases unsigned.below_or_from with below | large
  · exact iff_of_true (exists_ofFloat below) below.lt.1
  · refine iff_of_false ?_ large.le.2
    rw [ofFloat_eq_unrepresentable large]
    rintro ⟨_, ⟨⟩⟩

theorem ofFloat_eq_unrepresentable_iff {x : Float} (unsigned : Unsigned x) :
    ofFloat x = .error .unrepresentable ↔ 18446744073709551616.0 ≤ x := by
  rcases unsigned.below_or_from with below | large
  · refine iff_of_false (fun failed => ?_) below.lt.2
    obtain ⟨duration, made⟩ := exists_ofFloat below
    cases failed.symm.trans made
  · exact iff_of_true (ofFloat_eq_unrepresentable large) large.le.1

/-- The double that a numeral stands for, the nearest one to its decimals. -/
inductive StandsFor : List Char → Float → Prop where
  | whole {digits : List Char} (run : IsRun digits) :
      StandsFor digits (Number.ofDecimal (digitsValue digits) 0)
  | fraction {digits decimals : List Char} (run : IsRun digits) (more : IsRun decimals) :
      StandsFor (digits ++ '.' :: decimals)
        (Number.ofDecimal (digitsValue (digits ++ decimals)) (-decimals.length))

/-- A text of the notation, and the seconds of its numbers added one after the other to what there
was before. -/
inductive SumsTo : Float → List Char → Float → Prop where
  | one {before x : Float} {number : List Char} (stands : StandsFor number x) (unit : TimeUnit) :
      SumsTo before (number ++ unit.letters) (before + x * unit.seconds)
  | more {before x total : Float} {number rest : List Char} (stands : StandsFor number x)
      (unit : TimeUnit) (others : SumsTo (before + x * unit.seconds) rest total) :
      SumsTo before (number ++ (unit.letters ++ rest)) total

/-- A text whose numbers add up to two to the 64 seconds or more. -/
def TooLong (text : String) : Prop :=
  ∃ total, SumsTo 0.0 (trim text.toList) total ∧ 18446744073709551616.0 ≤ total

theorem Numeral.standsFor {number : List Char} (numeral : Numeral number) :
    ∃ x, StandsFor number x := by
  cases numeral with
  | whole run => exact ⟨_, .whole run⟩
  | fraction run more => exact ⟨_, .fraction run more⟩

theorem Written.sumsTo {text : List Char} (written : Written text) (before : Float) :
    ∃ total, SumsTo before text total := by
  induction written generalizing before with
  | one numeral unit =>
    obtain ⟨x, stands⟩ := numeral.standsFor
    exact ⟨_, .one stands unit⟩
  | more numeral unit _ ih =>
    obtain ⟨x, stands⟩ := numeral.standsFor
    obtain ⟨total, others⟩ := ih (before + x * unit.seconds)
    exact ⟨total, .more stands unit others⟩

theorem positive_seconds (unit : TimeUnit) :
    Number.isPositive (Number.parts unit.seconds) = true := by
  cases unit <;> decide +kernel

theorem StandsFor.unsigned {number : List Char} {x : Float} (stands : StandsFor number x) :
    Unsigned x := by
  cases stands <;> exact Number.unsigned_ofDecimal _ _

theorem SumsTo.unsigned {before total : Float} {text : List Char}
    (sums : SumsTo before text total) (unsigned : Unsigned before) : Unsigned total := by
  induction sums with
  | one stands unit => exact unsigned.add (stands.unsigned.mul (positive_seconds unit))
  | more stands unit _ ih => exact ih (unsigned.add (stands.unsigned.mul (positive_seconds unit)))

theorem Token.exists_of_standsFor {number : List Char} {x : Float} (stands : StandsFor number x)
    (unit : TimeUnit) :
    ∃ token : Token, token.Spelled isDigit ∧ token.letters = number ++ unit.letters ∧
      token.seconds? = some (x * unit.seconds) := by
  cases stands with
  | whole run =>
    obtain ⟨some_digit, digits⟩ := isRun_iff.mp run
    refine ⟨⟨number, [], unit⟩, ⟨some_digit, digits, rfl⟩, rfl, ?_⟩
    simp [seconds?, number?, digits]
  | @fraction digits decimals run more =>
    obtain ⟨some_digit, whole⟩ := isRun_iff.mp run
    obtain ⟨some_decimal, fraction⟩ := isRun_iff.mp more
    refine ⟨⟨digits, decimals, unit⟩, ⟨some_digit, whole, fraction⟩, ?_, ?_⟩
    · simp [letters, some_decimal]
    · simp [seconds?, number?, whole, fraction]

/-- The tokens of a text add up to the sum of what is written. -/
theorem SumsTo.tokens {before total : Float} {text : List Char} (sums : SumsTo before text total) :
    ∃ found : List Token, found ≠ [] ∧ (∀ token ∈ found, token.Spelled isDigit) ∧
      text = found.flatMap Token.letters ∧
      ∃ terms, found.mapM Token.seconds? = some terms ∧ terms.foldl (· + ·) before = total := by
  induction sums with
  | one stands unit =>
    obtain ⟨token, spelled, same, seconds⟩ := Token.exists_of_standsFor stands unit
    refine ⟨[token], List.cons_ne_nil _ _, List.forall_mem_singleton.mpr spelled, by simp [same],
      _, Steps.mapM_eq_some_iff.mpr (.cons seconds .nil), rfl⟩
  | more stands unit _ ih =>
    obtain ⟨token, spelled, same, seconds⟩ := Token.exists_of_standsFor stands unit
    obtain ⟨found, _, others, rfl, terms, converted, rfl⟩ := ih
    exact ⟨token :: found, List.cons_ne_nil _ _, List.forall_mem_cons.mpr ⟨spelled, others⟩,
      by simp [same], _, Steps.mapM_eq_some_iff.mpr (.cons seconds
        (Steps.mapM_eq_some_iff.mp converted)), rfl⟩

theorem read_of_sumsTo {text : String} {total : Float}
    (sums : SumsTo 0.0 (trim text.toList) total) :
    read text =
      match ofFloat total with
      | .ok duration => .ok duration
      | .error _ => .error .overflow := by
  obtain ⟨found, some_token, spelled, same, terms, converted, rfl⟩ := sums.tokens
  have some_text : trim text.toList ≠ [] := by
    obtain ⟨token, others, rfl⟩ := List.exists_cons_of_ne_nil some_token
    obtain ⟨c, rest, letters, _⟩ := (List.forall_mem_cons.mp spelled).1.begins
    simp [same, letters]
  have cut := tokens_flatMap fun token member =>
    (spelled token member).mono isDecimalDigit_of_isDigit
  unfold read
  simp only [List.isEmpty_iff, some_text, if_false]
  cases fits : ofFloat (terms.foldl (· + ·) 0.0) <;>
    simp only [same, cut, converted, if_true, fits]

theorem written_of_not_refused {text : String}
    (not_refused : ∀ fault, read text = .error fault → fault.isFatal = true) :
    Written (trim text.toList) := by
  by_contra unwritten
  obtain ⟨fault, refused, reported⟩ :=
    refused_of_not_readsWhole (mt (readsWhole_iff_written _).mp unwritten)
  rw [not_refused fault refused] at reported
  cases reported

theorem read_eq_overflow_iff {text : String} : read text = .error .overflow ↔ TooLong text := by
  constructor
  · intro overflow
    -- an end of the program is no refusal, so the text is in the notation and has a sum
    have written : Written (trim text.toList) := written_of_not_refused fun fault refused => by
      cases refused.symm.trans overflow
      rfl
    obtain ⟨total, sums⟩ := written.sumsTo 0.0
    refine ⟨total, sums, ?_⟩
    have unsigned := sums.unsigned Number.unsigned_zero
    rcases unsigned.below_or_from with below | large
    · obtain ⟨duration, made⟩ := exists_ofFloat below
      rw [read_of_sumsTo sums, made] at overflow
      cases overflow
    · exact large.le.1
  · rintro ⟨total, sums, large⟩
    rw [read_of_sumsTo sums,
      (ofFloat_eq_unrepresentable_iff (sums.unsigned Number.unsigned_zero)).mpr large]

theorem exists_read_iff {text : String} :
    (∃ duration, read text = .ok duration) ↔
      ∃ total, SumsTo 0.0 (trim text.toList) total ∧ total < 18446744073709551616.0 := by
  constructor
  · rintro ⟨duration, made⟩
    have written : Written (trim text.toList) := written_of_not_refused fun fault refused => by
      cases refused.symm.trans made
    obtain ⟨total, sums⟩ := written.sumsTo 0.0
    refine ⟨total, sums, ?_⟩
    have unsigned := sums.unsigned Number.unsigned_zero
    rw [← exists_ofFloat_iff unsigned]
    rw [read_of_sumsTo sums] at made
    cases fits : ofFloat total with
    | ok duration => exact ⟨duration, rfl⟩
    | error fault => rw [fits] at made; cases made
  · rintro ⟨total, sums, small⟩
    obtain ⟨duration, made⟩ :=
      (exists_ofFloat_iff (sums.unsigned Number.unsigned_zero)).mpr small
    exact ⟨duration, by rw [read_of_sumsTo sums, made]⟩

end PowerRota.Duration
