import Mathlib.Algebra.Group.Nat.Defs
import PowerRota.Text.Blank
import PowerRota.Text.Decimal

/-! Numbers in digits: what is printed is a run of digits with the value that was printed, and a
run is taken whole up to a character of another kind. -/

set_option autoImplicit false

namespace PowerRota.Text

variable {rest : List Char}

theorem takeWhile_append_of_stop {p : Char → Bool} {run : List Char} (inside : run.all p = true)
    (stops : ∀ c ∈ rest.head?, p c = false) :
    (run ++ rest).takeWhile p = run ∧ (run ++ rest).dropWhile p = rest := by
  have inside := List.all_eq_true.mp inside
  rw [List.takeWhile_append_of_pos inside, List.dropWhile_append_of_pos inside]
  cases rest with
  | nil => simp
  | cons c rest => simp [stops c rfl]

theorem digitsValue_eq (digits : List Char) : digitsValue digits = Nat.ofDigitChars 10 digits 0 := by
  unfold digitsValue digitValue Nat.ofDigitChars
  simp [Nat.mul_comm]

theorem digitsValue_decimal (n : Nat) : digitsValue (decimal n) = n := by
  rw [digitsValue_eq]
  exact Nat.ofDigitChars_ten_toDigits

theorem digitsValue_zeros (count : Nat) (digits : List Char) :
    digitsValue (List.replicate count '0' ++ digits) = digitsValue digits := by
  induction count with
  | zero => rfl
  | succ count ih => simpa [List.replicate_succ, digitsValue, digitValue] using ih

theorem digitsValue_zeroPadded (width n : Nat) : digitsValue (zeroPadded width n) = n := by
  simp only [zeroPadded, digitsValue_zeros, digitsValue_decimal]

theorem all_isDigit_zeroPadded (width n : Nat) : (zeroPadded width n).all isDigit = true := by
  have printed : (decimal n).all isDigit = true :=
    List.all_eq_true.mpr fun c member => Nat.isDigit_of_mem_toDigits (by decide) (by decide) member
  simp only [zeroPadded, List.all_append, printed, Bool.and_true, List.all_replicate]
  split <;> rfl

theorem length_zeroPadded {width n : Nat} (positive : 0 < width) (fits : n < 10 ^ width) :
    (zeroPadded width n).length = width := by
  have short : (decimal n).length ≤ width :=
    (Nat.length_toDigits_le_iff (by decide) positive).mpr fits
  simp only [zeroPadded, List.length_append, List.length_replicate]
  omega

theorem zeroPadded_ne_nil (width n : Nat) : zeroPadded width n ≠ [] := by
  have printed : decimal n ≠ [] := Nat.toDigits_ne_nil
  simp [zeroPadded, printed]

theorem exists_first_of_zeroPadded (width n : Nat) :
    ∃ c digits, zeroPadded width n = c :: digits ∧ isDigit c = true := by
  obtain ⟨c, digits, same⟩ := List.exists_cons_of_ne_nil (zeroPadded_ne_nil width n)
  have all := all_isDigit_zeroPadded width n
  rw [same, List.all_cons, Bool.and_eq_true] at all
  exact ⟨c, digits, same, all.1⟩

theorem readNat_zeroPadded (width n : Nat) : readNat (zeroPadded width n) = some n := by
  simp [readNat, zeroPadded_ne_nil, all_isDigit_zeroPadded, digitsValue_zeroPadded]

theorem isDigit_iff (c : Char) : isDigit c = true ↔ 48 ≤ c.toNat ∧ c.toNat ≤ 57 := by
  simp only [isDigit, Bool.and_eq_true, decide_eq_true_eq, Char.le_def, UInt32.le_iff_toNat_le]
  exact Iff.rfl

theorem isBlank_of_isDigit {c : Char} (digit : isDigit c = true) : isBlank c = false := by
  have bounds := (isDigit_iff c).mp digit
  simp [isBlank]
  omega

end PowerRota.Text
