import PowerRota.Proofs.Duration.Tokens

/-! The notation for durations as a grammar, and the texts that are refused.

A text is in the notation if numbers with units follow one another and nothing else. The search for
tokens comes to the end of exactly these texts, so nothing else is accepted, and none of them is
refused. A text of the notation may still stand for more seconds than fit; reading it is no refusal
then, but the end of the program. -/

set_option autoImplicit false

namespace PowerRota.Duration

open Text

def IsRun (text : List Char) : Prop := text ≠ [] ∧ ∀ c ∈ text, isDigit c = true

inductive Numeral : List Char → Prop where
  | whole {digits : List Char} (run : IsRun digits) : Numeral digits
  | fraction {digits decimals : List Char} (run : IsRun digits) (more : IsRun decimals) :
      Numeral (digits ++ '.' :: decimals)

/-- The notation for durations. -/
inductive Written : List Char → Prop where
  | one {number : List Char} (numeral : Numeral number) (unit : TimeUnit) :
      Written (number ++ unit.letters)
  | more {number rest : List Char} (numeral : Numeral number) (unit : TimeUnit)
      (others : Written rest) : Written (number ++ (unit.letters ++ rest))

theorem isDecimalDigit_of_isDigit (c : Char) (digit : isDigit c = true) :
    isDecimalDigit c = true := by
  obtain ⟨first, last⟩ := (isDigit_iff c).mp digit
  simp [isDecimalDigit, decimalDigitRanges, first, last]

theorem isRun_iff {text : List Char} : IsRun text ↔ text ≠ [] ∧ text.all isDigit = true := by
  rw [IsRun, List.all_eq_true]

theorem Token.exists_of_numeral {number : List Char} (numeral : Numeral number)
    (unit : TimeUnit) :
    ∃ token : Token, token.Spelled isDigit ∧ token.letters = number ++ unit.letters := by
  cases numeral with
  | whole run =>
    obtain ⟨some_digit, digits⟩ := isRun_iff.mp run
    exact ⟨⟨number, [], unit⟩, ⟨some_digit, digits, rfl⟩, rfl⟩
  | @fraction digits decimals run more =>
    obtain ⟨some_digit, whole⟩ := isRun_iff.mp run
    obtain ⟨some_decimal, fraction⟩ := isRun_iff.mp more
    refine ⟨⟨digits, decimals, unit⟩, ⟨some_digit, whole, fraction⟩, ?_⟩
    simp [letters, some_decimal]

theorem Token.Spelled.numeral {token : Token} (spelled : token.Spelled isDigit) :
    ∃ number, Numeral number ∧ token.letters = number ++ token.unit.letters := by
  have run := isRun_iff.mpr ⟨spelled.some_digit, spelled.whole⟩
  by_cases absent : token.fraction = []
  · exact ⟨_, .whole run, by simp [letters, absent]⟩
  · exact ⟨_, .fraction run (isRun_iff.mpr ⟨absent, spelled.fraction⟩), by simp [letters, absent]⟩

theorem written_iff_tokens {text : List Char} :
    Written text ↔ ∃ found : List Token, found ≠ [] ∧
      (∀ token ∈ found, token.Spelled isDigit) ∧ text = found.flatMap Token.letters := by
  constructor
  · intro written
    induction written with
    | one numeral unit =>
      obtain ⟨token, spelled, same⟩ := Token.exists_of_numeral numeral unit
      exact ⟨[token], List.cons_ne_nil _ _, List.forall_mem_singleton.mpr spelled, by simp [same]⟩
    | more numeral unit _ ih =>
      obtain ⟨token, spelled, same⟩ := Token.exists_of_numeral numeral unit
      obtain ⟨found, _, others, rfl⟩ := ih
      exact ⟨token :: found, List.cons_ne_nil _ _, List.forall_mem_cons.mpr ⟨spelled, others⟩,
        by simp [same]⟩
  · rintro ⟨found, some_token, spelled, rfl⟩
    induction found with
    | nil => exact absurd rfl some_token
    | cons token found ih =>
      obtain ⟨first, later⟩ := List.forall_mem_cons.mp spelled
      obtain ⟨number, numeral, same⟩ := first.numeral
      cases found with
      | nil => simpa [same] using Written.one numeral token.unit
      | cons next found =>
        rw [List.flatMap_cons, same, List.append_assoc]
        exact .more numeral token.unit (ih (List.cons_ne_nil _ _) later)

/-- The search finds one token after the other up to the end of a text, and their digits make
numbers. -/
structure ReadsWhole (text : List Char) : Prop where
  some_text : text ≠ []
  nothing_left : (tokens text).2 = []
  numbers : ∀ token ∈ (tokens text).1, token.number?.isSome = true

theorem Token.isSome_number?_iff (token : Token) :
    token.number?.isSome = true ↔
      token.whole.all isDigit = true ∧ token.fraction.all isDigit = true := by
  unfold number?
  rw [← Bool.and_eq_true_iff]
  split <;> simp_all

theorem readsWhole_iff_written (text : List Char) : ReadsWhole text ↔ Written text := by
  rw [written_iff_tokens]
  constructor
  · intro reads
    obtain ⟨same, spelled, _⟩ := cut_tokens text
    rw [reads.nothing_left, List.append_nil] at same
    refine ⟨(tokens text).1, fun empty => ?_, fun token member => ?_, same⟩
    · rw [empty] at same
      exact reads.some_text same
    · obtain ⟨whole, fraction⟩ := token.isSome_number?_iff.mp (reads.numbers token member)
      exact ⟨(spelled token member).some_digit, whole, fraction⟩
  · rintro ⟨found, some_token, spelled, rfl⟩
    have read := tokens_flatMap fun token member =>
      (spelled token member).mono isDecimalDigit_of_isDigit
    refine ⟨?_, by rw [read], fun token member => ?_⟩
    · obtain ⟨token, others, rfl⟩ := List.exists_cons_of_ne_nil some_token
      obtain ⟨c, rest, same, _⟩ := (List.forall_mem_cons.mp spelled).1.begins
      simp [same]
    · rw [read] at member
      have digits := spelled token member
      exact token.isSome_number?_iff.mpr ⟨digits.whole, digits.fraction⟩

theorem isSome_mapM_iff {Entry Value : Type} {convert : Entry → Option Value}
    {entries : List Entry} :
    (entries.mapM convert).isSome = true ↔ ∀ entry ∈ entries, (convert entry).isSome = true := by
  induction entries with
  | nil => simp
  | cons entry entries ih =>
    rw [List.mapM_cons, List.forall_mem_cons, ← ih]
    cases convert entry <;> cases entries.mapM convert <;> simp

theorem read_of_readsWhole {text : String} (reads : ReadsWhole (trim text.toList)) :
    (∃ duration, read text = .ok duration) ∨ read text = .error .overflow := by
  have terms : ((tokens (trim text.toList)).1.mapM Token.seconds?).isSome = true :=
    isSome_mapM_iff.mpr fun token member => by simp [Token.seconds?, reads.numbers token member]
  obtain ⟨terms, same⟩ := Option.isSome_iff_exists.mp terms
  unfold read
  simp only [List.isEmpty_iff, reads.some_text, reads.nothing_left, same, if_true, if_false]
  cases ofFloat (terms.foldl (· + ·) 0.0) with
  | ok duration => exact Or.inl ⟨duration, rfl⟩
  | error fault => exact Or.inr rfl

theorem refused_of_not_readsWhole {text : String} (stops : ¬ ReadsWhole (trim text.toList)) :
    ∃ fault, read text = .error fault ∧ fault.isFatal = false := by
  unfold read
  simp only [List.isEmpty_iff]
  by_cases empty : trim text.toList = []
  · exact ⟨.empty, by rw [if_pos empty], rfl⟩
  rw [if_neg empty]
  cases terms : (tokens (trim text.toList)).1.mapM Token.seconds? with
  | none => exact ⟨.number, rfl, rfl⟩
  | some terms =>
    have numbers : ∀ token ∈ (tokens (trim text.toList)).1, token.number?.isSome = true := by
      intro token member
      have seconds := isSome_mapM_iff.mp (Option.isSome_of_eq_some terms) token member
      simpa [Token.seconds?] using seconds
    have left : (tokens (trim text.toList)).2 ≠ [] := fun nothing =>
      stops ⟨empty, nothing, numbers⟩
    exact ⟨.malformed text, if_neg left, rfl⟩

/-- A text is refused exactly if, without the white space around it, it is not in the notation.
The search for matches of the pattern reads exactly the texts in the notation whole. -/
theorem refused_iff_not_written (text : String) :
    ((∃ fault, read text = .error fault ∧ fault.isFatal = false) ↔
      ¬ Written (trim text.toList)) ∧
    (ReadsWhole (trim text.toList) ↔ Written (trim text.toList)) ∧
    ∀ rest, findToken? rest = firstMatch? rest := by
  have whole := readsWhole_iff_written (trim text.toList)
  refine ⟨?_, whole, findToken?_eq_firstMatch?⟩
  rw [← whole]
  constructor
  · rintro ⟨fault, refused, reported⟩ reads
    rcases read_of_readsWhole reads with ⟨duration, read⟩ | fatal
    · cases refused.symm.trans read
    · cases refused.symm.trans fatal
      cases reported
  · exact refused_of_not_readsWhole

end PowerRota.Duration
