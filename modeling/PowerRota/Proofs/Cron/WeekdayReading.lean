import Mathlib.Data.List.DropRight
import PowerRota.Proofs.Cron.WeekdayNames
import PowerRota.Proofs.Text.Digits

/-! Reading a list of named weekdays gives the items it was written from.

An item has come to its end where neither a space, a digit nor a letter follows. A step after a
single name is left over, and so is one that is no number of the size that is read. -/

set_option autoImplicit false

namespace PowerRota.Cron

open PowerRota.Text

variable {rest : List Char}

def Boundary (rest : List Char) : Prop :=
  ∀ c ∈ rest.head?, isSpace c = false ∧ isDigit c = false ∧ isLetter c = false

namespace Boundary

theorem cons {c : Char} (noSpace : isSpace c = false) (noDigit : isDigit c = false)
    (noLetter : isLetter c = false) (rest : List Char) : Boundary (c :: rest) := by
  simp [Boundary, noSpace, noDigit, noLetter]

theorem skipSpace_eq (boundary : Boundary rest) : skipSpace rest = rest := by
  cases rest with
  | nil => rfl
  | cons c rest => simp [skipSpace, (boundary c rfl).1]

end Boundary

theorem skipSpace_append {run : List Char} {p : Char → Bool} (nonempty : run ≠ [])
    (inside : run.all p = true) (spaceless : ∀ c, p c = true → isSpace c = false)
    (rest : List Char) : skipSpace (run ++ rest) = run ++ rest := by
  cases run with
  | nil => exact absurd rfl nonempty
  | cons c run =>
    have first := spaceless c (List.all_eq_true.mp inside c (List.mem_cons_self ..))
    simp [skipSpace, first]

theorem isSpace_of_isDigit {c : Char} (digit : isDigit c = true) : isSpace c = false := by
  rw [Bool.eq_false_iff]
  intro space
  simp only [isSpace, Bool.or_eq_true, beq_iff_eq] at space
  rcases space with ((rfl | rfl) | rfl) | rfl <;> cases digit

theorem isSpace_of_isLetter {c : Char} (letter : isLetter c = true) : isSpace c = false := by
  rw [Bool.eq_false_iff]
  intro space
  simp only [isSpace, Bool.or_eq_true, beq_iff_eq] at space
  rcases space with ((rfl | rfl) | rfl) | rfl <;> cases letter

namespace Numeral

variable (numeral : Numeral)

theorem readValue?_eq_some (boundary : Boundary rest) (fits : numeral.value ≤ valueLimit) :
    readValue? (numeral.digits ++ rest) = some (numeral.value, rest) := by
  have start := skipSpace_append numeral.nonempty numeral.digital (fun _ => isSpace_of_isDigit) rest
  obtain ⟨run, left⟩ :=
    takeWhile_append_of_stop numeral.digital fun c first => (boundary c first).2.1
  have small : ¬ valueLimit < digitsValue numeral.digits := Nat.not_lt.mpr fits
  simp [readValue?, start, run, left, numeral.nonempty, value, boundary.skipSpace_eq, small]

theorem readValue?_eq_none (boundary : Boundary rest) (big : valueLimit < numeral.value) :
    readValue? (numeral.digits ++ rest) = none := by
  have start := skipSpace_append numeral.nonempty numeral.digital (fun _ => isSpace_of_isDigit) rest
  have run := (takeWhile_append_of_stop numeral.digital fun c first => (boundary c first).2.1).1
  have big : valueLimit < digitsValue numeral.digits := big
  simp [readValue?, start, run, big]

theorem boundary_stepText (step? : Option Numeral) (boundary : Boundary rest) :
    Boundary (stepText step? ++ rest) := by
  cases step? with
  | none => exact boundary
  | some step => exact .cons rfl rfl rfl _

end Numeral

namespace WeekdayName

variable (name : WeekdayName)

def lower (name : WeekdayName) : String :=
  lowerAscii (String.ofList name.letters)

theorem readName?_letters (boundary : Boundary rest) :
    readName? (name.letters ++ rest) = some (name.lower, rest) := by
  have start := skipSpace_append name.letters_ne_nil name.spelled (fun _ => isSpace_of_isLetter) rest
  obtain ⟨run, left⟩ := takeWhile_append_of_stop name.spelled fun c first => (boundary c first).2.2
  simp [readName?, start, run, left, name.letters_ne_nil, boundary.skipSpace_eq, lower]

theorem exists_first (name : WeekdayName) : ∃ c letters, name.letters = c :: letters ∧
    isLetter c = true ∧ isSpace c = false := by
  obtain ⟨c, letters, same⟩ := List.exists_cons_of_ne_nil name.letters_ne_nil
  have letter : isLetter c = true :=
    List.all_eq_true.mp name.spelled c (same ▸ List.mem_cons_self ..)
  exact ⟨c, letters, same, letter, isSpace_of_isLetter letter⟩

theorem readValue?_letters (rest : List Char) : readValue? (name.letters ++ rest) = none := by
  obtain ⟨c, letters, same, letter, spaceless⟩ := name.exists_first
  simp [readValue?, skipSpace, same, spaceless, isDigit_of_isLetter letter]

theorem readMark?_letters {mark : Char} (noLetter : isLetter mark = false) (rest : List Char) :
    readMark? mark (name.letters ++ rest) = none := by
  obtain ⟨c, letters, same, letter, spaceless⟩ := name.exists_first
  have other : c ≠ mark := by
    rintro rfl
    rw [letter] at noLetter
    cases noLetter
  simp [readMark?, skipSpace, same, spaceless, other]

theorem readRange?_letters (rest : List Char) :
    readRange? true (name.letters ++ rest) = readNamedBetween? (name.letters ++ rest) := by
  have question : readMark? '?' (name.letters ++ rest) = none := name.readMark?_letters rfl rest
  have star : readMark? '*' (name.letters ++ rest) = none := name.readMark?_letters rfl rest
  simp [readRange?, readBetween?, question, star, readValue?_letters]

end WeekdayName

namespace NamedRange

def range? : NamedRange → Option Range
  | every => some .every
  | point _ => none
  | between low high => some (.namedBetween low.lower high.lower)

theorem readRange?_text (range : NamedRange) (boundary : Boundary rest)
    (apart : rest.head? ≠ some '-') :
    readRange? true (range.text ++ rest) = range.range?.map fun read => (read, rest) := by
  cases range with
  | every =>
    have question : readMark? '?' ('*' :: rest) = none := rfl
    have star : readMark? '*' ('*' :: rest) = some rest :=
      congrArg some boundary.skipSpace_eq
    simp [text, readRange?, question, star, range?]
  | point day =>
    have closed : readSeparator? '-' rest = none := by
      cases rest with
      | nil => rfl
      | cons c rest => simpa [readSeparator?] using apart
    simp [text, range?, day.readRange?_letters, readNamedBetween?, closed,
      day.readName?_letters boundary]
  | between low high =>
    have dash : Boundary ('-' :: (high.letters ++ rest)) := .cons rfl rfl rfl _
    simp [text, range?, low.readRange?_letters, readNamedBetween?, readSeparator?,
      low.readName?_letters dash, high.readName?_letters boundary]

end NamedRange

def Ends (rest : List Char) : Prop :=
  ∀ c ∈ rest.head?, c = ','

theorem Ends.boundary (ends : Ends rest) : Boundary rest := by
  intro c first
  obtain rfl := ends c first
  exact ⟨rfl, rfl, rfl⟩

theorem readSeparator?_of_ends (ends : Ends rest) {mark : Char} (other : mark ≠ ',') :
    readSeparator? mark rest = none := by
  cases rest with
  | nil => rfl
  | cons c rest =>
    obtain rfl := ends c rfl
    simp [readSeparator?, other.symm]

namespace NamedItem

def Complete (item : NamedItem) : Prop :=
  ∀ step, item.step? = some step → item.range.range?.isSome ∧ step.value ≤ valueLimit

def item : NamedItem → Item
  | ⟨.point day, _⟩ => .named day.lower
  | ⟨.every, none⟩ => .plain .every
  | ⟨.every, some step⟩ => .stepped .every step.value
  | ⟨.between low high, none⟩ => .plain (.namedBetween low.lower high.lower)
  | ⟨.between low high, some step⟩ => .stepped (.namedBetween low.lower high.lower) step.value

theorem readRange?_text (item : NamedItem) (ends : Ends rest) :
    readRange? true (item.text ++ rest) =
      item.range.range?.map fun read => (read, Numeral.stepText item.step? ++ rest) := by
  have boundary := Numeral.boundary_stepText item.step? ends.boundary
  have apart : (Numeral.stepText item.step? ++ rest).head? ≠ some '-' := by
    cases item.step? with
    | none => exact fun dash => absurd (ends '-' dash) (by decide)
    | some step => exact fun dash => absurd (Option.some.inj dash) (by decide)
  rw [text, List.append_assoc, item.range.readRange?_text boundary apart]

theorem readName?_text {day : WeekdayName} {step? : Option Numeral} (ends : Ends rest) :
    readName? (text ⟨.point day, step?⟩ ++ rest) =
      some (day.lower, Numeral.stepText step? ++ rest) := by
  rw [text, List.append_assoc]
  exact day.readName?_letters (Numeral.boundary_stepText step? ends.boundary)

theorem exists_first (item : NamedItem) :
    ∃ c rest, item.text = c :: rest ∧ (isLetter c = true ∨ c = '*') := by
  obtain ⟨range, step?⟩ := item
  cases range with
  | every => exact ⟨'*', _, rfl, .inr rfl⟩
  | point day =>
    obtain ⟨c, letters, same, letter, _⟩ := day.exists_first
    exact ⟨c, letters ++ Numeral.stepText step?, by simp [text, NamedRange.text, same], .inl letter⟩
  | between low high =>
    obtain ⟨c, letters, same, letter, _⟩ := low.exists_first
    exact ⟨c, letters ++ '-' :: high.letters ++ Numeral.stepText step?,
      by simp [text, NamedRange.text, same], .inl letter⟩

theorem readItem?_of_complete {item : NamedItem} (complete : item.Complete) (ends : Ends rest) :
    readItem? true (item.text ++ rest) = some (item.item, rest) := by
  have read := item.readRange?_text ends
  obtain ⟨range, step?⟩ := item
  cases step? with
  | none =>
    have last : readSeparator? '/' rest = none := readSeparator?_of_ends ends (by decide)
    cases range with
    | point day => simp [readItem?, readStepped?, read, NamedRange.range?, readName?_text ends,
        NamedItem.item, Numeral.stepText]
    | every | between low high =>
      simp [readItem?, readStepped?, read, last, NamedRange.range?, NamedItem.item,
        Numeral.stepText]
  | some step =>
    obtain ⟨known, fits⟩ := complete step rfl
    have value := step.readValue?_eq_some ends.boundary fits
    cases range with
    | point day => cases known
    | every | between low high =>
      simp [readItem?, readStepped?, read, NamedRange.range?, NamedItem.item, Numeral.stepText,
        readSeparator?, value]

theorem readItem?_of_incomplete {item : NamedItem} (incomplete : ¬ item.Complete)
    (ends : Ends rest) : ∃ read after,
      readItem? true (item.text ++ rest) = some (read, '/' :: after) := by
  have read := item.readRange?_text ends
  obtain ⟨range, step?⟩ := item
  cases step? with
  | none => exact absurd (fun step none => nomatch none) incomplete
  | some step =>
    cases range with
    | point day =>
      refine ⟨.named day.lower, step.digits ++ rest, ?_⟩
      simp [readItem?, readStepped?, read, NamedRange.range?, readName?_text ends,
        Numeral.stepText]
    | every | between low high =>
      have big : valueLimit < step.value := by
        simpa [Complete, NamedRange.range?] using incomplete
      have value := step.readValue?_eq_none ends.boundary big
      simp [readItem?, readStepped?, read, NamedRange.range?, Numeral.stepText, readSeparator?,
        value]

end NamedItem

def namedList (items : List NamedItem) : List Char :=
  join [','] (items.map NamedItem.text)

theorem namedList_cons (item next : NamedItem) (items : List NamedItem) :
    namedList (item :: next :: items) = item.text ++ ',' :: namedList (next :: items) := by
  simp [namedList, join]

theorem ends_nil : Ends [] :=
  fun _ first => nomatch first

theorem ends_comma (rest : List Char) : Ends (',' :: rest) :=
  fun _ first => (Option.some.inj first).symm

theorem readItems?_of_complete {items : List NamedItem} (some_item : items ≠ [])
    (complete : ∀ item ∈ items, item.Complete) {fuel : Nat} (enough : items.length ≤ fuel) :
    readItems? true fuel (namedList items) = some (items.map NamedItem.item, []) := by
  induction items generalizing fuel with
  | nil => exact absurd rfl some_item
  | cons item items ih =>
    obtain ⟨here, later⟩ := List.forall_mem_cons.mp complete
    obtain ⟨fuel, rfl⟩ := Nat.exists_eq_add_one_of_ne_zero (Nat.ne_zero_of_lt enough)
    cases items with
    | nil =>
      have last := NamedItem.readItem?_of_complete here ends_nil
      rw [List.append_nil] at last
      simp [readItems?, namedList, join, last, readSeparator?]
    | cons next items =>
      have first := NamedItem.readItem?_of_complete here (ends_comma (namedList (next :: items)))
      have others := ih (List.cons_ne_nil _ _) later (Nat.le_of_succ_le_succ enough)
      simp [readItems?, namedList_cons, first, others, readSeparator?]

theorem readItems?_of_incomplete {items : List NamedItem}
    (incomplete : ∃ item ∈ items, ¬ item.Complete) {fuel : Nat} (enough : items.length ≤ fuel) :
    ∃ read after, readItems? true fuel (namedList items) = some (read, '/' :: after) := by
  induction items generalizing fuel with
  | nil => simp at incomplete
  | cons item items ih =>
    obtain ⟨fuel, rfl⟩ := Nat.exists_eq_add_one_of_ne_zero (Nat.ne_zero_of_lt enough)
    by_cases here : item.Complete
    · have later : ∃ item ∈ items, ¬ item.Complete := by simpa [here] using incomplete
      obtain ⟨read, after, others⟩ := ih later (Nat.le_of_succ_le_succ enough)
      cases items with
      | nil => simp at later
      | cons next items =>
        have first := NamedItem.readItem?_of_complete here (ends_comma (namedList (next :: items)))
        exact ⟨item.item :: read, after, by
          simp [readItems?, namedList_cons, first, others, readSeparator?]⟩
    · cases items with
      | nil =>
        obtain ⟨read, after, last⟩ := NamedItem.readItem?_of_incomplete here ends_nil
        rw [List.append_nil] at last
        exact ⟨[read], after, by simp [readItems?, namedList, join, last, readSeparator?]⟩
      | cons next items =>
        obtain ⟨read, after, first⟩ :=
          NamedItem.readItem?_of_incomplete here (ends_comma (namedList (next :: items)))
        exact ⟨[read], after, by simp [readItems?, namedList_cons, first, readSeparator?]⟩

theorem length_le_namedList (items : List NamedItem) :
    items.length ≤ (namedList items).length := by
  induction items with
  | nil => exact Nat.zero_le _
  | cons item items ih =>
    cases items with
    | nil =>
      obtain ⟨c, rest, same, _⟩ := item.exists_first
      simp [namedList, join, same]
    | cons next items =>
      rw [namedList_cons]
      simp only [List.length_append, List.length_cons] at *
      omega

theorem exists_first_of_namedList {items : List NamedItem} (some_item : items ≠ []) :
    ∃ c rest, namedList items = c :: rest ∧ (isLetter c = true ∨ c = '*') := by
  cases items with
  | nil => exact absurd rfl some_item
  | cons item items =>
    obtain ⟨c, rest, same, first⟩ := item.exists_first
    cases items with
    | nil => exact ⟨c, rest, by simp [namedList, join, same], first⟩
    | cons next items => exact ⟨c, _, by rw [namedList_cons, same]; rfl, first⟩

theorem skipSpace_namedList (items : List NamedItem) :
    skipSpace (namedList items) = namedList items := by
  by_cases some_item : items = []
  · subst some_item
    rfl
  · obtain ⟨c, rest, same, letter | rfl⟩ := exists_first_of_namedList some_item
    · simp [same, skipSpace, isSpace_of_isLetter letter]
    · rw [same]
      rfl

theorem readField?_of_complete {items : List NamedItem} (some_item : items ≠ [])
    (complete : ∀ item ∈ items, item.Complete) :
    readField? .dayOfWeek (namedList items) =
      (fieldValues? .dayOfWeek (items.map NamedItem.item)).map fun values => (values, []) := by
  have enough := Nat.le_succ_of_le (length_le_namedList items)
  simp only [readField?, skipSpace_namedList, beq_self_eq_true, Bool.or_true,
    readItems?_of_complete some_item complete enough, Option.bind_eq_bind, Option.bind_some]
  cases fieldValues? .dayOfWeek (items.map NamedItem.item) <;> rfl

theorem readField?_of_incomplete {items : List NamedItem}
    (incomplete : ∃ item ∈ items, ¬ item.Complete) {values : List Nat} {rest : List Char}
    (read : readField? .dayOfWeek (namedList items) = some (values, rest)) :
    ∃ after, rest = '/' :: after := by
  have enough := Nat.le_succ_of_le (length_le_namedList items)
  obtain ⟨found, after, items⟩ := readItems?_of_incomplete incomplete enough
  simp only [readField?, skipSpace_namedList, beq_self_eq_true, Bool.or_true, items,
    Option.bind_eq_bind, Option.bind_some] at read
  obtain ⟨_, _, same⟩ := Option.bind_eq_some_iff.mp read
  cases same
  exact ⟨after, rfl⟩

def readBefore? (text : List Char) : Option (List Char) := do
  let (_, rest) ← readField? .second text
  let (_, rest) ← readField? .minute rest
  let (_, rest) ← readField? .hour rest
  let (_, rest) ← readField? .dayOfMonth rest
  let (_, rest) ← readField? .month rest
  return rest

theorem readFields?_weekdays {text rest : List Char} {expression : Expression}
    (read : readFields? text = some expression) (before : readBefore? text = some rest) :
    ∃ after, readField? .dayOfWeek rest = some (expression.daysOfWeek, after) ∧
      (after = [] ∨ (readField? .year after).isSome) := by
  unfold readFields? at read
  unfold readBefore? at before
  obtain ⟨seconds, second, read⟩ := Option.bind_eq_some_iff.mp read
  obtain ⟨minutes, minute, read⟩ := Option.bind_eq_some_iff.mp read
  obtain ⟨hours, hour, read⟩ := Option.bind_eq_some_iff.mp read
  obtain ⟨days, day, read⟩ := Option.bind_eq_some_iff.mp read
  obtain ⟨months, month, read⟩ := Option.bind_eq_some_iff.mp read
  obtain ⟨weekdays, weekday, read⟩ := Option.bind_eq_some_iff.mp read
  obtain rfl : months.2 = rest := by
    simpa [second, minute, hour, day, month] using before
  refine ⟨weekdays.2, ?_, ?_⟩
  · dsimp only at read
    split at read
    · cases read
      exact weekday
    · cases read
  · cases year : readField? .year weekdays.2 with
    | none => exact Or.inl (by simpa [year] using read : _ ∧ _).1
    | some _ => exact Or.inr rfl

theorem readItem?_eq_none {text : List Char} (question : Bool)
    (idle : ∀ c ∈ (skipSpace text).head?, c ∈ ['-', '/', ',']) : readItem? question text = none := by
  cases start : skipSpace text with
  | nil =>
    simp [readItem?, readStepped?, readRange?, readBetween?, readNamedBetween?, readValue?,
      readName?, readMark?, start]
  | cons c rest =>
    have listed : c ∈ ['-', '/', ','] := idle c (start ▸ rfl)
    simp only [List.mem_cons, List.not_mem_nil, or_false] at listed
    rcases listed with rfl | rfl | rfl <;>
      simp [readItem?, readStepped?, readRange?, readBetween?, readNamedBetween?, readValue?,
        readName?, readMark?, start, isDigit, isLetter]

theorem readField?_eq_none {text : List Char} (field : Field)
    (idle : ∀ c ∈ (skipSpace text).head?, c ∈ ['-', '/', ',']) : readField? field text = none := by
  have twice : skipSpace (skipSpace text) = skipSpace text := List.dropWhile_idempotent _ _
  rw [← twice] at idle
  simp [readField?, readItems?, readItem?_eq_none _ idle]

end PowerRota.Cron
