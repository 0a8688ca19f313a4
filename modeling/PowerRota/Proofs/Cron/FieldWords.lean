import Mathlib.Data.List.Forall2
import PowerRota.Proofs.Cron.WeekdayReading

/-! A field that is a word of its own is read alike before another word.

The readers look past a word for a mark that goes on with an item. Where the next word begins
with none, a field that comes to its end alone comes to its end there too. -/

set_option autoImplicit false

namespace PowerRota.Cron

open PowerRota.Text

variable {text rest tail : List Char}

def onward (tail rest : List Char) : List Char :=
  skipSpace (rest ++ ' ' :: tail)

def Opens (tail : List Char) : Prop :=
  ∀ mark ∈ ['-', '/', ','], (skipSpace tail).head? ≠ some mark

theorem onward_of_blank (blank : skipSpace rest = []) : onward tail rest = skipSpace tail := by
  induction rest with
  | nil => rfl
  | cons c rest ih =>
    cases space : isSpace c with
    | true => simpa [onward, skipSpace, space] using ih (by simpa [skipSpace, space] using blank)
    | false => simp [skipSpace, space] at blank

theorem onward_cons {c : Char} (shown : isSpace c = false) (rest : List Char) :
    onward tail (c :: rest) = c :: (rest ++ ' ' :: tail) := by
  simp [onward, skipSpace, shown]

theorem skipSpace_append_of_ne_nil (shown : skipSpace text ≠ []) (after : List Char) :
    skipSpace (text ++ after) = skipSpace text ++ after := by
  induction text with
  | nil => exact absurd rfl shown
  | cons c text ih =>
    cases blank : isSpace c with
    | true => simpa [skipSpace, blank] using ih (by simpa [skipSpace, blank] using shown)
    | false => simp [skipSpace, blank]

theorem onward_skipSpace (rest : List Char) : onward tail (skipSpace rest) = onward tail rest := by
  induction rest with
  | nil => rfl
  | cons c rest ih =>
    cases blank : isSpace c with
    | true => simpa [onward, skipSpace, blank] using ih
    | false => simp [skipSpace, blank]

theorem takeWhile_append_space {p : Char → Bool} (stops : p ' ' = false) (text tail : List Char) :
    (text ++ ' ' :: tail).takeWhile p = text.takeWhile p ∧
      (text ++ ' ' :: tail).dropWhile p = text.dropWhile p ++ ' ' :: tail := by
  induction text with
  | nil => simp [stops]
  | cons c text ih => cases inside : p c <;> simp [inside, ih]

theorem readValue?_append (shown : skipSpace text ≠ []) :
    readValue? (text ++ ' ' :: tail) = (readValue? text).map (Prod.map id (onward tail)) := by
  have digits := takeWhile_append_space (p := isDigit) rfl (skipSpace text) tail
  simp only [readValue?, skipSpace_append_of_ne_nil shown, digits]
  split
  next => rfl
  next =>
    simp only [Option.map_some, Prod.map_apply, id_eq, onward_skipSpace]
    rfl

theorem readName?_append (shown : skipSpace text ≠ []) :
    readName? (text ++ ' ' :: tail) = (readName? text).map (Prod.map id (onward tail)) := by
  have letters := takeWhile_append_space (p := isLetter) rfl (skipSpace text) tail
  simp only [readName?, skipSpace_append_of_ne_nil shown, letters]
  split
  next => rfl
  next =>
    simp only [Option.map_some, Prod.map_apply, id_eq, onward_skipSpace]
    rfl

theorem readMark?_append (shown : skipSpace text ≠ []) (mark : Char) :
    readMark? mark (text ++ ' ' :: tail) = (readMark? mark text).map (onward tail) := by
  simp only [readMark?, skipSpace_append_of_ne_nil shown]
  cases start : skipSpace text with
  | nil => exact absurd start shown
  | cons c rest =>
    simp only [List.cons_append]
    split
    next =>
      simp only [Option.map_some, onward_skipSpace]
      rfl
    next => rfl

theorem readSeparator?_eq_some_iff {mark : Char} :
    readSeparator? mark text = some rest ↔ text = mark :: rest := by
  cases text with
  | nil => simp [readSeparator?]
  | cons c text =>
    by_cases same : c = mark <;> simp [readSeparator?, same]

theorem readSeparator?_of_head? {mark : Char} (other : text.head? ≠ some mark) :
    readSeparator? mark text = none := by
  rw [Option.eq_none_iff_forall_ne_some]
  intro after found
  exact other (readSeparator?_eq_some_iff.mp found ▸ rfl)

theorem shown_of_readValue? {value : Nat × List Char} (read : readValue? text = some value) :
    skipSpace text ≠ [] := by
  intro blank
  simp [readValue?, blank] at read

theorem shown_of_readName? {value : String × List Char} (read : readName? text = some value) :
    skipSpace text ≠ [] := by
  intro blank
  simp [readName?, blank] at read

theorem readBetween?_append {range : Range} (read : readBetween? text = some (range, rest)) :
    readBetween? (text ++ ' ' :: tail) = some (range, onward tail rest) := by
  obtain ⟨⟨low, _⟩, first, read⟩ := Option.bind_eq_some_iff.mp read
  obtain ⟨after, dash, read⟩ := Option.bind_eq_some_iff.mp read
  obtain ⟨⟨high, _⟩, second, read⟩ := Option.bind_eq_some_iff.mp read
  cases read
  obtain rfl := readSeparator?_eq_some_iff.mp dash
  have dashed : onward tail ('-' :: after) = '-' :: (after ++ ' ' :: tail) := onward_cons rfl after
  simp [readBetween?, readValue?_append (shown_of_readValue? first), first, dashed, readSeparator?,
    readValue?_append (shown_of_readValue? second), second]

theorem readNamedBetween?_append {range : Range}
    (read : readNamedBetween? text = some (range, rest)) :
    readNamedBetween? (text ++ ' ' :: tail) = some (range, onward tail rest) := by
  obtain ⟨⟨low, _⟩, first, read⟩ := Option.bind_eq_some_iff.mp read
  obtain ⟨after, dash, read⟩ := Option.bind_eq_some_iff.mp read
  obtain ⟨⟨high, _⟩, second, read⟩ := Option.bind_eq_some_iff.mp read
  cases read
  obtain rfl := readSeparator?_eq_some_iff.mp dash
  have dashed : onward tail ('-' :: after) = '-' :: (after ++ ' ' :: tail) := onward_cons rfl after
  simp [readNamedBetween?, readName?_append (shown_of_readName? first), first, dashed,
    readSeparator?, readName?_append (shown_of_readName? second), second]

theorem readBetween?_onward {low : Nat} (first : readValue? text = some (low, rest))
    (closed : readSeparator? '-' (onward tail rest) = none) :
    readBetween? (text ++ ' ' :: tail) = none := by
  simp [readBetween?, readValue?_append (shown_of_readValue? first), first, closed]

theorem readNamedBetween?_onward {low : String} (first : readName? text = some (low, rest))
    (closed : readSeparator? '-' (onward tail rest) = none) :
    readNamedBetween? (text ++ ' ' :: tail) = none := by
  simp [readNamedBetween?, readName?_append (shown_of_readName? first), first, closed]

theorem readRange?_of_blank {question : Bool} (blank : skipSpace text = []) :
    readRange? question text = none := by
  simp [readRange?, readMark?, readBetween?, readNamedBetween?, readValue?, readName?, blank]

theorem readRange?_append {question : Bool} {range : Range}
    (read : readRange? question text = some (range, rest))
    (closed : readSeparator? '-' (onward tail rest) = none) :
    readRange? question (text ++ ' ' :: tail) = some (range, onward tail rest) := by
  have shown : skipSpace text ≠ [] := by
    intro blank
    rw [readRange?_of_blank blank] at read
    cases read
  have start : (if question then
        (readMark? '?' (text ++ ' ' :: tail)).map fun rest => (Range.every, rest) else none) =
      (if question then (readMark? '?' text).map fun rest => (Range.every, rest) else none).map
        (Prod.map id (onward tail)) := by
    cases question <;> simp [readMark?_append shown, Function.comp_def]
  unfold readRange? at read ⊢
  rw [start, readMark?_append shown, readValue?_append shown]
  revert read
  cases (if question then (readMark? '?' text).map fun rest => (Range.every, rest) else none) with
  | some every =>
    rintro ⟨⟩
    rfl
  | none =>
    cases readMark? '*' text with
    | some every =>
      rintro ⟨⟩
      rfl
    | none =>
      cases between : readBetween? text with
      | some range =>
        rintro ⟨⟩
        simp [readBetween?_append between]
      | none =>
        cases value : readValue? text with
        | some value' =>
          -- no span was read after the value, and there is no dash for one in the next word
          rintro ⟨⟩
          simp [readBetween?_onward value closed]
        | none =>
          intro read
          have unread : readBetween? (text ++ ' ' :: tail) = none := by
            simp [readBetween?, readValue?_append shown, value]
          have named : readNamedBetween? text = some (range, rest) := read
          simp [unread, readNamedBetween?_append named]

theorem readRange?_of_name {question : Bool} {name : String}
    (missing : readRange? question text = none) (first : readName? text = some (name, rest))
    (closed : readSeparator? '-' (onward tail rest) = none) :
    readRange? question (text ++ ' ' :: tail) = none := by
  have shown := shown_of_readName? first
  have named := readNamedBetween?_onward first closed
  simp only [readRange?, Option.orElse_eq_orElse, Option.orElse_eq_or, Option.or_eq_none_iff,
    Option.map_eq_none_iff] at missing ⊢
  obtain ⟨start, star, between, value, -⟩ := missing
  have unvalued : readValue? (text ++ ' ' :: tail) = none := by simp [readValue?_append shown, value]
  refine ⟨?_, by simp [readMark?_append shown, star], by simp [readBetween?, unvalued], unvalued, named⟩
  cases question with
  | false => rfl
  | true => simpa [readMark?_append shown] using start

theorem readStepped?_append {question : Bool} {item : Item}
    (read : readStepped? question text = some (item, rest)) :
    readStepped? question (text ++ ' ' :: tail) = some (item, onward tail rest) := by
  obtain ⟨⟨range, _⟩, first, read⟩ := Option.bind_eq_some_iff.mp read
  obtain ⟨after, slash, read⟩ := Option.bind_eq_some_iff.mp read
  obtain ⟨⟨step, _⟩, second, read⟩ := Option.bind_eq_some_iff.mp read
  cases read
  obtain rfl := readSeparator?_eq_some_iff.mp slash
  have slashed : onward tail ('/' :: after) = '/' :: (after ++ ' ' :: tail) := onward_cons rfl after
  have closed : readSeparator? '-' (onward tail ('/' :: after)) = none := by
    rw [slashed]
    rfl
  simp [readStepped?, readRange?_append first closed, slashed, readSeparator?,
    readValue?_append (shown_of_readValue? second), second]

theorem readItem?_append {question : Bool} {item : Item}
    (read : readItem? question text = some (item, rest))
    (dashless : readSeparator? '-' (onward tail rest) = none)
    (slashless : readSeparator? '/' (onward tail rest) = none) :
    readItem? question (text ++ ' ' :: tail) = some (item, onward tail rest) := by
  unfold readItem? at read ⊢
  revert read
  -- the readers are tried in turn, so it must carry over that those before have failed
  cases stepped : readStepped? question text with
  | some found =>
    rintro ⟨⟩
    simp [readStepped?_append stepped]
  | none =>
    cases range : readRange? question text with
    | some found =>
      rintro ⟨⟩
      simp [readStepped?, readRange?_append range dashless, slashless]
    | none =>
      cases name : readName? text with
      | none =>
        intro read
        cases read
      | some found =>
        rintro ⟨⟩
        simp [readStepped?, readRange?_of_name range name dashless,
          readName?_append (shown_of_readName? name), name]

theorem readItems?_append {question : Bool} {fuel enough : Nat} {items : List Item}
    (read : readItems? question fuel text = some (items, rest)) (whole : skipSpace rest = [])
    (opens : Opens tail) (le : fuel ≤ enough) :
    readItems? question enough (text ++ ' ' :: tail) = some (items, skipSpace tail) := by
  induction fuel generalizing enough text items with
  | zero => cases read
  | succ fuel ih =>
    obtain ⟨enough, rfl⟩ := Nat.exists_eq_add_one_of_ne_zero (Nat.ne_zero_of_lt le)
    rw [readItems?] at read
    obtain ⟨⟨item, left⟩, first, read⟩ := Option.bind_eq_some_iff.mp read
    dsimp only at read
    split at read
    next after comma =>
      obtain rfl := readSeparator?_eq_some_iff.mp comma
      have here : onward tail (',' :: after) = ',' :: (after ++ ' ' :: tail) := onward_cons rfl after
      have item_read : readItem? question (text ++ ' ' :: tail) =
          some (item, onward tail (',' :: after)) :=
        readItem?_append first (by rw [here]; rfl) (by rw [here]; rfl)
      split at read
      next others later =>
        cases read
        have later := ih later (Nat.le_of_succ_le_succ le)
        simp [readItems?, item_read, here, readSeparator?, later]
      next =>
        -- the comma would be left over
        cases read
        cases whole
    next =>
      cases read
      have here : onward tail rest = skipSpace tail := onward_of_blank whole
      have closed (mark : Char) (listed : mark ∈ ['-', '/', ',']) :
          readSeparator? mark (skipSpace tail) = none := readSeparator?_of_head? (opens mark listed)
      have item_read : readItem? question (text ++ ' ' :: tail) = some (item, onward tail rest) :=
        readItem?_append first (by rw [here]; exact closed '-' (by decide))
          (by rw [here]; exact closed '/' (by decide))
      simp [readItems?, item_read, here, closed]

theorem readField?_skipSpace (field : Field) (text : List Char) :
    readField? field (skipSpace text) = readField? field text := by
  have twice : skipSpace (skipSpace text) = skipSpace text := List.dropWhile_idempotent _ _
  simp only [readField?, twice]

def Field.IsFilledBy (field : Field) (word : List Char) : Prop :=
  ∃ values, readField? field word = some (values, [])

namespace Field.IsFilledBy

variable {field : Field} {word : List Char}

theorem exists_first (filled : field.IsFilledBy word) :
    ∃ c rest, skipSpace word = c :: rest ∧ c ∉ ['-', '/', ','] := by
  obtain ⟨values, read⟩ := filled
  apply Classical.byContradiction
  intro idle
  have unread : readField? field word = none := by
    refine readField?_eq_none field fun c first => Classical.byContradiction fun other => idle ?_
    obtain ⟨rest, start⟩ := List.head?_eq_some_iff.mp first
    exact ⟨c, rest, start, other⟩
  rw [unread] at read
  cases read

theorem opens (filled : field.IsFilledBy word) (tail : List Char) : Opens (word ++ ' ' :: tail) := by
  obtain ⟨c, rest, start, other⟩ := filled.exists_first
  have shown : skipSpace word ≠ [] := by simp [start]
  intro mark listed same
  rw [skipSpace_append_of_ne_nil shown, start] at same
  exact other (Option.some.inj same ▸ listed)

theorem readField?_append (filled : field.IsFilledBy word) (opens : Opens tail) :
    ∃ values, readField? field (word ++ ' ' :: tail) = some (values, skipSpace tail) := by
  obtain ⟨_, _, start, _⟩ := filled.exists_first
  have shown : skipSpace word ≠ [] := by simp [start]
  obtain ⟨values, read⟩ := filled
  obtain ⟨⟨items, rest⟩, listed, read⟩ := Option.bind_eq_some_iff.mp read
  obtain ⟨known, found, same⟩ := Option.bind_eq_some_iff.mp read
  obtain ⟨rfl, whole⟩ := Prod.mk.inj (Option.some.inj same)
  have longer : (skipSpace word).length + 1 ≤ (skipSpace word ++ ' ' :: tail).length + 1 := by
    simp
  have more := readItems?_append listed whole opens longer
  have once : skipSpace (skipSpace tail) = skipSpace tail := List.dropWhile_idempotent _ _
  refine ⟨known, ?_⟩
  simp only [readField?, skipSpace_append_of_ne_nil shown, more, Option.bind_eq_bind,
    Option.bind_some, found, once]
  rfl

end Field.IsFilledBy

theorem opens_namedList {items : List NamedItem} (some_item : items ≠ []) :
    Opens (namedList items) := by
  obtain ⟨c, rest, same, first⟩ := exists_first_of_namedList some_item
  intro mark listed start
  rw [skipSpace_namedList, same] at start
  obtain rfl := Option.some.inj start
  have other : ∀ mark ∈ ['-', '/', ','], ¬ (isLetter mark = true ∨ mark = '*') := by
    simp [isLetter]
  exact other c listed first

def leave? (fields : List Field) (text : List Char) : Option (List Char) :=
  fields.foldlM (fun text field => (readField? field text).map Prod.snd) text

def Field.beforeWeekdays : List Field :=
  [.second, .minute, .hour, .dayOfMonth, .month]

theorem readBefore?_eq (text : List Char) : readBefore? text = leave? Field.beforeWeekdays text := by
  simp only [readBefore?, leave?, Field.beforeWeekdays, List.foldlM_cons, List.foldlM_nil,
    Option.bind_eq_bind, Option.map_eq_bind, Option.bind_assoc]
  rfl

theorem join_cons_concat (word : List Char) (filling : List (List Char)) (next : List Char) :
    join [' '] (word :: filling ++ [next]) = word ++ ' ' :: join [' '] (filling ++ [next]) := by
  cases filling <;> simp [join]

theorem leave?_join {fields : List Field} {filling : List (List Char)} {next : List Char}
    (filled : List.Forall₂ Field.IsFilledBy fields filling) (opens : Opens next) :
    leave? fields (skipSpace (join [' '] (filling ++ [next]))) = some (skipSpace next) := by
  induction filled with
  | nil => rfl
  | @cons field word fields filling here later ih =>
    have follows : Opens (join [' '] (filling ++ [next])) := by
      cases later with
      | nil => exact opens
      | cons second _ =>
        rw [join_cons_concat]
        exact second.opens _
    obtain ⟨values, read⟩ := here.readField?_append follows
    rw [join_cons_concat, leave?, List.foldlM_cons, readField?_skipSpace, read]
    exact ih

theorem readBefore?_join {before : List (List Char)} {weekdays : List Char}
    (filled : List.Forall₂ Field.IsFilledBy Field.beforeWeekdays before)
    (opens : Opens weekdays) :
    readBefore? (join [' '] (before ++ [weekdays])) = some (skipSpace weekdays) := by
  rw [← leave?_join filled opens, readBefore?_eq]
  simp only [leave?, Field.beforeWeekdays, List.foldlM_cons, readField?_skipSpace]

end PowerRota.Cron
