import PowerRota.Cron.Reader
import PowerRota.Proofs.Text.Cutting

/-! Lists of weekdays as schedules write them, and what becomes of them under their names.

A day is a number from 0 to 7 or a name; a range is every day, one day or a span of days, and may
have a step. Once the numbers are rewritten all days are names, and a span that ends on 7 has
become two items. -/

set_option autoImplicit false

namespace PowerRota.Cron

open PowerRota.Text

theorem isDigit_of_isLetter {c : Char} (letter : isLetter c = true) : isDigit c = false := by
  simp [isLetter, isDigit, Char.le_def, UInt32.le_iff_toNat_le] at *
  omega

structure Numeral where
  digits : List Char
  nonempty : digits ≠ []
  digital : digits.all isDigit = true

def Numeral.value (numeral : Numeral) : Nat :=
  digitsValue numeral.digits

/-- A name of a weekday, in any spelling that is read as one. Sunday is 0. -/
structure WeekdayName where
  letters : List Char
  spelled : letters.all isLetter = true
  number : Fin 7
  known : Field.dayOfWeek.named? (lowerAscii (String.ofList letters)) = some (number.val + 1)

/-- A weekday in writing. A number may have zeros before it. -/
inductive WeekdayAtom where
  | numeral (numeral : Numeral) (small : numeral.value ≤ 7)
  | name (name : WeekdayName)

/-- The number as it is counted in schedules: Sunday is 0, and also 7 in figures. -/
def WeekdayAtom.number : WeekdayAtom → Nat
  | .numeral figures _ => figures.value
  | .name spelling => spelling.number

inductive WeekdayRange where
  | every
  | point (day : WeekdayAtom)
  | between (low high : WeekdayAtom) (ordered : low.number ≤ high.number)

structure WeekdayItem where
  range : WeekdayRange
  step? : Option Numeral

inductive NamedRange where
  | every
  | point (day : WeekdayName)
  | between (low high : WeekdayName)

structure NamedItem where
  range : NamedRange
  step? : Option Numeral

namespace Numeral

theorem not_mem_digits (numeral : Numeral) {c : Char} (other : isDigit c = false) :
    c ∉ numeral.digits := by
  intro member
  have digit := List.all_eq_true.mp numeral.digital c member
  rw [other] at digit
  cases digit

def stepText : Option Numeral → List Char
  | some step => '/' :: step.digits
  | none => []

end Numeral

namespace WeekdayName

theorem letters_ne_nil (name : WeekdayName) : name.letters ≠ [] := by
  intro empty
  have nameless : Field.dayOfWeek.named? (lowerAscii (String.ofList [])) = none := by
    decide +kernel
  have known := name.known
  rw [empty, nameless] at known
  cases known

theorem not_mem_letters (name : WeekdayName) {c : Char} (other : isLetter c = false) :
    c ∉ name.letters := by
  intro member
  have letter := List.all_eq_true.mp name.spelled c member
  rw [other] at letter
  cases letter

def standard (number : Fin 7) : WeekdayName where
  letters := weekdayNames.get number
  spelled := by revert number; decide
  number := number
  known := by revert number; decide +kernel

end WeekdayName

namespace WeekdayAtom

def text : WeekdayAtom → List Char
  | .numeral figures _ => figures.digits
  | .name spelling => spelling.letters

def named : WeekdayAtom → WeekdayName
  | .numeral figures _ => .standard ⟨figures.value % 7, Nat.mod_lt _ (by decide)⟩
  | .name spelling => spelling

theorem number_le (atom : WeekdayAtom) : atom.number ≤ 7 := by
  cases atom with
  | numeral figures small => exact small
  | name spelling => exact Nat.le_of_lt spelling.number.isLt

@[simp]
theorem number_named (atom : WeekdayAtom) : (atom.named.number : Nat) = atom.number % 7 := by
  cases atom with
  | numeral figures small => rfl
  | name spelling => exact (Nat.mod_eq_of_lt spelling.number.isLt).symm

theorem not_mem_text (atom : WeekdayAtom) {c : Char} (noDigit : isDigit c = false)
    (noLetter : isLetter c = false) : c ∉ atom.text := by
  cases atom with
  | numeral figures _ => exact figures.not_mem_digits noDigit
  | name spelling => exact spelling.not_mem_letters noLetter

theorem number_of_text {atom : WeekdayAtom} {c : Char} (figure : isDigit c = true)
    (text : atom.text = [c]) : atom.number = digitValue c := by
  cases atom with
  | numeral figures small =>
    have digits : figures.digits = [c] := text
    simp [number, Numeral.value, digits, digitsValue]
  | name spelling =>
    have letters : spelling.letters = [c] := text
    have letter := List.all_eq_true.mp spelling.spelled c (by simp [letters])
    rw [isDigit_of_isLetter letter] at figure
    cases figure

theorem nameWeekday_text (atom : WeekdayAtom) :
    nameWeekday atom.text = .ok atom.named.letters := by
  cases atom with
  | numeral figures small =>
    have read : readNat figures.digits = some figures.value := by
      simp [readNat, figures.nonempty, figures.digital, Numeral.value]
    have listed : weekdayNames[figures.value % 7]? =
        some (WeekdayName.standard ⟨figures.value % 7, Nat.mod_lt _ (by decide)⟩).letters :=
      List.getElem?_eq_getElem _
    simp [nameWeekday, text, named, figures.digital, read, listed, small]
  | name spelling =>
    have spelled : spelling.letters.all isDigit = false := by
      obtain ⟨c, member⟩ := List.exists_mem_of_ne_nil _ spelling.letters_ne_nil
      have letter := List.all_eq_true.mp spelling.spelled c member
      exact List.all_eq_false.mpr ⟨c, member, by simp [isDigit_of_isLetter letter]⟩
    simp [nameWeekday, text, named, spelled]

end WeekdayAtom

namespace WeekdayRange

def text : WeekdayRange → List Char
  | every => ['*']
  | point day => day.text
  | between low high _ => low.text ++ '-' :: high.text

theorem not_mem_text (range : WeekdayRange) {c : Char} (noDigit : isDigit c = false)
    (noLetter : isLetter c = false) (noStar : c ≠ '*') (noDash : c ≠ '-') : c ∉ range.text := by
  cases range with
  | every => simpa [text] using noStar
  | point day => exact day.not_mem_text noDigit noLetter
  | between low high _ => simp [text, WeekdayAtom.not_mem_text, noDigit, noLetter, noDash]

end WeekdayRange

namespace WeekdayItem

def text (item : WeekdayItem) : List Char :=
  item.range.text ++ Numeral.stepText item.step?

end WeekdayItem

namespace NamedRange

def text : NamedRange → List Char
  | every => ['*']
  | point day => day.letters
  | between low high => low.letters ++ '-' :: high.letters

end NamedRange

namespace NamedItem

def text (item : NamedItem) : List Char :=
  item.range.text ++ Numeral.stepText item.step?

end NamedItem

namespace WeekdayItem

def named (item : WeekdayItem) : List NamedItem :=
  match item.range with
  | .every => [⟨.every, item.step?⟩]
  | .point day => [⟨.point day.named, item.step?⟩]
  | .between low high _ =>
      if low.text = ['0'] ∧ high.text = ['7'] then [⟨.every, item.step?⟩]
      else if high.text = ['7'] ∧ item.step? = none ∧ low.text ≠ ['7'] then
        [⟨.point (.standard 0), none⟩, ⟨.between low.named (.standard 6), none⟩]
      else [⟨.between low.named high.named, item.step?⟩]

theorem named_ne_nil (item : WeekdayItem) : item.named ≠ [] := by
  unfold named
  repeat' split
  all_goals exact List.cons_ne_nil _ _

theorem not_mem_text (item : WeekdayItem) {c : Char} (noDigit : isDigit c = false)
    (noLetter : isLetter c = false) (noStar : c ≠ '*') (noDash : c ≠ '-') (noSlash : c ≠ '/') :
    c ∉ item.text := by
  have range := item.range.not_mem_text noDigit noLetter noStar noDash
  unfold text
  cases item.step? with
  | none => simpa [Numeral.stepText] using range
  | some step => simp [Numeral.stepText, range, noSlash, step.not_mem_digits noDigit]

theorem splitOnce_text (item : WeekdayItem) :
    splitOnce '/' item.text = item.step?.map fun step => (item.range.text, step.digits) := by
  have absent : '/' ∉ item.range.text := item.range.not_mem_text rfl rfl (by decide) (by decide)
  unfold text
  cases item.step? with
  | none => simp [Numeral.stepText, splitOnce_of_not_mem absent]
  | some step => exact splitOnce_append absent step.digits

theorem text_none (range : WeekdayRange) : text ⟨range, none⟩ = range.text :=
  List.append_nil _

theorem nameWeekdayItem_text (item : WeekdayItem) :
    nameWeekdayItem item.text = .ok (item.named.map NamedItem.text) := by
  unfold nameWeekdayItem
  rw [splitOnce_text]
  obtain ⟨range, step?⟩ := item
  cases range with
  | every => cases step? <;> rfl
  | point day =>
    have undivided : splitOnce '-' day.text = none :=
      splitOnce_of_not_mem (day.not_mem_text rfl rfl)
    have star : day.text ≠ ['*'] ∧ day.text ≠ ['?'] :=
      ⟨fun same => day.not_mem_text (c := '*') rfl rfl (same ▸ List.mem_singleton_self _),
        fun same => day.not_mem_text (c := '?') rfl rfl (same ▸ List.mem_singleton_self _)⟩
    cases step? <;>
      simp [text_none, WeekdayRange.text, undivided, star, day.nameWeekday_text, named,
        NamedItem.text, NamedRange.text, Numeral.stepText, bind, Except.bind, pure, Except.pure]
  | between low high _ =>
    -- neither end holds a hyphen, so the range is cut at its own
    have cut : splitOnce '-' (low.text ++ '-' :: high.text) = some (low.text, high.text) :=
      splitOnce_append (low.not_mem_text rfl rfl) high.text
    have sunday : (WeekdayName.standard 0).letters = ['S', 'U', 'N'] := rfl
    have saturday : (WeekdayName.standard 6).letters = ['S', 'A', 'T'] := rfl
    have named := And.intro low.nameWeekday_text high.nameWeekday_text
    cases step? with
    | none =>
      simp only [Option.map_none, text_none, WeekdayRange.text, cut, WeekdayItem.named, named,
        true_and]
      split
      · rfl
      · split <;> simp [NamedItem.text, NamedRange.text, Numeral.stepText, sunday, saturday, bind,
          Except.bind, pure, Except.pure]
    | some step =>
      simp only [Option.map_some, WeekdayRange.text, cut, WeekdayItem.named, named]
      split
      · rfl
      · simp [NamedItem.text, NamedRange.text, Numeral.stepText, bind, Except.bind, pure,
          Except.pure]

end WeekdayItem

def weekdayList (items : List WeekdayItem) : List Char :=
  join [','] (items.map WeekdayItem.text)

theorem mapM_nameWeekdayItem (items : List WeekdayItem) :
    items.mapM (fun item => nameWeekdayItem item.text) =
      .ok (items.map fun item => item.named.map NamedItem.text) := by
  induction items with
  | nil => rfl
  | cons item items ih =>
    simp [item.nameWeekdayItem_text, ih, bind, Except.bind, pure, Except.pure]

theorem flatMap_named_ne_nil {items : List WeekdayItem} (some_item : items ≠ []) :
    items.flatMap WeekdayItem.named ≠ [] := by
  obtain ⟨item, member⟩ := List.exists_mem_of_ne_nil items some_item
  intro none
  exact item.named_ne_nil (List.flatMap_eq_nil_iff.mp none item member)

theorem nameWeekdays_weekdayList {items : List WeekdayItem} (some_item : items ≠ []) :
    nameWeekdays (weekdayList items) =
      .ok (join [','] ((items.flatMap WeekdayItem.named).map NamedItem.text)) := by
  have cut : split ',' (weekdayList items) = items.map WeekdayItem.text := by
    refine split_join (by simpa using some_item) ?_
    simp only [List.forall_mem_map]
    intro item _
    exact item.not_mem_text rfl rfl (by decide) (by decide) (by decide)
  simp [nameWeekdays, cut, mapM_nameWeekdayItem, List.flatMap, List.map_flatten,
    Function.comp_def, bind, Except.bind, pure, Except.pure]

end PowerRota.Cron
