import Mathlib.Data.Fin.Basic
import PowerRota.Proofs.Cron.FieldWords
import PowerRota.Proofs.Cron.WellFormed

/-! The weekdays of an expression are the ones that schedules mean.

An item stands for the numbers from its low end up to its high end by its step, and for the
weekdays that they count, 0 and 7 both being Sunday. Two shapes of a span are taken for something
else, since 0 and 7 are told by their writing before zeros are dropped. -/

set_option autoImplicit false

namespace PowerRota.Cron

open PowerRota.Text

def Steps (low high step value : Nat) : Prop :=
  ∃ count, value = low + count * step ∧ value ≤ high

def Numeral.stepValue : Option Numeral → Nat
  | some step => step.value
  | none => 1

namespace WeekdayRange

def low : WeekdayRange → Nat
  | every => 0
  | point day => day.number
  | between low _ _ => low.number

def high : WeekdayRange → Nat
  | every => 6
  | point day => day.number
  | between _ high _ => high.number

end WeekdayRange

namespace WeekdayItem

/-- What schedules mean by an item. -/
def Classic (item : WeekdayItem) (weekday : Nat) : Prop :=
  ∃ value, Steps item.range.low item.range.high (Numeral.stepValue item.step?) value ∧
    value % 7 = weekday

/-- A span from 7 to 7 that has zeros before its low end alone, and no step. -/
def TakenForAll (item : WeekdayItem) : Prop :=
  match item.range with
  | .between low high _ =>
      low.number = 7 ∧ low.text ≠ ['7'] ∧ high.text = ['7'] ∧ item.step? = none
  | _ => False

/-- A span from 0 to 7 whose ends are not written so, and whose high end is not written so or is
followed by a step. -/
def Narrowed (item : WeekdayItem) : Prop :=
  match item.range with
  | .between low high _ =>
      low.number = 0 ∧ high.number = 7 ∧ ¬ (low.text = ['0'] ∧ high.text = ['7']) ∧
        ¬ (high.text = ['7'] ∧ item.step? = none)
  | _ => False

/-- What the reader takes an item for. -/
def Reads (item : WeekdayItem) (weekday : Nat) : Prop :=
  (item.TakenForAll ∧ weekday < 7) ∨ (item.Narrowed ∧ weekday = 0) ∨
    (¬ item.TakenForAll ∧ ¬ item.Narrowed ∧ item.Classic weekday)

end WeekdayItem

/-! The values of named items. -/

namespace NamedRange

def low : NamedRange → Nat
  | every => 0
  | point day => day.number
  | between low _ => low.number

def high : NamedRange → Nat
  | every => 6
  | point day => day.number
  | between _ high => high.number

theorem values?_of_range? {range : NamedRange} {read : Range} (known : range.range? = some read) :
    read.values? .dayOfWeek =
      if range.low ≤ range.high then some (Field.span (range.low + 1) (range.high + 1))
      else none := by
  cases range with
  | every =>
    cases known
    rfl
  | point day => cases known
  | between low high =>
    cases known
    have lowKnown : Field.dayOfWeek.named? low.lower = some (low.number.val + 1) := low.known
    have highKnown : Field.dayOfWeek.named? high.lower = some (high.number.val + 1) := high.known
    simp [Range.values?, lowKnown, highKnown, NamedRange.low, NamedRange.high]

end NamedRange

theorem mem_span {low high value : Nat} :
    value ∈ Field.span low high ↔ low ≤ value ∧ value ≤ high := by
  simp only [Field.span, List.mem_map, List.mem_range]
  constructor
  · rintro ⟨n, inside, rfl⟩
    omega
  · rintro ⟨above, below⟩
    exact ⟨value - low, by omega, by omega⟩

theorem span_getElem? {low high value index : Nat} :
    (Field.span low high)[index]? = some value ↔ value = low + index ∧ value ≤ high := by
  rw [Field.span, List.getElem?_map]
  by_cases inside : index < high + 1 - low
  · simp only [List.getElem?_range inside, Option.map_some, Option.some.injEq]
    omega
  · have outside : (List.range (high + 1 - low))[index]? = none :=
      List.getElem?_eq_none (by simpa using inside)
    simp only [outside, Option.map_none, reduceCtorEq, false_iff]
    omega

theorem mem_everyNth_span {step low high value : Nat} :
    value ∈ everyNth step (Field.span low high) ↔ Steps low high step value := by
  simp only [everyNth, List.mem_map, List.mem_filter, Prod.exists, exists_and_right,
    exists_eq_right, List.mem_zipIdx_iff_getElem?, span_getElem?, beq_iff_eq]
  constructor
  · rintro ⟨index, ⟨same, below⟩, whole⟩
    refine ⟨index / step, ?_, below⟩
    rw [same, Nat.div_mul_cancel (Nat.dvd_of_mod_eq_zero whole)]
  · rintro ⟨count, same, below⟩
    exact ⟨count * step, ⟨same, below⟩, Nat.mul_mod_left count step⟩

theorem steps_one_iff {low high value : Nat} :
    Steps low high 1 value ↔ low ≤ value ∧ value ≤ high := by
  constructor
  · rintro ⟨count, rfl, below⟩
    omega
  · rintro ⟨above, below⟩
    exact ⟨value - low, by omega, below⟩

theorem steps_succ_iff {low high step value : Nat} :
    Steps (low + 1) (high + 1) step (value + 1) ↔ Steps low high step value := by
  unfold Steps
  constructor <;> rintro ⟨count, same, below⟩ <;> exact ⟨count, by omega, by omega⟩

namespace NamedItem

def Admits (item : NamedItem) (weekday : Nat) : Prop :=
  Steps item.range.low item.range.high (Numeral.stepValue item.step?) weekday

theorem item_of_range? {item : NamedItem} {read : Range} (known : item.range.range? = some read) :
    item.item = match item.step? with
      | some step => .stepped read step.value
      | none => .plain read := by
  obtain ⟨range, step?⟩ := item
  cases range <;> cases known <;> cases step? <;> rfl

theorem values?_of_stepped {range : NamedRange} {read : Range} {step : Nat} {values : List Nat}
    (found : range.range? = some read)
    (known : (Item.stepped read step).values? .dayOfWeek = some values) :
    ∃ every, read.values? .dayOfWeek = some every ∧ values = everyNth step every := by
  simp only [Item.values?] at known
  split at known
  next => cases known
  next =>
    cases range with
    | point day => cases found
    | every | between low high =>
      cases found
      obtain ⟨every, listed, same⟩ := Option.bind_eq_some_iff.mp known
      exact ⟨every, listed, (Option.some.inj same).symm⟩

theorem mem_values? {item : NamedItem} (complete : item.Complete) {values : List Nat}
    (known : item.item.values? .dayOfWeek = some values) :
    item.range.low ≤ item.range.high ∧
      ∀ weekday, weekday + 1 ∈ values ↔ item.Admits weekday := by
  obtain ⟨range, step?⟩ := item
  cases found : range.range? with
  | none =>
    -- a single name is looked up on its own, and has no step when it is complete
    obtain ⟨day, rfl⟩ : ∃ day, range = .point day := by
      cases range with
      | point day => exact ⟨day, rfl⟩
      | every | between low high => cases found
    cases step? with
    | some step => cases (complete step rfl).1
    | none =>
      have listed : Field.dayOfWeek.named? day.lower = some (day.number.val + 1) := day.known
      simp only [item, Item.values?, listed, Option.map_some, Option.some.injEq] at known
      subst known
      refine ⟨Nat.le_refl _, fun weekday => ?_⟩
      simp only [Admits, Numeral.stepValue, steps_one_iff, NamedRange.low, NamedRange.high,
        List.mem_singleton]
      omega
  | some read =>
    have every := NamedRange.values?_of_range? found
    rw [item_of_range? found] at known
    cases step? with
    | none =>
      simp only [Item.values?, every] at known
      obtain ⟨ordered, same⟩ := Option.ite_none_right_eq_some.mp known
      obtain rfl := Option.some.inj same
      refine ⟨ordered, fun weekday => ?_⟩
      simp only [Admits, Numeral.stepValue, steps_one_iff, mem_span]
      omega
    | some step =>
      obtain ⟨all, listed, rfl⟩ := values?_of_stepped found known
      rw [every] at listed
      obtain ⟨ordered, same⟩ := Option.ite_none_right_eq_some.mp listed
      obtain rfl := Option.some.inj same
      exact ⟨ordered, fun weekday => mem_everyNth_span.trans steps_succ_iff⟩

end NamedItem

theorem mem_flatten_of_mapM {items : List Item} {values : Item → Option (List Nat)}
    {lists : List (List Nat)} (read : items.mapM values = some lists) :
    (∀ item ∈ items, (values item).isSome) ∧
      ∀ n, n ∈ lists.flatten ↔ ∃ item ∈ items, ∃ list, values item = some list ∧ n ∈ list := by
  induction items generalizing lists with
  | nil =>
    cases read
    simp
  | cons item items ih =>
    rw [List.mapM_cons] at read
    obtain ⟨first, here, read⟩ := Option.bind_eq_some_iff.mp read
    obtain ⟨others, later, same⟩ := Option.bind_eq_some_iff.mp read
    cases same
    obtain ⟨known, members⟩ := ih later
    constructor
    · simpa [here] using known
    · simp [here, members]

theorem mem_fieldValues? {field : Field} {items : List Item} {values : List Nat}
    (found : fieldValues? field items = some values) :
    (∀ item ∈ items, (item.values? field).isSome) ∧
      ∀ n, n ∈ values ↔ ∃ item ∈ items, ∃ list, item.values? field = some list ∧ n ∈ list := by
  unfold fieldValues? at found
  obtain ⟨lists, read, found⟩ := Option.bind_eq_some_iff.mp found
  obtain ⟨known, members⟩ := mem_flatten_of_mapM read
  refine ⟨known, fun n => ?_⟩
  rw [← members]
  dsimp only at found
  split at found
  next admitted =>
    cases found
    simp only [List.mem_filter, Field.mem_everything, List.contains_iff_mem, and_iff_right_iff_imp]
    exact fun member => List.all_eq_true.mp admitted n member
  next => cases found

/-- An expression whose weekday field is a list of named items has the days that they admit. -/
theorem daysOfWeek_of_namedList {text : List Char} {expression : Expression}
    {items : List NamedItem} (some_item : items ≠ []) (read : readFields? text = some expression)
    (before : readBefore? text = some (namedList items)) :
    (∀ item ∈ items, item.Complete ∧ item.range.low ≤ item.range.high) ∧
      ∀ weekday, weekday + 1 ∈ expression.daysOfWeek ↔ ∃ item ∈ items, item.Admits weekday := by
  obtain ⟨after, field, last⟩ := readFields?_weekdays read before
  -- what is left of an incomplete item begins with its slash, and no year does
  have complete : ∀ item ∈ items, item.Complete := by
    intro item member
    apply Classical.byContradiction
    intro incomplete
    obtain ⟨rest, rfl⟩ := readField?_of_incomplete ⟨item, member, incomplete⟩ field
    have unread : readField? .year ('/' :: rest) = none :=
      readField?_eq_none .year (by simp [skipSpace, isSpace])
    simp [unread] at last
  rw [readField?_of_complete some_item complete] at field
  obtain ⟨values, found, same⟩ := Option.map_eq_some_iff.mp field
  obtain ⟨rfl, -⟩ := Prod.mk.inj same
  obtain ⟨known, members⟩ := mem_fieldValues? found
  have sound : ∀ item ∈ items, ∃ list, item.item.values? .dayOfWeek = some list := by
    simpa [Option.isSome_iff_exists] using known
  constructor
  · intro item member
    obtain ⟨list, listed⟩ := sound item member
    exact ⟨complete item member, (NamedItem.mem_values? (complete item member) listed).1⟩
  · intro weekday
    rw [members]
    constructor
    · rintro ⟨read, listed, list, values, inside⟩
      obtain ⟨item, member, rfl⟩ := List.mem_map.mp listed
      have admits := (NamedItem.mem_values? (complete item member) values).2 weekday
      exact ⟨item, member, admits.mp inside⟩
    · rintro ⟨item, member, admitted⟩
      obtain ⟨list, values⟩ := sound item member
      have admits := (NamedItem.mem_values? (complete item member) values).2 weekday
      exact ⟨_, List.mem_map_of_mem member, list, values, admits.mpr admitted⟩

namespace WeekdayItem

variable {item : WeekdayItem}

theorem classic_iff_of_small {item : WeekdayItem} (small : item.range.high ≤ 6) (weekday : Nat) :
    item.Classic weekday ↔
      Steps item.range.low item.range.high (Numeral.stepValue item.step?) weekday := by
  constructor
  · rintro ⟨value, ⟨count, same, below⟩, rfl⟩
    rw [Nat.mod_eq_of_lt (by omega)]
    exact ⟨count, same, below⟩
  · rintro ⟨count, same, below⟩
    exact ⟨weekday, ⟨count, same, below⟩, Nat.mod_eq_of_lt (by omega)⟩

theorem reads_iff_classic (notAll : ¬ item.TakenForAll) (notNarrowed : ¬ item.Narrowed)
    (weekday : Nat) : item.Reads weekday ↔ item.Classic weekday := by
  simp [Reads, notAll, notNarrowed]

variable {low high : WeekdayAtom} {ordered : low.number ≤ high.number} {step? : Option Numeral}

theorem reads_week (starts : low.text = ['0']) (stops : high.text = ['7']) (weekday : Nat) :
    NamedItem.Admits ⟨.every, step?⟩ weekday ↔ Reads ⟨.between low high ordered, step?⟩ weekday := by
  have zero : low.number = 0 := WeekdayAtom.number_of_text rfl starts
  have seven : high.number = 7 := WeekdayAtom.number_of_text rfl stops
  rw [reads_iff_classic (by simp [TakenForAll, zero]) (by simp [Narrowed, starts, stops])]
  simp only [NamedItem.Admits, Classic, NamedRange.low, NamedRange.high, WeekdayRange.low,
    WeekdayRange.high, zero, seven]
  constructor
  · rintro ⟨count, same, below⟩
    exact ⟨weekday, ⟨count, same, by omega⟩, by omega⟩
  · rintro ⟨value, ⟨count, same, below⟩, rfl⟩
    by_cases last : value = 7
    · exact ⟨0, by omega, by omega⟩
    · rw [Nat.mod_eq_of_lt (by omega)]
      exact ⟨count, same, by omega⟩

theorem reads_ending (starts : low.text ≠ ['7']) (stops : high.text = ['7']) (weekday : Nat) :
    (NamedItem.Admits ⟨.point (.standard 0), none⟩ weekday ∨
        NamedItem.Admits ⟨.between low.named (.standard 6), none⟩ weekday) ↔
      Reads ⟨.between low high ordered, none⟩ weekday := by
  have seven : high.number = 7 := WeekdayAtom.number_of_text rfl stops
  have bounded := low.number_le
  have sunday : ((WeekdayName.standard 0).number : Nat) = 0 := rfl
  have saturday : ((WeekdayName.standard 6).number : Nat) = 6 := rfl
  have notNarrowed : ¬ Narrowed ⟨.between low high ordered, none⟩ := by simp [Narrowed, stops]
  have taken : TakenForAll ⟨.between low high ordered, none⟩ ↔ low.number = 7 := by
    simp [TakenForAll, starts, stops]
  have classic : Classic ⟨.between low high ordered, none⟩ weekday ↔
      weekday = 0 ∨ low.number ≤ weekday ∧ weekday ≤ 6 := by
    simp only [Classic, WeekdayRange.low, WeekdayRange.high, Numeral.stepValue, steps_one_iff, seven]
    constructor
    · rintro ⟨value, ⟨above, below⟩, same⟩
      omega
    · rintro (rfl | ⟨above, below⟩)
      · exact ⟨7, by omega, rfl⟩
      · exact ⟨weekday, by omega, by omega⟩
  simp only [Reads, taken, notNarrowed, classic, NamedItem.Admits, NamedRange.low, NamedRange.high,
    Numeral.stepValue, steps_one_iff, WeekdayAtom.number_named, sunday, saturday,
    false_and, false_or, not_false_eq_true, true_and]
  omega

theorem reads_below (small : high.number ≤ 6) (weekday : Nat) :
    NamedItem.Admits ⟨.between low.named high.named, step?⟩ weekday ↔
      Reads ⟨.between low high ordered, step?⟩ weekday := by
  have notAll : ¬ TakenForAll ⟨.between low high ordered, step?⟩ := by
    rintro ⟨seven, -⟩
    omega
  have notNarrowed : ¬ Narrowed ⟨.between low high ordered, step?⟩ := by
    rintro ⟨-, seven, -⟩
    omega
  have small : WeekdayRange.high (.between low high ordered) ≤ 6 := small
  rw [reads_iff_classic notAll notNarrowed, classic_iff_of_small small]
  simp only [NamedItem.Admits, NamedRange.low, NamedRange.high, WeekdayRange.low,
    WeekdayRange.high, WeekdayAtom.number_named] at small ⊢
  rw [Nat.mod_eq_of_lt (by omega), Nat.mod_eq_of_lt (by omega)]

/-- The names of 0 and of 7 are one, so a span of names that ends there is Sunday alone. -/
theorem admits_sunday (sunday : low.number % 7 = 0) (last : high.number = 7) (weekday : Nat) :
    NamedItem.Admits ⟨.between low.named high.named, step?⟩ weekday ↔ weekday = 0 := by
  simp only [NamedItem.Admits, NamedRange.low, NamedRange.high, WeekdayAtom.number_named, sunday,
    last]
  constructor
  · rintro ⟨_, _, below⟩
    exact Nat.le_zero.mp below
  · rintro rfl
    exact ⟨0, by omega, by omega⟩

theorem reads_sunday (notWeek : ¬ (low.text = ['0'] ∧ high.text = ['7']))
    (notEnding : ¬ (high.text = ['7'] ∧ step? = none ∧ low.text ≠ ['7']))
    (sunday : low.number % 7 = 0) (last : high.number = 7) (weekday : Nat) :
    Reads ⟨.between low high ordered, step?⟩ weekday ↔ weekday = 0 := by
  have bounded := low.number_le
  have notAll : ¬ TakenForAll ⟨.between low high ordered, step?⟩ := by
    rintro ⟨_, starts, stops, stepless⟩
    exact notEnding ⟨stops, stepless, starts⟩
  by_cases first : low.number = 0
  · have narrowed : Narrowed ⟨.between low high ordered, step?⟩ := by
      refine ⟨first, last, notWeek, fun ending => notEnding ⟨ending.1, ending.2, fun same => ?_⟩⟩
      have seven : low.number = 7 := WeekdayAtom.number_of_text rfl same
      omega
    simp [Reads, notAll, narrowed]
  · have notNarrowed : ¬ Narrowed ⟨.between low high ordered, step?⟩ :=
      fun narrowed => first narrowed.1
    have seven : low.number = 7 := by omega
    rw [reads_iff_classic notAll notNarrowed]
    simp only [Classic, WeekdayRange.low, WeekdayRange.high, seven, last]
    constructor
    · rintro ⟨value, ⟨count, same, below⟩, rfl⟩
      omega
    · rintro rfl
      exact ⟨7, ⟨0, by omega, Nat.le_refl 7⟩, rfl⟩

theorem reads_span (notWeek : ¬ (low.text = ['0'] ∧ high.text = ['7']))
    (notEnding : ¬ (high.text = ['7'] ∧ step? = none ∧ low.text ≠ ['7']))
    (named : low.number % 7 ≤ high.number % 7) (weekday : Nat) :
    NamedItem.Admits ⟨.between low.named high.named, step?⟩ weekday ↔
      Reads ⟨.between low high ordered, step?⟩ weekday := by
  have bounded := high.number_le
  by_cases last : high.number = 7
  · have sunday : low.number % 7 = 0 := by omega
    rw [admits_sunday sunday last, reads_sunday notWeek notEnding sunday last]
  · exact reads_below (by omega) weekday

theorem admits_iff (item : WeekdayItem) (sound : ∀ named ∈ item.named,
      named.Complete ∧ named.range.low ≤ named.range.high) (weekday : Nat) :
    (∃ named ∈ item.named, named.Admits weekday) ↔ item.Reads weekday := by
  obtain ⟨range, step?⟩ := item
  cases range with
  | every =>
    have small : WeekdayRange.high .every ≤ 6 := Nat.le_refl 6
    rw [reads_iff_classic id id, classic_iff_of_small small]
    simp [named, NamedItem.Admits, NamedRange.low, NamedRange.high, WeekdayRange.low,
      WeekdayRange.high]
  | point day =>
    have stepless : step? = none := by
      cases step? with
      | none => rfl
      | some step => cases ((sound _ (List.mem_singleton_self _)).1 step rfl).1
    subst stepless
    rw [reads_iff_classic id id]
    simp only [named, NamedItem.Admits, Classic, NamedRange.low, NamedRange.high, WeekdayRange.low,
      WeekdayRange.high, Numeral.stepValue, steps_one_iff, List.mem_singleton, exists_eq_left,
      WeekdayAtom.number_named]
    constructor
    · intro same
      exact ⟨day.number, ⟨Nat.le_refl _, Nat.le_refl _⟩, by omega⟩
    · rintro ⟨value, ⟨above, below⟩, rfl⟩
      obtain rfl := Nat.le_antisymm above below
      exact ⟨Nat.le_refl _, Nat.le_refl _⟩
  | between low high ordered =>
    unfold named at sound ⊢
    dsimp only at sound ⊢
    -- a span is named as the whole week, as one that ends on Sunday, or by its two ends
    split at sound
    next week => simpa [week] using reads_week week.1 week.2 weekday
    next notWeek =>
      split at sound
      next ending =>
        rw [if_neg notWeek, if_pos ending]
        obtain ⟨stops, rfl, starts⟩ := ending
        simpa using reads_ending starts stops weekday
      next notEnding =>
        have ends := (sound _ (List.mem_singleton_self _)).2
        simp only [NamedRange.low, NamedRange.high, WeekdayAtom.number_named] at ends
        rw [if_neg notWeek, if_neg notEnding]
        simpa using reads_span notWeek notEnding ends weekday

theorem classic_of_reads {item : WeekdayItem} (notAll : ¬ item.TakenForAll) {weekday : Nat}
    (reads : item.Reads weekday) : item.Classic weekday := by
  rcases reads with ⟨taken, _⟩ | ⟨narrowed, rfl⟩ | ⟨_, _, classic⟩
  · exact absurd taken notAll
  · obtain ⟨range, step?⟩ := item
    cases range with
    | every | point => cases narrowed
    | between low high ordered =>
      refine ⟨0, ⟨0, ?_, Nat.zero_le _⟩, rfl⟩
      simp [WeekdayRange.low, narrowed.1]
  · exact classic

theorem Classic.lt {item : WeekdayItem} {weekday : Nat} (classic : item.Classic weekday) :
    weekday < 7 := by
  obtain ⟨value, _, rfl⟩ := classic
  exact Nat.mod_lt value (by decide)

theorem reads_of_classic {item : WeekdayItem} (notNarrowed : ¬ item.Narrowed) {weekday : Nat}
    (classic : item.Classic weekday) : item.Reads weekday := by
  by_cases taken : item.TakenForAll
  · exact Or.inl ⟨taken, classic.lt⟩
  · exact (reads_iff_classic taken notNarrowed weekday).mpr classic

end WeekdayItem

/-! The weekdays of a cron text. -/

/-- What the reader takes for the weekday field is the last word. -/
def Aligned (text : String) : Prop :=
  ∃ fields weekdays, normalized (trim text.toList) = .ok fields ∧
    (words (trim text.toList)).getLast?.map nameWeekdays = some (.ok weekdays) ∧
    readBefore? fields = some weekdays

theorem aligned_of_filled {text : String} {before : List (List Char)} {items : List WeekdayItem}
    (some_item : items ≠ [])
    (written : words (trim text.toList) = before ++ [weekdayList items])
    (filled : List.Forall₂ Field.IsFilledBy Field.beforeWeekdays before ∨
      List.Forall₂ Field.IsFilledBy Field.beforeWeekdays (['0'] :: before)) : Aligned text := by
  have named := nameWeekdays_weekdayList some_item
  have opens := opens_namedList (flatMap_named_ne_nil some_item)
  have last : (words (trim text.toList)).getLast?.map nameWeekdays =
      some (.ok (namedList (items.flatMap WeekdayItem.named))) := by
    simp [written, named, namedList]
  have reads {five : List (List Char)}
      (filled : List.Forall₂ Field.IsFilledBy Field.beforeWeekdays five) :
      readBefore? (join [' '] (five ++ [namedList (items.flatMap WeekdayItem.named)])) =
        some (namedList (items.flatMap WeekdayItem.named)) := by
    rw [readBefore?_join filled opens, skipSpace_namedList]
  rcases filled with six | five
  · refine ⟨_, _, ?_, last, reads six⟩
    obtain _ | ⟨_, _ | ⟨_, _ | ⟨_, _ | ⟨_, _ | ⟨_, _ | _⟩⟩⟩⟩⟩ := six
    simp [normalized, written, named, namedList]
  · refine ⟨_, _, ?_, last, reads five⟩
    obtain _ | ⟨_, _ | ⟨_, _ | ⟨_, _ | ⟨_, _ | ⟨_, _ | _⟩⟩⟩⟩⟩ := five
    simp [normalized, written, named, namedList]

/-- A star that is glued to the minutes is a field of its own, and shifts the ones after it. -/
example : FiringRule.ofCron "0 5* 3 4 5 *" =
    .ok (.cron ⟨[0], [5], Field.everything .hour, [3], [4], [5], Field.everything .year⟩) := by
  decide +kernel

theorem normalized_of_readWord? {word : String} {expression : Expression}
    (read : readWord? word = some expression) :
    normalized word.toList = .error (.fieldCount 1) := by
  unfold readWord? at read
  dsimp only at read
  split at read <;> first | rfl | cases read

theorem readFields?_of_ofCron {text : String} {expression : Expression}
    (accepted : FiringRule.ofCron text = .ok (.cron expression)) {fields : List Char}
    (written : normalized (trim text.toList) = .ok fields) : readFields? fields = some expression := by
  unfold FiringRule.ofCron at accepted
  generalize trim text.toList = trimmed at *
  have read : readTrimmed trimmed = .ok expression := by
    cases found : readTrimmed trimmed with
    | error fault => simp [found] at accepted
    | ok other => simpa [found] using accepted
  unfold readTrimmed at read
  split at read
  next =>
    cases found : readWord? (String.ofList trimmed) with
    | none => simp [found] at read
    | some other =>
      have count := normalized_of_readWord? found
      rw [String.toList_ofList, written] at count
      cases count
  next =>
    cases found : readFields? fields with
    | none => simp [written, found, bind, Except.bind] at read
    | some other => simpa [written, found, bind, Except.bind] using read

/-- No item that is taken for something else makes a difference to the list. -/
structure Harmless (items : List WeekdayItem) : Prop where
  week : ∀ item ∈ items, item.TakenForAll →
    ∀ weekday : Fin 7, ∃ other ∈ items, other.Classic weekday
  narrowed : ∀ item ∈ items, item.Narrowed →
    ∀ weekday : Fin 7, item.Classic weekday → ∃ other ∈ items, other.Reads weekday

theorem classic_iff_harmless {items : List WeekdayItem} :
    (∀ weekday : Fin 7, (∃ item ∈ items, item.Reads weekday) ↔
      ∃ item ∈ items, item.Classic weekday) ↔ Harmless items := by
  constructor
  · intro agree
    constructor
    · intro item member taken weekday
      exact (agree weekday).mp ⟨item, member, Or.inl ⟨taken, weekday.isLt⟩⟩
    · intro item member _ weekday classic
      exact (agree weekday).mpr ⟨item, member, classic⟩
  · intro harmless weekday
    constructor
    · rintro ⟨item, member, reads⟩
      by_cases taken : item.TakenForAll
      · exact harmless.week item member taken weekday
      · exact ⟨item, member, WeekdayItem.classic_of_reads taken reads⟩
    · rintro ⟨item, member, classic⟩
      by_cases narrowed : item.Narrowed
      · exact harmless.narrowed item member narrowed weekday classic
      · exact ⟨item, member, WeekdayItem.reads_of_classic narrowed classic⟩

/-- An expression has the weekdays that its field is read as, and these are the ones that are
meant exactly if no item of the two shapes makes a difference. -/
theorem classic_weekdays_iff {text : String} {expression : Expression} {items : List WeekdayItem}
    (accepted : FiringRule.ofCron text = .ok (.cron expression))
    (field : (words (trim text.toList)).getLast? = some (weekdayList items))
    (aligned : Aligned text) :
    (∀ weekday : Fin 7, weekday.val + 1 ∈ expression.daysOfWeek ↔
      ∃ item ∈ items, item.Reads weekday) ∧
    ((∀ weekday : Fin 7, weekday.val + 1 ∈ expression.daysOfWeek ↔
      ∃ item ∈ items, item.Classic weekday) ↔ Harmless items) := by
  obtain ⟨fields, weekdays, written, named, before⟩ := aligned
  rw [field, Option.map_some] at named
  have named := Option.some.inj named
  have some_item : items ≠ [] := by
    rintro rfl
    cases named
  rw [nameWeekdays_weekdayList some_item] at named
  obtain rfl := Except.ok.inj named
  -- the reader sees the names, and each item stands for the names that it becomes
  obtain ⟨sound, days⟩ := daysOfWeek_of_namedList (flatMap_named_ne_nil some_item)
    (readFields?_of_ofCron accepted written) before
  have reads (weekday : Fin 7) : weekday.val + 1 ∈ expression.daysOfWeek ↔
      ∃ item ∈ items, item.Reads weekday := by
    have each (item : WeekdayItem) (member : item ∈ items) :=
      item.admits_iff (fun named inside =>
        sound named (List.mem_flatMap.mpr ⟨item, member, inside⟩)) weekday
    rw [days]
    constructor
    · rintro ⟨named, listed, admitted⟩
      obtain ⟨item, member, inside⟩ := List.mem_flatMap.mp listed
      exact ⟨item, member, (each item member).mp ⟨named, inside, admitted⟩⟩
    · rintro ⟨item, member, reads⟩
      obtain ⟨named, inside, admitted⟩ := (each item member).mpr reads
      exact ⟨named, List.mem_flatMap.mpr ⟨item, member, inside⟩, admitted⟩
  refine ⟨reads, ?_⟩
  simp only [reads]
  exact classic_iff_harmless

def atNine (daysOfWeek : List Nat) : Expression :=
  ⟨[0], [0], [9], Field.everything .dayOfMonth, Field.everything .month, daysOfWeek,
    Field.everything .year⟩

def two : WeekdayAtom := .numeral ⟨['2'], by decide, by decide⟩ (by decide)

def five : WeekdayAtom := .numeral ⟨['0', '5'], by decide, by decide⟩ (by decide)

def seven : WeekdayAtom := .numeral ⟨['7'], by decide, by decide⟩ (by decide)

def paddedSeven : WeekdayAtom := .numeral ⟨['0', '7'], by decide, by decide⟩ (by decide)

theorem classic_weekdays_iff_of_long_weekend :
    let text := "0 9 * * 05-7,2"
    let items : List WeekdayItem := [⟨.between five seven (by decide), none⟩, ⟨.point two, none⟩]
    FiringRule.ofCron text = .ok (.cron (atNine [1, 3, 6, 7])) ∧
      (words (trim text.toList)).getLast? = some (weekdayList items) ∧ Aligned text ∧
      ∀ weekday : Fin 7, weekday.val + 1 ∈ (atNine [1, 3, 6, 7]).daysOfWeek ↔
        ∃ item ∈ items, item.Classic weekday := by
  intro text items
  have accepted : FiringRule.ofCron text = .ok (.cron (atNine [1, 3, 6, 7])) := by decide +kernel
  have written : words (trim text.toList) = [['0'], ['9'], ['*'], ['*']] ++ [weekdayList items] := by
    decide +kernel
  have field : (words (trim text.toList)).getLast? = some (weekdayList items) := by
    rw [written]
    rfl
  have filled : List.Forall₂ Field.IsFilledBy Field.beforeWeekdays
      [['0'], ['0'], ['9'], ['*'], ['*']] :=
    .cons ⟨_, rfl⟩ (.cons ⟨_, rfl⟩ (.cons ⟨_, rfl⟩ (.cons ⟨_, rfl⟩ (.cons ⟨_, rfl⟩ .nil))))
  have aligned : Aligned text := aligned_of_filled (List.cons_ne_nil _ _) written (.inr filled)
  have friday : five.number = 5 := rfl
  have harmless : Harmless items := by
    constructor <;> simp [items, WeekdayItem.TakenForAll, WeekdayItem.Narrowed, friday]
  exact ⟨accepted, field, aligned, (classic_weekdays_iff accepted field aligned).2.mpr harmless⟩

/-- From 7 to 7 is Sunday alone, but with a zero before the first 7 it is taken for the week. -/
theorem padded_sunday_not_classic :
    let text := "0 9 * * 07-7"
    let items : List WeekdayItem := [⟨.between paddedSeven seven (by decide), none⟩]
    FiringRule.ofCron text = .ok (.cron (atNine [1, 2, 3, 4, 5, 6, 7])) ∧
      (words (trim text.toList)).getLast? = some (weekdayList items) ∧ Aligned text ∧
      ¬ ∀ weekday : Fin 7, weekday.val + 1 ∈ (atNine [1, 2, 3, 4, 5, 6, 7]).daysOfWeek ↔
        ∃ item ∈ items, item.Classic weekday := by
  intro text items
  refine ⟨by decide +kernel, by decide +kernel, ⟨"0 0 9 * * SUN,SUN-SAT".toList,
    "SUN,SUN-SAT".toList, by decide +kernel, by decide +kernel, by decide +kernel⟩, fun classic => ?_⟩
  obtain ⟨item, member, value, ⟨count, same, below⟩, monday⟩ := (classic 1).mp (by decide)
  obtain rfl := List.mem_singleton.mp member
  have starts : value = 7 + count * 1 := same
  have stops : value ≤ 7 := below
  obtain rfl : value = 7 := by omega
  cases monday

end PowerRota.Cron
