import PowerRota.Proofs.Calendar.Writing
import PowerRota.Proofs.Data.Steps

/-! The notation for times of day as a grammar.

Two or three runs of digits stand between colons. A text is read exactly if what is left of it
without the white space around it is in the notation and the three numbers are those of a clock. A
number may be written with any number of digits: what is too long to be held is beyond every clock,
so nothing is lost by refusing it. -/

set_option autoImplicit false

namespace PowerRota.Calendar.TimeOfDay

open PowerRota.Text

/-- A run of ASCII digits that stands for a number, leading zeros and all. -/
structure Stands (part : List Char) (n : Nat) : Prop where
  some_digit : part ≠ []
  digits : ∀ c ∈ part, '0' ≤ c ∧ c ≤ '9'
  value : Nat.ofDigitChars 10 part 0 = n

/-- The notation, for an hour, a minute and a second. -/
inductive Spelled : List Char → Nat → Nat → Nat → Prop where
  | short {hour minute : List Char} {h m : Nat} (first : Stands hour h) (last : Stands minute m) :
      Spelled (hour ++ ':' :: minute) h m 0
  | full {hour minute second : List Char} {h m s : Nat} (first : Stands hour h)
      (middle : Stands minute m) (last : Stands second s) :
      Spelled (hour ++ ':' :: (minute ++ ':' :: second)) h m s

variable {part core : List Char} {hour minute second : Nat} {time : TimeOfDay}

theorem all_isDigit_iff : part.all isDigit = true ↔ ∀ c ∈ part, '0' ≤ c ∧ c ≤ '9' := by
  simp [isDigit]

theorem stands_iff {n : Nat} : Stands part n ↔ readNat part = some n := by
  unfold readNat
  rw [digitsValue_eq]
  constructor
  · rintro ⟨some_digit, digits, rfl⟩
    simp [some_digit, all_isDigit_iff.mpr digits]
  · intro read
    split at read
    next => cases read
    next unlike =>
      simp only [Bool.or_eq_true, List.isEmpty_iff, Bool.not_eq_true', not_or,
        Bool.not_eq_false] at unlike
      exact ⟨unlike.1, all_isDigit_iff.mp unlike.2, Option.some.inj read⟩

theorem readPart?_eq_some_iff {n : Nat} :
    readPart? part = some n ↔ Stands part n ∧ n ≤ partLimit := by
  rw [stands_iff]
  unfold readPart?
  cases readNat part with
  | none => simp
  | some found =>
    simp only [Option.bind_eq_bind, Option.bind_some, Option.ite_none_right_eq_some,
      Option.some.injEq]
    constructor
    · rintro ⟨fits, rfl⟩
      exact ⟨rfl, fits⟩
    · rintro ⟨rfl, fits⟩
      exact ⟨fits, rfl⟩

theorem Stands.colonless {n : Nat} (stands : Stands part n) : ':' ∉ part := by
  intro member
  exact absurd (stands.digits ':' member).2 (by decide)

theorem ofParts_eq_ok_iff :
    ofParts hour minute second = .ok time ↔
      time.hour = hour ∧ time.minute = minute ∧ time.second = second := by
  unfold ofParts
  split
  next fits =>
    rw [Except.ok.injEq]
    constructor
    · rintro rfl
      exact ⟨rfl, rfl, rfl⟩
    · rintro ⟨rfl, rfl, rfl⟩
      rfl
  next beyond =>
    simp only [reduceCtorEq, false_iff]
    rintro ⟨rfl, rfl, rfl⟩
    exact beyond ⟨time.hour_le, time.minute_le, time.second_le⟩

theorem stands_of_split {numbers : List Nat}
    (read : (split ':' core).mapM readPart? = some numbers) :
    ∃ parts, join [':'] parts = core ∧ List.Forall₂ Stands parts numbers :=
  ⟨split ':' core, join_split ':' core, (Steps.mapM_eq_some_iff.mp read).imp fun _ _ stands =>
    (readPart?_eq_some_iff.mp stands).1⟩

theorem mapM_split_join {parts : List (List Char)} {numbers : List Nat} (some_part : parts ≠ [])
    (stands : List.Forall₂ (fun part n => Stands part n ∧ n ≤ partLimit) parts numbers) :
    (split ':' (join [':'] parts)).mapM readPart? = some numbers := by
  have colonless : ∀ part ∈ parts, ':' ∉ part := fun part member => by
    obtain ⟨_, _, here, -⟩ := Steps.exists_of_forall₂ stands member
    exact here.colonless
  rw [split_join some_part colonless, Steps.mapM_eq_some_iff]
  exact stands.imp fun _ _ => readPart?_eq_some_iff.mpr

theorem join_two (hour minute : List Char) :
    join [':'] [hour, minute] = hour ++ ':' :: minute := by
  simp [join]

theorem join_three (hour minute second : List Char) :
    join [':'] [hour, minute, second] = hour ++ ':' :: (minute ++ ':' :: second) := by
  simp [join]

theorem spelled_of_read {text : String} (read : TimeOfDay.read text = .ok time) :
    Spelled (trim text.toList) time.hour time.minute time.second := by
  unfold TimeOfDay.read at read
  split at read
  next numbers =>
    obtain ⟨parts, same, stands⟩ := stands_of_split numbers
    obtain ⟨rfl, rfl, whole⟩ := ofParts_eq_ok_iff.mp read
    rcases stands with _ | ⟨first, _ | ⟨last, _ | _⟩⟩
    rw [whole, ← same, join_two]
    exact .short first last
  next numbers =>
    obtain ⟨parts, same, stands⟩ := stands_of_split numbers
    obtain ⟨rfl, rfl, rfl⟩ := ofParts_eq_ok_iff.mp read
    rcases stands with _ | ⟨first, _ | ⟨middle, _ | ⟨last, _ | _⟩⟩⟩
    rw [← same, join_three]
    exact .full first middle last
  next => cases read

theorem read_of_spelled {text : String} (spelled : Spelled (trim text.toList) hour minute second)
    (held : hour ≤ partLimit ∧ minute ≤ partLimit ∧ second ≤ partLimit) :
    TimeOfDay.read text = ofParts hour minute second := by
  unfold TimeOfDay.read
  generalize trim text.toList = core at spelled
  obtain ⟨hour_held, minute_held, second_held⟩ := held
  cases spelled with
  | short first last =>
    rw [← join_two, mapM_split_join (List.cons_ne_nil _ _)
      (.cons ⟨first, hour_held⟩ (.cons ⟨last, minute_held⟩ .nil))]
  | full first middle last =>
    rw [← join_three, mapM_split_join (List.cons_ne_nil _ _)
      (.cons ⟨first, hour_held⟩ (.cons ⟨middle, minute_held⟩ (.cons ⟨last, second_held⟩ .nil)))]

/-- A text is read as the time of three numbers exactly if, without the white space around it, it
spells them in the notation and they are those of a clock. The printed form of what was read is
read as the same, so that to print it once more changes nothing. -/
theorem read_iff_spelled (text : String) :
    (∀ hour minute second, (∃ time, read text = .ok time ∧ time.hour = hour ∧
        time.minute = minute ∧ time.second = second) ↔
      (∃ core, Stripped text.toList core ∧ Spelled core hour minute second) ∧
        hour ≤ 23 ∧ minute ≤ 59 ∧ second ≤ 59) ∧
    (∀ time, read text = .ok time → read time.render = .ok time) ∧
    ∀ printed, (read text).map render = .ok printed → (read printed).map render = .ok printed := by
  refine ⟨fun hour minute second => ⟨?_, ?_⟩, ?_, ?_⟩
  · rintro ⟨time, read, rfl, rfl, rfl⟩
    exact ⟨⟨_, trim_eq_iff.mp rfl, spelled_of_read read⟩, time.hour_le, time.minute_le,
      time.second_le⟩
  · rintro ⟨⟨core, stripped, spelled⟩, hour_le, minute_le, second_le⟩
    have held : hour ≤ partLimit ∧ minute ≤ partLimit ∧ second ≤ partLimit := by
      unfold partLimit
      omega
    rw [← trim_eq_iff.mpr stripped] at spelled
    refine ⟨⟨hour, minute, second, hour_le, minute_le, second_le⟩, ?_, rfl, rfl, rfl⟩
    rw [read_of_spelled spelled held]
    exact ofParts_eq_ok_iff.mpr ⟨rfl, rfl, rfl⟩
  · intro time _
    exact time.read_render
  · intro printed once
    obtain ⟨time, -, rfl⟩ := Steps.map_eq_ok_iff.mp once
    rw [time.read_render]
    rfl

/-- A minute may have one digit and an hour three; white space of any script may stand around. -/
theorem read_iff_spelled_of_padded :
    let text := "\u3000007:5\n"
    let five_past : TimeOfDay := ⟨7, 5, 0, by decide, by decide, by decide⟩
    read text = .ok five_past ∧
      (∃ core, Stripped text.toList core ∧ Spelled core 7 5 0) ∧
      five_past.render = "07:05:00" ∧ read "07:05:00" = .ok five_past := by
  intro text five_past
  have found : read text = .ok five_past := by decide +kernel
  have printed : five_past.render = "07:05:00" := by decide +kernel
  obtain ⟨spelled, again, -⟩ := read_iff_spelled text
  exact ⟨found, ((spelled 7 5 0).mp ⟨five_past, found, rfl, rfl, rfl⟩).1, printed,
    printed ▸ again five_past found⟩

end PowerRota.Calendar.TimeOfDay
