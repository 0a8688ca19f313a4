import Mathlib.Data.List.TakeWhile
import PowerRota.Calendar.Rfc3339
import PowerRota.Calendar.TimeOfDay
import PowerRota.Proofs.Calendar.Months
import PowerRota.Proofs.Text.Cutting
import PowerRota.Proofs.Text.Digits

/-! Times of day and timestamps in writing are read back as they were.

Each reader takes from the front of a text what the printer of its part put there, whatever
follows, so that the readers of the parts can be put one after the other. -/

set_option autoImplicit false

namespace PowerRota.Calendar

open PowerRota.Text

namespace TimeOfDay

theorem readPart?_zeroPadded {n : Nat} (small : n ≤ 59) : readPart? (zeroPadded 2 n) = some n := by
  have fits : n ≤ partLimit := Nat.le_trans small (by decide)
  simp [readPart?, readNat_zeroPadded, fits]

theorem read_render (time : TimeOfDay) : read time.render = .ok time := by
  have digits (n : Nat) (c : Char) (member : c ∈ zeroPadded 2 n) : isDigit c = true :=
    List.all_eq_true.mp (all_isDigit_zeroPadded 2 n) c member
  have colon (n : Nat) : ':' ∉ zeroPadded 2 n := fun member => nomatch digits n ':' member
  have trimmed : trim time.render.toList = time.render.toList := by
    refine trim_of_blankless ?_
    simp only [render, partsText, String.toList_ofList, List.mem_append, List.mem_cons]
    rintro c (hour | rfl | minute | rfl | second)
    all_goals first | rfl | exact isBlank_of_isDigit (digits _ c ‹_›)
  have parts : split ':' time.render.toList =
      [zeroPadded 2 time.hour, zeroPadded 2 time.minute, zeroPadded 2 time.second] := by
    rw [render, partsText, String.toList_ofList, split_append (colon _), split_append (colon _),
      split_of_not_mem (colon _)]
  have hour := readPart?_zeroPadded (Nat.le_trans time.hour_le (by decide))
  have minute := readPart?_zeroPadded time.minute_le
  have second := readPart?_zeroPadded time.second_le
  simp [read, trimmed, parts, hour, minute, second, ofParts, time.hour_le, time.minute_le,
    time.second_le]

end TimeOfDay

namespace Timestamp

variable {rest : List Char}

theorem trimStart_zeroPadded (width n : Nat) (rest : List Char) :
    trimStart (zeroPadded width n ++ rest) = zeroPadded width n ++ rest := by
  obtain ⟨c, digits, same, digit⟩ := exists_first_of_zeroPadded width n
  simp [trimStart, same, isBlank_of_isDigit digit]

theorem readShort?_append {width n : Nat} (positive : 0 < width) (fits : n < 10 ^ width)
    (rest : List Char) : readShort? width (zeroPadded width n ++ rest) = some (n, rest) := by
  have length := length_zeroPadded positive fits
  have front : (zeroPadded width n ++ rest).take width = zeroPadded width n := by
    simp [length]
  have digits : (zeroPadded width n).takeWhile isDigit = zeroPadded width n :=
    List.takeWhile_eq_self_iff.mpr (List.all_eq_true.mp (all_isDigit_zeroPadded width n))
  simp only [readShort?, trimStart_zeroPadded, front, digits, digitsValue_zeroPadded]
  simp [zeroPadded_ne_nil, length]

theorem readYear?_append (year : Int) (rest : List Char) :
    readYear? (Instant.yearText year ++ '-' :: rest) = some (year, '-' :: rest) := by
  have stops : ∀ c ∈ ('-' :: rest).head?, isDigit c = false := by simp [isDigit]
  obtain ⟨taken, left⟩ := takeWhile_append_of_stop (all_isDigit_zeroPadded 4 year.natAbs) stops
  unfold Instant.yearText
  split
  next plain =>
    obtain ⟨c, digits, same, digit⟩ := exists_first_of_zeroPadded 4 year.toNat
    have fits : year.toNat < 10 ^ 4 := by omega
    have short := readShort?_append (by decide) fits ('-' :: rest)
    have start := trimStart_zeroPadded 4 year.toNat ('-' :: rest)
    rw [same, List.cons_append] at short start ⊢
    simp only [readYear?, start]
    split
    next sign =>
      cases sign
      cases digit
    next sign =>
      cases sign
      cases digit
    next =>
      rw [short]
      simp only [Option.map_some, Option.some.injEq, Prod.mk.injEq, and_true]
      omega
  next =>
    split
    next negative =>
      have same : -(year.natAbs : Int) = year := by omega
      generalize year.natAbs = size at same taken left
      simp [readYear?, trimStart, isBlank, taken, left, zeroPadded_ne_nil, digitsValue_zeroPadded,
        same]
    next =>
      have same : (year.natAbs : Int) = year := by omega
      generalize year.natAbs = size at same taken left
      simp [readYear?, trimStart, isBlank, taken, left, zeroPadded_ne_nil, digitsValue_zeroPadded,
        same]

theorem readFraction?_digits {width fraction : Nat} (short : width ≤ 9) (positive : 0 < width)
    (fits : fraction < 10 ^ width) (stops : ∀ c ∈ rest.head?, isDigit c = false) :
    readFraction? ('.' :: zeroPadded width fraction ++ rest) =
      some (fraction * 10 ^ (9 - width), rest) := by
  have length := length_zeroPadded positive fits
  obtain ⟨taken, left⟩ := takeWhile_append_of_stop (all_isDigit_zeroPadded width fraction) stops
  have kept : (zeroPadded width fraction).take 9 = zeroPadded width fraction :=
    List.take_of_length_le (length.le.trans short)
  simp [readFraction?, taken, left, kept, length, zeroPadded_ne_nil, digitsValue_zeroPadded]

theorem readFraction?_append {fraction : Nat} (small : fraction < 1000000000)
    (stops : ∀ c ∈ rest.head?, c ≠ '.' ∧ isDigit c = false) :
    readFraction? (Instant.fractionText fraction ++ rest) = some (fraction, rest) := by
  have digits (c : Char) (first : c ∈ rest.head?) : isDigit c = false := (stops c first).2
  -- one case for each width that is written: none, three, six and nine digits
  unfold Instant.fractionText
  split
  next whole =>
    cases rest with
    | nil => simp [readFraction?, whole]
    | cons c rest =>
      have point := (stops c rfl).1
      unfold readFraction?
      split
      next same => exact absurd (List.cons.inj same).1 point
      next => simp [whole]
  next =>
    split
    next millis =>
      rw [readFraction?_digits (by decide) (by decide) (by omega) digits]
      simp only [Option.some.injEq, Prod.mk.injEq, and_true]
      omega
    next =>
      split
      next micros =>
        rw [readFraction?_digits (by decide) (by decide) (by omega) digits]
        simp only [Option.some.injEq, Prod.mk.injEq, and_true]
        omega
      next =>
        rw [readFraction?_digits (by decide) (by decide) (by omega) digits]
        simp

theorem readSpacedChar?_cons {mark : Char} (shown : isBlank mark = false) (rest : List Char) :
    readSpacedChar? mark (mark :: rest) = some rest := by
  simp [readSpacedChar?, readChar?, trimStart, shown]

variable (timestamp : Timestamp)

theorem make?_self : make? timestamp.second timestamp.nanos = some timestamp :=
  dif_pos ⟨timestamp.nanos_lt, timestamp.leap_last, timestamp.inReach⟩

theorem ofParts?_self :
    let date := Date.ofDay (timestamp.second / 86400)
    let clock := (timestamp.second % 86400).toNat
    ofParts? date.year date.month date.day (clock / 3600) (clock / 60 % 60)
      (clock % 60 + timestamp.nanos / 1000000000) (timestamp.nanos % 1000000000) 0 =
        some timestamp := by
  intro date clock
  have valid : date.Valid := Date.ofDay_valid _
  have day : (Date.mk date.year date.month date.day).toDay = timestamp.second / 86400 :=
    Date.toDay_ofDay _
  have nanos_lt := timestamp.nanos_lt
  have leap_last := timestamp.leap_last
  have inside : clock < 86400 := by omega
  have small : clock % 60 + timestamp.nanos / 1000000000 ≤ 60 := by omega
  unfold ofParts?
  rw [if_pos ⟨valid, timestamp.inReach, by omega, by omega, small, by decide, by decide⟩, day]
  split
  -- the 60th second is written as one past the 59th
  next leap =>
    have second : timestamp.second / 86400 * 86400 +
        ((clock / 3600 * 3600 + clock / 60 % 60 * 60 + 59 : Nat) : Int) - 0 = timestamp.second := by
      omega
    have nanos : timestamp.nanos % 1000000000 + 1000000000 = timestamp.nanos := by omega
    rw [second, nanos, make?_self]
  next plain =>
    have whole : timestamp.nanos < 1000000000 := by omega
    have second : timestamp.second / 86400 * 86400 + ((clock / 3600 * 3600 + clock / 60 % 60 * 60 +
        (clock % 60 + timestamp.nanos / 1000000000) : Nat) : Int) - 0 = timestamp.second := by
      omega
    rw [second, Nat.mod_eq_of_lt whole, make?_self]

theorem readRelaxed?_renderZulu : readRelaxed? timestamp.renderZulu = some timestamp := by
  have nanos_lt := timestamp.nanos_lt
  obtain ⟨_, lastMonth, _, lastDay⟩ := Date.ofDay_valid (timestamp.second / 86400)
  have length := (monthLength_bounds (Date.ofDay (timestamp.second / 86400)).year
    (Date.ofDay (timestamp.second / 86400)).month).2
  have two {n : Nat} (fits : n < 10 ^ 2) (rest : List Char) :
      readShort? 2 (zeroPadded 2 n ++ rest) = some (n, rest) := readShort?_append (by decide) fits rest
  have month := two (Nat.lt_of_le_of_lt lastMonth (by decide))
  have day := two (Nat.lt_of_le_of_lt (Nat.le_trans lastDay length) (by decide))
  have parts := timestamp.ofParts?_self
  have inside : (timestamp.second % 86400).toNat < 86400 := by omega
  simp only [readRelaxed?, renderZulu, String.toList_ofList, Instant.dateText, Instant.timeText]
  generalize (timestamp.second % 86400).toNat = clock at parts inside ⊢
  have hour := two (show clock / 3600 < 10 ^ 2 by omega)
  have minute := two (show clock / 60 % 60 < 10 ^ 2 by omega)
  have second := two (show clock % 60 + timestamp.nanos / 1000000000 < 10 ^ 2 by omega)
  have fraction : readFraction? (Instant.fractionText (timestamp.nanos % 1000000000) ++ ['Z']) =
      some (timestamp.nanos % 1000000000, ['Z']) :=
    readFraction?_append (by omega) (by simp [isDigit])
  have hyphen : ∀ rest, readSpacedChar? '-' ('-' :: rest) = some rest :=
    readSpacedChar?_cons (by decide)
  have colon : ∀ rest, readSpacedChar? ':' (':' :: rest) = some rest :=
    readSpacedChar?_cons (by decide)
  have mark (rest : List Char) : readTimeMark? ('T' :: rest) = some rest := rfl
  have zulu : readZoneMark? ['Z'] = some (0, []) := by decide
  have last : allBlank [] = true := rfl
  simp only [List.append_assoc, List.cons_append, List.nil_append, Option.bind_eq_bind,
    Option.bind_some, readYear?_append, hyphen, month, day, mark, hour, colon, minute, second,
    fraction, zulu, last]
  exact parts

end Timestamp

end PowerRota.Calendar
