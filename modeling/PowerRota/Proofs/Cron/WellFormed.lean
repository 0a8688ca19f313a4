import PowerRota.Firing.Rule

/-! What reading guarantees of an expression: each field holds an increasing list of
values that the field admits. -/

set_option autoImplicit false

namespace PowerRota.Cron

/-- Increasing values that a field admits. -/
structure Field.Covers (field : Field) (values : List Nat) : Prop where
  increasing : values.Pairwise (· < ·)
  admitted : ∀ value ∈ values, field.admits value = true

structure Expression.WellFormed (expression : Expression) : Prop where
  seconds : Field.second.Covers expression.seconds
  minutes : Field.minute.Covers expression.minutes
  hours : Field.hour.Covers expression.hours
  daysOfMonth : Field.dayOfMonth.Covers expression.daysOfMonth
  months : Field.month.Covers expression.months
  daysOfWeek : Field.dayOfWeek.Covers expression.daysOfWeek
  years : Field.year.Covers expression.years

namespace Field

theorem admits_iff (field : Field) (value : Nat) :
    field.admits value = true ↔ field.least ≤ value ∧ value ≤ field.greatest := by
  unfold admits
  rw [Bool.and_eq_true_iff, decide_eq_true_iff, decide_eq_true_iff]

theorem Covers.le {field : Field} {values : List Nat} (covers : field.Covers values) {value : Nat}
    (member : value ∈ values) : value ≤ field.greatest :=
  ((field.admits_iff value).mp (covers.admitted value member)).2

theorem mem_everything {field : Field} {value : Nat} :
    value ∈ field.everything ↔ field.admits value = true := by
  rw [admits_iff]
  unfold everything span
  rw [List.mem_map]
  constructor
  · rintro ⟨n, inside, rfl⟩
    have bound := List.mem_range.mp inside
    omega
  · rintro ⟨least, greatest⟩
    exact ⟨value - field.least, List.mem_range.mpr (by omega), by omega⟩

theorem covers_everything (field : Field) : field.Covers field.everything where
  increasing := by
    refine List.pairwise_map.mpr (List.pairwise_lt_range.imp fun below => ?_)
    exact Nat.add_lt_add_left below _
  admitted _ member := mem_everything.mp member

theorem Covers.filter {field : Field} {values : List Nat} (covers : field.Covers values)
    (keeps : Nat → Bool) : field.Covers (values.filter keeps) where
  increasing := covers.increasing.filter keeps
  admitted value member := covers.admitted value (List.mem_filter.mp member).1

theorem covers_singleton {field : Field} {value : Nat} (admitted : field.admits value = true) :
    field.Covers [value] where
  increasing := List.pairwise_singleton _ _
  admitted _ member := List.mem_singleton.mp member ▸ admitted

end Field

theorem covers_of_fieldValues? {field : Field} {items : List Item} {values : List Nat}
    (found : fieldValues? field items = some values) : field.Covers values := by
  unfold fieldValues? at found
  obtain ⟨lists, _, found⟩ := Option.bind_eq_some_iff.mp found
  dsimp only at found
  split at found
  · cases found
    exact field.covers_everything.filter _
  · cases found

theorem covers_of_readField? {field : Field} {text rest : List Char} {values : List Nat}
    (read : readField? field text = some (values, rest)) : field.Covers values := by
  unfold readField? at read
  obtain ⟨items, _, read⟩ := Option.bind_eq_some_iff.mp read
  obtain ⟨found, covered, same⟩ := Option.bind_eq_some_iff.mp read
  cases same
  exact covers_of_fieldValues? covered

theorem wellFormed_of_readFields? {text : List Char} {expression : Expression}
    (read : readFields? text = some expression) : expression.WellFormed := by
  unfold readFields? at read
  obtain ⟨seconds, second, read⟩ := Option.bind_eq_some_iff.mp read
  obtain ⟨minutes, minute, read⟩ := Option.bind_eq_some_iff.mp read
  obtain ⟨hours, hour, read⟩ := Option.bind_eq_some_iff.mp read
  obtain ⟨days, day, read⟩ := Option.bind_eq_some_iff.mp read
  obtain ⟨months, month, read⟩ := Option.bind_eq_some_iff.mp read
  obtain ⟨weekdays, weekday, read⟩ := Option.bind_eq_some_iff.mp read
  -- a year that is not written stands for all of them
  have years : Field.year.Covers
      ((readField? .year weekdays.2).getD (Field.everything .year, weekdays.2)).1 := by
    cases year : readField? .year weekdays.2 with
    | none => exact Field.covers_everything .year
    | some found => exact covers_of_readField? year
  dsimp only at read
  split at read
  · cases read
    exact ⟨covers_of_readField? second, covers_of_readField? minute, covers_of_readField? hour,
      covers_of_readField? day, covers_of_readField? month, covers_of_readField? weekday, years⟩
  · cases read

theorem wellFormed_of_readWord? {word : String} {expression : Expression}
    (read : readWord? word = some expression) : expression.WellFormed := by
  have all (field : Field) := field.covers_everything
  unfold readWord? at read
  dsimp only at read
  split at read <;> cases read <;> constructor <;>
    first
      | exact all _
      | exact Field.covers_singleton rfl

theorem wellFormed_of_readTrimmed {text : List Char} {expression : Expression}
    (read : readTrimmed text = .ok expression) : expression.WellFormed := by
  unfold readTrimmed at read
  dsimp only at read
  split at read
  · split at read
    next found =>
      cases read
      exact wellFormed_of_readWord? found
    next => cases read
  · cases written : normalized text with
    | error fault =>
      rw [written] at read
      cases read
    | ok fields =>
      cases found : readFields? fields with
      | none => simp [written, found, bind, Except.bind] at read
      | some other =>
        obtain rfl : other = expression := by
          simpa [written, found, bind, Except.bind] using read
        exact wellFormed_of_readFields? found

theorem wellFormed_of_ofCron {text : String} {expression : Expression}
    (accepted : FiringRule.ofCron text = .ok (.cron expression)) : expression.WellFormed := by
  unfold FiringRule.ofCron at accepted
  dsimp only at accepted
  split at accepted
  next found =>
    cases accepted
    exact wellFormed_of_readTrimmed found
  next => cases accepted

theorem wellFormed_of_ofTrigger {trigger : Trigger} {expression : Expression}
    (accepted : FiringRule.ofTrigger trigger = .ok (.cron expression)) :
    expression.WellFormed := by
  cases trigger with
  | cron text => exact wellFormed_of_ofCron accepted
  | weekly | monthly | interval =>
    simp only [FiringRule.ofTrigger] at accepted
    split at accepted <;> cases accepted
  | daily | once => cases accepted

end PowerRota.Cron
