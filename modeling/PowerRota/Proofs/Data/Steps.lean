import Mathlib.Data.List.Forall2

/-! Steps that can fail, one after the other: they succeed as a whole if each of them does. -/

set_option autoImplicit false

namespace PowerRota.Steps

variable {Fault Other Value Result : Type}

theorem throw_eq (fault : Fault) : (throw fault : Except Fault Value) = .error fault := rfl

theorem pure_eq (value : Value) : (pure value : Except Fault Value) = .ok value := rfl

theorem error_bind (fault : Fault) (next : Value → Except Fault Result) :
    (Except.error fault >>= next) = .error fault := rfl

theorem ok_bind (value : Value) (next : Value → Except Fault Result) :
    (Except.ok value >>= next) = next value := rfl

theorem bind_eq_ok_iff {first : Except Fault Value} {next : Value → Except Fault Result}
    {result : Result} :
    (first >>= next) = .ok result ↔ ∃ value, first = .ok value ∧ next value = .ok result := by
  cases first <;> simp [bind, Except.bind]

theorem bind_eq_error_iff {first : Except Fault Value} {next : Value → Except Fault Result}
    {fault : Fault} :
    (first >>= next) = .error fault ↔
      first = .error fault ∨ ∃ value, first = .ok value ∧ next value = .error fault := by
  cases first <;> simp [bind, Except.bind]

theorem pure_eq_ok_iff {value other : Value} :
    (pure value : Except Fault Value) = .ok other ↔ value = other := by
  simp [pure, Except.pure]

theorem map_eq_ok_iff {first : Except Fault Value} {change : Value → Result} {result : Result} :
    first.map change = .ok result ↔ ∃ value, first = .ok value ∧ change value = result := by
  cases first <;> simp [Except.map]

theorem map_eq_error_iff {first : Except Fault Value} {change : Value → Result} {fault : Fault} :
    first.map change = .error fault ↔ first = .error fault := by
  cases first <;> simp [Except.map]

theorem mapError_eq_ok_iff {first : Except Fault Value} {change : Fault → Other} {value : Value} :
    first.mapError change = .ok value ↔ first = .ok value := by
  cases first <;> simp [Except.mapError]

theorem mapError_eq_error_iff {first : Except Fault Value} {change : Fault → Other}
    {fault : Other} :
    first.mapError change = .error fault ↔ ∃ cause, first = .error cause ∧ change cause = fault := by
  cases first <;> simp [Except.mapError]

theorem mapM_eq_ok_iff {convert : Value → Except Fault Result} {values : List Value}
    {results : List Result} :
    values.mapM convert = .ok results ↔
      List.Forall₂ (fun value result => convert value = .ok result) values results := by
  induction values generalizing results with
  | nil => rw [List.mapM_nil, pure_eq_ok_iff, List.forall₂_nil_left_iff, eq_comm]
  | cons value values ih =>
    simp only [List.mapM_cons, bind_eq_ok_iff, pure_eq_ok_iff, ih, List.forall₂_cons_left_iff]
    constructor
    · rintro ⟨result, converted, results, rest, rfl⟩
      exact ⟨result, results, converted, rest, rfl⟩
    · rintro ⟨result, results, converted, rest, rfl⟩
      exact ⟨result, converted, results, rest, rfl⟩

theorem exists_mapM {convert : Value → Except Fault Result} {values : List Value}
    (each : ∀ value ∈ values, ∃ result, convert value = .ok result) :
    ∃ results, values.mapM convert = .ok results := by
  induction values with
  | nil => exact ⟨[], rfl⟩
  | cons value values ih =>
    obtain ⟨⟨result, converted⟩, later⟩ := List.forall_mem_cons.mp each
    obtain ⟨results, rest⟩ := ih later
    exact ⟨result :: results, mapM_eq_ok_iff.mpr (.cons converted (mapM_eq_ok_iff.mp rest))⟩

theorem mapM_eq_some_iff {convert : Value → Option Result} {values : List Value}
    {results : List Result} :
    values.mapM convert = some results ↔
      List.Forall₂ (fun value result => convert value = some result) values results := by
  induction values generalizing results with
  | nil => rw [List.mapM_nil, List.forall₂_nil_left_iff, Option.pure_def, Option.some.injEq, eq_comm]
  | cons value values ih =>
    simp only [List.mapM_cons, Option.bind_eq_bind, Option.bind_eq_some_iff, Option.pure_def,
      Option.some.injEq, ih, List.forall₂_cons_left_iff]
    constructor
    · rintro ⟨result, converted, results, rest, rfl⟩
      exact ⟨result, results, converted, rest, rfl⟩
    · rintro ⟨result, results, converted, rest, rfl⟩
      exact ⟨result, converted, results, rest, rfl⟩

theorem exists_of_forall₂ {Entry Value : Type} {related : Entry → Value → Prop}
    {entries : List Entry} {values : List Value} (each : List.Forall₂ related entries values)
    {entry : Entry} (member : entry ∈ entries) : ∃ value ∈ values, related entry value := by
  induction each with
  | nil => cases member
  | cons first _ ih =>
    rcases List.mem_cons.mp member with rfl | member
    · exact ⟨_, List.mem_cons_self .., first⟩
    · obtain ⟨value, later, holds⟩ := ih member
      exact ⟨value, List.mem_cons_of_mem _ later, holds⟩

theorem forall₂_append_left_iff {A B : Type} {R : A → B → Prop} {first second : List A}
    {values : List B} :
    List.Forall₂ R (first ++ second) values ↔
      ∃ before after, List.Forall₂ R first before ∧ List.Forall₂ R second after ∧
        before ++ after = values := by
  induction first generalizing values with
  | nil => simp
  | cons value first ih =>
    simp only [List.cons_append, List.forall₂_cons_left_iff, ih]
    constructor
    · rintro ⟨result, _, related, ⟨before, after, left, right, rfl⟩, rfl⟩
      exact ⟨result :: before, after, ⟨result, before, related, left, rfl⟩, right, rfl⟩
    · rintro ⟨_, after, ⟨result, before, related, left, rfl⟩, right, rfl⟩
      exact ⟨result, before ++ after, related, ⟨before, after, left, right, rfl⟩, rfl⟩

end PowerRota.Steps
