import PowerRota.Config.Layers
import PowerRota.Manifest.Message
import PowerRota.Proofs.Duration.Overflow
import PowerRota.Proofs.Manifest.Loading

/-! Durations where they are loaded: in manifests, in settings and in variables.

The length of an interval is read when everything before it in its manifest is in order, and the
documents of a text are read up to the first one with a fault. Of the settings three are lengths. A
text that is too long ends the program in each of these places; a number that is too large is
reported instead. -/

set_option autoImplicit false

namespace PowerRota

open Duration (TooLong)

/-! Actions. -/

namespace ActionEntry

variable {entry : ActionEntry}

theorem trigger_interval (entry : ActionEntry) :
    entry.trigger "interval" = (do
      let text ← need "every" entry.every
      return .interval (← (Duration.read text).mapError .every)) := rfl

theorem exists_interval_iff :
    (∃ trigger, entry.trigger "interval" = .ok trigger) ↔
      ∃ text length, entry.every = some text ∧ Duration.read text = .ok length := by
  simp only [trigger_interval, Steps.bind_eq_ok_iff, need_eq_ok_iff, Steps.mapError_eq_ok_iff,
    Steps.pure_eq_ok_iff]
  constructor
  · rintro ⟨_, text, given, length, read, -⟩
    exact ⟨text, length, given, read⟩
  · rintro ⟨text, length, given, read⟩
    exact ⟨_, text, given, length, read, rfl⟩

theorem trigger_fatal_iff {scheduleType : String} :
    entry.trigger scheduleType = .error (.every .overflow) ↔
      scheduleType = "interval" ∧ ∃ text, entry.every = some text ∧ TooLong text := by
  constructor
  · intro refused
    obtain ⟨interval, text, given, read⟩ := every_of_trigger refused
    exact ⟨interval, text, given, Duration.read_eq_overflow_iff.mp read⟩
  · rintro ⟨rfl, text, given, long⟩
    rw [trigger_interval, given, need, Steps.ok_bind, Duration.read_eq_overflow_iff.mpr long]
    rfl

end ActionEntry

/-! Manifests. -/

namespace Manifest

variable {manifest : Manifest} {action : Action}

/-- An enabled action is given a text too long. -/
def TooLongAt (manifest : Manifest) (action : Action) : Prop :=
  ∃ entry text, manifest.Enables action entry ∧ entry.every = some text ∧ TooLong text

/-- A manifest of an interval that is in order up to a text too long. The stop is not looked at
unless the start can be read. -/
structure BreaksOff (manifest : Manifest) : Prop where
  apiVersion : manifest.apiVersion = supportedVersion
  kind : manifest.kind = supportedKind
  resourceKind : ∃ kind : ResourceKind, kind.label = manifest.resourceKind
  interval : manifest.scheduleType = "interval"
  reached : manifest.TooLongAt .start ∨
    manifest.TooLongAt .stop ∧ ∀ entry, manifest.Enables .start entry →
      ∃ text length, entry.every = some text ∧ Duration.read text = .ok length

theorem trigger?_fatal_iff :
    (∃ fault, manifest.trigger? action = .error fault ∧ fault.isFatal = true) ↔
      manifest.scheduleType = "interval" ∧ manifest.TooLongAt action := by
  by_cases enabled : ∃ entry, manifest.Enables action entry
  · obtain ⟨entry, enables⟩ := enabled
    have fatal : (∃ fault, manifest.trigger? action = .error fault ∧ fault.isFatal = true) ↔
        entry.trigger manifest.scheduleType = .error (.every .overflow) := by
      rw [trigger?_of_enables enables]
      simp only [Steps.mapError_eq_error_iff, Steps.map_eq_error_iff]
      constructor
      · rintro ⟨_, ⟨cause, refused, rfl⟩, fatal⟩
        -- of the faults of an action only that of a length can be fatal
        cases cause with
        | every cause =>
          cases eq_of_beq fatal
          exact refused
        | _ => cases fatal
      · intro refused
        exact ⟨_, ⟨_, refused, rfl⟩, rfl⟩
    rw [fatal, ActionEntry.trigger_fatal_iff]
    refine and_congr_right' ⟨?_, ?_⟩
    · rintro ⟨text, given, long⟩
      exact ⟨entry, text, enables, given, long⟩
    · rintro ⟨other, text, also, given, long⟩
      cases enables.eq also
      exact ⟨text, given, long⟩
  · rw [trigger?_of_disabled enabled]
    refine iff_of_false ?_ ?_
    · rintro ⟨_, ⟨⟩, _⟩
    · rintro ⟨-, entry, _, enables, -⟩
      exact enabled ⟨entry, enables⟩

theorem exists_trigger?_iff (interval : manifest.scheduleType = "interval") :
    (∃ found, manifest.trigger? action = .ok found) ↔
      ∀ entry, manifest.Enables action entry →
        ∃ text length, entry.every = some text ∧ Duration.read text = .ok length := by
  by_cases enabled : ∃ entry, manifest.Enables action entry
  · obtain ⟨entry, enables⟩ := enabled
    have started : (∃ found, manifest.trigger? action = .ok found) ↔
        ∃ trigger, entry.trigger "interval" = .ok trigger := by
      simp only [trigger?_of_enables enables, interval, Steps.mapError_eq_ok_iff,
        Steps.map_eq_ok_iff]
      constructor
      · rintro ⟨_, trigger, made, rfl⟩
        exact ⟨trigger, made⟩
      · rintro ⟨trigger, made⟩
        exact ⟨_, trigger, made, rfl⟩
    rw [started, ActionEntry.exists_interval_iff]
    constructor
    · intro read other also
      cases enables.eq also
      exact read
    · intro read
      exact read entry enables
  · exact iff_of_true ⟨none, trigger?_of_disabled enabled⟩
      fun entry enables => absurd ⟨entry, enables⟩ enabled

theorem schedule_fatal_iff_actions :
    (∃ fault, manifest.schedule = .error fault ∧ fault.isFatal = true) ↔
      manifest.apiVersion = supportedVersion ∧ manifest.kind = supportedKind ∧
      (∃ kind : ResourceKind, kind.label = manifest.resourceKind) ∧
      ((∃ fault, manifest.trigger? .start = .error fault ∧ fault.isFatal = true) ∨
        (∃ start, manifest.trigger? .start = .ok start) ∧
          ∃ fault, manifest.trigger? .stop = .error fault ∧ fault.isFatal = true) := by
  unfold Manifest.schedule
  by_cases version : manifest.apiVersion = supportedVersion
  · by_cases kind : manifest.kind = supportedKind
    · simp only [version, kind, ne_eq, not_true_eq_false, if_false, true_and,
        ← ResourceKind.ofLabel?_eq_some_iff]
      cases ResourceKind.ofLabel? manifest.resourceKind with
      | none => simp [Steps.throw_eq, Steps.error_bind, ManifestFault.isFatal]
      | some kind =>
        simp only [pure_bind, Steps.bind_eq_error_iff, Option.some.injEq, exists_eq', true_and]
        constructor
        · -- the check of the whole schedule comes last, and its faults are reported
          rintro ⟨fault, first | ⟨start, started, second | ⟨stop, -, checked⟩⟩, fatal⟩
          · exact Or.inl ⟨fault, first, fatal⟩
          · exact Or.inr ⟨⟨start, started⟩, fault, second, fatal⟩
          · split at checked <;> cases checked
            cases fatal
        · rintro (⟨fault, first, fatal⟩ | ⟨⟨start, started⟩, fault, second, fatal⟩)
          · exact ⟨fault, Or.inl first, fatal⟩
          · exact ⟨fault, Or.inr ⟨start, started, Or.inl second⟩, fatal⟩
    · simp [version, kind, Steps.throw_eq, Steps.error_bind, ManifestFault.isFatal]
  · simp [version, Steps.throw_eq, Steps.error_bind, ManifestFault.isFatal]

theorem schedule_fatal_iff :
    (∃ fault, manifest.schedule = .error fault ∧ fault.isFatal = true) ↔ manifest.BreaksOff := by
  rw [schedule_fatal_iff_actions, trigger?_fatal_iff, trigger?_fatal_iff]
  constructor
  · rintro ⟨version, kind, resource, ⟨interval, long⟩ | ⟨started, interval, long⟩⟩
    · exact ⟨version, kind, resource, interval, Or.inl long⟩
    · exact ⟨version, kind, resource, interval,
        Or.inr ⟨long, (exists_trigger?_iff interval).mp started⟩⟩
  · rintro ⟨version, kind, resource, interval, long | ⟨long, started⟩⟩
    · exact ⟨version, kind, resource, Or.inl ⟨interval, long⟩⟩
    · exact ⟨version, kind, resource,
        Or.inr ⟨(exists_trigger?_iff interval).mpr started, interval, long⟩⟩

/-! Texts of several documents. -/

variable {document : Except Yaml.Fault Yaml.Value}

/-- A document that ends the program. -/
def EndsProgram (document : Except Yaml.Fault Yaml.Value) : Prop :=
  isNull document = false ∧ ∃ value manifest, document = .ok value ∧
    decode value = .ok manifest ∧ manifest.BreaksOff

def IsRead (document : Except Yaml.Fault Yaml.Value) : Prop :=
  isNull document = true ∨ ∃ schedule, Gives document schedule

theorem isRead_iff :
    IsRead document ↔ ∃ schedule?, scheduleOf document = .ok schedule? := by
  simp only [scheduleOf_eq_ok_iff, IsRead]
  constructor
  · rintro (null | ⟨schedule, gives⟩)
    · exact ⟨none, Or.inl ⟨null, rfl⟩⟩
    · cases null : isNull document with
      | true => exact ⟨none, Or.inl ⟨rfl, rfl⟩⟩
      | false => exact ⟨some schedule, Or.inr ⟨rfl, schedule, gives, rfl⟩⟩
  · rintro ⟨_, ⟨null, -⟩ | ⟨-, schedule, gives, -⟩⟩
    · exact Or.inl null
    · exact Or.inr ⟨schedule, gives⟩

theorem scheduleOf_ok {value : Yaml.Value} (some_value : isNull (.ok value) = false) :
    scheduleOf (.ok value) = (do
      let manifest ← (decode value).mapError .data
      return some (← manifest.schedule.mapError .manifest)) := by
  simp only [isNull] at some_value
  simp only [scheduleOf, Except.mapError, Steps.ok_bind]
  cases shape : value.untagged with
  | null => rw [shape] at some_value; cases some_value
  | _ => rfl

theorem scheduleOf_fatal_iff :
    (∃ fault, scheduleOf document = .error fault ∧ fault.isFatal = true) ↔
      EndsProgram document := by
  cases null : isNull document with
  | true => simp [scheduleOf_eq_ok_iff.mpr (Or.inl ⟨null, rfl⟩), EndsProgram, null]
  | false =>
    cases document with
    | error fault =>
      simp [scheduleOf, EndsProgram, Except.mapError, Steps.error_bind, DocumentFault.isFatal]
    | ok value =>
      simp only [scheduleOf_ok null, EndsProgram, null, true_and, Steps.bind_eq_error_iff,
        Steps.mapError_eq_error_iff, Steps.mapError_eq_ok_iff, Except.ok.injEq,
        ← schedule_fatal_iff]
      constructor
      · rintro ⟨_, ⟨cause, -, rfl⟩ | ⟨manifest, decoded, refused⟩, fatal⟩
        · cases fatal
        · obtain ⟨cause, refused, rfl⟩ | ⟨_, _, impossible⟩ := refused
          · exact ⟨value, manifest, rfl, decoded, cause, refused, fatal⟩
          · cases impossible
      · rintro ⟨_, manifest, rfl, decoded, fault, refused, fatal⟩
        exact ⟨.manifest fault, Or.inr ⟨manifest, decoded, Or.inl ⟨fault, refused, rfl⟩⟩, fatal⟩

theorem schedulesOf_eq_error_iff {documents : List (Except Yaml.Fault Yaml.Value)}
    {first number : Nat} {fault : DocumentFault} :
    schedulesOf first documents = .error (number, fault) ↔
      ∃ before document after, documents = before ++ document :: after ∧
        number = first + before.length ∧ (∀ document ∈ before, IsRead document) ∧
        scheduleOf document = .error fault := by
  induction documents generalizing first with
  | nil => simp [schedulesOf]
  | cons document documents ih =>
    simp only [schedulesOf, Steps.bind_eq_error_iff, Steps.mapError_eq_error_iff,
      Steps.mapError_eq_ok_iff, Prod.mk.injEq, ih]
    -- the document itself has a fault, or it is read and one after it has
    constructor
    · rintro (⟨_, refused, rfl, rfl⟩ | ⟨schedule?, read, later | ⟨_, _, impossible⟩⟩)
      · exact ⟨[], document, documents, rfl, rfl, List.forall_mem_nil _, refused⟩
      · obtain ⟨before, next, after, rfl, rfl, earlier, refused⟩ := later
        exact ⟨document :: before, next, after, rfl, by simp only [List.length_cons]; omega,
          List.forall_mem_cons.mpr ⟨isRead_iff.mpr ⟨schedule?, read⟩, earlier⟩, refused⟩
      · cases impossible
    · rintro ⟨before, next, after, same, rfl, earlier, refused⟩
      cases before with
      | nil =>
        cases same
        exact Or.inl ⟨fault, refused, rfl, rfl⟩
      | cons other before =>
        cases same
        obtain ⟨read, earlier⟩ := List.forall_mem_cons.mp earlier
        obtain ⟨schedule?, read⟩ := isRead_iff.mp read
        exact Or.inr ⟨schedule?, read, Or.inl ⟨before, next, after, rfl,
          by simp only [List.length_cons]; omega, earlier, refused⟩⟩

theorem readText_fatal_iff {text : String} {number : Nat} :
    (∃ fault, readText text = .error (number, fault) ∧ fault.isFatal = true) ↔
      ∃ before document after, Yaml.Value.ofText text = before ++ document :: after ∧
        before.length = number ∧ (∀ document ∈ before, IsRead document) ∧
        EndsProgram document := by
  simp only [readText, schedulesOf_eq_error_iff, ← scheduleOf_fatal_iff, Nat.zero_add]
  constructor
  · rintro ⟨fault, ⟨before, document, after, same, rfl, earlier, refused⟩, fatal⟩
    exact ⟨before, document, after, same, rfl, earlier, fault, refused, fatal⟩
  · rintro ⟨before, document, after, same, rfl, earlier, fault, refused, fatal⟩
    exact ⟨fault, ⟨before, document, after, same, rfl, earlier, refused⟩, fatal⟩

end Manifest

/-! Settings. -/

namespace Config

def lengthNames : List String := ["validation_interval", "reload_interval", "shutdown_timeout"]

/-- A setting is given a text too long. -/
def TooLongAt (table : Table) (name : String) : Prop :=
  ∃ text, table.get? name = some (.string text) ∧ TooLong text

/-- Settings that convert, but for lengths that may be too long. -/
structure OtherwiseConverts (table : Table) : Prop where
  timezone : ∃ text, convert table "timezone" Value.toText? = .ok text
  maxConcurrentJobs : ∃ count,
    convert table "max_concurrent_jobs" (Value.toCount? (Number.capacity 64)) = .ok count
  lengths : ∀ name ∈ lengthNames,
    (∃ duration, length table name = .ok duration) ∨ TooLongAt table name
  metricsEnabled : ∃ flag, convert table "metrics_enabled" Value.toBool? = .ok flag
  metricsPort : ∃ port,
    convert table "metrics_port" (Value.toCount? (Number.capacity 16)) = .ok port
  schedulesDir : ∃ text, convert table "schedules_dir" Value.toText? = .ok text

theorem ofFloat_ne_overflow (x : Float) : Duration.ofFloat x ≠ .error .overflow := by
  unfold Duration.ofFloat
  split
  · simp
  next negative _ => cases negative <;> simp
  · split
    · simp
    · split <;> simp

theorem toDuration_fatal_iff {value : Value} :
    value.toDuration = .error (.text .overflow) ↔
      ∃ text, value = .string text ∧ TooLong text := by
  cases value with
  | string text =>
    simp [Value.toDuration, Steps.mapError_eq_error_iff, Duration.read_eq_overflow_iff]
  | int n =>
    dsimp only [Value.toDuration]
    split
    · simp
    · cases Duration.ofSecs? n.toNat <;> simp
  | float x =>
    simp [Value.toDuration, Steps.mapError_eq_error_iff, ofFloat_ne_overflow]
  | null | bool | list | table => simp [Value.toDuration]

theorem convert_ne_length {A : Type} (table : Table) (name : String) (convert? : Value → Option A)
    (fault : LengthFault) : convert table name convert? ≠ .error (.length fault) := by
  unfold convert
  split <;> simp

theorem length_fatal_iff {table : Table} {name : String} :
    length table name = .error (.length (.text .overflow)) ↔ TooLongAt table name := by
  unfold length TooLongAt
  cases table.get? name with
  | none => simp
  | some value =>
    simp [Steps.mapError_eq_error_iff, toDuration_fatal_iff]

theorem typed_fatal_iff {table : Table} :
    typed table = .error (.length (.text .overflow)) ↔
      (∃ text, convert table "timezone" Value.toText? = .ok text) ∧
      (∃ count, convert table "max_concurrent_jobs" (Value.toCount? (Number.capacity 64)) =
        .ok count) ∧
      (TooLongAt table "validation_interval" ∨
        (∃ duration, length table "validation_interval" = .ok duration) ∧
          (TooLongAt table "reload_interval" ∨
            (∃ duration, length table "reload_interval" = .ok duration) ∧
              TooLongAt table "shutdown_timeout")) := by
  simp only [typed, Steps.bind_eq_error_iff, convert_ne_length, false_or, length_fatal_iff,
    pure, Except.pure, reduceCtorEq, and_false, exists_false, or_false, exists_and_right]

theorem tooLongAt_of_typed {table : Table}
    (refused : typed table = .error (.length (.text .overflow))) :
    ∃ name ∈ lengthNames, TooLongAt table name := by
  obtain ⟨-, -, long | ⟨-, long | ⟨-, long⟩⟩⟩ := typed_fatal_iff.mp refused
  · exact ⟨"validation_interval", by decide, long⟩
  · exact ⟨"reload_interval", by decide, long⟩
  · exact ⟨"shutdown_timeout", by decide, long⟩

theorem TooLongAt.length_ne_ok {table : Table} {name : String} (long : TooLongAt table name) :
    ¬ ∃ duration, length table name = .ok duration := by
  rintro ⟨duration, read⟩
  cases read.symm.trans (length_fatal_iff.mpr long)

theorem OtherwiseConverts.typed_fatal {table : Table} (converts : OtherwiseConverts table)
    {name : String} (member : name ∈ lengthNames) (long : TooLongAt table name) :
    typed table = .error (.length (.text .overflow)) := by
  refine typed_fatal_iff.mpr ⟨converts.timezone, converts.maxConcurrentJobs, ?_⟩
  -- the first length that is too long ends the conversion, so that `name` need not be the one
  rcases converts.lengths "validation_interval" (by decide) with validation | first
  · refine Or.inr ⟨validation, ?_⟩
    rcases converts.lengths "reload_interval" (by decide) with reload | second
    · refine Or.inr ⟨reload, ?_⟩
      simp only [lengthNames, List.mem_cons, List.not_mem_nil, or_false] at member
      rcases member with rfl | rfl | rfl
      · exact absurd validation long.length_ne_ok
      · exact absurd reload long.length_ne_ok
      · exact long
    · exact Or.inl second
  · exact Or.inl first

/-- The program ends while a length is read. -/
def EndsAtLength (loaded : Except LoadFault Settings) : Prop :=
  ∃ fault, loaded = .error (.length fault) ∧ (LoadFault.length fault).isFatal = true

theorem endsAtLength_load_iff {path text : String} {environment : Environment} :
    EndsAtLength (load path text environment) ↔
      ∃ file, Table.ofText text = .ok file ∧
        typed (combine file environment) = .error (.length (.text .overflow)) := by
  have fatal_iff (loaded : Except LoadFault Settings) :
      EndsAtLength loaded ↔ loaded = .error (.length (.text .overflow)) := by
    constructor
    · rintro ⟨fault, same, fatal⟩
      cases fault with
      | text fault => cases eq_of_beq fatal; exact same
      | negative | wrongType => cases fatal
    · intro same
      exact ⟨_, same, rfl⟩
  rw [fatal_iff]
  unfold load
  cases Table.ofText text with
  | error fault => cases fault <;> simp [Steps.throw_eq, Steps.error_bind]
  | ok file =>
    simp only [pure_bind, Steps.bind_eq_error_iff, Except.ok.injEq, exists_eq_left']
    refine or_iff_left ?_
    rintro ⟨settings, -, refused⟩
    split at refused <;> cases refused

end Config

theorem Duration.ofSecs?_eq_none {secs : Nat} (large : 18446744073709551616 ≤ secs) :
    ofSecs? secs = none :=
  dif_neg fun fits => by omega

/-- A text ends the program exactly if it is in the notation and its numbers add up to two to the
64 seconds or more. It has a length exactly if they add up to less, and no number ends the program.
Manifests end it only by the text of an interval, and settings only by that of a length. -/
theorem Duration.fatal_iff_tooLong (text : String) :
    ((∃ fault, read text = .error fault ∧ fault.isFatal = true) ↔ TooLong text) ∧
    ((∃ duration, read text = .ok duration) ↔
      ∃ total, SumsTo 0.0 (Text.trim text.toList) total ∧ total < 18446744073709551616.0) ∧
    (∀ x : Float, 18446744073709551616.0 ≤ x →
      (Config.Value.float x).toDuration = .error (.text .unrepresentable)) ∧
    (∀ n : Int, 18446744073709551616 ≤ n →
      (Config.Value.int n).toDuration = .error (.text .unrepresentable)) ∧
    (∀ content number,
      (∃ fault, Manifest.readText content = .error (number, fault) ∧ fault.isFatal = true) ↔
        ∃ before document after, Yaml.Value.ofText content = before ++ document :: after ∧
          before.length = number ∧ (∀ document ∈ before, Manifest.IsRead document) ∧
          Manifest.EndsProgram document) ∧
    ∀ path content environment,
      (Config.EndsAtLength (Config.load path content environment) →
        ∃ file, Config.Table.ofText content = .ok file ∧
          ∃ name ∈ Config.lengthNames, Config.TooLongAt (Config.combine file environment) name) ∧
      ∀ file, Config.Table.ofText content = .ok file →
        Config.OtherwiseConverts (Config.combine file environment) →
        ∀ name ∈ Config.lengthNames, Config.TooLongAt (Config.combine file environment) name →
          Config.EndsAtLength (Config.load path content environment) := by
  refine ⟨?_, exists_read_iff, fun x large => ?_, fun n large => ?_, ?_, ?_⟩
  · rw [← read_eq_overflow_iff]
    constructor
    · rintro ⟨fault, refused, fatal⟩
      cases eq_of_beq fatal
      exact refused
    · intro overflow
      exact ⟨_, overflow, rfl⟩
  · have unsigned := Number.unsigned_of_le large
    rw [Config.Value.toDuration, (ofFloat_eq_unrepresentable_iff unsigned).mpr large]
    rfl
  · rw [Config.Value.toDuration, if_neg (by omega), ofSecs?_eq_none (by omega)]
  · intro content number
    exact Manifest.readText_fatal_iff
  · intro path content environment
    constructor
    · intro ends
      obtain ⟨file, read, refused⟩ := Config.endsAtLength_load_iff.mp ends
      exact ⟨file, read, Config.tooLongAt_of_typed refused⟩
    · intro file read converts name member long
      exact Config.endsAtLength_load_iff.mpr ⟨file, read, converts.typed_fatal member long⟩

/-- The variable of the reload interval is given two to the 64 seconds. -/
theorem Duration.fatal_iff_tooLong_of_word :
    let environment : Environment := [("CLOUDNAP_RELOAD_INTERVAL", "18446744073709551616s")]
    TooLong "18446744073709551616s" ∧
    (Config.Value.float 18446744073709551616.0).toDuration = .error (.text .unrepresentable) ∧
    (Config.Value.int 18446744073709551616).toDuration = .error (.text .unrepresentable) ∧
    Config.EndsAtLength (Config.load "app.yaml" "" environment) ∧
    ∃ file, Config.Table.ofText "" = .ok file ∧
      ∃ name ∈ Config.lengthNames, Config.TooLongAt (Config.combine file environment) name := by
  intro environment
  obtain ⟨ended_iff, -, floats, numbers, -, settings⟩ := fatal_iff_tooLong "18446744073709551616s"
  obtain ⟨only_if, ends⟩ := settings "app.yaml" "" environment
  have overflow : read "18446744073709551616s" = .error .overflow := by decide +kernel
  have long : TooLong "18446744073709551616s" := ended_iff.mp ⟨_, overflow, rfl⟩
  have combined : Config.combine [] environment =
      [("timezone", .string ""), ("max_concurrent_jobs", .int 5),
        ("validation_interval", .string "10m"),
        ("reload_interval", .string "18446744073709551616s"), ("shutdown_timeout", .string "5m"),
        ("metrics_enabled", .bool false), ("metrics_port", .int 9090),
        ("schedules_dir", .string "schedules")] := by
    with_unfolding_all rfl
  have long_at : Config.TooLongAt (Config.combine [] environment) "reload_interval" :=
    ⟨_, by rw [combined]; rfl, long⟩
  have length_of {name text : String} {duration : Duration}
      (given : (Config.combine [] environment).get? name = some (.string text))
      (made : read text = .ok duration) :
      ∃ duration, Config.length (Config.combine [] environment) name = .ok duration :=
    ⟨duration, by rw [Config.length, given]; simp only [Config.Value.toDuration, made]; rfl⟩
  have converts : Config.OtherwiseConverts (Config.combine [] environment) := by
    refine ⟨⟨_, by rw [combined]; rfl⟩, ⟨_, by rw [combined]; rfl⟩, ?_, ⟨_, by rw [combined]; rfl⟩,
      ⟨_, by rw [combined]; rfl⟩, ⟨_, by rw [combined]; rfl⟩⟩
    intro name member
    simp only [Config.lengthNames, List.mem_cons, List.not_mem_nil, or_false] at member
    rcases member with rfl | rfl | rfl
    · exact Or.inl (length_of (by rw [combined]; rfl)
        (show read "10m" = .ok (Duration.seconds 600) by decide +kernel))
    · exact Or.inr long_at
    · exact Or.inl (length_of (by rw [combined]; rfl)
        (show read "5m" = .ok (Duration.seconds 300) by decide +kernel))
  have ended : Config.EndsAtLength (Config.load "app.yaml" "" environment) :=
    ends [] rfl converts "reload_interval" (by decide) long_at
  exact ⟨long, floats _ (by decide +kernel), numbers _ (by decide), ended, only_if ended⟩

/-- Two to the 64 seconds are neither read nor reported where they are written with a unit, and
reported where they are a plain number. -/
theorem Duration.word_ends_program :
    ¬ ((∃ duration, read "18446744073709551616s" = .ok duration) ∨
      ∃ fault, read "18446744073709551616s" = .error fault ∧ fault.isFatal = false) ∧
    (Config.Value.int 18446744073709551616).toDuration = .error (.text .unrepresentable) ∧
    DurationFault.unrepresentable.isFatal = false := by
  have overflow : read "18446744073709551616s" = .error .overflow := by decide +kernel
  refine ⟨?_, rfl, rfl⟩
  rw [overflow]
  rintro (⟨_, ⟨⟩⟩ | ⟨_, ⟨⟩, reported⟩)
  cases reported

end PowerRota
