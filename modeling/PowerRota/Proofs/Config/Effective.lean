import Mathlib.Tactic.MkIffOfInductiveProp
import PowerRota.Config.File
import PowerRota.Proofs.Config.Precedence
import PowerRota.Proofs.Data.Steps

/-! When a configuration loads, and what its settings are.

A setting is what its last variable says, or what the file says, or its default, and it converts by
itself. A configuration loads if the file is found and read, each setting converts, and the
settings keep to their limits. -/

set_option autoImplicit false

namespace PowerRota.Config

open Text

/-- A variable is called like a setting, after the prefix and in any case. -/
def IsFor (name called : String) : Prop := lowerAscii called = "cloudnap_" ++ name

instance (name called : String) : Decidable (IsFor name called) :=
  inferInstanceAs (Decidable (_ = _))

/-- What a variable says about a setting. -/
def variableSaid? (name : String) (entry : String × String) : Option Value :=
  if IsFor name entry.1 then some (variableValue entry.2)
  else if (variableKey? entry.1).any fun key => place key == (name, true) then some .list
  else none

/-- The value of a setting: from the environment, from the file, or the default. -/
def effective (file : Table) (environment : Environment) (name : String) : Option Value :=
  (environment.reverse.findSome? (variableSaid? name)).or
    ((given? file name).or (defaults.get? name))

/-- The settings that values convert to, each by itself. -/
@[mk_iff]
structure Converts (value? : String → Option Value) (settings : Settings) : Prop where
  timezone : (value? "timezone").bind Value.toText? = some settings.timezone
  maxConcurrentJobs : (value? "max_concurrent_jobs").bind (Value.toCount? (Number.capacity 64)) =
    some settings.maxConcurrentJobs
  validationInterval : (value? "validation_interval").bind (·.toDuration.toOption) =
    some settings.validationInterval
  reloadInterval : (value? "reload_interval").bind (·.toDuration.toOption) =
    some settings.reloadInterval
  shutdownTimeout : (value? "shutdown_timeout").bind (·.toDuration.toOption) =
    some settings.shutdownTimeout
  metricsEnabled : (value? "metrics_enabled").bind Value.toBool? = some settings.metricsEnabled
  metricsPort : (value? "metrics_port").bind (Value.toCount? (Number.capacity 16)) =
    some settings.metricsPort
  schedulesDir : (value? "schedules_dir").bind Value.toText? = some settings.schedulesDir

theorem toLower_toLower (c : Char) : c.toLower.toLower = c.toLower := by
  by_cases upper : c.val ≥ 'A'.val ∧ c.val ≤ 'Z'.val
  · have lowered : c.toLower.val = c.val + 32 := congrArg Char.val (dif_pos upper)
    have past : ¬ c.toLower.val ≤ 'Z'.val := by
      have bounds : 65 ≤ c.val.toNat ∧ c.val.toNat ≤ 90 := upper
      rw [lowered, UInt32.le_iff_toNat_le, UInt32.toNat_add]
      show ¬ (c.val.toNat + 32) % 2 ^ 32 ≤ 90
      omega
    exact dif_neg fun both => past both.2
  · have same : c.toLower = c := dif_neg upper
    rw [same, same]

theorem nestedName_eq_self {chars : List Char} (flat : '.' ∉ nestedName chars) :
    nestedName chars = chars := by
  fun_induction nestedName chars with
  | case1 rest => simp at flat
  | case2 c rest _ ih => rw [ih fun nested => flat (List.mem_cons_of_mem _ nested)]
  | case3 => rfl

theorem mem_nestedName {c : Char} {chars : List Char} (among : c ∈ nestedName chars) :
    c = '.' ∨ c ∈ chars := by
  fun_induction nestedName chars with
  | case1 rest ih =>
    rcases List.mem_cons.mp among with rfl | later
    · exact Or.inl rfl
    · exact (ih later).imp_right fun known => List.mem_cons_of_mem _ (List.mem_cons_of_mem _ known)
  | case2 d rest _ ih =>
    rcases List.mem_cons.mp among with rfl | later
    · exact Or.inr (List.mem_cons_self ..)
    · exact (ih later).imp_right (List.mem_cons_of_mem _)
  | case3 => cases among

theorem plain_of_mem_defaults : ∀ name ∈ defaults.map (·.1), place name = (name, false) ∧
    nestedName name.toList = name.toList ∧ '.' ∉ name.toList := by
  decide +kernel

theorem variableKey?_eq_some_iff {called key : String} :
    variableKey? called = some key ↔ ∃ rest, (lowerAscii called).toList = variablePrefix ++ rest ∧
      key = String.ofList (nestedName rest) := by
  simp only [variableKey?, Option.ite_none_right_eq_some, List.isPrefixOf_iff_prefix,
    Option.some.injEq]
  constructor
  · rintro ⟨⟨rest, split⟩, rfl⟩
    refine ⟨rest, split.symm, ?_⟩
    rw [← split, List.drop_left]
  · rintro ⟨rest, split, rfl⟩
    refine ⟨⟨rest, split.symm⟩, ?_⟩
    rw [split, List.drop_left]

theorem lowerAscii_variableKey {called key : String} (keyed : variableKey? called = some key) :
    lowerAscii key = key := by
  obtain ⟨rest, split, rfl⟩ := variableKey?_eq_some_iff.mp keyed
  apply String.ext
  rw [lowerAscii, String.toList_map, String.toList_ofList]
  refine (List.map_congr_left fun c among => ?_).trans (List.map_id _)
  rcases mem_nestedName among with rfl | among
  · rfl
  · have low : c ∈ (lowerAscii called).toList := by
      rw [split]
      exact List.mem_append_right _ among
    rw [lowerAscii, String.toList_map] at low
    obtain ⟨d, -, rfl⟩ := List.mem_map.mp low
    exact toLower_toLower d

theorem isFor_iff {name called : String} (known : name ∈ defaults.map (·.1)) :
    IsFor name called ↔ variableKey? called = some name := by
  obtain ⟨-, nested, flat⟩ := plain_of_mem_defaults name known
  rw [variableKey?_eq_some_iff, IsFor, String.ext_iff, String.toList_append]
  constructor
  · intro same
    exact ⟨name.toList, same, by rw [nested, String.ofList_toList]⟩
  · rintro ⟨rest, split, rfl⟩
    -- the name has no point, so nothing in the variable was replaced
    rw [String.toList_ofList] at flat ⊢
    rw [nestedName_eq_self flat, split, String.toList_ofList]
    rfl

theorem said?_variableValue (name key text : String) :
    said? name (key, variableValue text) =
      if (place key).1 = name then
        if (place key).2 then some .list else some (variableValue text)
      else none := by
  have scalar : ∀ entries, variableValue text ≠ .table entries := by
    intro entries
    unfold variableValue
    dsimp only
    split
    · simp
    · split
      · simp
      · split <;> simp
  unfold said?
  split
  · split
    · rfl
    · dsimp only
      split
      · next same => exact absurd same (scalar [])
      · rfl
  · rfl

theorem bind_said? {name : String} (known : name ∈ defaults.map (·.1)) (entry : String × String) :
    (variableKey? entry.1).bind (fun key => said? name (key, variableValue entry.2)) =
      variableSaid? name entry := by
  unfold variableSaid?
  cases keyed : variableKey? entry.1 with
  | none =>
    have other : ¬ IsFor name entry.1 := by simp [isFor_iff known, keyed]
    simp [other]
  | some key =>
    rw [Option.bind_some, said?_variableValue]
    by_cases same : key = name
    · subst same
      have named : IsFor key entry.1 := (isFor_iff known).mpr keyed
      simp [named, (plain_of_mem_defaults key known).1]
    · have other : ¬ IsFor name entry.1 := by
        rw [isFor_iff known, keyed]
        simpa using same
      have low := lowerAscii_variableKey keyed
      rw [if_neg other]
      by_cases below : (place key).2 = true
      · by_cases about : (place key).1 = name
        · have placed : place key = (name, true) := Prod.ext about below
          simp [placed]
        · have placed : place key ≠ (name, true) := fun placed => about (congrArg Prod.fst placed)
          simp [about, placed]
      · -- a key that leads nowhere else is about the name that it is
        have flat : place key = (key, false) := by
          unfold place at below ⊢
          split at below
          · exact absurd rfl below
          · rw [low]
        simp [flat, same]

theorem given?_environmentLayer {name : String} (known : name ∈ defaults.map (·.1))
    (environment : Environment) :
    given? (environmentLayer environment) name =
      environment.reverse.findSome? (variableSaid? name) := by
  induction environment with
  | nil => rfl
  | cons entry environment ih =>
    rw [List.reverse_cons, List.findSome?_append, ← ih, List.findSome?_singleton,
      ← bind_said? known]
    unfold environmentLayer
    cases keyed : variableKey? entry.1 with
    | none => simp [keyed]
    | some key => simp [keyed, given?_cons]

theorem exists_default {name : String} (known : name ∈ defaults.map (·.1)) :
    ∃ value, defaults.get? name = some value := by
  have each : ∀ name ∈ defaults.map (·.1), (defaults.get? name).isSome = true := by decide +kernel
  exact Option.isSome_iff_exists.mp (each name known)

theorem combine_alike {name : String} (known : name ∈ defaults.map (·.1)) (file : Table)
    (environment : Environment) :
    ∃ value other, (combine file environment).get? name = some value ∧
      effective file environment name = some other ∧ value.Alike other := by
  obtain ⟨value, found⟩ := exists_default known
  obtain ⟨between, inFile, like⟩ := Table.layer_alike file found (.refl value)
  obtain ⟨last, inAll, alike⟩ := Table.layer_alike (environmentLayer environment) inFile like
  refine ⟨last, _, inAll, ?_, alike⟩
  rw [effective, found, given?_environmentLayer known]
  cases environment.reverse.findSome? (variableSaid? name) with
  | some said => rfl
  | none => cases given? file name <;> rfl

theorem convert_eq_ok_iff {A : Type} {table : Table} {name : String} {convert? : Value → Option A}
    {converted : A} :
    convert table name convert? = .ok converted ↔
      (table.get? name).bind convert? = some converted := by
  unfold convert
  split
  next value found => simp [found]
  next absent => simp [absent]

theorem length_eq_ok_iff {table : Table} {name : String} {duration : Duration} :
    length table name = .ok duration ↔
      (table.get? name).bind (·.toDuration.toOption) = some duration := by
  unfold length
  split
  next value found =>
    rw [Steps.mapError_eq_ok_iff, found, Option.bind_some]
    cases value.toDuration <;> simp [Except.toOption]
  next absent => simp [absent]

theorem typed_eq_ok_iff {table : Table} {settings : Settings} :
    typed table = .ok settings ↔ Converts table.get? settings := by
  simp only [typed, Steps.bind_eq_ok_iff, Steps.pure_eq_ok_iff, convert_eq_ok_iff,
    length_eq_ok_iff]
  constructor
  · rintro ⟨_, timezone, _, jobs, _, validation, _, reload, _, drain, _, enabled, _, port, _,
      folder, rfl⟩
    exact ⟨timezone, jobs, validation, reload, drain, enabled, port, folder⟩
  · rintro ⟨timezone, jobs, validation, reload, drain, enabled, port, folder⟩
    exact ⟨_, timezone, _, jobs, _, validation, _, reload, _, drain, _, enabled, _, port, _,
      folder, rfl⟩

theorem converts_combine_iff (file : Table) (environment : Environment) (settings : Settings) :
    Converts (combine file environment).get? settings ↔
      Converts (effective file environment) settings := by
  -- the conversions of one setting agree, whatever they convert to
  have same : ∀ {A : Type} {convert? : Value → Option A},
      (∀ {value other : Value}, value.Alike other → convert? value = convert? other) →
      ∀ name ∈ defaults.map (·.1), ((combine file environment).get? name).bind convert? =
        (effective file environment name).bind convert? := by
    intro A convert? agree name known
    obtain ⟨value, other, inAll, inEffect, alike⟩ := combine_alike known file environment
    rw [inAll, inEffect, Option.bind_some, Option.bind_some, agree alike]
  have text := @same _ _ Value.Alike.toText?
  have flag := @same _ _ Value.Alike.toBool?
  have count := fun limit => @same _ _ fun alike => Value.Alike.toCount? alike limit
  have length := @same _ _ Value.Alike.toDuration
  rw [converts_iff, converts_iff, text "timezone" (by decide),
    count _ "max_concurrent_jobs" (by decide), length "validation_interval" (by decide),
    length "reload_interval" (by decide), length "shutdown_timeout" (by decide),
    flag "metrics_enabled" (by decide), count _ "metrics_port" (by decide),
    text "schedules_dir" (by decide)]

theorem load_eq_ok_iff {path text : String} {environment : Environment} {settings : Settings} :
    load path text environment = .ok settings ↔
      ∃ file read, Table.ofText text = .ok file ∧ Converts (effective file environment) read ∧
        read.validate = .ok () ∧ settings = placed path read := by
  unfold load
  cases parsed : Table.ofText text with
  | error fault => cases fault <;> simp [Steps.throw_eq, Steps.error_bind]
  | ok file =>
    simp only [Steps.pure_eq, Steps.ok_bind, Steps.bind_eq_ok_iff, typed_eq_ok_iff,
      converts_combine_iff, Except.ok.injEq, exists_and_left, exists_eq_left']
    refine exists_congr fun read => and_congr_right fun _ => ?_
    cases valid : read.validate with
    | error fault => simp [Steps.throw_eq]
    | ok _ => simp [eq_comm]

theorem loadFrom_eq_ok_iff {tree : Tree} {path : String} {environment : Environment}
    {settings : Settings} :
    loadFrom tree path environment = .ok settings ↔
      tree.isFolder path = false ∧ ∃ text file read,
        (fileContent? tree path).bind Octets.text? = some text ∧ Table.ofText text = .ok file ∧
        Converts (effective file environment) read ∧ read.validate = .ok () ∧
        settings = placed path read := by
  unfold loadFrom
  cases tree.isFolder path with
  | true => simp
  | false =>
    cases (fileContent? tree path).bind Octets.text? with
    | none => simp
    | some text => simp [load_eq_ok_iff]

example : (load "etc/c.yaml" "metrics_port: 7000\nreload_interval: 30\n"
      [("Cloudnap_METRICS_PORT", "9100")]).toOption =
    some { Settings.standard with
      metricsPort := 9100, reloadInterval := .seconds 30, schedulesDir := "etc/schedules" } := by
  decide +kernel

/-- A setting that is an empty table in the file has its default, although that is no value that it
could have; and a variable for none of the settings can keep the settings from loading. -/
theorem empty_table_says_nothing :
    let file := "metrics_port: \x7b\x7d\n"
    let other := "CLOUDNAP_METRICS_PORT__X"
    ((Table.ofText file).toOption.bind (Table.get? · "metrics_port")).map
        (Value.toCount? (Number.capacity 16)) = some none ∧
      (load "c.yaml" file []).toOption = some Settings.standard ∧
      (∀ name ∈ defaults.map (·.1), ¬ IsFor name other) ∧
      (load "c.yaml" "" [(other, "1")]).toOption = none ∧
      (load "c.yaml" "" []).toOption = some Settings.standard := by
  decide +kernel

end PowerRota.Config
