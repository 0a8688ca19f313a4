import PowerRota.Config.Layers

/-! Which layer a setting has its value from.

Every layer is put over what stands there entry by entry, and an entry is about one name only. So a
setting can be followed by itself: what counts is the last entry about it that says anything. A key
may also lead below a name; the setting is then a table or a list, whatever it was before, and of
these it does not matter which, as none converts. -/

set_option autoImplicit false

namespace PowerRota.Config

open Text

namespace Value

def isCompound : Value → Bool
  | .list | .table _ => true
  | _ => false

/-- No conversion tells the values apart. -/
def Alike (value other : Value) : Prop :=
  value = other ∨ value.isCompound = true ∧ other.isCompound = true

variable {value other third : Value}

theorem Alike.refl (value : Value) : value.Alike value := Or.inl rfl

theorem Alike.trans (first : value.Alike other) (second : other.Alike third) :
    value.Alike third := by
  rcases first with rfl | ⟨compound, between⟩
  · exact second
  · rcases second with rfl | ⟨_, last⟩
    · exact Or.inr ⟨compound, between⟩
    · exact Or.inr ⟨compound, last⟩

theorem Alike.toText? (alike : value.Alike other) : value.toText? = other.toText? := by
  rcases alike with rfl | ⟨compound, compound'⟩
  · rfl
  · cases value <;> cases compound <;> cases other <;> cases compound' <;> rfl

theorem Alike.toBool? (alike : value.Alike other) : value.toBool? = other.toBool? := by
  rcases alike with rfl | ⟨compound, compound'⟩
  · rfl
  · cases value <;> cases compound <;> cases other <;> cases compound' <;> rfl

theorem Alike.toCount? (alike : value.Alike other) (limit : Nat) :
    value.toCount? limit = other.toCount? limit := by
  rcases alike with rfl | ⟨compound, compound'⟩
  · rfl
  · cases value <;> cases compound <;> cases other <;> cases compound' <;> rfl

theorem Alike.toDuration (alike : value.Alike other) :
    value.toDuration.toOption = other.toDuration.toOption := by
  rcases alike with rfl | ⟨compound, compound'⟩
  · rfl
  · cases value <;> cases compound <;> cases other <;> cases compound' <;> rfl

theorem isCompound_putBelow (value inner : Value) (step : Step) (steps : List Step) :
    (value.putBelow (step :: steps) inner).isCompound = true := by
  cases step with
  | index => rfl
  | name name => cases steps <;> rfl

end Value

def place (key : String) : String × Bool :=
  match readKey key with
  | some (name, _ :: _) => (name, true)
  | _ => (lowerAscii key, false)

/-- What an entry says about a setting. An empty table says nothing. -/
def said? (name : String) (entry : String × Value) : Option Value :=
  if (place entry.1).1 = name then
    if (place entry.1).2 then some .list
    else
      match entry.2 with
      | .table [] => none
      | value => some value
  else none

/-- What a layer says about a setting, in its last entry that says anything. -/
def given? (layer : Table) (name : String) : Option Value :=
  layer.reverse.findSome? (said? name)

theorem given?_cons (entry : String × Value) (layer : Table) (name : String) :
    given? (entry :: layer) name = (given? layer name).or (said? name entry) := by
  simp [given?, List.findSome?_append]

namespace Table

variable {table : Table} {name key : String} {old value : Value}

theorem merge_of_ne (table : Table) (value : Value) (apart : name ≠ lowerAscii key) :
    (table.merge key value).get? name = table.get? name := by
  cases value <;> simp [merge, get?_put, apart]

theorem merge_same (found : table.get? (lowerAscii key) = some old) (value : Value) :
    ∃ now, (table.merge key value).get? (lowerAscii key) = some now ∧
      now.Alike ((match value with
        | .table [] => none
        | value => some value : Option Value).getD old) := by
  cases value with
  | table entries =>
    cases entries with
    | nil => exact ⟨old, by simp [merge, get?_put, found], .refl old⟩
    | cons entry entries => exact ⟨_, by simp [merge, get?_put]; rfl, Or.inr ⟨rfl, rfl⟩⟩
  | _ => exact ⟨_, by simp [merge, get?_put], .refl _⟩

theorem set_alike (found : table.get? name = some old) (key : String) (value : Value) :
    ∃ now, (table.set key value).get? name = some now ∧
      now.Alike ((said? name (key, value)).getD old) := by
  have keeps : ∀ {after : Table}, after.get? name = table.get? name →
      ∃ now, after.get? name = some now ∧ now.Alike ((none : Option Value).getD old) :=
    fun same => ⟨old, same.trans found, .refl old⟩
  have merged : place key = (lowerAscii key, false) → ∃ now,
      (table.merge key value).get? name = some now ∧
        now.Alike ((said? name (key, value)).getD old) := by
    intro placed
    simp only [said?, placed]
    by_cases same : lowerAscii key = name
    · subst same
      simpa using merge_same found value
    · rw [if_neg same]
      exact keeps (merge_of_ne table value (Ne.symm same))
  -- a key that cannot be read as a path is a name as it stands
  unfold set
  cases read : readKey key with
  | none => exact merged (by simp [place, read])
  | some parts =>
    obtain ⟨top, steps⟩ := parts
    cases steps with
    | nil => exact merged (by simp [place, read])
    | cons step steps =>
      simp only [said?, place, read]
      by_cases same : top = name
      · subst same
        refine ⟨_, by simp [get?_put]; rfl, Or.inr ⟨Value.isCompound_putBelow .., ?_⟩⟩
        simp [Value.isCompound]
      · rw [if_neg same]
        exact keeps (by simp [get?_put, Ne.symm same])

theorem layer_alike {other : Value} (entries : Table) (found : table.get? name = some old)
    (alike : old.Alike other) :
    ∃ now, (table.layer entries).get? name = some now ∧
      now.Alike ((given? entries name).getD other) := by
  -- on the entries, for any table: what the first one leaves is the table of the rest
  induction entries generalizing table old other with
  | nil => exact ⟨old, found, alike⟩
  | cons entry entries ih =>
    obtain ⟨key, value⟩ := entry
    obtain ⟨between, set, like⟩ := set_alike found key value
    have like' : between.Alike ((said? name (key, value)).getD other) := by
      cases said : said? name (key, value) with
      | none =>
        rw [said] at like
        exact like.trans alike
      | some value =>
        rw [said] at like
        exact like
    obtain ⟨now, layered, last⟩ := ih set like'
    refine ⟨now, layered, ?_⟩
    rw [given?_cons]
    cases given : given? entries name with
    | none =>
      rw [given] at last
      simpa using last
    | some value =>
      rw [given] at last
      simpa using last

end Table

end PowerRota.Config
