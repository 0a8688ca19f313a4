import Mathlib.Data.List.TakeWhile
import PowerRota.Text.Blank

/-! Cutting a text at a separator gives the parts it was put together from, and trimming leaves
what stands between the white space at both ends. -/

set_option autoImplicit false

namespace PowerRota.Text

variable {separator : Char}

theorem splitOnce_of_not_mem {text : List Char} (absent : separator ∉ text) :
    splitOnce separator text = none := by
  induction text with
  | nil => rfl
  | cons c rest ih =>
    obtain ⟨other, absent⟩ := List.ne_and_not_mem_of_not_mem_cons absent
    simp [splitOnce, other.symm, ih absent]

theorem splitOnce_append {before : List Char} (absent : separator ∉ before) (after : List Char) :
    splitOnce separator (before ++ separator :: after) = some (before, after) := by
  induction before with
  | nil => simp [splitOnce]
  | cons c rest ih =>
    obtain ⟨other, absent⟩ := List.ne_and_not_mem_of_not_mem_cons absent
    simp [splitOnce, other.symm, ih absent]

theorem split_of_not_mem {part : List Char} (absent : separator ∉ part) :
    split separator part = [part] := by
  induction part with
  | nil => rfl
  | cons c rest ih =>
    obtain ⟨other, absent⟩ := List.ne_and_not_mem_of_not_mem_cons absent
    simp [split, other.symm, ih absent]

theorem split_append {part : List Char} (absent : separator ∉ part) (text : List Char) :
    split separator (part ++ separator :: text) = part :: split separator text := by
  induction part with
  | nil => simp [split]
  | cons c rest ih =>
    obtain ⟨other, absent⟩ := List.ne_and_not_mem_of_not_mem_cons absent
    simp [split, other.symm, ih absent]

theorem split_join {parts : List (List Char)} (some_part : parts ≠ [])
    (absent : ∀ part ∈ parts, separator ∉ part) :
    split separator (join [separator] parts) = parts := by
  induction parts with
  | nil => exact absurd rfl some_part
  | cons part parts ih =>
    obtain ⟨here, later⟩ := List.forall_mem_cons.mp absent
    cases parts with
    | nil => exact split_of_not_mem here
    | cons next parts =>
      have cut := ih (List.cons_ne_nil _ _) later
      simpa [join, cut] using split_append here (join [separator] (next :: parts))

structure Stripped (text core : List Char) : Prop where
  around : ∃ before after, text = before ++ (core ++ after) ∧
    (∀ c ∈ before, isBlank c = true) ∧ ∀ c ∈ after, isBlank c = true
  first : ∀ c ∈ core.head?, isBlank c = false
  last : ∀ c ∈ core.getLast?, isBlank c = false

theorem trimStart_append {before rest : List Char} (blank : ∀ c ∈ before, isBlank c = true) :
    trimStart (before ++ rest) = trimStart rest :=
  List.dropWhile_append_of_pos blank

theorem trimStart_of_head? {text : List Char} (shown : ∀ c ∈ text.head?, isBlank c = false) :
    trimStart text = text := by
  cases text with
  | nil => rfl
  | cons c rest => simp [trimStart, shown c rfl]

theorem trimEnd_eq (text : List Char) : trimEnd text = (trimStart text.reverse).reverse := rfl

theorem trimEnd_append {rest after : List Char} (blank : ∀ c ∈ after, isBlank c = true) :
    trimEnd (rest ++ after) = trimEnd rest := by
  have backwards : ∀ c ∈ after.reverse, isBlank c = true := by simpa using blank
  rw [trimEnd_eq, List.reverse_append, trimStart_append backwards, ← trimEnd_eq]

theorem trimEnd_of_getLast? {text : List Char} (shown : ∀ c ∈ text.getLast?, isBlank c = false) :
    trimEnd text = text := by
  rw [trimEnd_eq, trimStart_of_head? (by simpa using shown), List.reverse_reverse]

theorem exists_trimStart (text : List Char) :
    ∃ before, text = before ++ trimStart text ∧ ∀ c ∈ before, isBlank c = true :=
  ⟨text.takeWhile isBlank, List.takeWhile_append_dropWhile.symm,
    fun _ member => List.mem_takeWhile_imp member⟩

theorem isBlank_of_head?_trimStart {text : List Char} {c : Char}
    (first : c ∈ (trimStart text).head?) : isBlank c = false := by
  have last := List.head?_dropWhile_not isBlank text
  rw [trimStart] at first
  rw [first] at last
  simpa using last

theorem stripped_trim (text : List Char) : Stripped text (trim text) := by
  obtain ⟨before, text_eq, blank⟩ := exists_trimStart text
  obtain ⟨after, middle_eq, blank_after⟩ := exists_trimStart (trimStart text).reverse
  have middle : trimStart text = trim text ++ after.reverse := by
    rw [trim, trimEnd_eq, ← List.reverse_append, ← middle_eq, List.reverse_reverse]
  refine ⟨⟨before, after.reverse, middle ▸ text_eq, blank, by simpa using blank_after⟩, ?_, ?_⟩
  · intro c first
    have start : c ∈ (trimStart text).head? := by
      rw [middle, List.head?_append]
      exact first ▸ rfl
    exact isBlank_of_head?_trimStart start
  · intro c last
    rw [trim, trimEnd_eq, List.getLast?_reverse] at last
    exact isBlank_of_head?_trimStart last

/-- Trimming leaves what is left without the white space at both ends. -/
theorem trim_eq_iff {text core : List Char} : trim text = core ↔ Stripped text core := by
  constructor
  · rintro rfl
    exact stripped_trim text
  · rintro ⟨⟨before, after, rfl, blank, blank_after⟩, first, last⟩
    rw [trim, trimStart_append blank]
    cases core with
    | nil =>
      have nothing : trimStart after = [] := List.dropWhile_eq_nil_iff.mpr blank_after
      rw [List.nil_append, nothing]
      rfl
    | cons c core =>
      rw [trimStart_of_head? (by simpa using first), trimEnd_append blank_after,
        trimEnd_of_getLast? last]

theorem trim_of_blankless {text : List Char} (blankless : ∀ c ∈ text, isBlank c = false) :
    trim text = text :=
  trim_eq_iff.mpr ⟨⟨[], [], by simp, by simp, by simp⟩,
    fun c first => blankless c (List.mem_of_mem_head? first),
    fun c last => blankless c (List.mem_of_mem_getLast? last)⟩

end PowerRota.Text
