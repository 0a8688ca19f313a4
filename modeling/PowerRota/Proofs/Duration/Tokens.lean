import PowerRota.Duration
import PowerRota.Proofs.Text.Digits

/-! The tokens of a written duration.

Tokens are found with a pattern: a run of digits, a point and a run of digits or nothing, and a
unit. At each place it is tried in every way that it allows, longer runs before shorter ones and
`ms` before `m`. A way with a shorter run never comes to a unit, so the longest ones are enough.
What is found is the token as it is written, and tokens that are written one after the other are
found again. -/

set_option autoImplicit false

namespace PowerRota.Duration

open Text

def runs : List Char → List (List Char × List Char)
  | [] => []
  | c :: rest =>
      if isDecimalDigit c then
        (runs rest).map (fun (run, left) => (c :: run, left)) ++ [([c], rest)]
      else []

def fractions : List Char → List (List Char × List Char)
  | '.' :: rest => runs rest ++ [([], '.' :: rest)]
  | text => [([], text)]

namespace TimeUnit

def letters : TimeUnit → List Char
  | .millisecond => ['m', 's']
  | .second => ['s']
  | .minute => ['m']
  | .hour => ['h']
  | .day => ['d']
  | .week => ['w']

def all : List TimeUnit := [.millisecond, .second, .minute, .hour, .day, .week]

def ways (text : List Char) : List (TimeUnit × List Char) :=
  all.filterMap fun unit =>
    if unit.letters.isPrefixOf text then some (unit, text.drop unit.letters.length) else none

end TimeUnit

/-- The ways in which the pattern fits the head of a text, in the order in which they are tried. -/
def ways (text : List Char) : List (Token × List Char) :=
  (runs text).flatMap fun (whole, rest) =>
    (fractions rest).flatMap fun (fraction, rest) =>
      (TimeUnit.ways rest).map fun (unit, rest) => (⟨whole, fraction, unit⟩, rest)

/-- The leftmost match of the pattern: what is skipped, the token that is found there in the first
way that is tried, and the text after it. -/
def firstMatch? : List Char → Option (List Char × Token × List Char)
  | [] => none
  | c :: rest =>
      match (ways (c :: rest)).head? with
      | some (token, after) => some ([], token, after)
      | none => (firstMatch? rest).map fun (skipped, found) => (c :: skipped, found)

namespace TimeUnit

theorem ways_eq_nil {text : List Char} (unfit : ∀ unit : TimeUnit, ¬ unit.letters <+: text) :
    ways text = [] :=
  List.filterMap_eq_nil_iff.mpr fun unit _ =>
    if_neg (mt List.isPrefixOf_iff_prefix.mp (unfit unit))

theorem read?_eq_head?_ways (text : List Char) : read? text = (ways text).head? := by
  unfold read?
  split
  case h_3 rest no_ms =>
    -- what is left begins with another letter than `s`
    cases rest with
    | nil => rfl
    | cons c rest =>
      have other : ¬ 's' = c := fun same => no_ms rest (same ▸ rfl)
      simp [ways, all, letters, other]
  case h_7 no_ms no_s no_m no_h no_d no_w =>
    rw [ways_eq_nil]
    · rfl
    · rintro unit ⟨rest, rfl⟩
      cases unit with
      | millisecond => exact no_ms rest rfl
      | second => exact no_s rest rfl
      | minute => exact no_m rest rfl
      | hour => exact no_h rest rfl
      | day => exact no_d rest rfl
      | week => exact no_w rest rfl
  all_goals simp [ways, all, letters]

theorem ways_cons_eq_nil {c : Char} (other : isDecimalDigit c = true ∨ c = '.')
    (rest : List Char) : ways (c :: rest) = [] := by
  refine ways_eq_nil ?_
  rintro unit ⟨left, same⟩
  cases unit <;> cases same <;> revert other <;> decide

end TimeUnit

def BeginsWithDigit (text : List Char) : Prop :=
  ∃ c rest, text = c :: rest ∧ isDecimalDigit c = true

theorem runs_of_stop {text : List Char} (stops : ∀ c ∈ text.head?, isDecimalDigit c = false) :
    runs text = [] := by
  cases text with
  | nil => rfl
  | cons c rest => simp [runs, stops c rfl]

theorem runs_append {run rest : List Char} (some_digit : run ≠ [])
    (digits : run.all isDecimalDigit = true)
    (stops : ∀ c ∈ rest.head?, isDecimalDigit c = false) :
    ∃ shorter, runs (run ++ rest) = (run, rest) :: shorter ∧
      ∀ way ∈ shorter, BeginsWithDigit way.2 := by
  induction run with
  | nil => exact absurd rfl some_digit
  | cons c run ih =>
    obtain ⟨digit, digits⟩ := Bool.and_eq_true_iff.mp digits
    rw [List.cons_append, runs, if_pos digit]
    cases run with
    | nil => exact ⟨[], by rw [List.nil_append, runs_of_stop stops]; rfl, List.forall_mem_nil _⟩
    | cons next run =>
      obtain ⟨shorter, longest, digit⟩ := ih (List.cons_ne_nil _ _) digits
      rw [longest]
      refine ⟨_, rfl, fun way member => ?_⟩
      rcases List.mem_append.mp member with earlier | last
      · obtain ⟨other, among, rfl⟩ := List.mem_map.mp earlier
        exact digit other among
      · rw [List.mem_singleton.mp last]
        exact ⟨next, run ++ rest, rfl, (Bool.and_eq_true_iff.mp digits).1⟩

theorem dropWhile_stops (text : List Char) :
    ∀ c ∈ (text.dropWhile isDecimalDigit).head?, isDecimalDigit c = false := by
  intro c first
  have last := List.head?_dropWhile_not isDecimalDigit text
  rw [first] at last
  simpa using last

theorem runs_eq_nil {text : List Char} (empty : text.takeWhile isDecimalDigit = []) :
    runs text = [] := by
  have stops := dropWhile_stops text
  rw [← List.takeWhile_append_dropWhile (p := isDecimalDigit) (l := text), empty,
    List.nil_append]
  exact runs_of_stop stops

/-- The longest run comes first, and after each of the others there is another digit. -/
theorem runs_eq {text : List Char} (some_digit : text.takeWhile isDecimalDigit ≠ []) :
    ∃ shorter, runs text =
      (text.takeWhile isDecimalDigit, text.dropWhile isDecimalDigit) :: shorter ∧
      ∀ way ∈ shorter, BeginsWithDigit way.2 := by
  have cut := runs_append some_digit (List.all_takeWhile (l := text)) (dropWhile_stops text)
  rwa [List.takeWhile_append_dropWhile] at cut

def takeFraction (text : List Char) : List Char × List Char :=
  match text with
  | '.' :: rest =>
      let fraction := rest.takeWhile isDecimalDigit
      if fraction.isEmpty then ([], text) else (fraction, rest.dropWhile isDecimalDigit)
  | _ => ([], text)

theorem tokenHere?_eq (text : List Char) :
    tokenHere? text =
      if text.takeWhile isDecimalDigit = [] then none
      else
        let (fraction, rest) := takeFraction (text.dropWhile isDecimalDigit)
        (TimeUnit.read? rest).map fun (unit, rest) =>
          (⟨text.takeWhile isDecimalDigit, fraction, unit⟩, rest) := by
  unfold tokenHere?
  by_cases empty : text.takeWhile isDecimalDigit = []
  · simp [empty]
  · dsimp only
    rw [if_neg (mt List.isEmpty_iff.mp empty), if_neg empty]
    rfl

theorem TimeUnit.ways_of_digit {text : List Char} (digit : BeginsWithDigit text) :
    ways text = [] := by
  obtain ⟨c, rest, rfl, digit⟩ := digit
  exact ways_cons_eq_nil (Or.inl digit) rest

theorem fractions_of_digit {text : List Char} (digit : BeginsWithDigit text) :
    fractions text = [([], text)] := by
  obtain ⟨c, rest, rfl, digit⟩ := digit
  unfold fractions
  split
  next same => cases same; exact absurd digit (by decide)
  next => rfl

/-- The longest fraction comes first, and no unit comes after any of the others. -/
theorem fractions_eq (text : List Char) :
    ∃ shorter, fractions text = takeFraction text :: shorter ∧
      ∀ way ∈ shorter, TimeUnit.ways way.2 = [] := by
  unfold fractions takeFraction
  split
  next rest =>
    by_cases empty : rest.takeWhile isDecimalDigit = []
    · refine ⟨[], ?_, List.forall_mem_nil _⟩
      simp [empty, runs_eq_nil empty]
    · obtain ⟨shorter, longest, digit⟩ := runs_eq empty
      refine ⟨shorter ++ [([], '.' :: rest)], ?_, ?_⟩
      · simp [longest, empty]
      · refine List.forall_mem_append.mpr ⟨fun way member => ?_, List.forall_mem_singleton.mpr ?_⟩
        · exact TimeUnit.ways_of_digit (digit way member)
        · exact TimeUnit.ways_cons_eq_nil (Or.inr rfl) rest
  next => exact ⟨[], rfl, List.forall_mem_nil _⟩

theorem flatMap_cons_of_eq_nil {Way Other : Type} {go : Way → List Other} {first : Way}
    {others : List Way} (dead : ∀ way ∈ others, go way = []) :
    (first :: others).flatMap go = go first := by
  rw [List.flatMap_cons, List.flatMap_eq_nil_iff.mpr dead, List.append_nil]

theorem tokenHere?_eq_head?_ways (text : List Char) : tokenHere? text = (ways text).head? := by
  rw [tokenHere?_eq, ways]
  split
  next empty => rw [runs_eq_nil empty]; rfl
  next some_digit =>
    obtain ⟨shorter, longest, digit⟩ := runs_eq some_digit
    obtain ⟨others, first, dead⟩ := fractions_eq (text.dropWhile isDecimalDigit)
    rw [longest, flatMap_cons_of_eq_nil]
    · dsimp only
      rw [first, flatMap_cons_of_eq_nil]
      · simp [TimeUnit.read?_eq_head?_ways]
      · intro way member
        simp [dead way member]
    · intro way member
      simp [fractions_of_digit (digit way member), TimeUnit.ways_of_digit (digit way member)]

theorem findToken?_eq_firstMatch? (text : List Char) : findToken? text = firstMatch? text := by
  induction text with
  | nil => rfl
  | cons c rest ih =>
    rw [findToken?, tokenHere?_eq_head?_ways, ih]
    rfl

namespace TimeUnit

theorem read?_letters (unit : TimeUnit) {rest : List Char} (apart : rest.head? ≠ some 's') :
    read? (unit.letters ++ rest) = some (unit, rest) := by
  cases unit with
  | minute =>
    cases rest with
    | nil => rfl
    | cons c rest =>
      have other : c ≠ 's' := fun same => apart (congrArg some same)
      simp [letters, read?, other]
  | millisecond | second | hour | day | week => rfl

theorem letters_of_read? {text rest : List Char} {unit : TimeUnit}
    (read : read? text = some (unit, rest)) : text = unit.letters ++ rest := by
  unfold read? at read
  split at read <;> cases read <;> rfl

end TimeUnit

namespace Token

def letters (token : Token) : List Char :=
  token.whole ++
    ((if token.fraction.isEmpty then [] else '.' :: token.fraction) ++ token.unit.letters)

/-- A token with these characters for digits: one at least, and a fraction may be left out. -/
structure Spelled (digit : Char → Bool) (token : Token) : Prop where
  some_digit : token.whole ≠ []
  whole : token.whole.all digit = true
  fraction : token.fraction.all digit = true

variable {digit : Char → Bool} {token : Token}

theorem Spelled.mono (spelled : token.Spelled digit) {other : Char → Bool}
    (more : ∀ c, digit c = true → other c = true) : token.Spelled other where
  some_digit := spelled.some_digit
  whole := List.all_eq_true.mpr fun c member => more c (List.all_eq_true.mp spelled.whole c member)
  fraction :=
    List.all_eq_true.mpr fun c member => more c (List.all_eq_true.mp spelled.fraction c member)

theorem Spelled.begins (spelled : token.Spelled digit) :
    ∃ c rest, token.letters = c :: rest ∧ digit c = true := by
  obtain ⟨c, run, same⟩ := List.exists_cons_of_ne_nil spelled.some_digit
  refine ⟨c, _, by rw [letters, same]; rfl, ?_⟩
  have whole := spelled.whole
  rw [same] at whole
  exact (Bool.and_eq_true_iff.mp whole).1

end Token

theorem TimeUnit.stops (unit : TimeUnit) (rest : List Char) :
    ∀ c ∈ (unit.letters ++ rest).head?, isDecimalDigit c = false := by
  cases unit <;> simp [letters] <;> decide

theorem takeFraction_letters (fraction : List Char) (digits : fraction.all isDecimalDigit = true)
    (unit : TimeUnit) (rest : List Char) :
    takeFraction ((if fraction.isEmpty then [] else '.' :: fraction) ++ (unit.letters ++ rest)) =
      (fraction, unit.letters ++ rest) := by
  cases fraction with
  | nil => cases unit <;> rfl
  | cons c fraction =>
    obtain ⟨taken, left⟩ := takeWhile_append_of_stop digits (unit.stops rest)
    rw [List.isEmpty_cons, if_neg Bool.false_ne_true, List.cons_append, takeFraction, taken, left]
    rfl

theorem tokenHere?_letters {token : Token} (spelled : token.Spelled isDecimalDigit)
    {rest : List Char} (apart : rest.head? ≠ some 's') :
    tokenHere? (token.letters ++ rest) = some (token, rest) := by
  have stops : ∀ c ∈ ((if token.fraction.isEmpty then [] else '.' :: token.fraction) ++
      (token.unit.letters ++ rest)).head?, isDecimalDigit c = false := by
    split
    · exact token.unit.stops rest
    · rintro c ⟨rfl⟩
      decide
  obtain ⟨taken, left⟩ := takeWhile_append_of_stop spelled.whole stops
  rw [tokenHere?_eq, Token.letters, List.append_assoc, List.append_assoc, taken, left,
    if_neg spelled.some_digit, takeFraction_letters _ spelled.fraction]
  simp only [TimeUnit.read?_letters token.unit apart, Option.map_some]

theorem letters_of_takeFraction {text fraction rest : List Char}
    (taken : takeFraction text = (fraction, rest)) :
    text = (if fraction.isEmpty then [] else '.' :: fraction) ++ rest ∧
      fraction.all isDecimalDigit = true := by
  unfold takeFraction at taken
  split at taken
  next after =>
    simp only at taken
    split at taken
    · cases taken
      exact ⟨rfl, rfl⟩
    next some_digit =>
      cases taken
      refine ⟨?_, List.all_takeWhile⟩
      rw [if_neg some_digit, List.cons_append, List.takeWhile_append_dropWhile]
  next =>
    cases taken
    exact ⟨rfl, rfl⟩

theorem letters_of_tokenHere? {text rest : List Char} {token : Token}
    (found : tokenHere? text = some (token, rest)) :
    text = token.letters ++ rest ∧ token.Spelled isDecimalDigit := by
  rw [tokenHere?_eq] at found
  split at found
  · cases found
  next some_digit =>
    cases taken : takeFraction (text.dropWhile isDecimalDigit) with
    | mk fraction after =>
      rw [taken] at found
      obtain ⟨⟨unit, left⟩, read, same⟩ := Option.map_eq_some_iff.mp found
      cases same
      obtain ⟨fractional, digits⟩ := letters_of_takeFraction taken
      refine ⟨?_, some_digit, List.all_takeWhile, digits⟩
      calc text
        _ = text.takeWhile isDecimalDigit ++ text.dropWhile isDecimalDigit :=
          List.takeWhile_append_dropWhile.symm
        _ = _ := by
          rw [fractional, TimeUnit.letters_of_read? read, Token.letters]
          simp only [List.append_assoc]

theorem findToken?_of_tokenHere? {text rest : List Char} {token : Token}
    (found : tokenHere? text = some (token, rest)) :
    findToken? text = some ([], token, rest) := by
  cases text with
  | nil => cases found
  | cons c text => rw [findToken?, found]

theorem tokenHere?_of_findToken? {text rest : List Char} {token : Token}
    (found : findToken? text = some ([], token, rest)) :
    tokenHere? text = some (token, rest) := by
  cases text with
  | nil => cases found
  | cons c text =>
    rw [findToken?] at found
    split at found
    next here =>
      cases found
      exact here
    next =>
      obtain ⟨_, _, same⟩ := Option.map_eq_some_iff.mp found
      cases same

theorem tokens_of_tokenHere? {text rest : List Char} {token : Token}
    (found : tokenHere? text = some (token, rest)) :
    tokens text = (token :: (tokens rest).1, (tokens rest).2) := by
  rw [tokens]
  split
  next found' =>
    rw [findToken?_of_tokenHere? found] at found'
    cases found'
    rfl
  next other => exact absurd (findToken?_of_tokenHere? found) (other _ _)

theorem tokens_of_none {text : List Char} (missing : tokenHere? text = none) :
    tokens text = ([], text) := by
  rw [tokens]
  split
  next found => cases missing.symm.trans (tokenHere?_of_findToken? found)
  next => rfl

/-- The search cuts a text into tokens and what is left, where no token stands. -/
structure Cut (text : List Char) (found : List Token) (left : List Char) : Prop where
  text_eq : text = found.flatMap Token.letters ++ left
  spelled : ∀ token ∈ found, token.Spelled isDecimalDigit
  ended : tokenHere? left = none

theorem cut_tokens (text : List Char) : Cut text (tokens text).1 (tokens text).2 := by
  induction text using tokens.induct with
  | case1 text token rest found _ _ _ _ ih =>
    have here := tokenHere?_of_findToken? found
    obtain ⟨same, spelled⟩ := letters_of_tokenHere? here
    rw [tokens_of_tokenHere? here]
    refine ⟨?_, List.forall_mem_cons.mpr ⟨spelled, ih.spelled⟩, ih.ended⟩
    rw [List.flatMap_cons, List.append_assoc, ← ih.text_eq]
    exact same
  | case2 text other =>
    have missing : tokenHere? text = none := by
      cases found : tokenHere? text with
      | none => rfl
      | some way => exact absurd (findToken?_of_tokenHere? found) (other _ _)
    rw [tokens_of_none missing]
    exact ⟨rfl, List.forall_mem_nil _, missing⟩

theorem tokens_flatMap {found : List Token}
    (spelled : ∀ token ∈ found, token.Spelled isDecimalDigit) :
    tokens (found.flatMap Token.letters) = (found, []) := by
  induction found with
  | nil => exact tokens_of_none rfl
  | cons token others ih =>
    obtain ⟨first, later⟩ := List.forall_mem_cons.mp spelled
    have apart : (others.flatMap Token.letters).head? ≠ some 's' := by
      cases others with
      | nil => simp
      | cons next others =>
        obtain ⟨c, rest, same, digit⟩ := (List.forall_mem_cons.mp later).1.begins
        rw [List.flatMap_cons, same]
        rintro ⟨rfl⟩
        exact absurd digit (by decide)
    rw [List.flatMap_cons, tokens_of_tokenHere? (tokenHere?_letters first apart), ih later]

end PowerRota.Duration
