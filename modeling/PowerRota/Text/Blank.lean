/-! White space, and cutting a text at it or at a separator.

Texts are cut as lists of characters. `trim` drops white space from both ends,
`words` keeps the runs between white space, and `split` keeps every part, the
empty ones included, so it never answers an empty list. -/

set_option autoImplicit false

namespace PowerRota.Text

/-- The characters with the Unicode property White_Space. -/
def isBlank (c : Char) : Bool :=
  let n := c.toNat
  (0x09 ≤ n && n ≤ 0x0D) || n == 0x20 || n == 0x85 || n == 0xA0 || n == 0x1680 ||
    (0x2000 ≤ n && n ≤ 0x200A) || n == 0x2028 || n == 0x2029 || n == 0x202F || n == 0x205F ||
    n == 0x3000

def trimStart (text : List Char) : List Char :=
  text.dropWhile isBlank

def trimEnd (text : List Char) : List Char :=
  (text.reverse.dropWhile isBlank).reverse

def trim (text : List Char) : List Char :=
  trimEnd (trimStart text)

def allBlank (text : List Char) : Bool :=
  text.all isBlank

/-- The parts between the separators; a text without one is its own only part. -/
def split (separator : Char) : List Char → List (List Char)
  | [] => [[]]
  | c :: rest =>
      if c = separator then [] :: split separator rest
      else
        match split separator rest with
        | [] => [[c]]
        | part :: parts => (c :: part) :: parts

def splitOnce (separator : Char) : List Char → Option (List Char × List Char)
  | [] => none
  | c :: rest =>
      if c = separator then some ([], rest)
      else (splitOnce separator rest).map fun (before, after) => (c :: before, after)

def words (text : List Char) : List (List Char) :=
  finish (text.foldr step ([], []))
where
  step (c : Char) (state : List Char × List (List Char)) : List Char × List (List Char) :=
    if isBlank c then ([], finish state) else (c :: state.1, state.2)
  finish (state : List Char × List (List Char)) : List (List Char) :=
    if state.1.isEmpty then state.2 else state.1 :: state.2

def join (separator : List Char) : List (List Char) → List Char
  | [] => []
  | [part] => part
  | part :: parts => part ++ separator ++ join separator parts

theorem split_ne_nil (separator : Char) (text : List Char) : split separator text ≠ [] := by
  cases text with
  | nil => simp [split]
  | cons c rest =>
    simp only [split]
    split
    · simp
    · split <;> simp

theorem join_split (separator : Char) (text : List Char) :
    join [separator] (split separator text) = text := by
  induction text with
  | nil => rfl
  | cons c rest ih =>
    simp only [split]
    split
    next h =>
      subst h
      cases hs : split c rest with
      | nil => exact absurd hs (split_ne_nil c rest)
      | cons part parts => simp [join, ← hs, ih]
    next h =>
      cases hs : split separator rest with
      | nil => exact absurd hs (split_ne_nil separator rest)
      | cons part parts =>
        rw [hs] at ih
        cases parts with
        | nil => simpa [join] using ih
        | cons => simpa [join] using ih

def lowerAscii (text : String) : String :=
  text.map Char.toLower

def upperAscii (text : String) : String :=
  text.map Char.toUpper

end PowerRota.Text
