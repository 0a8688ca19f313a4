import PowerRota.Calendar.Zone
import PowerRota.Cron.Expression

/-! Fires of a cron expression in a zone.

The search goes forward in wall time, a second at a time in effect, and passes
over wall times that the zone does not have. A wall time that a zone has twice is
one fire for a single look ahead, the earlier one, and two fires for a walk. -/

set_option autoImplicit false

namespace PowerRota.Cron

open PowerRota.Calendar

namespace Expression

def wallEnd : Int :=
  yearStart (Field.year.greatest + 1) * 86400

/-- The first wall time from `wall` on that fits and exists, and the instants
that show it. -/
def firstWall? (expression : Expression) (zone : Zone) (wall : Int) :
    Option (Int × List Int) :=
  if ended : wallEnd ≤ wall then none
  else
    let day := wall / 86400
    if expression.fitsDay day then
      match expression.firstClock? (wall % 86400).toNat with
      | some clock =>
          let found := day * 86400 + clock
          match zone.instantsAt found with
          | [] =>
              -- the found time is never before the start, so this step goes forward
              if forward : wall ≤ found then firstWall? expression zone (found + 1) else none
          | instants => some (found, instants)
      | none => firstWall? expression zone ((day + 1) * 86400)
    else firstWall? expression zone ((day + 1) * 86400)
termination_by (wallEnd - wall).toNat
decreasing_by all_goals omega

def searchStart (zone : Zone) (after : Instant) : Int :=
  zone.wallAt (after.second + 1)

/-- The fire that a single look ahead finds. Where the clock was moved back it can
lie before `after`. -/
def next? (expression : Expression) (zone : Zone) (after : Instant) : Option Instant :=
  match expression.firstWall? zone (searchStart zone after) with
  | some (_, utc :: _) => some (.ofSecond utc)
  | _ => none

/-- A walk from fire to fire: where it stands, and the second showing of the wall
time there. -/
structure Walk where
  position : Instant
  again : Option Instant

def Walk.next? (expression : Expression) (zone : Zone) (walk : Walk) :
    Option (Instant × Walk) :=
  match walk.again with
  | some later => some (later, ⟨later, none⟩)
  | none =>
      match expression.firstWall? zone (searchStart zone walk.position) with
      | some (_, [utc]) => some (.ofSecond utc, ⟨.ofSecond utc, none⟩)
      | some (_, utc :: later :: _) =>
          some (.ofSecond utc, ⟨.ofSecond utc, some (.ofSecond later)⟩)
      | _ => none

/-- Walk up to `now`, at most so many steps. The answer is the last fire before
`now`, if there is one; none at all if the walk ends without reaching `now`. -/
def walkTo (expression : Expression) (zone : Zone) (now : Instant) :
    (steps : Nat) → Walk → (previous : Option Instant) → Option (Option Instant)
  | 0, _, _ => none
  | steps + 1, walk, previous =>
      match walk.next? expression zone with
      | none => none
      | some (fire, walk) =>
          if now ≤ fire then some previous
          else walkTo expression zone now steps walk (some fire)

def stepLimit : Nat := 10000

/-- The same wall time twelve months earlier, on the last day of a shorter month,
if the zone has it exactly once. -/
def yearBefore? (zone : Zone) (now : Instant) : Option Instant := do
  let wall := zone.wallAt now.second
  let date := Date.ofDay (wall / 86400)
  let past ← date.monthOccurrence? (-12) date.day
  match zone.instantsAt (past.toDay * 86400 + wall % 86400) with
  | [utc] => some ((Instant.ofSecond utc).addNanos now.fraction)
  | _ => none

def lookbackStarts (zone : Zone) (now : Instant) : List Instant :=
  let back (seconds : Int) : Instant := now.addNanos (-(seconds * Instant.nanosPerSecond))
  (yearBefore? zone now).toList ++ [back 86400, back 3600, back 60]

/-- The last fire before `now`. A walk from far back may run out of steps, so
shorter ones are tried before giving up. -/
def last? (expression : Expression) (zone : Zone) (now : Instant) : Option Instant :=
  ((lookbackStarts zone now).findSome? fun start =>
    walkTo expression zone now stepLimit ⟨start, none⟩ none).join

end Expression

end PowerRota.Cron
