import PowerRota.Calendar.Date

/-! Points in time, exact to the nanosecond, and lengths of time in the same unit. -/

set_option autoImplicit false

namespace PowerRota.Calendar

/-- Nanoseconds since the start of 1970, universal time. -/
structure Instant where
  nanos : Int
  deriving DecidableEq, Repr

namespace Instant

def nanosPerSecond : Int := 1000000000

instance : LT Instant := ⟨fun a b => a.nanos < b.nanos⟩

instance : LE Instant := ⟨fun a b => a.nanos ≤ b.nanos⟩

instance (a b : Instant) : Decidable (a < b) :=
  inferInstanceAs (Decidable (a.nanos < b.nanos))

instance (a b : Instant) : Decidable (a ≤ b) :=
  inferInstanceAs (Decidable (a.nanos ≤ b.nanos))

theorem lt_def {a b : Instant} : a < b ↔ a.nanos < b.nanos := Iff.rfl

theorem le_def {a b : Instant} : a ≤ b ↔ a.nanos ≤ b.nanos := Iff.rfl

@[ext] theorem ext {a b : Instant} (h : a.nanos = b.nanos) : a = b := by
  cases a; cases b; simp_all

def ofSecond (second : Int) : Instant :=
  ⟨second * nanosPerSecond⟩

def second (t : Instant) : Int :=
  t.nanos / nanosPerSecond

def fraction (t : Instant) : Nat :=
  (t.nanos % nanosPerSecond).toNat

def addNanos (t : Instant) (nanos : Int) : Instant :=
  ⟨t.nanos + nanos⟩

def earliest : Instant :=
  ofSecond (yearStart Date.firstYear * 86400)

def latest : Instant :=
  ⟨yearStart (Date.lastYear + 1) * 86400 * nanosPerSecond - 1⟩

def addNanos? (t : Instant) (nanos : Int) : Option Instant :=
  let moved := t.addNanos nanos
  if earliest ≤ moved ∧ moved ≤ latest then some moved else none

end Instant

end PowerRota.Calendar
