import Mathlib.Order.Bounds.Image
import PowerRota.Proofs.Cron.WellFormed

/-! The search within a day finds the least second that fits. -/

set_option autoImplicit false

namespace PowerRota.Cron

/-- A search of a set finds its least member, or nothing if it is empty. -/
def FindsLeast {Value : Type} [LE Value] (values : Set Value) : Option Value → Prop
  | some value => IsLeast values value
  | none => values = ∅

namespace FindsLeast

theorem find? {values : List Nat} (increasing : values.Pairwise (· < ·)) (passes : Nat → Bool) :
    FindsLeast {value | value ∈ values ∧ passes value = true} (values.find? passes) := by
  induction values with
  | nil => simp [FindsLeast]
  | cons head rest ih =>
    obtain ⟨first, increasing⟩ := List.pairwise_cons.mp increasing
    rw [List.find?_cons]
    split
    next passing =>
      refine ⟨⟨List.mem_cons_self .., passing⟩, ?_⟩
      rintro other ⟨member, _⟩
      rcases List.mem_cons.mp member with rfl | member
      · exact Nat.le_refl _
      · exact Nat.le_of_lt (first other member)
    next failing =>
      have same : {value | value ∈ head :: rest ∧ passes value = true} =
          {value | value ∈ rest ∧ passes value = true} := by
        ext value
        simp only [List.mem_cons, Set.mem_ofPred_eq]
        constructor
        · rintro ⟨rfl | member, passing⟩
          · rw [failing] at passing
            cases passing
          · exact ⟨member, passing⟩
        · exact fun ⟨member, passing⟩ => ⟨Or.inr member, passing⟩
      rw [same]
      exact ih increasing

theorem map {values : Set Nat} {found : Option Nat} (finds : FindsLeast values found)
    {change : Nat → Nat} (mono : Monotone change) :
    FindsLeast (change '' values) (found.map change) := by
  cases found with
  | none =>
    have empty : values = ∅ := finds
    show change '' values = ∅
    rw [empty, Set.image_empty]
  | some value => exact mono.map_isLeast finds

theorem findSome? {entries : List Nat} {search : Nat → Option Nat} {values : Nat → Set Nat}
    (increasing : entries.Pairwise (· < ·))
    (behind : ∀ {entry other value value' : Nat}, entry < other → value ∈ values entry →
      value' ∈ values other → value ≤ value')
    (finds : ∀ entry ∈ entries, FindsLeast (values entry) (search entry)) :
    FindsLeast {value | ∃ entry ∈ entries, value ∈ values entry} (entries.findSome? search) := by
  -- on the sets in order: all of the first lies before the rest
  induction entries with
  | nil => simp [FindsLeast]
  | cons head rest ih =>
    obtain ⟨first, increasing⟩ := List.pairwise_cons.mp increasing
    have head_finds := finds head (List.mem_cons_self ..)
    rw [List.findSome?_cons]
    split
    next value found =>
      rw [found] at head_finds
      refine ⟨⟨head, List.mem_cons_self .., head_finds.1⟩, ?_⟩
      rintro other ⟨entry, member, listed⟩
      rcases List.mem_cons.mp member with rfl | member
      · exact head_finds.2 listed
      · exact behind (first entry member) head_finds.1 listed
    next nothing =>
      rw [nothing] at head_finds
      have empty : values head = ∅ := head_finds
      have same : {value | ∃ entry ∈ head :: rest, value ∈ values entry} =
          {value | ∃ entry ∈ rest, value ∈ values entry} := by
        ext value
        simp [empty]
      rw [same]
      exact ih increasing fun entry member => finds entry (List.mem_cons_of_mem _ member)

end FindsLeast

namespace Expression

variable {expression : Expression}

def clocks (expression : Expression) (least : Nat) : Set Nat :=
  {clock | least ≤ clock ∧ expression.fitsClock clock = true}

theorem fitsClock_iff (expression : Expression) (clock : Nat) :
    expression.fitsClock clock = true ↔
      clock / 3600 ∈ expression.hours ∧ clock / 60 % 60 ∈ expression.minutes ∧
        clock % 60 ∈ expression.seconds := by
  simp only [fitsClock, Bool.and_eq_true, List.contains_iff_mem, and_assoc]

theorem fitsClock_lt (wellFormed : expression.WellFormed) {clock : Nat}
    (fits : expression.fitsClock clock = true) : clock < 86400 := by
  have hour : clock / 3600 ≤ 23 := wellFormed.hours.le ((fitsClock_iff ..).mp fits).1
  omega

def clocksOfMinute (expression : Expression) (least hour minute : Nat) : Set Nat :=
  {clock | least ≤ clock ∧ ∃ second ∈ expression.seconds,
    clock = hour * 3600 + minute * 60 + second}

def clocksOfHour (expression : Expression) (least hour : Nat) : Set Nat :=
  {clock | ∃ minute ∈ expression.minutes, clock ∈ expression.clocksOfMinute least hour minute}

theorem clocks_eq (wellFormed : expression.WellFormed) (least : Nat) :
    expression.clocks least =
      {clock | ∃ hour ∈ expression.hours, clock ∈ expression.clocksOfHour least hour} := by
  ext clock
  constructor
  -- a second of the day is its hour, its minute and its second, within their fields
  · rintro ⟨le, fits⟩
    obtain ⟨hour, minute, second⟩ := (fitsClock_iff ..).mp fits
    refine ⟨clock / 3600, hour, clock / 60 % 60, minute, le, clock % 60, second, ?_⟩
    omega
  · rintro ⟨hour, has_hour, minute, has_minute, le, second, has_second, rfl⟩
    have minute_le : minute ≤ 59 := wellFormed.minutes.le has_minute
    have second_le : second ≤ 59 := wellFormed.seconds.le has_second
    refine ⟨le, (fitsClock_iff ..).mpr ?_⟩
    have hour_eq : (hour * 3600 + minute * 60 + second) / 3600 = hour := by omega
    have minute_eq : (hour * 3600 + minute * 60 + second) / 60 % 60 = minute := by omega
    have second_eq : (hour * 3600 + minute * 60 + second) % 60 = second := by omega
    rw [hour_eq, minute_eq, second_eq]
    exact ⟨has_hour, has_minute, has_second⟩

theorem clocksOfMinute_bounds (wellFormed : expression.WellFormed) {least hour minute clock : Nat}
    (member : clock ∈ expression.clocksOfMinute least hour minute) :
    least ≤ clock ∧ hour * 3600 + minute * 60 ≤ clock ∧ clock ≤ hour * 3600 + minute * 60 + 59 := by
  obtain ⟨le, second, has_second, rfl⟩ := member
  have second_le : second ≤ 59 := wellFormed.seconds.le has_second
  omega

theorem clocksOfHour_bounds (wellFormed : expression.WellFormed) {least hour clock : Nat}
    (member : clock ∈ expression.clocksOfHour least hour) :
    least ≤ clock ∧ hour * 3600 ≤ clock ∧ clock ≤ hour * 3600 + 3599 := by
  obtain ⟨minute, has_minute, member⟩ := member
  have minute_le : minute ≤ 59 := wellFormed.minutes.le has_minute
  have last : minute * 60 + 59 ≤ 3599 := by omega
  obtain ⟨first, above, below⟩ := clocksOfMinute_bounds wellFormed member
  refine ⟨first, Nat.le_trans (Nat.le_add_right _ _) above, Nat.le_trans below ?_⟩
  rw [Nat.add_assoc]
  exact Nat.add_le_add_left last _

theorem finds_clocksOfMinute (wellFormed : expression.WellFormed) (least hour minute : Nat) :
    FindsLeast (expression.clocksOfMinute least hour minute)
      (if hour * 3600 + minute * 60 + 59 < least then none
      else
        (expression.seconds.find? fun second =>
          least ≤ hour * 3600 + minute * 60 + second).map fun second =>
            hour * 3600 + minute * 60 + second) := by
  split
  -- the minute is over before the search begins
  next late =>
    apply Set.eq_empty_iff_forall_notMem.mpr
    intro clock member
    have bounds := clocksOfMinute_bounds wellFormed member
    omega
  next =>
    have finds := FindsLeast.find? wellFormed.seconds.increasing
      fun second => decide (least ≤ hour * 3600 + minute * 60 + second)
    have mono : Monotone fun second => hour * 3600 + minute * 60 + second :=
      fun _ _ le => Nat.add_le_add_left le _
    have same : expression.clocksOfMinute least hour minute =
        (fun second => hour * 3600 + minute * 60 + second) '' {second |
          second ∈ expression.seconds ∧
            decide (least ≤ hour * 3600 + minute * 60 + second) = true} := by
      ext clock
      constructor
      · rintro ⟨le, second, member, rfl⟩
        exact ⟨second, ⟨member, decide_eq_true le⟩, rfl⟩
      · rintro ⟨second, ⟨member, le⟩, rfl⟩
        exact ⟨of_decide_eq_true le, second, member, rfl⟩
    rw [same]
    exact finds.map mono

theorem finds_clocksOfHour (wellFormed : expression.WellFormed) (least hour : Nat) :
    FindsLeast (expression.clocksOfHour least hour)
      (if hour * 3600 + 3599 < least then none
      else
        expression.minutes.findSome? fun minute =>
          if hour * 3600 + minute * 60 + 59 < least then none
          else
            (expression.seconds.find? fun second =>
              least ≤ hour * 3600 + minute * 60 + second).map fun second =>
                hour * 3600 + minute * 60 + second) := by
  split
  next late =>
    apply Set.eq_empty_iff_forall_notMem.mpr
    intro clock member
    have bounds := clocksOfHour_bounds wellFormed member
    omega
  next =>
    refine FindsLeast.findSome? wellFormed.minutes.increasing ?_
      fun minute _ => finds_clocksOfMinute wellFormed least hour minute
    -- the seconds of a minute all lie before those of a later one
    intro minute other clock later below first second
    have bounds := clocksOfMinute_bounds wellFormed first
    have bounds' := clocksOfMinute_bounds wellFormed second
    omega

theorem finds_clocks (wellFormed : expression.WellFormed) (least : Nat) :
    FindsLeast (expression.clocks least) (expression.firstClock? least) := by
  rw [clocks_eq wellFormed]
  refine FindsLeast.findSome? wellFormed.hours.increasing ?_
    fun hour _ => finds_clocksOfHour wellFormed least hour
  intro hour other clock later below first second
  have bounds := clocksOfHour_bounds wellFormed first
  have bounds' := clocksOfHour_bounds wellFormed second
  omega

end Expression

end PowerRota.Cron
