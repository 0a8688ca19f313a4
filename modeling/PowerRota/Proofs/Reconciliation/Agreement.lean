import PowerRota.Proofs.Firing.Fires
import PowerRota.Proofs.Firing.Lookback
import PowerRota.Proofs.Firing.Progress
import PowerRota.Reconciliation.Expected

/-! The state that is expected of a schedule is the one in which its fires leave it.

The expectation looks back from an instant, once for each action. The fires come from
looking ahead, each from the one before. -/

set_option autoImplicit false

namespace PowerRota

open PowerRota.Calendar

namespace FiringRule

variable {rule : FiringRule} {zone : Zone} {t now : Instant}

/-- The chain of fires after `t`, as far as it lies before `now`. Fires are a nanosecond
apart at least, so there are no more than there are nanoseconds. -/
def chainBefore (rule : FiringRule) (zone : Zone) (t now : Instant) : List Instant :=
  (rule.chain zone (now.nanos - t.nanos).toNat t).takeWhile (· < now)

theorem mem_takeWhile_chain (least : ∀ s, t ≤ s → rule.NextIsLeast zone s) {count : Nat}
    (enough : now.nanos - t.nanos ≤ count) {fire : Instant} :
    fire ∈ (rule.chain zone count t).takeWhile (· < now) ↔
      fire ∈ Instant.between (rule.Fires zone) t now := by
  -- on the length of the chain, which starts anew after its first fire
  induction count generalizing t with
  | zero =>
    refine iff_of_false List.not_mem_nil ?_
    rintro ⟨_, after, before⟩
    have inside : t < now := Int.lt_trans after before
    rw [Instant.lt_def] at inside
    omega
  | succ count ih =>
    have finds := least t (Int.le_refl _)
    unfold NextIsLeast at finds
    cases found : rule.nextAfter zone t with
    | none =>
      rw [found] at finds
      have exhausted : {fire | rule.Fires zone fire ∧ t < fire} = ∅ := finds
      rw [chain_succ_of_exhausted found]
      refine iff_of_false List.not_mem_nil fun ⟨fires, after, _⟩ => ?_
      exact Set.eq_empty_iff_forall_notMem.mp exhausted fire ⟨fires, after⟩
    | some next =>
      rw [found] at finds
      have nearest : IsLeast {fire | rule.Fires zone fire ∧ t < fire} next := finds
      rw [chain_succ_of_next found]
      by_cases before : next < now
      · -- the rest is a chain of its own, with a nanosecond less to go
        have later : t.nanos < next.nanos := nearest.1.2
        have rest := ih (fun s le => least s (Int.le_trans (Int.le_of_lt nearest.1.2) le))
          (by omega)
        rw [List.takeWhile_cons_of_pos (p := fun fire => decide (fire < now))
          (decide_eq_true before), Instant.between_eq_insert nearest before, List.mem_cons,
          Set.mem_insert_iff, rest]
      · rw [List.takeWhile_cons_of_neg (p := fun fire => decide (fire < now))
          (by simpa using before), Instant.between_eq_empty nearest (Int.not_lt.mp before)]
        exact iff_of_false List.not_mem_nil id

theorem mem_chainBefore (least : ∀ s, t ≤ s → rule.NextIsLeast zone s) {fire : Instant} :
    fire ∈ rule.chainBefore zone t now ↔ fire ∈ Instant.between (rule.Fires zone) t now :=
  mem_takeWhile_chain least (Int.self_le_toNat _)

theorem chainBefore_increasing {trigger : Trigger} (accepted : ofTrigger trigger = .ok rule)
    (forward : ∀ s, ¬ rule.Retraces zone s) :
    (rule.chainBefore zone t now).Pairwise (· < ·) :=
  (List.pairwise_cons.mp (chain_increasing accepted fun s _ => forward s)).2.sublist
    (List.takeWhile_sublist _)

theorem not_retraces_of_time? {time : TimeOfDay} (calendar : rule.time? = some time)
    (s : Instant) : ¬ rule.Retraces zone s := by
  cases rule <;> first | exact id | cases calendar

theorem getLast?_chainBefore {trigger : Trigger} (accepted : ofTrigger trigger = .ok rule)
    (forward : ∀ s, ¬ rule.Retraces zone s) (least : ∀ s, t ≤ s → rule.NextIsLeast zone s)
    {last : Instant} (greatest : IsGreatest {fire | rule.Fires zone fire ∧ fire < now} last)
    (after : t < last) : (rule.chainBefore zone t now).getLast? = some last := by
  have member : last ∈ rule.chainBefore zone t now :=
    (mem_chainBefore least).mpr ⟨greatest.1.1, after, greatest.1.2⟩
  have increasing : (rule.chainBefore zone t now).Pairwise (· < ·) :=
    chainBefore_increasing accepted forward
  cases found : (rule.chainBefore zone t now).getLast? with
  | none =>
    rw [List.getLast?_eq_none_iff.mp found] at member
    cases member
  | some final =>
    obtain ⟨earlier, split⟩ := List.getLast?_eq_some_iff.mp found
    have listed : final ∈ rule.chainBefore zone t now := List.mem_of_getLast? found
    obtain ⟨fires, _, before⟩ := (mem_chainBefore least).mp listed
    rw [split] at member increasing
    -- an entry before the final one would be earlier, and the last fire is not
    rcases List.mem_append.mp member with sooner | same
    · have less := (List.pairwise_append.mp increasing).2.2 last sooner final (by simp)
      exact absurd (greatest.2 ⟨fires, before⟩) (Int.not_le.mpr less)
    · rw [List.mem_singleton.mp same]

end FiringRule

namespace Schedule

/-- What both actions do, in the order of time; a stop comes behind a start of the same
instant. -/
def timeline (starts stops : List Instant) : List (Instant × Action) :=
  (starts.map (·, Action.start)).merge (stops.map (·, Action.stop)) fun entry other =>
    entry.1 ≤ other.1

theorem getLast?_merge {left right : List (Instant × Action)} {last final : Instant × Action}
    (left_last : left.getLast? = some last) (right_last : right.getLast? = some final)
    (left_le : ∀ entry ∈ left, entry.1 ≤ last.1) (right_le : ∀ entry ∈ right, entry.1 ≤ final.1) :
    (left.merge right fun entry other => entry.1 ≤ other.1).getLast? =
      some (if last.1 ≤ final.1 then final else last) := by
  induction left generalizing right with
  | nil => cases left_last
  | cons entry left left_ih =>
    induction right with
    | nil => cases right_last
    | cons other right right_ih =>
      have entry_le := left_le entry (List.mem_cons_self ..)
      have other_le := right_le other (List.mem_cons_self ..)
      rw [List.cons_merge_cons]
      split
      next first =>
        have first : entry.1 ≤ other.1 := of_decide_eq_true first
        cases left with
        | nil =>
          -- the left list has ended, and the right one goes on to the end
          obtain rfl : entry = last := Option.some.inj left_last
          have le : entry.1 ≤ final.1 := Int.le_trans first other_le
          rw [List.nil_merge, if_pos le, List.getLast?_cons_cons]
          exact right_last
        | cons next left =>
          rw [List.getLast?_cons_cons] at left_last
          have rest := left_ih left_last right_last
            (fun entry member => left_le entry (List.mem_cons_of_mem _ member)) right_le
          rw [List.getLast?_cons, rest]
          rfl
      next second =>
        have second : ¬ entry.1 ≤ other.1 := fun le => second (decide_eq_true le)
        cases right with
        | nil =>
          obtain rfl : other = final := Option.some.inj right_last
          have less : ¬ last.1 ≤ other.1 := fun le => second (Int.le_trans entry_le le)
          rw [List.merge_right, if_neg less, List.getLast?_cons_cons]
          exact left_last
        | cons next right =>
          rw [List.getLast?_cons_cons] at right_last
          have rest := right_ih right_last fun entry member =>
            right_le entry (List.mem_cons_of_mem _ member)
          rw [List.getLast?_cons, rest]
          rfl

variable {schedule : Schedule} {action : Action} {rule startRule stopRule : FiringRule}
  {zone : Zone} {t now : Instant}

/-- The trigger of an action is a calendar one, and its rule fires between `t` and `now`. -/
structure FiresBetween (schedule : Schedule) (action : Action) (rule : FiringRule) (zone : Zone)
    (t now : Instant) : Prop where
  declared : ∃ trigger, schedule.trigger? action = some trigger ∧
    trigger.kind ∈ [.daily, .weekly, .monthly] ∧ FiringRule.ofTrigger trigger = .ok rule
  fires : rule.chainBefore zone t now ≠ []

theorem time?_isSome_of_kind {rule : FiringRule} (kind : rule.kind ∈ [.daily, .weekly, .monthly]) :
    ∃ time, rule.time? = some time := by
  cases rule with
  | daily time | weekly time | monthly time => exact ⟨time, rfl⟩
  | _ => simp [FiringRule.kind] at kind

/-- Looking back from `now` and going on from `t` lead to the same last fire. -/
theorem FiresBetween.last (between : schedule.FiresBetween action rule zone t now)
    (orderly : zone.Orderly) (begin_ : Instant.earliest ≤ t) (finish : now ≤ Instant.latest) :
    ∃ trigger fire, schedule.trigger? action = some trigger ∧
      lastFire trigger zone now = some fire ∧
      (rule.chainBefore zone t now).getLast? = some fire ∧
      ∀ other ∈ rule.chainBefore zone t now, other ≤ fire := by
  obtain ⟨trigger, enabled, kind, accepted⟩ := between.declared
  obtain ⟨time, calendar⟩ := time?_isSome_of_kind (FiringRule.kind_of_ofTrigger accepted ▸ kind)
  have least (s : Instant) (le : t ≤ s) : rule.NextIsLeast zone s :=
    FiringRule.nextIsLeast_calendar orderly calendar
      (FiringRule.reached_of_earliest_le zone (Int.le_trans begin_ le))
  obtain ⟨first, member⟩ := List.exists_mem_of_ne_nil _ between.fires
  obtain ⟨fires, after, before⟩ := (FiringRule.mem_chainBefore least).mp member
  obtain ⟨last, found, greatest⟩ :=
    FiringRule.lastBefore_isGreatest orderly calendar finish fires before
  have later : t < last := Int.lt_of_lt_of_le after (greatest.2 ⟨fires, before⟩)
  refine ⟨trigger, last, enabled, ?_, ?_, fun other listed => ?_⟩
  · simp only [lastFire, accepted, found, Except.toOption]
  · exact FiringRule.getLast?_chainBefore accepted (FiringRule.not_retraces_of_time? calendar)
      least greatest later
  · obtain ⟨fires', _, before'⟩ := (FiringRule.mem_chainBefore least).mp listed
    exact greatest.2 ⟨fires', before'⟩

/-- The state that is expected at `now` is the one in which the actions leave the resource
that have fired one after the other since `t`. -/
theorem expectedState_eq_last_of_timeline (orderly : zone.Orderly) (begin_ : Instant.earliest ≤ t)
    (finish : now ≤ Instant.latest)
    (starts : schedule.FiresBetween .start startRule zone t now)
    (stops : schedule.FiresBetween .stop stopRule zone t now) :
    ∃ last, (timeline (startRule.chainBefore zone t now)
        (stopRule.chainBefore zone t now)).getLast? = some last ∧
      schedule.expectedState zone now = some (.targetOf last.2) := by
  obtain ⟨start, lastStart, has_start, start_found, start_last, start_le⟩ :=
    starts.last orderly begin_ finish
  obtain ⟨stop, lastStop, has_stop, stop_found, stop_last, stop_le⟩ :=
    stops.last orderly begin_ finish
  -- the later of the two last fires ends the timeline; of a tie it is the stop
  have merged : (timeline (startRule.chainBefore zone t now)
      (stopRule.chainBefore zone t now)).getLast? =
      some (if lastStart ≤ lastStop then (lastStop, .stop) else (lastStart, .start)) := by
    have start_ends : ((startRule.chainBefore zone t now).map (·, Action.start)).getLast? =
        some (lastStart, .start) := by
      rw [List.getLast?_map, start_last, Option.map_some]
    have stop_ends : ((stopRule.chainBefore zone t now).map (·, Action.stop)).getLast? =
        some (lastStop, .stop) := by
      rw [List.getLast?_map, stop_last, Option.map_some]
    exact getLast?_merge start_ends stop_ends (List.forall_mem_map.mpr start_le)
      (List.forall_mem_map.mpr stop_le)
  refine ⟨_, merged, ?_⟩
  have has_start : schedule.start = some start := has_start
  have has_stop : schedule.stop = some stop := has_stop
  simp only [expectedState, has_start, has_stop, start_found, stop_found]
  by_cases tie_or_stop : lastStart ≤ lastStop
  · have not_less : ¬ lastStop < lastStart := Int.not_lt.mpr tie_or_stop
    rw [if_neg not_less, if_pos tie_or_stop]
    rfl
  · have less : lastStop < lastStart := Int.not_le.mp tie_or_stop
    rw [if_pos less, if_neg tie_or_stop]
    rfl

def eveningShift (time : TimeOfDay) : Schedule :=
  ⟨"evening", ⟨.vm, "vm-1", "folder-1"⟩, some (.weekly time 3), some (.daily time)⟩

/-- From Tuesday at noon to Thursday morning: on Wednesday both actions fire at once, at six
in the evening. -/
theorem expectedState_eq_last_of_evening_shift :
    let zone := Location.machine.zone
    let t := Instant.ofSecond 1709640000
    let now := Instant.ofSecond 1709802000
    let six : TimeOfDay := ⟨18, 0, 0, by decide, by decide, by decide⟩
    let starts := (FiringRule.weekly six 3).chainBefore zone t now
    let stops := (FiringRule.daily six).chainBefore zone t now
    starts = [.ofSecond 1709748000] ∧ stops = [.ofSecond 1709661600, .ofSecond 1709748000] ∧
      zone.Orderly ∧ Instant.earliest ≤ t ∧ now ≤ Instant.latest ∧
      (eveningShift six).FiresBetween .start (.weekly six 3) zone t now ∧
      (eveningShift six).FiresBetween .stop (.daily six) zone t now ∧
      ∃ last, (timeline starts stops).getLast? = some last ∧
        (eveningShift six).expectedState zone now = some (.targetOf last.2) := by
  intro zone t now six starts stops
  have orderly : zone.Orderly := FiringRule.unchanging_machine.orderly
  have begin_ : Instant.earliest ≤ t := by decide +kernel
  have finish : now ≤ Instant.latest := by decide +kernel
  have start_fires : starts = [.ofSecond 1709748000] := by decide +kernel
  have stop_fires : stops = [.ofSecond 1709661600, .ofSecond 1709748000] := by decide +kernel
  have on : (eveningShift six).FiresBetween .start (.weekly six 3) zone t now :=
    ⟨⟨_, rfl, by decide, rfl⟩, ne_of_eq_of_ne start_fires (List.cons_ne_nil _ _)⟩
  have off : (eveningShift six).FiresBetween .stop (.daily six) zone t now :=
    ⟨⟨_, rfl, by decide, rfl⟩, ne_of_eq_of_ne stop_fires (List.cons_ne_nil _ _)⟩
  exact ⟨start_fires, stop_fires, orderly, begin_, finish, on, off,
    expectedState_eq_last_of_timeline orderly begin_ finish on off⟩

end Schedule

end PowerRota
