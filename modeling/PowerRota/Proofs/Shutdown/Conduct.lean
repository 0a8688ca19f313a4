import PowerRota.Proofs.Shutdown.Run

/-! The call that shuts down, and the calls that come too late.

At most one call passes `called` without being turned away. From then on the flags of the
controller follow the stage of that call, and no other move changes them. -/

set_option autoImplicit false

namespace PowerRota

open PowerRota.Calendar

structure ShutdownFlags where
  initiated : Bool
  phase : ShutdownPhase
  cancelled : Bool
  closed : Bool
  deriving DecidableEq, Repr

namespace ShutdownStage

/-- How far shutting down is when the call that does it has got so far. -/
def flags : ShutdownStage → ShutdownFlags
  | .called => ⟨false, .running, false, false⟩
  | .claimed => ⟨true, .running, false, false⟩
  | .announced => ⟨true, .draining, false, false⟩
  | .cancelled => ⟨true, .draining, true, false⟩
  | .closed => ⟨true, .draining, true, true⟩
  | .waiting _ _ => ⟨true, .draining, true, true⟩
  | .returned _ => ⟨true, .terminated, true, true⟩

def isPreparing : ShutdownStage → Bool
  | .claimed | .announced | .cancelled | .closed => true
  | .called | .waiting _ _ | .returned _ => false

def isWaiting : ShutdownStage → Bool
  | .waiting _ _ => true
  | _ => false

def hasDrained : ShutdownStage → Bool
  | .waiting _ drained => drained
  | .returned result => result
  | _ => false

@[simp] theorem flags_noticed (stage : ShutdownStage) : stage.noticed.flags = stage.flags := by
  cases stage <;> rfl

@[simp] theorem noticed_eq_called {stage : ShutdownStage} :
    stage.noticed = .called ↔ stage = .called := by
  cases stage <;> simp [noticed]

@[simp] theorem noticed_eq_returned {stage : ShutdownStage} {result : Bool} :
    stage.noticed = .returned result ↔ stage = .returned result := by
  cases stage <;> simp [noticed]

theorem initiated_flags {stage : ShutdownStage} :
    stage.flags.initiated = true ↔ stage ≠ .called := by
  cases stage <;> simp [flags]

end ShutdownStage

namespace ShutdownController

variable {controller first middle after next : ShutdownController} {move : ShutdownMove}
  {moves earlier later : List ShutdownMove} {id other : Nat} {stage : ShutdownStage}
  {leader : Option Nat}

def flags (controller : ShutdownController) : ShutdownFlags :=
  ⟨controller.initiated, controller.phase, controller.cancelled, controller.closed⟩

@[simp] theorem flags_advance (controller : ShutdownController) (clock : Instant) :
    (controller.advance clock).flags = controller.flags := by
  unfold advance
  split <;> rfl

@[simp] theorem stage?_advance (controller : ShutdownController) (clock : Instant) (id : Nat) :
    (controller.advance clock).stage? id = controller.stage? id := by
  unfold advance
  split <;> rfl

@[simp] theorem flags_notice (controller : ShutdownController) :
    controller.notice.flags = controller.flags := by
  unfold notice
  split <;> rfl

/-- Whether a call shuts down, and which: the flags are as its stage has them, and every other
call is still to be turned away or has been. -/
inductive Led (controller : ShutdownController) : Option Nat → Prop where
  | idle (flags : controller.flags = ShutdownStage.called.flags)
      (others : ∀ id stage, controller.stage? id = some stage → stage = .called) :
      Led controller none
  | conducted {id : Nat} {stage : ShutdownStage} (staged : controller.stage? id = some stage)
      (begun : stage ≠ .called) (flags : controller.flags = stage.flags)
      (others : ∀ other stage, other ≠ id → controller.stage? other = some stage →
        stage = .called ∨ stage = .returned true) :
      Led controller (some id)

theorem Led.same (led : controller.Led leader) (flags : next.flags = controller.flags)
    (stages : ∀ id, next.stage? id = controller.stage? id) : next.Led leader := by
  cases led with
  | idle flagged others =>
    refine .idle (flags.trans flagged) ?_
    simpa only [stages] using others
  | conducted staged begun flagged others =>
    refine .conducted ((stages _).trans staged) begun (flags.trans flagged) ?_
    simpa only [stages] using others

theorem Led.notice (led : controller.Led leader) : controller.notice.Led leader := by
  by_cases ended : controller.closed ∧ controller.tasks = []
  · have stages := fun id => (stage?_notice controller id).trans (if_pos ended)
    cases led with
    | idle flagged others =>
      refine .idle ((flags_notice _).trans flagged) ?_
      intro id stage staged
      rw [stages, Option.map_eq_some_iff] at staged
      obtain ⟨before, staged, rfl⟩ := staged
      exact ShutdownStage.noticed_eq_called.mpr (others id before staged)
    | conducted staged begun flagged others =>
      refine .conducted ((stages _).trans (congrArg _ staged)) ?_ ?_ ?_
      · exact fun same => begun (ShutdownStage.noticed_eq_called.mp same)
      · rw [flags_notice, ShutdownStage.flags_noticed, flagged]
      · intro other stage different staged
        rw [stages, Option.map_eq_some_iff] at staged
        obtain ⟨before, staged, rfl⟩ := staged
        exact (others other before different staged).imp ShutdownStage.noticed_eq_called.mpr
          ShutdownStage.noticed_eq_returned.mpr
  · exact led.same (flags_notice _) fun id => (stage?_notice controller id).trans (if_neg ended)

theorem Led.initiated (led : controller.Led leader) :
    controller.initiated = true ↔ leader.isSome = true := by
  cases led with
  | idle flagged =>
    have initiated : controller.initiated = false := congrArg ShutdownFlags.initiated flagged
    simp [initiated]
  | conducted staged begun flagged =>
    have initiated : controller.initiated = true :=
      (congrArg ShutdownFlags.initiated flagged).trans (ShutdownStage.initiated_flags.mpr begun)
    simp [initiated]

theorem Led.of_stage (led : controller.Led leader) (staged : controller.stage? id = some stage)
    (begun : stage ≠ .called) (unreturned : stage ≠ .returned true) :
    leader = some id ∧ controller.flags = stage.flags := by
  cases led with
  | idle flagged others => exact absurd (others id stage staged) begun
  | @conducted leader _ ledStage _ flagged others =>
    by_cases same : id = leader
    · subst same
      cases staged.symm.trans ledStage
      exact ⟨rfl, flagged⟩
    · rcases others id stage same staged with called | returned
      · exact absurd called begun
      · exact absurd returned unreturned

theorem Led.proceed (led : controller.Led (some id)) (stage : ShutdownStage)
    (begun : stage ≠ .called) (flags : next.flags = stage.flags)
    (stages : ∀ other, next.stage? other =
      if other = id then (controller.stage? id).map fun _ => stage else controller.stage? other) :
    next.Led (some id) := by
  cases led with
  | conducted staged _ _ others =>
    refine .conducted ?_ begun flags ?_
    · rw [stages, if_pos rfl, staged, Option.map_some]
    · intro other stage different staged
      rw [stages, if_neg different] at staged
      exact others other stage different staged

/-- A call claims the shutdown by a move. -/
def Claims (controller : ShutdownController) (move : ShutdownMove) (id : Nat) : Prop :=
  move = .step (.proceed id) ∧ controller.stage? id = some .called ∧ controller.initiated = false

theorem not_claims_of_initiated (initiated : controller.initiated = true) :
    ¬ controller.Claims move id := by
  rintro ⟨-, -, uninitiated⟩
  rw [initiated] at uninitiated
  cases uninitiated

def Leads (controller : ShutdownController) (leader : Option Nat) (move : ShutdownMove)
    (next : Option Nat) : Prop :=
  ∀ id, next = some id ↔ leader = some id ∨ controller.Claims move id

theorem leads_same (unclaimed : ∀ id, ¬ controller.Claims move id) :
    controller.Leads leader move leader := by
  intro id
  simp [unclaimed id]

theorem Led.eq_none (led : controller.Led leader) (uninitiated : controller.initiated = false) :
    leader = none := by
  have unled := mt led.initiated.mpr (ne_true_of_eq_false uninitiated)
  exact Option.not_isSome_iff_eq_none.mp unled

theorem Led.call (led : controller.Led leader)
    (known : controller.stage? controller.nextId = none) :
    { controller with
      calls := controller.calls ++ [(⟨controller.nextId, .called⟩ : ShutdownCall)]
      nextId := controller.nextId + 1 }.Led leader := by
  cases led with
  | idle flagged others =>
    refine .idle flagged ?_
    intro id stage staged
    rw [stage?_call _ known] at staged
    split at staged
    · exact (Option.some.inj staged).symm
    · exact others id stage staged
  | conducted staged begun flagged others =>
    refine .conducted ?_ begun flagged ?_
    · rw [stage?_call _ known, if_neg, staged]
      rintro rfl
      cases known.symm.trans staged
    · intro other stage different staged
      rw [stage?_call _ known] at staged
      split at staged
      · exact Or.inl (Option.some.inj staged).symm
      · exact others other stage different staged

theorem Led.turnAway (led : controller.Led leader) (staged : controller.stage? id = some .called)
    (initiated : controller.initiated = true) :
    (controller.setStage id (.returned true)).Led leader := by
  have stages := stage?_setStage controller id
  obtain ⟨leader, rfl⟩ := Option.isSome_iff_exists.mp (led.initiated.mp initiated)
  cases led with
  | conducted ledStage begun flagged others =>
    -- the leader is another call, since this one has not begun
    have different : leader ≠ id := by
      rintro rfl
      cases staged.symm.trans ledStage
      exact begun rfl
    refine .conducted ?_ begun flagged ?_
    · rw [stages, if_neg different, ledStage]
    · intro other stage apart now
      rw [stages] at now
      split at now
      · rw [staged] at now
        exact Or.inr (Option.some.inj now).symm
      · exact others other stage apart now

theorem Led.claim (led : controller.Led none) (staged : controller.stage? id = some .called) :
    { controller.setStage id .claimed with initiated := true }.Led (some id) := by
  cases led with
  | idle flagged others =>
    refine @Led.conducted _ id .claimed ?_ (by simp) ?_ ?_
    · exact (stage?_setStage controller id id .claimed).trans (by simp [staged])
    · simp only [flags, setStage, ShutdownStage.flags, ShutdownFlags.mk.injEq] at flagged ⊢
      simp [flagged]
    · intro other stage different now
      have now := (stage?_setStage controller id other .claimed).symm.trans now
      rw [if_neg different] at now
      exact Or.inl (others other stage now)

theorem Led.moved (led : controller.Led leader)
    (known : controller.stage? controller.nextId = none) (moved : controller.Moved move next) :
    ∃ leader', next.Led leader' ∧ controller.Leads leader move leader' := by
  have aside : (∀ id, move ≠ .step (.proceed id)) → controller.Leads leader move leader :=
    fun other => leads_same fun id claims => other id claims.1
  -- a call past `called` is the leader, so that nothing is claimed any more
  have onward : ∀ {id stage}, controller.stage? id = some stage → stage ≠ .called →
      stage ≠ .returned true → leader = some id ∧ controller.flags = stage.flags ∧
        controller.Leads leader move leader := by
    intro id stage staged begun unreturned
    obtain ⟨rfl, flagged⟩ := led.of_stage staged begun unreturned
    exact ⟨rfl, flagged, leads_same fun _ => not_claims_of_initiated (led.initiated.mpr rfl)⟩
  cases moved with
  | advance clock =>
    exact ⟨leader, led.same (flags_advance _ _) (stage?_advance _ _), aside (by simp)⟩
  | token => exact ⟨leader, led.same rfl fun _ => rfl, aside (by simp)⟩
  | track => exact ⟨leader, led.same rfl fun _ => rfl, aside (by simp)⟩
  | finish _ => exact ⟨leader, Led.notice (led.same rfl fun _ => rfl), aside (by simp)⟩
  | panic _ => exact ⟨leader, Led.notice (led.same rfl fun _ => rfl), aside (by simp)⟩
  | call => exact ⟨leader, led.call known, aside (by simp)⟩
  | turnAway staged initiated =>
    exact ⟨leader, led.turnAway staged initiated,
      leads_same fun _ => not_claims_of_initiated initiated⟩
  | @claim id staged initiated =>
    obtain rfl := led.eq_none initiated
    refine ⟨some id, led.claim staged, fun other => ⟨?_, ?_⟩⟩
    · rintro ⟨⟩
      exact Or.inr ⟨rfl, staged, initiated⟩
    · rintro (nobody | ⟨⟨⟩, -⟩)
      · cases nobody
      · rfl
  | @announce id staged =>
    obtain ⟨rfl, flagged, leads⟩ := onward staged (by simp) (by simp)
    refine ⟨some id, led.proceed .announced (by simp) ?_ (stage?_setStage controller id · _), leads⟩
    simp only [flags, setStage, ShutdownStage.flags, ShutdownFlags.mk.injEq] at flagged ⊢
    simp [flagged]
  | @cancel id staged =>
    obtain ⟨rfl, flagged, leads⟩ := onward staged (by simp) (by simp)
    refine ⟨some id, led.proceed .cancelled (by simp) ?_ (stage?_setStage controller id · _), leads⟩
    simp only [flags, setStage, cancelRoot, ShutdownStage.flags, ShutdownFlags.mk.injEq] at flagged ⊢
    simp [flagged]
  | @close id staged =>
    obtain ⟨rfl, flagged, leads⟩ := onward staged (by simp) (by simp)
    refine ⟨some id, led.proceed .closed (by simp) ?_ (stage?_setStage controller id · _), leads⟩
    simp only [flags, setStage, ShutdownStage.flags, ShutdownFlags.mk.injEq] at flagged ⊢
    simp [flagged]
  | @wait id staged =>
    obtain ⟨rfl, flagged, leads⟩ := onward staged (by simp) (by simp)
    have waits : (controller.setStage id _).Led (some id) :=
      led.proceed (.waiting (controller.clock.addNanos controller.timeout) false) (by simp) flagged
        (stage?_setStage controller id · _)
    exact ⟨some id, waits.notice, leads⟩
  | @conclude id deadline drained staged ended =>
    obtain ⟨rfl, flagged, leads⟩ := onward staged (by simp) (by simp)
    refine ⟨some id, led.proceed (.returned drained) (by simp) ?_
      (stage?_setStage controller id · _), leads⟩
    simp only [flags, setStage, ShutdownStage.flags, ShutdownFlags.mk.injEq] at flagged ⊢
    simp [flagged]

end ShutdownController

end PowerRota
