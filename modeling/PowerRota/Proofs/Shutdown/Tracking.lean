import PowerRota.Proofs.Shutdown.Run

/-! The tokens that a controller hands out and the tasks that it tracks.

Both are numbered as they come, and a number is never used again. All tokens are as the root is; a
task is there until it is over, in whatever way. -/

set_option autoImplicit false

namespace PowerRota

open PowerRota.Calendar

namespace ShutdownController

variable {controller first middle after next : ShutdownController} {move : ShutdownMove}
  {moves : List ShutdownMove} {id task : Nat}

theorem notice_eq (controller : ShutdownController) :
    controller.notice = { controller with calls := controller.notice.calls } := by
  unfold notice
  split <;> rfl

@[simp] theorem notice_nextId (controller : ShutdownController) :
    controller.notice.nextId = controller.nextId := by rw [notice_eq]

@[simp] theorem notice_tokens (controller : ShutdownController) :
    controller.notice.tokens = controller.tokens := by rw [notice_eq]

@[simp] theorem notice_cancelled (controller : ShutdownController) :
    controller.notice.cancelled = controller.cancelled := by rw [notice_eq]

@[simp] theorem notice_timeout (controller : ShutdownController) :
    controller.notice.timeout = controller.timeout := by rw [notice_eq]

@[simp] theorem notice_clock (controller : ShutdownController) :
    controller.notice.clock = controller.clock := by rw [notice_eq]

def callIds (controller : ShutdownController) : List Nat := controller.calls.map (·.id)

@[simp] theorem callIds_notice (controller : ShutdownController) :
    controller.notice.callIds = controller.callIds := by
  unfold notice callIds
  split
  · simp only [List.map_map, Function.comp_def]
  · rfl

@[simp] theorem callIds_setStage (controller : ShutdownController) (id : Nat)
    (stage : ShutdownStage) : (controller.setStage id stage).callIds = controller.callIds := by
  unfold setStage callIds
  rw [List.map_map]
  refine List.map_congr_left fun call _ => ?_
  simp only [Function.comp_apply]
  split <;> rfl

theorem stage?_eq_none (unknown : id ∉ controller.callIds) : controller.stage? id = none := by
  rw [stage?, Option.map_eq_none_iff, call?, List.find?_eq_none]
  intro call among same
  exact unknown (List.mem_map.mpr ⟨call, among, eq_of_beq same⟩)

def Ends (move : ShutdownMove) (task : Nat) : Prop :=
  move = .step (.finish task) ∨ move = .step (.panic task)

/-- A call cancels the root of the tokens by a move. -/
def Cancels (controller : ShutdownController) (move : ShutdownMove) (id : Nat) : Prop :=
  move = .step (.proceed id) ∧ controller.stage? id = some .announced

theorem advance_eq (controller : ShutdownController) (clock : Instant) :
    controller.advance clock = { controller with clock := (controller.advance clock).clock } := by
  unfold advance
  split <;> rfl

theorem Moved.timeout (moved : controller.Moved move next) : next.timeout = controller.timeout := by
  cases moved with
  | advance clock => rw [advance_eq]
  | finish _ => exact notice_timeout _
  | panic _ => exact notice_timeout _
  | wait _ => exact notice_timeout _
  | _ => rfl

theorem Moved.clock_le (moved : controller.Moved move next) : controller.clock ≤ next.clock := by
  have same : controller.clock ≤ controller.clock := Int.le_refl controller.clock.nanos
  cases moved with
  | advance clock =>
    unfold ShutdownController.advance
    split
    · assumption
    · exact same
  | finish _ => rwa [notice_clock]
  | panic _ => rwa [notice_clock]
  | wait _ => rwa [notice_clock]
  | _ => exact same

theorem Moved.mem_tasks (moved : controller.Moved move next) :
    task ∈ next.tasks ↔
      task ∈ controller.tasks ∧ ¬ Ends move task ∨
        move = .step .track ∧ task = controller.nextId := by
  cases moved with
  | advance clock => rw [advance_eq]; simp [Ends]
  | track => simp [Ends]
  | @finish ended _ => simp [Ends, @eq_comm _ ended task]
  | @panic ended _ => simp [Ends, @eq_comm _ ended task]
  | wait _ => simp [Ends, setStage]
  | _ => simp [Ends, handOut, setStage, cancelRoot]

theorem Moved.cancelled (moved : controller.Moved move next) :
    next.cancelled = true ↔ controller.cancelled = true ∨ ∃ id, controller.Cancels move id := by
  cases moved with
  | advance clock => rw [advance_eq]; simp [Cancels]
  | cancel staged => simp [Cancels, cancelRoot, staged]
  | finish _ => simp [Cancels]
  | panic _ => simp [Cancels]
  | wait staged => simp [Cancels, setStage, staged]
  | turnAway staged _ => simp [Cancels, setStage, staged]
  | claim staged _ => simp [Cancels, setStage, staged]
  | announce staged => simp [Cancels, setStage, staged]
  | close staged => simp [Cancels, setStage, staged]
  | conclude staged _ => simp [Cancels, setStage, staged]
  | _ => simp [Cancels, handOut]

/-- Every number given out is below the next one, and every token is as the root is. -/
structure Numbered (controller : ShutdownController) : Prop where
  calls : ∀ id ∈ controller.callIds, id < controller.nextId
  tasks : ∀ task ∈ controller.tasks, task < controller.nextId
  tokens : ∀ token ∈ controller.tokens, token.cancelled = controller.cancelled

theorem Numbered.stage?_nextId (numbered : controller.Numbered) :
    controller.stage? controller.nextId = none :=
  stage?_eq_none fun among => Nat.lt_irrefl _ (numbered.calls _ among)

theorem Moved.nextId_le (moved : controller.Moved move next) :
    controller.nextId ≤ next.nextId := by
  cases moved with
  | advance clock => exact Nat.le_of_eq (by rw [advance_eq])
  | finish _ => simp
  | panic _ => simp
  | wait _ => simp [setStage]
  | token => exact Nat.le_succ _
  | track => exact Nat.le_succ _
  | call => exact Nat.le_succ _
  | _ => exact Nat.le_refl _

theorem Moved.mem_callIds (moved : controller.Moved move next) :
    id ∈ next.callIds → id ∈ controller.callIds ∨
      id = controller.nextId ∧ next.nextId = controller.nextId + 1 := by
  cases moved with
  | advance clock =>
    rw [advance_eq]
    exact Or.inl
  | call => simp [callIds]
  | finish _ => exact fun among => Or.inl (by rwa [callIds_notice] at among)
  | panic _ => exact fun among => Or.inl (by rwa [callIds_notice] at among)
  | wait _ => exact fun among => Or.inl (by rwa [callIds_notice, callIds_setStage] at among)
  | turnAway => exact fun among => Or.inl (by rwa [callIds_setStage] at among)
  | claim => exact fun among => Or.inl (callIds_setStage _ _ _ ▸ among)
  | announce => exact fun among => Or.inl (callIds_setStage _ _ _ ▸ among)
  | cancel => exact fun among => Or.inl (callIds_setStage _ _ _ ▸ among)
  | close => exact fun among => Or.inl (callIds_setStage _ _ _ ▸ among)
  | conclude => exact fun among => Or.inl (callIds_setStage _ _ _ ▸ among)
  | token => exact Or.inl
  | track => exact Or.inl

theorem Moved.agree (moved : controller.Moved move next)
    (agree : ∀ token ∈ controller.tokens, token.cancelled = controller.cancelled) :
    ∀ token ∈ next.tokens, token.cancelled = next.cancelled := by
  cases moved with
  | advance clock => rw [advance_eq]; exact agree
  | token =>
    intro token among
    rcases List.mem_append.mp among with old | new
    · exact agree token old
    · rw [List.mem_singleton.mp new]
      rfl
  | cancel _ =>
    intro token among
    obtain ⟨_, _, rfl⟩ := List.mem_map.mp among
    rfl
  | finish _ => simpa using agree
  | panic _ => simpa using agree
  | wait _ => simpa [setStage] using agree
  | _ => exact agree

theorem Numbered.moved (numbered : controller.Numbered) (moved : controller.Moved move next) :
    next.Numbered where
  calls id among := by
    rcases moved.mem_callIds among with old | ⟨rfl, grown⟩
    · exact Nat.lt_of_lt_of_le (numbered.calls id old) moved.nextId_le
    · exact grown ▸ Nat.lt_succ_self _
  tasks task among := by
    rcases moved.mem_tasks.mp among with ⟨old, -⟩ | ⟨rfl, rfl⟩
    · exact Nat.lt_of_lt_of_le (numbered.tasks task old) moved.nextId_le
    · cases moved
      exact Nat.lt_succ_self _
  tokens := moved.agree numbered.tokens

theorem numbered_start (timeout : Nat) (clock : Instant) : (start timeout clock).Numbered :=
  ⟨by simp [callIds, start], by simp [start], by simp [start]⟩

theorem Run.numbered {timeout : Nat} {clock : Instant}
    (run : Run (start timeout clock) moves after) : after.Numbered :=
  run.onward (fun _ controller => controller.Numbered) (numbered_start timeout clock)
    fun _ moved numbered => numbered.moved (moved_of_move? moved)

def Tracked (first : ShutdownController) (moves : List ShutdownMove) (task : Nat) : Prop :=
  ∃ point, first.MadeFrom moves point (.step .track) ∧ point.nextId = task

theorem tracked_concat (run : Run first moves middle) :
    first.Tracked (moves ++ [move]) task ↔
      first.Tracked moves task ∨ move = .step .track ∧ task = middle.nextId := by
  simp only [Tracked, madeFrom_concat run]
  constructor
  · rintro ⟨point, made | ⟨rfl, rfl⟩, rfl⟩
    · exact Or.inl ⟨point, made, rfl⟩
    · exact Or.inr ⟨rfl, rfl⟩
  · rintro (⟨point, made, same⟩ | ⟨rfl, rfl⟩)
    · exact ⟨point, Or.inl made, same⟩
    · exact ⟨middle, Or.inr ⟨rfl, rfl⟩, rfl⟩

theorem Moved.lt_of_ends (moved : controller.Moved move next) (numbered : controller.Numbered)
    (ends : Ends move task) : task < controller.nextId := by
  rcases ends with rfl | rfl
  · cases moved with
    | finish unfinished => exact numbered.tasks task unfinished
  · cases moved with
    | panic unfinished => exact numbered.tasks task unfinished

theorem Run.mem_tasks {timeout : Nat} {clock : Instant}
    (run : Run (start timeout clock) moves after) :
    task ∈ after.tasks ↔
      (start timeout clock).Tracked moves task ∧ ∀ move ∈ moves, ¬ Ends move task := by
  -- a number not given out yet belongs to no task that is over
  suffices kept : (task ∈ after.tasks ↔ (start timeout clock).Tracked moves task ∧
      ∀ move ∈ moves, ¬ Ends move task) ∧
      (after.nextId ≤ task → ∀ move ∈ moves, ¬ Ends move task) from kept.1
  refine run.onward (fun moves controller => (task ∈ controller.tasks ↔
    (start timeout clock).Tracked moves task ∧ ∀ move ∈ moves, ¬ Ends move task) ∧
      (controller.nextId ≤ task → ∀ move ∈ moves, ¬ Ends move task)) ?_ ?_
  · refine ⟨⟨by simp [start], ?_⟩, by simp⟩
    rintro ⟨⟨point, ⟨_, _, split, -⟩, -⟩, -⟩
    simp at split
  · rintro earlier middle next move before moved ⟨left, fresh⟩
    have moved := moved_of_move? moved
    have known : Ends move task → task < middle.nextId := moved.lt_of_ends before.numbered
    refine ⟨?_, ?_⟩
    · rw [moved.mem_tasks, left, tracked_concat before, List.forall_mem_append,
        List.forall_mem_singleton]
      constructor
      · rintro (⟨⟨tracked, unended⟩, unends⟩ | ⟨rfl, rfl⟩)
        · exact ⟨Or.inl tracked, unended, unends⟩
        · exact ⟨Or.inr ⟨rfl, rfl⟩, fresh (Nat.le_refl _), fun ends => Nat.lt_irrefl _ (known ends)⟩
      · rintro ⟨tracked | new, unended, unends⟩
        · exact Or.inl ⟨⟨tracked, unended⟩, unends⟩
        · exact Or.inr new
    · intro unknown
      have unknown := Nat.le_trans moved.nextId_le unknown
      rw [List.forall_mem_append, List.forall_mem_singleton]
      exact ⟨fresh unknown, fun ends => Nat.not_lt.mpr unknown (known ends)⟩

def RootCancelled (first : ShutdownController) (moves : List ShutdownMove) : Prop :=
  ∃ point move id, first.MadeFrom moves point move ∧ point.Cancels move id

theorem Run.cancelled_iff {timeout : Nat} {clock : Instant}
    (run : Run (start timeout clock) moves after) :
    after.cancelled = true ↔ (start timeout clock).RootCancelled moves := by
  refine run.onward (fun moves controller => controller.cancelled = true ↔
    (start timeout clock).RootCancelled moves) ?_ ?_
  · constructor
    · intro cancelled
      cases cancelled
    · rintro ⟨_, _, _, ⟨_, _, split, -⟩, -⟩
      simp at split
  · intro earlier middle next move before moved ih
    rw [(moved_of_move? moved).cancelled, ih]
    simp only [RootCancelled, madeFrom_concat before]
    constructor
    · rintro (⟨point, made, id, at_, cancels⟩ | ⟨id, cancels⟩)
      · exact ⟨point, made, id, Or.inl at_, cancels⟩
      · exact ⟨middle, move, id, Or.inr ⟨rfl, rfl⟩, cancels⟩
    · rintro ⟨point, made, id, at_ | ⟨rfl, rfl⟩, cancels⟩
      · exact Or.inl ⟨point, made, id, at_, cancels⟩
      · exact Or.inr ⟨id, cancels⟩

def tokenIds (controller : ShutdownController) : List Nat := controller.tokens.map (·.id)

theorem Moved.mem_tokenIds (moved : controller.Moved move next)
    (among : id ∈ controller.tokenIds) : id ∈ next.tokenIds := by
  cases moved with
  | advance clock =>
    rw [advance_eq]
    exact among
  | token => simp_all [tokenIds, handOut]
  | cancel _ => simp_all [tokenIds, cancelRoot, setStage]
  | finish _ => simpa [tokenIds] using among
  | panic _ => simpa [tokenIds] using among
  | wait _ => simpa [tokenIds, setStage] using among
  | _ => exact among

theorem Run.mem_tokenIds (run : Run first moves after) (among : id ∈ first.tokenIds) :
    id ∈ after.tokenIds := by
  induction run with
  | done => exact among
  | next moved _ ih => exact ih ((moved_of_move? moved).mem_tokenIds among)

/-- A token handed out, early or late, is cancelled as soon as the root is and not before. -/
theorem Run.isCancelled_iff {timeout : Nat} {clock : Instant} {point : ShutdownController}
    (run : Run (start timeout clock) moves after)
    (handedOut : (start timeout clock).MadeFrom moves point (.step .token)) :
    after.isCancelled point.nextId = true ↔ (start timeout clock).RootCancelled moves := by
  rw [← run.cancelled_iff]
  have present : point.nextId ∈ after.tokenIds := by
    obtain ⟨earlier, later, rfl, before⟩ := handedOut
    cases run.split before with
    | next moved rest =>
      cases moved
      exact rest.mem_tokenIds (by simp [tokenIds, handOut])
  simp only [isCancelled, List.any_eq_true, Bool.and_eq_true, beq_iff_eq]
  constructor
  · rintro ⟨token, among, -, cancelled⟩
    exact (run.numbered.tokens token among).symm.trans cancelled
  · intro cancelled
    obtain ⟨token, among, same⟩ := List.mem_map.mp present
    exact ⟨token, among, same, (run.numbered.tokens token among).trans cancelled⟩

end ShutdownController

end PowerRota
