import PowerRota.Daemon
import PowerRota.Proofs.Reload.Attempts
import PowerRota.Proofs.Schedule.Translation

/-! A reloader beside its source, while the source is edited between the looks at it.

A look attempts no reload of what it takes for applied or for refused already. Since what a
content comes to depends on the content alone, no such look leaves the wrong schedules running. -/

set_option autoImplicit false

namespace PowerRota

open PowerRota.Calendar

/-- What a reloader looks at, and what its reload does to a state. -/
structure Source (Content State Schedules : Type) where
  sign : Content → String
  load? : Content → Option Schedules
  reload : Content → State → State × Bool
  Runs : State → Schedules → Prop

inductive SourceEvent (Content : Type) where
  | edit (content : Content)
  | check (fault? : Option Error)

def SourceEvent.edited? {Content : Type} : SourceEvent Content → Option Content
  | .edit content => some content
  | .check _ => none

/-- A reloader and the source that it watches. -/
structure Watched (Content State : Type) where
  content : Content
  baseline : Baseline
  state : State
  seen : List Content

namespace Source

variable {Content State Schedules : Type} (source : Source Content State Schedules)

/-- A reload installs the schedules of a content that can be loaded, and nothing otherwise. -/
structure Installs : Prop where
  loads : ∀ {content state running schedules}, source.Runs state running →
    source.load? content = some schedules →
    (source.reload content state).2 = true ∧ source.Runs (source.reload content state).1 schedules
  refuses : ∀ {content state running}, source.Runs state running →
    source.load? content = none →
    (source.reload content state).2 = false ∧ source.Runs (source.reload content state).1 running

/-- Contents with one signature load alike, as they do if each has a signature of its own. -/
def SignedApart (contents : List Content) : Prop :=
  ∀ one ∈ contents, ∀ other ∈ contents,
    source.sign one = source.sign other → source.load? one = source.load? other

def primed (content : Content) (state : State) : Watched Content State :=
  ⟨content, (Watch.begin (some (.ok (source.sign content)))).baseline, state, [content]⟩

def step (watched : Watched Content State) : SourceEvent Content → Watched Content State
  | .edit content => { watched with content }
  | .check none =>
      let (baseline, state, _) := watched.baseline.check (.ok (source.sign watched.content))
        (source.reload watched.content) watched.state
      { watched with baseline, state, seen := watched.content :: watched.seen }
  | .check (some fault) =>
      let (baseline, state, _) := watched.baseline.check (.error fault)
        (source.reload watched.content) watched.state
      { watched with baseline, state }

def after (watched : Watched Content State) (events : List (SourceEvent Content)) :
    Watched Content State :=
  events.foldl source.step watched

variable {source} {contents : List Content} {watched : Watched Content State}

/-- The schedules of the last loadable content that was seen are running, and the baseline is
right about what can be loaded. -/
structure Current (source : Source Content State Schedules) (contents : List Content)
    (watched : Watched Content State) (running : Schedules) : Prop where
  runs : source.Runs watched.state running
  latest : watched.seen.findSome? source.load? = some running
  applied : ∃ content ∈ contents, watched.baseline.applied = some (source.sign content) ∧
    source.load? content = some running
  rejected : ∀ signature, watched.baseline.rejected = some signature →
    ∃ content ∈ contents, source.sign content = signature ∧ source.load? content = none

namespace Current

variable {running : Schedules}

/-- A content that is not new loads as what is running, or not at all. -/
theorem getD_of_known (current : Current source contents watched running)
    (apart : source.SignedApart contents) (listed : watched.content ∈ contents)
    (known : watched.baseline.isNew (source.sign watched.content) = false) :
    (source.load? watched.content).getD running = running := by
  have remembered : watched.baseline.applied = some (source.sign watched.content) ∨
      watched.baseline.rejected = some (source.sign watched.content) := by
    by_contra neither
    obtain ⟨unapplied, untried⟩ := not_or.mp neither
    cases known.symm.trans (Baseline.isNew_eq_true_iff.mpr ⟨unapplied, untried⟩)
  rcases remembered with same | same
  · obtain ⟨content, member, applied, loads⟩ := current.applied
    have signed := Option.some.inj (applied.symm.trans same)
    rw [← apart content member _ listed signed, loads, Option.getD_some]
  · obtain ⟨content, member, signed, refused⟩ := current.rejected _ same
    rw [← apart content member _ listed signed, refused, Option.getD_none]

theorem latest_cons (current : Current source contents watched running) (content : Content) :
    (content :: watched.seen).findSome? source.load? =
      some ((source.load? content).getD running) := by
  rw [List.findSome?_cons]
  cases source.load? content with
  | none => exact current.latest
  | some schedules => rfl

theorem check (current : Current source contents watched running) (installs : source.Installs)
    (apart : source.SignedApart contents) (listed : watched.content ∈ contents) :
    Current source contents (source.step watched (.check none))
      ((source.load? watched.content).getD running) := by
  unfold step
  have latest := current.latest_cons watched.content
  have looked := watched.baseline.check_looked (.ok (source.sign watched.content))
    (source.reload watched.content) watched.state
  generalize watched.baseline.check _ _ _ = result at looked ⊢
  -- a signature that is known loads as what runs; a new one is loaded and kept, or refused
  cases looked with
  | known known =>
    rw [current.getD_of_known apart listed known] at latest ⊢
    exact { current with latest }
  | reloaded new success =>
    cases loads : source.load? watched.content with
    | none => cases success.symm.trans (installs.refuses current.runs loads).1
    | some schedules =>
      rw [loads] at latest
      exact ⟨(installs.loads current.runs loads).2, latest, ⟨_, listed, rfl, loads⟩, nofun⟩
  | rejected new failure =>
    cases refused : source.load? watched.content with
    | some schedules => cases failure.symm.trans (installs.loads current.runs refused).1
    | none =>
      rw [refused] at latest
      refine ⟨(installs.refuses current.runs refused).2, latest, current.applied, ?_⟩
      rintro signature same
      exact ⟨_, listed, Option.some.inj same, refused⟩

end Current

/-- What is known of a source after a run: some schedules run, rightly. -/
def Settled (source : Source Content State Schedules) (contents : List Content)
    (watched : Watched Content State) : Prop :=
  watched.content ∈ contents ∧ ∃ running, Current source contents watched running

theorem Settled.step (settled : source.Settled contents watched) (installs : source.Installs)
    (apart : source.SignedApart contents) {event : SourceEvent Content}
    (listed : ∀ content ∈ event.edited?, content ∈ contents) :
    source.Settled contents (source.step watched event) := by
  obtain ⟨member, running, current⟩ := settled
  cases event with
  | edit content => exact ⟨listed content rfl, running, { current with }⟩
  | check fault? =>
    cases fault? with
    | none => exact ⟨member, _, current.check installs apart member⟩
    | some fault => exact ⟨member, running, current⟩

theorem Settled.after (settled : source.Settled contents watched) (installs : source.Installs)
    (apart : source.SignedApart contents) {events : List (SourceEvent Content)}
    (listed : ∀ event ∈ events, ∀ content ∈ event.edited?, content ∈ contents) :
    source.Settled contents (source.after watched events) := by
  induction events generalizing watched with
  | nil => exact settled
  | cons event events ih =>
    obtain ⟨first, rest⟩ := List.forall_mem_cons.mp listed
    exact ih (settled.step installs apart first) rest

end Source

namespace Daemon

variable {Content Fault Other : Type} {daemon : Daemon Other} {running schedules : List Schedule}

/-- Passes look at these schedules, and the managed jobs are theirs, as far as they had a fire
ahead when they were installed. -/
structure Runs (daemon : Daemon Other) (schedules : List Schedule) : Prop where
  open_ : daemon.scheduler.shut = false
  adopted : daemon.schedules = schedules
  managed : ∃ orders now, Schedule.jobs schedules = .ok orders ∧
    daemon.scheduler.managed.map Timer.job? =
      ((orders.map (·.map Work.order)).filter fun job =>
        (job.rule.nextAfter daemon.scheduler.zone now).isSome).map some

def source (sign : Content → String) (load : Content → Except Fault (List Schedule)) :
    Source Content (Daemon Other) (List Schedule) where
  sign := sign
  load? content := (load content).toOption
  reload content daemon := daemon.reload (load content)
  Runs := Runs

theorem Runs.start (settings : SchedulerSettings) (clock : Instant) (executor : Executor) :
    (start (.start settings clock) executor [] : Daemon Other).Runs [] :=
  ⟨rfl, rfl, [], clock, rfl, rfl⟩

theorem Runs.reload (runs : daemon.Runs running) {loaded : Except Fault (List Schedule)}
    (found : loaded = .ok schedules) (valid : Schedule.validateAll schedules = .ok ()) :
    (daemon.reload loaded).2 = true ∧ (daemon.reload loaded).1.Runs schedules := by
  obtain ⟨orders, translated⟩ := Schedule.exists_jobs valid
  obtain ⟨after, replaced, _⟩ : ∃ after,
      daemon.scheduler.replaceSchedules .order schedules = .ok after ∧ _ :=
    Scheduler.replaceSchedules_of_jobs translated runs.open_
  obtain ⟨_, same, swapped⟩ := Scheduler.replaceSchedules_eq_ok_iff.mp replaced
  obtain rfl := Except.ok.inj (translated.symm.trans same)
  have managed := (Scheduler.swapped_of_replaceManaged swapped).managed
  obtain ⟨_, rfl⟩ := Scheduler.replaceManaged_eq_ok_iff.mp swapped
  simp only [Daemon.reload, found, replaced]
  refine ⟨trivial, ?_, rfl, orders, daemon.scheduler.clock, translated, ?_⟩
  · rw [Scheduler.insertJobs_eq]
    exact runs.open_
  · rw [managed, Scheduler.insertJobs_eq]
    rfl

theorem source_installs (sign : Content → String) (load : Content → Except Fault (List Schedule))
    (valid : ∀ content schedules, load content = .ok schedules →
      Schedule.validateAll schedules = .ok ()) :
    (source sign load : Source Content (Daemon Other) (List Schedule)).Installs where
  loads := by
    intro content daemon running schedules runs loads
    have loaded : load content = .ok schedules := Scheduler.eq_ok_of_toOption loads
    exact Runs.reload runs loaded (valid content schedules loaded)
  refuses := by
    intro content daemon running runs refused
    obtain ⟨fault, loaded⟩ : ∃ fault, load content = .error fault := by
      cases loaded : load content with
      | error fault => exact ⟨fault, rfl⟩
      | ok schedules => simp [source, loaded, Except.toOption] at refused
    simp only [source, loaded]
    exact ⟨rfl, runs⟩

/-- A folder of manifests holds valid sets only. -/
theorem source_installs_readFolder (sign : Except FileFault Listing → String) (dir : String) :
    (source sign (Manifest.readFolder dir) : Source _ (Daemon Other) _).Installs :=
  source_installs sign _ fun _ _ => Manifest.validateAll_of_readFolder

end Daemon

namespace Source

variable {Content State Schedules : Type}

/-- Whatever happened to the source before, after a look that could read it the schedules that
run are those of the content, or if it cannot be loaded, those of the last content that could
be and that the prime or a look has seen. A look that cannot read it changes nothing. -/
theorem reload_converges (source : Source Content State Schedules) (installs : source.Installs)
    (first : Content) (state : State) (schedules : Schedules)
    (loads : source.load? first = some schedules) (runs : source.Runs state schedules)
    (events : List (SourceEvent Content))
    (apart : source.SignedApart (first :: events.filterMap SourceEvent.edited?)) :
    let watched := source.after (source.primed first state) events
    let next := source.step watched (.check none)
    (∀ loaded, source.load? watched.content = some loaded → source.Runs next.state loaded) ∧
    (source.load? watched.content = none →
      ∃ last, watched.seen.findSome? source.load? = some last ∧ source.Runs next.state last) ∧
    ∀ fault, source.step watched (.check (some fault)) = watched := by
  intro watched next
  have start : source.Settled (first :: events.filterMap SourceEvent.edited?)
      (source.primed first state) := by
    refine ⟨List.mem_cons_self .., schedules, runs, ?_, ⟨first, List.mem_cons_self .., rfl, loads⟩,
      nofun⟩
    rw [primed, List.findSome?_cons, loads]
  have listed : ∀ event ∈ events, ∀ content ∈ event.edited?,
      content ∈ first :: events.filterMap SourceEvent.edited? := fun event member content edited =>
    List.mem_cons_of_mem _ (List.mem_filterMap.mpr ⟨event, member, edited⟩)
  obtain ⟨member, running, current⟩ := start.after installs apart listed
  have runs : source.Runs next.state ((source.load? watched.content).getD running) :=
    (current.check installs apart member).runs
  refine ⟨fun loaded found => ?_, fun refused => ⟨running, current.latest, ?_⟩, fun _ => rfl⟩
  · rwa [found] at runs
  · rwa [refused] at runs

/-- A draft is refused, put back and replaced by a good content before it comes again: the
schedules of the good content stay. -/
theorem reload_converges_of_draft :
    let evening : Schedule :=
      ⟨"evening", ⟨.vm, "vm-2", "folder-1"⟩, none, some (.daily Scheduler.nineOclock)⟩
    let load (content : String) : Except Unit (List Schedule) :=
      if content = "one" then .ok [Scheduler.morningShift]
      else if content = "two" then .ok [Scheduler.morningShift, evening] else .error ()
    let source : Source String (Daemon Empty) (List Schedule) := Daemon.source id load
    let state := (Daemon.reload (.start (.start .standard ⟨0⟩) (.start false 0) []) (load "one")).1
    let events : List (SourceEvent String) := [.edit "draft", .check none, .edit "one",
      .check none, .edit "draft", .check none, .edit "two", .check none, .edit "draft"]
    let watched := source.after (source.primed "one" state) events
    source.Installs ∧ source.load? "one" = some [Scheduler.morningShift] ∧
      source.Runs state [Scheduler.morningShift] ∧
      source.SignedApart ("one" :: events.filterMap SourceEvent.edited?) ∧
      source.load? watched.content = none ∧
      source.Runs (source.step watched (.check none)).state [Scheduler.morningShift, evening] := by
  intro evening load source state events watched
  have valid : ∀ content schedules, load content = .ok schedules →
      Schedule.validateAll schedules = .ok () := by
    intro content schedules loaded
    simp only [load] at loaded
    split at loaded
    · obtain rfl := Except.ok.inj loaded
      decide +kernel
    · split at loaded
      · obtain rfl := Except.ok.inj loaded
        decide +kernel
      · cases loaded
  have installs : source.Installs := Daemon.source_installs id load valid
  have morning : source.load? "one" = some [Scheduler.morningShift] := rfl
  have runs : source.Runs state [Scheduler.morningShift] :=
    (installs.loads (Daemon.Runs.start ..) morning).2
  have apart : source.SignedApart ("one" :: events.filterMap SourceEvent.edited?) :=
    fun _ _ _ _ same => congrArg source.load? same
  obtain ⟨last, seen, current⟩ :=
    (reload_converges source installs "one" state _ morning runs events apart).2.1 rfl
  obtain rfl : [Scheduler.morningShift, evening] = last := Option.some.inj seen
  exact ⟨installs, morning, runs, apart, rfl, current⟩

end Source

end PowerRota
