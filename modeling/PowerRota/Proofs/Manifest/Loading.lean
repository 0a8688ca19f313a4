import PowerRota.Proofs.Manifest.Acceptance
import PowerRota.Proofs.Manifest.Listing

/-! The schedules that a folder of manifests gives.

A load goes through the files in the order of their names and through the documents of each. It
succeeds exactly if each document that is not null declares a schedule, if there is such a
document at all, and if no two of the schedules share a name. Every schedule was checked when its
document was read, so the check of the whole set finds nothing more. -/

set_option autoImplicit false

namespace PowerRota.Manifest

def isNull (document : Except Yaml.Fault Yaml.Value) : Bool :=
  match document with
  | .ok value =>
      match value.untagged with
      | .null => true
      | _ => false
  | .error _ => false

/-- A document that is a manifest, and the schedule that this gives. -/
def Gives (document : Except Yaml.Fault Yaml.Value) (schedule : Schedule) : Prop :=
  ∃ value manifest, document = .ok value ∧ decode value = .ok manifest ∧
    manifest.schedule = .ok schedule

def documentsOf (text : String) : List (Except Yaml.Fault Yaml.Value) :=
  (Yaml.Value.ofText text).filter (!isNull ·)

variable {document : Except Yaml.Fault Yaml.Value} {schedule : Schedule}
  {schedules : List Schedule}

theorem Gives.valid (gives : Gives document schedule) : schedule.Valid := by
  obtain ⟨_, _, _, _, made⟩ := gives
  exact (parts_of_schedule made).1

theorem gives_ok_iff {value : Yaml.Value} :
    Gives (.ok value) schedule ↔
      ∃ manifest, decode value = .ok manifest ∧ manifest.schedule = .ok schedule := by
  simp [Gives]

theorem scheduleOf_eq_ok_iff {schedule? : Option Schedule} :
    scheduleOf document = .ok schedule? ↔
      (isNull document = true ∧ none = schedule?) ∨
        (isNull document = false ∧ ∃ schedule, Gives document schedule ∧ some schedule = schedule?) := by
  unfold scheduleOf isNull
  cases document with
  | error fault => simp [Gives, Except.mapError, Steps.error_bind]
  | ok value =>
    simp only [Steps.bind_eq_ok_iff, Steps.mapError_eq_ok_iff, Except.ok.injEq, exists_eq_left',
      gives_ok_iff]
    cases shape : value.untagged with
    | null => simp [Steps.pure_eq_ok_iff]
    | _ =>
      simp only [Steps.bind_eq_ok_iff, Steps.mapError_eq_ok_iff, Steps.pure_eq_ok_iff,
        Bool.false_eq_true, false_and, false_or, true_and]
      constructor
      · rintro ⟨manifest, decoded, schedule, made, rfl⟩
        exact ⟨schedule, ⟨manifest, decoded, made⟩, rfl⟩
      · rintro ⟨schedule, ⟨manifest, decoded, made⟩, rfl⟩
        exact ⟨manifest, decoded, schedule, made, rfl⟩

theorem schedulesOf_eq_ok_iff {documents : List (Except Yaml.Fault Yaml.Value)} {number : Nat} :
    schedulesOf number documents = .ok schedules ↔
      List.Forall₂ Gives (documents.filter (!isNull ·)) schedules := by
  induction documents generalizing number schedules with
  | nil =>
    rw [schedulesOf, Except.ok.injEq, List.filter_nil, List.forall₂_nil_left_iff]
    exact eq_comm
  | cons document documents ih =>
    simp only [schedulesOf, Steps.bind_eq_ok_iff, Steps.mapError_eq_ok_iff, scheduleOf_eq_ok_iff,
      ih, Steps.pure_eq_ok_iff]
    cases null : isNull document with
    | true => simp [null]
    | false => simp [null, List.forall₂_cons_left_iff, @eq_comm _ schedules]

theorem readFile_eq_ok_iff {path : String} {content : Octets} :
    readFile path content = .ok schedules ↔
      ∃ text, content.text? = some text ∧ List.Forall₂ Gives (documentsOf text) schedules := by
  unfold readFile
  cases content.text? with
  | none => simp
  | some text =>
    simp [Steps.mapError_eq_ok_iff, readText, schedulesOf_eq_ok_iff, documentsOf]

/-- Names that are neither known nor repeated. -/
def Fresh (known names : List String) : Prop := names.Nodup ∧ ∀ name ∈ names, name ∉ known

theorem fresh_nil_left_iff {names : List String} : Fresh [] names ↔ names.Nodup := by
  simp [Fresh]

theorem fresh_append_iff {known first second : List String} :
    Fresh known (first ++ second) ↔ Fresh known first ∧ Fresh (known ++ first) second := by
  simp only [Fresh, List.nodup_append, List.mem_append, not_or]
  constructor
  · rintro ⟨⟨left, right, apart⟩, unknown⟩
    exact ⟨⟨left, fun name member => unknown name (.inl member)⟩, right, fun name member =>
      ⟨unknown name (.inr member), fun also => apart name also name member rfl⟩⟩
  · rintro ⟨⟨left, before⟩, right, after⟩
    refine ⟨⟨left, right, ?_⟩, ?_⟩
    · rintro name member _ also rfl
      exact (after name also).2 member
    · exact fun name member => member.elim (before name) fun also => (after name also).1

theorem fresh_cons_iff {known names : List String} {name : String} :
    Fresh known (name :: names) ↔ name ∉ known ∧ Fresh (known ++ [name]) names := by
  rw [← List.singleton_append, fresh_append_iff]
  simp [Fresh]

theorem lookup_eq_none_iff {origins : List (String × String)} {name : String} :
    origins.lookup name = none ↔ name ∉ origins.map (·.1) := by
  simp only [List.lookup_eq_none_iff, bne_iff_ne, List.mem_map, not_exists, not_and]
  exact forall₂_congr fun _ _ => ne_comm

theorem addSchedules_eq_ok_iff {path : String} {origins next : List (String × String)} :
    addSchedules path origins schedules = .ok next ↔
      Fresh (origins.map (·.1)) (schedules.map (·.name)) ∧
        origins ++ schedules.map (fun schedule => (schedule.name, path)) = next := by
  induction schedules generalizing origins with
  | nil => simp [addSchedules, Fresh]
  | cons schedule rest ih =>
    rw [addSchedules, List.map_cons, List.map_cons, fresh_cons_iff, ← lookup_eq_none_iff]
    cases known : origins.lookup schedule.name with
    | some first => simp
    | none => simp [ih]

def documents (files : List (String × Octets)) : List (Except Yaml.Fault Yaml.Value) :=
  files.flatMap fun file => file.2.text?.elim [] documentsOf

theorem readFiles_eq_ok_iff {dir : String} {origins : List (String × String)}
    {files : List (String × Octets)} :
    readFiles dir origins files = .ok schedules ↔
      (∀ file ∈ files, ∃ text, file.2.text? = some text) ∧
        List.Forall₂ Gives (documents files) schedules ∧
        Fresh (origins.map (·.1)) (schedules.map (·.name)) := by
  induction files generalizing origins schedules with
  | nil =>
    simp only [readFiles, documents, List.flatMap_nil, List.forall₂_nil_left_iff, Except.ok.injEq]
    constructor
    · rintro rfl
      exact ⟨nofun, rfl, List.nodup_nil, nofun⟩
    · exact fun ⟨_, nothing, _⟩ => nothing.symm
  | cons file files ih =>
    simp only [readFiles, Steps.bind_eq_ok_iff, Steps.pure_eq_ok_iff, readFile_eq_ok_iff,
      addSchedules_eq_ok_iff, ih, List.forall_mem_cons]
    -- the later files meet the names that were known before and those of this file
    constructor
    · rintro ⟨found, ⟨text, decoded, gives⟩, _, ⟨fresh, rfl⟩, rest, ⟨texts, others, later⟩, rfl⟩
      refine ⟨⟨⟨text, decoded⟩, texts⟩, ?_, ?_⟩
      · rw [documents, List.flatMap_cons, decoded]
        exact Steps.forall₂_append_left_iff.mpr ⟨found, rest, gives, others, rfl⟩
      · rw [List.map_append, fresh_append_iff]
        refine ⟨fresh, ?_⟩
        simpa [List.map_map, Function.comp_def] using later
    · rintro ⟨⟨⟨text, decoded⟩, texts⟩, gives, fresh⟩
      rw [documents, List.flatMap_cons, decoded] at gives
      obtain ⟨found, rest, here, others, rfl⟩ := Steps.forall₂_append_left_iff.mp gives
      rw [List.map_append, fresh_append_iff] at fresh
      refine ⟨found, ⟨text, decoded, here⟩, _, ⟨fresh.1, rfl⟩, rest, ⟨texts, others, ?_⟩, rfl⟩
      simpa [List.map_map, Function.comp_def] using fresh.2

variable {dir : String} {listing : Listing}

/-- What documents give passes the check, unless two of them give schedules of one name. -/
theorem validateAll_of_gives {documents : List (Except Yaml.Fault Yaml.Value)}
    (each : List.Forall₂ Gives documents schedules) (distinct : (schedules.map (·.name)).Nodup) :
    Schedule.validateAll schedules = .ok () := by
  refine Schedule.validateAll_eq_ok_iff.mpr ⟨fun schedule member => ?_, distinct⟩
  obtain ⟨_, _, gives⟩ := Steps.exists_of_forall₂ each.flip member
  exact Gives.valid gives

theorem readFiles_ne_invalid {origins : List (String × String)} {files : List (String × Octets)}
    {error : Error} : readFiles dir origins files ≠ .error (.invalid error) := by
  have file_ne {path : String} {content : Octets} :
      readFile path content ≠ .error (.invalid error) := by
    unfold readFile
    split <;> simp [Steps.mapError_eq_error_iff]
  have names_ne {path : String} {schedules : List Schedule} {origins : List (String × String)} :
      addSchedules path origins schedules ≠ .error (.invalid error) := by
    induction schedules generalizing origins with
    | nil => simp [addSchedules]
    | cons schedule rest ih =>
      rw [addSchedules]
      split
      · simp
      · exact ih
  induction files generalizing origins with
  | nil => simp [readFiles]
  | cons file files ih =>
    simp [readFiles, Steps.bind_eq_error_iff, file_ne, names_ne, ih, pure, Except.pure]

theorem readListing_eq (dir : String) (listing : Listing) :
    readListing dir listing =
      if listing.manifests FolderEntry.reachable? = [] then .error (.noFiles dir)
      else readFiles dir [] (listing.manifests FolderEntry.reachable?) >>= fun schedules =>
        if schedules = [] then .error (.noSchedules dir) else .ok schedules := by
  unfold readListing
  by_cases no_file : listing.manifests FolderEntry.reachable? = []
  · simp [no_file, Steps.throw_eq, Steps.error_bind]
  · cases read : readFiles dir [] (listing.manifests FolderEntry.reachable?) with
    | error fault => simp [no_file, read, Steps.error_bind]
    | ok schedules =>
      obtain ⟨-, each, distinct, -⟩ := readFiles_eq_ok_iff.mp read
      have checked := validateAll_of_gives each distinct
      by_cases no_schedule : schedules = []
      · simp [no_file, read, no_schedule, Steps.throw_eq, Steps.error_bind, Steps.ok_bind]
      · simp [no_file, read, no_schedule, checked, Steps.ok_bind, Steps.pure_eq]

theorem readListing_ne_invalid {error : Error} :
    readListing dir listing ≠ .error (.invalid error) := by
  rw [readListing_eq]
  split
  · simp
  · rw [Ne, Steps.bind_eq_error_iff, not_or]
    refine ⟨readFiles_ne_invalid, ?_⟩
    rintro ⟨schedules, -, refused⟩
    split at refused <;> cases refused

/-- What a folder gives, whose files come in the order of their names: the schedules of all
documents that are not null, one for each. -/
structure Loads (files : List (String × Octets)) (schedules : List Schedule) : Prop where
  some_file : files ≠ []
  texts : ∀ file ∈ files, ∃ text, file.2.text? = some text
  each : List.Forall₂ Gives (documents files) schedules
  some_schedule : schedules ≠ []
  distinct : (schedules.map (·.name)).Nodup

theorem readListing_eq_ok_iff_loads :
    readListing dir listing = .ok schedules ↔
      Loads (listing.manifests FolderEntry.reachable?) schedules := by
  rw [readListing_eq]
  split
  next no_file =>
    simp only [reduceCtorEq, false_iff]
    exact fun loads => loads.some_file no_file
  next some_file =>
    simp only [Steps.bind_eq_ok_iff, readFiles_eq_ok_iff, List.map_nil, fresh_nil_left_iff]
    constructor
    · rintro ⟨found, ⟨texts, each, distinct⟩, taken⟩
      split at taken
      next => cases taken
      next some_schedule =>
        cases taken
        exact ⟨some_file, texts, each, some_schedule, distinct⟩
    · intro loads
      exact ⟨schedules, ⟨loads.texts, loads.each, loads.distinct⟩, if_neg loads.some_schedule⟩

/-- A folder is loaded exactly if there are manifest files, all of them texts, and their documents
give schedules of distinct names, at least one. The last check of the set finds nothing, and the
order in which the entries were met does not matter. -/
theorem readFolder_eq_ok_iff_loads (dir : String) (listing : Listing)
    (distinct : (listing.map (·.1)).Nodup) :
    (∃ files, listing.InOrder FolderEntry.reachable? files ∧ ∀ schedules,
      readFolder dir (.ok listing) = .ok schedules ↔ Loads files schedules) ∧
    (∀ error, readFolder dir (.ok listing) ≠ .error (.invalid error)) ∧
    ∀ other, other.Perm listing → readFolder dir (.ok other) = readFolder dir (.ok listing) := by
  refine ⟨⟨_, Listing.manifests_inOrder distinct, fun _ => readListing_eq_ok_iff_loads⟩,
    fun _ => readListing_ne_invalid, ?_⟩
  intro other among
  have same : other.manifests FolderEntry.reachable? = listing.manifests FolderEntry.reachable? :=
    (Listing.manifests_congr distinct among.symm).symm
  show readListing dir other = readListing dir listing
  rw [readListing, readListing, same]

/-- A file with a manifest stands beside one with a null document and one that is neither a
manifest nor a text. -/
theorem readFolder_eq_ok_iff_loads_of_dev :
    let dev : Octets := Octets.ofText <|
      "\x7bapiVersion: cloudnap/v1alpha1, kind: Schedule, metadata: \x7bname: dev\x7d, spec: \x7b" ++
        "type: daily, resource: \x7btype: vm, id: v, folder_id: f\x7d, " ++
        "actions: \x7bstop: \x7benabled: true, time: '19:30'\x7d\x7d\x7d\x7d"
    let listing : Listing :=
      [("README.md", .file [0xff]), ("all.YML", .file (Octets.ofText "---")), ("dev.yaml", .file dev)]
    (listing.map (·.1)).Nodup ∧ ∃ files schedules, listing.InOrder FolderEntry.reachable? files ∧
      Loads files schedules ∧ schedules.map (·.name) = ["dev"] ∧
      readFolder "schedules" (.ok listing.reverse) = .ok schedules := by
  intro dev listing
  have distinct : (listing.map (·.1)).Nodup := by decide +kernel
  -- the sort is by well-founded recursion, so what is counted comes in order already
  have counted : listing.filterMap (Listing.manifest? FolderEntry.reachable?) =
      [("all.YML", Octets.ofText "---"), ("dev.yaml", dev)] := by decide +kernel
  have sorted : listing.manifests FolderEntry.reachable? =
      [("all.YML", Octets.ofText "---"), ("dev.yaml", dev)] :=
    (congrArg (List.mergeSort · Listing.byName) counted).trans
      (List.mergeSort_of_pairwise (by decide +kernel))
  have names : (readFiles "schedules" []
      [("all.YML", Octets.ofText "---"), ("dev.yaml", dev)]).toOption.map (·.map (·.name)) =
        some ["dev"] := by decide +kernel
  cases read : readFiles "schedules" [] [("all.YML", Octets.ofText "---"), ("dev.yaml", dev)] with
  | error fault =>
    rw [read] at names
    cases names
  | ok schedules =>
    rw [read] at names
    have named : schedules.map (·.name) = ["dev"] := Option.some.inj names
    have loaded : readFolder "schedules" (.ok listing) = .ok schedules := by
      obtain ⟨texts, each, fresh⟩ := readFiles_eq_ok_iff.mp read
      refine readListing_eq_ok_iff_loads.mpr (sorted ▸ ⟨List.cons_ne_nil _ _, texts, each, ?_,
        fresh_nil_left_iff.mp fresh⟩)
      rintro rfl
      cases named
    obtain ⟨⟨files, order, loads⟩, -, any_order⟩ :=
      readFolder_eq_ok_iff_loads "schedules" listing distinct
    exact ⟨distinct, files, schedules, order, (loads schedules).mp loaded, named,
      (any_order _ listing.reverse_perm).trans loaded⟩

end PowerRota.Manifest
