import Mathlib.Data.List.Nodup
import Mathlib.Data.String.Basic
import PowerRota.Files.Listing

/-! The manifests among the entries of a folder.

They come in the order of their names. Since no folder holds two entries of one name, it does
not matter in which order the entries were met. -/

set_option autoImplicit false

namespace PowerRota.Listing

variable {content? : FolderEntry → Option Octets} {listing first second : Listing}

def manifest? (content? : FolderEntry → Option Octets) (entry : String × FolderEntry) :
    Option (String × Octets) :=
  if Path.isManifest entry.1 then (content? entry.2).map fun content => (entry.1, content)
  else none

theorem manifest?_eq_some_iff {entry : String × FolderEntry} {file : String × Octets} :
    manifest? content? entry = some file ↔
      Path.isManifest file.1 = true ∧ entry.1 = file.1 ∧ content? entry.2 = some file.2 := by
  obtain ⟨name, content⟩ := file
  unfold manifest?
  split
  next counts =>
    simp only [Option.map_eq_some_iff, Prod.mk.injEq]
    constructor
    · rintro ⟨_, found, rfl, rfl⟩
      exact ⟨counts, rfl, found⟩
    · rintro ⟨_, rfl, found⟩
      exact ⟨content, found, rfl, rfl⟩
  next other =>
    simp only [reduceCtorEq, false_iff]
    rintro ⟨counts, rfl, _⟩
    exact other counts

theorem manifests_perm : (listing.manifests content?).Perm
    (listing.filterMap (manifest? content?)) :=
  List.mergeSort_perm _ _

theorem byName_iff {first second : String × Octets} :
    byName first second = true ↔ first.1 ≤ second.1 :=
  decide_eq_true_iff

theorem manifests_sorted :
    (listing.manifests content?).Pairwise fun first second => byName first second = true := by
  refine List.pairwise_mergeSort (fun first second third before after => ?_)
    (fun first second => ?_) _
  · rw [byName_iff] at *
    exact String.le_trans before after
  · simp only [Bool.or_eq_true, byName_iff]
    exact String.le_total _ _

theorem names_distinct (distinct : (listing.map (·.1)).Nodup) :
    ((listing.manifests content?).map (·.1)).Nodup := by
  refine ((manifests_perm.map _).nodup_iff).mpr (List.Nodup.sublist ?_ distinct)
  clear distinct
  induction listing with
  | nil => exact List.Sublist.refl _
  | cons entry listing ih =>
    rw [List.filterMap_cons]
    cases counts : manifest? content? entry with
    | none => exact ih.cons _
    | some file =>
      rw [List.map_cons, List.map_cons, (manifest?_eq_some_iff.mp counts).2.1]
      exact ih.cons_cons _

theorem manifests_eq_iff (distinct : (first.map (·.1)).Nodup) :
    first.manifests content? = second.manifests content? ↔
      (first.filterMap (manifest? content?)).Perm (second.filterMap (manifest? content?)) := by
  constructor
  · intro same
    exact (manifests_perm.symm.trans (List.Perm.of_eq same)).trans manifests_perm
  · intro among
    have perm := (manifests_perm.trans among).trans manifests_perm.symm
    refine List.Perm.eq_of_pairwise (fun file other left right before after => ?_)
      manifests_sorted manifests_sorted perm
    rw [byName_iff] at before after
    exact List.inj_on_of_nodup_map (names_distinct distinct) left
      (perm.mem_iff.mpr right) (String.le_antisymm before after)

theorem manifests_congr (distinct : (first.map (·.1)).Nodup) (among : first.Perm second) :
    first.manifests content? = second.manifests content? :=
  (manifests_eq_iff distinct).mpr (among.filterMap _)

/-- The manifests of a folder with what is read from them, in the order of their names. -/
structure InOrder (content? : FolderEntry → Option Octets) (listing : Listing)
    (files : List (String × Octets)) : Prop where
  mem_iff : ∀ file, file ∈ files ↔ Path.isManifest file.1 = true ∧
    ∃ entry, (file.1, entry) ∈ listing ∧ content? entry = some file.2
  sorted : files.Pairwise fun first second => first.1 < second.1

theorem manifests_inOrder (distinct : (listing.map (·.1)).Nodup) :
    InOrder content? listing (listing.manifests content?) where
  mem_iff := by
    intro file
    simp only [manifests_perm.mem_iff, List.mem_filterMap, manifest?_eq_some_iff]
    constructor
    · rintro ⟨⟨name, entry⟩, member, counts, rfl, content⟩
      exact ⟨counts, entry, member, content⟩
    · rintro ⟨counts, entry, member, content⟩
      exact ⟨(file.1, entry), member, counts, rfl, content⟩
  sorted := by
    have apart : (listing.manifests content?).Pairwise fun first second => first.1 ≠ second.1 :=
      List.pairwise_map.mp (names_distinct distinct)
    refine manifests_sorted.imp₂ (fun file other before differ => ?_) apart
    exact lt_of_le_of_ne (byName_iff.mp before) differ

end PowerRota.Listing
