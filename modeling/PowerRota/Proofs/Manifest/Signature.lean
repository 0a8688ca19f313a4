import PowerRota.Manifest.Folder
import PowerRota.Proofs.Manifest.Listing

/-! The signature of a folder and what a load of the folder reads.

The stream under the digest can be taken apart again, so it stands for the manifest files of
the folder, no more and no less. A load reads these and also the files that links lead to. -/

set_option autoImplicit false

namespace PowerRota

theorem zero_notMem_utf8EncodeChar {character : Char} (visible : character ≠ '\x00') :
    (0 : UInt8) ∉ String.utf8EncodeChar character := by
  have positive : character.val.toNat ≠ 0 := fun zero =>
    visible (Char.ext (UInt32.toNat_inj.mp zero))
  unfold String.utf8EncodeChar
  simp only
  split_ifs <;>
    simp only [List.mem_cons, List.not_mem_nil, or_false, ← UInt8.toNat_inj, UInt8.toNat_ofNat',
      UInt8.toNat_zero] <;>
    omega

theorem Octets.zero_notMem_ofText {text : String} (visible : '\x00' ∉ text.toList) :
    (0 : UInt8) ∉ Octets.ofText text := by
  have octets : Octets.ofText text = text.toList.flatMap String.utf8EncodeChar := by
    unfold Octets.ofText
    rw [String.toUTF8_eq_toByteArray, ← String.utf8Encode_toList, List.utf8Encode,
      List.data_toByteArray]
  rw [octets, List.mem_flatMap]
  rintro ⟨character, member, zero⟩
  refine zero_notMem_utf8EncodeChar ?_ zero
  rintro rfl
  exact visible member

theorem Octets.ofText_injective : Function.Injective Octets.ofText := by
  intro first second same
  unfold Octets.ofText at same
  exact String.toByteArray_inj.mp (ByteArray.ext (Array.toList_inj.mp same))

/-- The octets before the first zero and those after it. -/
theorem Octets.append_zero_inj {first second rest other : Octets} (visible : 0 ∉ first)
    (seen : 0 ∉ second) (same : first ++ 0 :: rest = second ++ 0 :: other) :
    first = second ∧ rest = other := by
  induction first generalizing second with
  | nil =>
    cases second with
    | nil => exact ⟨rfl, (List.cons.inj same).2⟩
    | cons octet second => exact absurd (List.cons.inj same).1 (List.ne_of_not_mem_cons seen)
  | cons octet first ih =>
    cases second with
    | nil => exact absurd (List.cons.inj same).1.symm (List.ne_of_not_mem_cons visible)
    | cons other second =>
      obtain ⟨rfl, tails⟩ := List.cons.inj same
      obtain ⟨rfl, rests⟩ := ih (List.not_mem_of_not_mem_cons visible)
        (List.not_mem_of_not_mem_cons seen) tails
      exact ⟨rfl, rests⟩

def FolderEntry.linked? : FolderEntry → Option Octets
  | .link target => target
  | _ => none

namespace Listing

/-- The manifests that are files of the folder itself. -/
def files (listing : Listing) : List (String × Octets) := listing.manifests FolderEntry.own?

/-- The manifests that are links to files, with what these hold. -/
def links (listing : Listing) : List (String × Octets) := listing.manifests FolderEntry.linked?

/-- Every name stands once, and there is no zero in a name or a file. -/
structure Proper (listing : Listing) : Prop where
  distinct : (listing.map (·.1)).Nodup
  visible : ∀ entry ∈ listing, '\x00' ∉ entry.1.toList
  texts : ∀ entry ∈ listing, ∀ content, entry.2.reachable? = some content → 0 ∉ content

instance (listing : Listing) : Decidable listing.Proper :=
  decidable_of_iff
    ((listing.map (·.1)).Nodup ∧ (∀ entry ∈ listing, '\x00' ∉ entry.1.toList) ∧
      ∀ entry ∈ listing, ∀ content ∈ entry.2.reachable?, 0 ∉ content)
    ⟨fun ⟨distinct, visible, texts⟩ => ⟨distinct, visible, texts⟩,
      fun proper => ⟨proper.distinct, proper.visible, proper.texts⟩⟩

variable {listing first second : Listing}

theorem reachable_perm (listing : Listing) :
    (listing.filterMap (manifest? FolderEntry.reachable?)).Perm
      (listing.filterMap (manifest? FolderEntry.own?) ++
        listing.filterMap (manifest? FolderEntry.linked?)) := by
  induction listing with
  | nil => exact List.Perm.refl _
  | cons entry listing ih =>
    obtain ⟨name, entry⟩ := entry
    by_cases counts : Path.isManifest name
    · cases entry with
      | file content => simpa [manifest?, counts, FolderEntry.reachable?, FolderEntry.own?,
          FolderEntry.linked?] using ih
      | folder => simpa [manifest?, counts, FolderEntry.reachable?, FolderEntry.own?,
          FolderEntry.linked?] using ih
      | link target =>
        cases target with
        | none => simpa [manifest?, counts, FolderEntry.reachable?, FolderEntry.own?,
            FolderEntry.linked?] using ih
        | some content =>
          simp only [manifest?, counts, FolderEntry.reachable?, FolderEntry.own?,
            FolderEntry.linked?, List.filterMap_cons, if_true, Option.map_some, Option.map_none]
          exact (ih.cons _).trans List.perm_middle.symm
    · simpa [manifest?, counts] using ih

theorem manifests_reachable (proper : first.Proper) (files : first.files = second.files)
    (links : first.links = second.links) :
    first.manifests FolderEntry.reachable? = second.manifests FolderEntry.reachable? := by
  rw [manifests_eq_iff proper.distinct]
  have own := (manifests_eq_iff proper.distinct).mp files
  have linked := (manifests_eq_iff proper.distinct).mp links
  exact (reachable_perm first).trans ((own.append linked).trans (reachable_perm second).symm)

def Framed (file : String × Octets) : Prop := 0 ∉ Octets.ofText file.1 ∧ 0 ∉ file.2

theorem framed_of_mem_files (proper : listing.Proper) {file : String × Octets}
    (member : file ∈ listing.files) : Framed file := by
  obtain ⟨entry, among, counts⟩ := List.mem_filterMap.mp (manifests_perm.mem_iff.mp member)
  obtain ⟨-, name, content⟩ := manifest?_eq_some_iff.mp counts
  refine ⟨Octets.zero_notMem_ofText (name ▸ proper.visible entry among),
    proper.texts entry among file.2 ?_⟩
  cases own : entry.2 with
  | file _ => rwa [own] at content
  | folder => rw [own] at content; cases content
  | link _ => rw [own] at content; cases content

end Listing

namespace Manifest

open Listing

variable {first second : Listing}

def record (file : String × Octets) : Octets := Octets.ofText file.1 ++ 0 :: (file.2 ++ [0])

theorem signatureStream_eq (listing : Listing) :
    signatureStream listing = listing.files.flatMap record := rfl

theorem records_inj {files others : List (String × Octets)} (framed : ∀ file ∈ files, Framed file)
    (framing : ∀ file ∈ others, Framed file)
    (same : files.flatMap record = others.flatMap record) : files = others := by
  induction files generalizing others with
  | nil =>
    cases others with
    | nil => rfl
    | cons other others => simp [record] at same
  | cons file files ih =>
    cases others with
    | nil => simp [record] at same
    | cons other others =>
      obtain ⟨⟨named, held⟩, framed⟩ := List.forall_mem_cons.mp framed
      obtain ⟨⟨naming, holding⟩, framing⟩ := List.forall_mem_cons.mp framing
      simp only [List.flatMap_cons, record, List.append_assoc, List.cons_append,
        List.nil_append] at same
      obtain ⟨name, same⟩ := Octets.append_zero_inj named naming same
      obtain ⟨content, same⟩ := Octets.append_zero_inj held holding same
      rw [ih framed framing same, Prod.ext (Octets.ofText_injective name) content]

theorem signatureStream_eq_iff (proper : first.Proper) (other : second.Proper) :
    signatureStream first = signatureStream second ↔ first.files = second.files := by
  rw [signatureStream_eq, signatureStream_eq]
  exact ⟨records_inj (fun _ => framed_of_mem_files proper) (fun _ => framed_of_mem_files other),
    fun same => by rw [same]⟩

/-- Two states of a folder that load differently have different streams, unless they hold the
same manifest files and differ in the manifests that they link to. -/
theorem signature_covers_iff (dir : String) (first second : Listing) (proper : first.Proper)
    (other : second.Proper) :
    (signatureStream first = signatureStream second ↔ first.files = second.files) ∧
    (first.files = second.files → first.links = second.links →
      readFolder dir (.ok first) = readFolder dir (.ok second)) ∧
    ((readFolder dir (.ok first) ≠ readFolder dir (.ok second) →
        signatureStream first ≠ signatureStream second) ↔
      ¬ (first.files = second.files ∧ first.links ≠ second.links ∧
        readFolder dir (.ok first) ≠ readFolder dir (.ok second))) := by
  have streams := signatureStream_eq_iff proper other
  have loads : first.files = second.files → first.links = second.links →
      readFolder dir (.ok first) = readFolder dir (.ok second) := by
    intro files links
    unfold readFolder readListing
    simp only [Except.mapError, bind, Except.bind, manifests_reachable proper files links]
  refine ⟨streams, loads, ?_⟩
  rw [Ne, Ne, streams]
  constructor
  · rintro covers ⟨files, _, differ⟩
    exact covers differ files
  · exact fun exact_ differ files => exact_ ⟨files, fun links => differ (loads files links), differ⟩

/-- One file is rewritten beside a folder and a link that stay, and the entries are met in
another order. -/
theorem signature_covers_iff_of_rewritten :
    let first : Listing :=
      [("dev.yaml", .file [100]), ("old.yaml", .folder), ("team.YML", .link (some [116]))]
    let second : Listing :=
      [("team.YML", .link (some [116])), ("dev.yaml", .file [101]), ("old.yaml", .folder)]
    first.Proper ∧ second.Proper ∧ first.links = second.links ∧
      (readFolder "schedules" (.ok first) ≠ readFolder "schedules" (.ok second) →
        signatureStream first ≠ signatureStream second) ∧
      signatureStream first ≠ signatureStream second := by
  intro first second
  have proper : first.Proper := by decide +kernel
  have other : second.Proper := by decide +kernel
  have links : first.links = second.links := by decide +kernel
  have covers := signature_covers_iff "schedules" first second proper other
  refine ⟨proper, other, links, covers.2.2.mpr fun ⟨_, relinked, _⟩ => relinked links, ?_⟩
  rw [Ne, covers.1]
  decide +kernel

/-- A folder whose only manifest is behind a link, and starts a machine every day at a time. -/
def linkedDaily (time : String) : Listing :=
  [("dev.yaml", .link (some (Octets.ofText
    ("\x7bapiVersion: cloudnap/v1alpha1, kind: Schedule, metadata: \x7bname: dev\x7d, spec: \x7b" ++
      "type: daily, resource: \x7btype: vm, id: v, folder_id: f\x7d, " ++
      "actions: \x7bstart: \x7benabled: true, time: '" ++ time ++ "'\x7d\x7d\x7d\x7d"))))]

/-- The manifest behind the link is put off by an hour: another schedule is loaded, and the stream
stays as it was. -/
theorem link_not_covered :
    ¬ ∀ (dir : String) (first second : Listing), first.Proper → second.Proper →
      readFolder dir (.ok first) ≠ readFolder dir (.ok second) →
        signatureStream first ≠ signatureStream second := by
  intro covers
  have atNine : (readFolder "schedules" (.ok (linkedDaily "09:00"))).toOption.map
      (·.map (·.start)) = some [some (.daily ⟨9, 0, 0, by decide, by decide, by decide⟩)] := by decide +kernel
  have atTen : (readFolder "schedules" (.ok (linkedDaily "10:00"))).toOption.map
      (·.map (·.start)) = some [some (.daily ⟨10, 0, 0, by decide, by decide, by decide⟩)] := by decide +kernel
  refine covers "schedules" (linkedDaily "09:00") (linkedDaily "10:00") (by decide +kernel)
    (by decide +kernel) ?_ rfl
  intro same
  rw [same, atTen] at atNine
  cases atNine

end Manifest

end PowerRota
