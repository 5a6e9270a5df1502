import Boilerplate.Proofs.Archive.Members
import Boilerplate.Proofs.Data.Outcome
import Boilerplate.Proofs.Data.Rows
import Boilerplate.Proofs.Path.Pieces

/-! # Archives of manifests

A manifest is packed exactly when its paths are accepted and differ. Its archive is then read back
as its files, in order, under their normal paths and with their contents.
-/

namespace Boilerplate

theorem Text.byteLength_toList (s : String) : byteLength s.toList = s.utf8ByteSize :=
  (Tar.length_bytesOf s).symm

namespace Manifest

open Export (Accepted)

/-- A bound on what a machine can address: the size of a text, or the number of a second. -/
def wordLimit : Nat := 0x8000000000000000

/-- What holds of a manifest on any machine: sizes and times are signed words. -/
structure InRange (m : Manifest) : Prop where
  path : ∀ f ∈ m.files, f.path.utf8ByteSize < wordLimit
  content : ∀ f ∈ m.files, f.content.utf8ByteSize < wordLimit
  time : m.provenance.generatedAt.seconds < wordLimit

theorem parse_of_entries_cons {time : Nat} {seen : List RelativePath} {f : GeneratedFile}
    {rest : List GeneratedFile} {packed : List Tar.Entry}
    (h : entries time seen (f :: rest) = .ok packed) :
    ∃ p, RelativePath.parse f.path = .ok p ∧ p ∉ seen ∧
      ∃ packed', entries time (p :: seen) rest = .ok packed' := by
  rw [entries] at h
  split at h
  next => cases h
  next p hPath =>
    simp only at h
    split at h
    next => cases h
    next hNew =>
      split at h
      next => cases h
      next =>
        obtain ⟨packed', hRest, -⟩ := map_eq_ok.mp h
        exact ⟨p, hPath, by simpa using hNew, packed', hRest⟩

theorem accepted_of_entries {time : Nat} {seen : List RelativePath} {files : List GeneratedFile}
    {packed : List Tar.Entry} (h : entries time seen files = .ok packed) :
    ∃ paths, Accepted files paths ∧ paths.Nodup ∧ ∀ p ∈ paths, p ∉ seen := by
  induction files generalizing seen packed with
  | nil => exact ⟨[], .nil, List.nodup_nil, fun _ hp => absurd hp List.not_mem_nil⟩
  | cons f rest ih =>
    obtain ⟨p, hPath, hNew, packed', hRest⟩ := parse_of_entries_cons h
    obtain ⟨paths, hPaths, hDistinct, hOther⟩ := ih hRest
    refine ⟨p :: paths, .cons hPath hPaths, ?_, ?_⟩
    · rw [List.nodup_cons]
      exact ⟨fun hp => hOther p hp List.mem_cons_self, hDistinct⟩
    · rw [List.forall_mem_cons]
      refine ⟨hNew, ?_⟩
      intro q hq hSeen
      exact hOther q hq (List.mem_cons_of_mem p hSeen)

theorem zero_not_mem_text {m : Manifest} {paths : List RelativePath}
    (hClear : ∀ f ∈ m.files, '\x00' ∉ f.path.toList) (hPaths : Accepted m.files paths) :
    ∀ p ∈ paths, '\x00' ∉ p.text.toList := by
  intro p hp hZero
  obtain ⟨f, hf, hPath⟩ := exists_mem_right hPaths p hp
  exact hClear f hf ((RelativePath.text_sublist hPath).subset hZero)

theorem fits_entriesAt {m : Manifest} {paths : List RelativePath}
    (hClear : ∀ f ∈ m.files, '\x00' ∉ f.path.toList) (hRange : m.InRange)
    (hPaths : Accepted m.files paths) :
    ∀ e ∈ entriesAt m.archiveTime paths m.files, e.Fits := by
  intro e he
  obtain ⟨⟨p, f⟩, hPair, rfl⟩ := List.mem_map.mp he
  obtain ⟨hp, hf⟩ := List.of_mem_zip hPair
  have hPath : RelativePath.parse f.path = .ok p :=
    (List.forall₂_iff_zip.mp hPaths.flip).2 hPair
  have hLimit : wordLimit + 1 < Nat.pow 256 11 := by decide
  have hName : (Tar.bytesOf p.text).length < wordLimit := by
    have hShorter := Text.byteLength_le_of_sublist (RelativePath.text_sublist hPath)
    have hRaw := hRange.path f hf
    rw [← Text.byteLength_toList] at hRaw
    rw [Tar.length_bytesOf]
    omega
  refine ⟨zero_not_mem_text hClear hPaths p hp, ?_, ?_, ?_⟩
  · change (Tar.bytesOf p.text ++ [0]).length < _
    rw [List.length_append, List.length_singleton]
    omega
  · have hContent := hRange.content f hf
    change f.content.utf8ByteSize < _
    omega
  · have hTime := hRange.time
    change m.provenance.generatedAt.seconds.toNat < _
    omega

/-- Where no path holds a zero character, a manifest is packed exactly when its paths are accepted
and differ. Its archive is read back as one regular file for each file of the manifest, in order. -/
theorem package_round_trip {m : Manifest} (hClear : ∀ f ∈ m.files, '\x00' ∉ f.path.toList)
    (hRange : m.InRange) :
    ((∃ package, m.package = .ok package) ↔ ∃ paths, Accepted m.files paths ∧ paths.Nodup) ∧
      ∀ package, m.package = .ok package →
        ∃ paths, Accepted m.files paths ∧ paths.Nodup ∧
          Tar.namedMembers? package.tar = some ((paths.zip m.files).map fun e =>
            { name := Tar.bytesOf e.1.text, typeFlag := 0x30, mode := 0o644,
              size := (Tar.bytesOf e.2.content).length,
              time := m.provenance.generatedAt.seconds.toNat,
              body := Tar.bytesOf e.2.content }) := by
  have hAccepted : ∀ package, m.package = .ok package →
      ∃ paths, Accepted m.files paths ∧ paths.Nodup := by
    intro package hPackage
    rw [Manifest.package] at hPackage
    split at hPackage
    next => cases hPackage
    next packed hEntries =>
      obtain ⟨paths, hPaths, hDistinct, _⟩ := accepted_of_entries hEntries
      exact ⟨paths, hPaths, hDistinct⟩
  refine ⟨⟨?_, ?_⟩, ?_⟩
  · rintro ⟨package, hPackage⟩
    exact hAccepted package hPackage
  · rintro ⟨paths, hPaths, hDistinct⟩
    exact ⟨_, package_ok hPaths hDistinct (zero_not_mem_text hClear hPaths)⟩
  · intro package hPackage
    obtain ⟨paths, hPaths, hDistinct⟩ := hAccepted package hPackage
    have hOk := package_ok hPaths hDistinct (zero_not_mem_text hClear hPaths)
    obtain rfl := Except.ok.inj (hPackage.symm.trans hOk)
    refine ⟨paths, hPaths, hDistinct, ?_⟩
    rw [Tar.namedMembers?_archive (fits_entriesAt hClear hRange hPaths), entriesAt, List.map_map]
    rfl

/-- The first name does not fit into a header, and one of its characters, of two bytes, stands at
the limit. The second file is empty. -/
def longNameExample : Manifest where
  id := ""
  files :=
    [⟨"", "./" ++ String.ofList (List.replicate 99 'a') ++ "é//b", "text", ""⟩,
      ⟨"", "c", "", ""⟩]
  provenance := ⟨"", "", "", ⟨-1, 0⟩, {}⟩

theorem package_round_trip_long_name :
    (∀ f ∈ longNameExample.files, '\x00' ∉ f.path.toList) ∧ longNameExample.InRange ∧
      ∃ package, longNameExample.package = .ok package ∧
        Tar.namedMembers? package.tar = some
          [{ name := List.replicate 99 0x61 ++ [0xc3, 0xa9, 0x2f, 0x62], typeFlag := 0x30,
             mode := 0o644, size := 4, time := 0, body := [0x74, 0x65, 0x78, 0x74] },
           { name := [0x63], typeFlag := 0x30,
             mode := 0o644, size := 0, time := 0, body := [] }] := by
  have hClear : ∀ f ∈ longNameExample.files, '\x00' ∉ f.path.toList := by decide +kernel
  have hRange : longNameExample.InRange :=
    ⟨by decide +kernel, by decide +kernel, by decide⟩
  have hLong : RelativePath.parse ("./" ++ String.ofList (List.replicate 99 'a') ++ "é//b") =
      .ok ⟨[List.replicate 99 'a' ++ ['é'], ['b']]⟩ := by
    decide +kernel
  have hShort : RelativePath.parse "c" = .ok ⟨[['c']]⟩ := by decide +kernel
  obtain ⟨hAccepts, hReads⟩ := package_round_trip hClear hRange
  obtain ⟨package, hPackage⟩ := hAccepts.mpr
    ⟨[⟨[List.replicate 99 'a' ++ ['é'], ['b']]⟩, ⟨[['c']]⟩],
      .cons hLong (.cons hShort .nil), by decide +kernel⟩
  refine ⟨hClear, hRange, package, hPackage, ?_⟩
  obtain ⟨paths, hPaths, -, hMembers⟩ := hReads package hPackage
  rw [hMembers]
  cases hPaths with
  | cons hFirst hRest =>
    obtain rfl := Except.ok.inj (hLong.symm.trans hFirst)
    cases hRest with
    | cons hSecond hEnd =>
      obtain rfl := Except.ok.inj (hShort.symm.trans hSecond)
      cases hEnd
      decide +kernel

end Manifest

end Boilerplate
