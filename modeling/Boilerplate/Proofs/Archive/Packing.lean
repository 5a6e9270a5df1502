import Boilerplate.Archive.Packing
import Boilerplate.Proofs.Export.Runs

/-! # Packing of manifests

A manifest is packed when its paths are accepted, differ from each other and hold no zero character.
-/

namespace Boilerplate

namespace Tar

theorem bytesOf_eq_flatMap (s : String) : bytesOf s = s.toList.flatMap String.utf8EncodeChar := by
  rw [bytesOf, String.toUTF8_eq_toByteArray, ← String.utf8Encode_toList, List.utf8Encode,
    List.data_toByteArray]

theorem zero_eq_ofNat_iff {n : Nat} : 0 = UInt8.ofNat n ↔ n % 256 = 0 := by
  rw [← UInt8.toNat_inj, UInt8.toNat_ofNat', eq_comm]
  rfl

/-- The bytes of a character of several bytes are marked, so that none of them is zero. -/
theorem zero_mem_utf8EncodeChar {c : Char} (h : 0 ∈ String.utf8EncodeChar c) : c = '\x00' := by
  simp only [String.utf8EncodeChar] at h
  split at h
  next hAscii =>
    rw [List.mem_singleton, zero_eq_ofNat_iff] at h
    have hZero : c.toNat = 0 := by
      change c.val.toNat = 0
      omega
    rw [← Char.ofNat_toNat c, hZero]
  next =>
    exfalso
    split at h
    on_goal 2 => split at h
    all_goals
      simp only [List.mem_cons, List.not_mem_nil, or_false, zero_eq_ofNat_iff] at h
      omega

theorem zero_not_mem_bytesOf {s : String} (h : '\x00' ∉ s.toList) : 0 ∉ bytesOf s := by
  rw [bytesOf_eq_flatMap, List.mem_flatMap]
  rintro ⟨c, hc, hZero⟩
  exact h (zero_mem_utf8EncodeChar hZero ▸ hc)

theorem takeBytes_subset (n : Nat) (s : List Char) : takeBytes n s ⊆ s := by
  induction s generalizing n with
  | nil => exact List.nil_subset _
  | cons c rest ih =>
    rw [takeBytes]
    split
    · exact List.cons_subset_cons c (ih _)
    · exact List.nil_subset _

theorem mem_of_mem_storedName {name : List Char} {c : Char} (h : c ∈ storedName name) :
    c ∈ name := by
  rw [storedName] at h
  split at h
  next rest hReversed =>
    rw [← List.mem_reverse, hReversed]
    exact List.mem_cons_of_mem _ (List.mem_cons_of_mem _ (List.mem_reverse.mp h))
  · exact h

theorem Entry.hasZero_eq_false {e : Entry} (h : '\x00' ∉ e.name.toList) : e.hasZero = false := by
  rw [hasZero, headerName, List.contains_eq_mem, decide_eq_false_iff_not]
  split
  · apply zero_not_mem_bytesOf
    rw [String.toList_ofList]
    intro hMem
    exact h (takeBytes_subset _ _ (mem_of_mem_storedName hMem))
  · exact zero_not_mem_bytesOf h

end Tar

namespace Manifest

open Export (Accepted)

/-- The entries of files at their accepted paths. -/
def entriesAt (time : Nat) (paths : List RelativePath) (files : List GeneratedFile) :
    List Tar.Entry :=
  (paths.zip files).map fun e => ⟨e.1.text, e.2.content, time⟩

theorem entries_ok {files : List GeneratedFile} {paths : List RelativePath} {time : Nat}
    (hPaths : Accepted files paths) (hDistinct : paths.Nodup)
    (hZero : ∀ p ∈ paths, '\x00' ∉ p.text.toList) {seen : List RelativePath}
    (hNew : ∀ p ∈ paths, p ∉ seen) :
    entries time seen files = .ok (entriesAt time paths files) := by
  induction hPaths generalizing seen with
  | nil => rfl
  | @cons f p files paths hPath _ ih =>
    rw [List.forall_mem_cons] at hZero hNew
    rw [List.nodup_cons] at hDistinct
    have hRest : entries time (p :: seen) files = .ok (entriesAt time paths files) := by
      apply ih hDistinct.2 hZero.2
      intro q hq
      rw [List.mem_cons, not_or]
      exact ⟨fun hSame => hDistinct.1 (hSame ▸ hq), hNew.2 q hq⟩
    have hClear : (⟨p.text, f.content, time⟩ : Tar.Entry).hasZero = false :=
      Tar.Entry.hasZero_eq_false hZero.1
    rw [entries, hPath]
    simp only [List.contains_eq_mem, hNew.1, decide_false, hClear, Bool.false_eq_true, if_false,
      hRest]
    rfl

theorem package_ok {m : Manifest} {paths : List RelativePath} (hPaths : Accepted m.files paths)
    (hDistinct : paths.Nodup) (hZero : ∀ p ∈ paths, '\x00' ∉ p.text.toList) :
    m.package = .ok ⟨m.archiveStem ++ ".tar.gz", "application/gzip",
      Tar.archive (entriesAt m.archiveTime paths m.files)⟩ := by
  rw [package, entries_ok hPaths hDistinct hZero fun _ _ => List.not_mem_nil]

end Manifest

end Boilerplate
