import Resources.Proofs.Handle.File
import Resources.Proofs.Path.Composition
import Resources.Proofs.Path.Shown

/-! Files beside a file. A relative path is read from what is shown of the path of a handle, and what is
shown of it is a path again. -/
namespace Resources.FileHandle

open Resources.Path (cleanText directory unify)

variable {p b : FilePath} {c : Char} {r : String} {t : List Char} {w : World}

/-- The path of a handle is the one that it was made of, or a text that was cleaned. -/
theorem path_of_cases (p : FilePath) : (FileHandle.of p).path = p ∨
    ∃ t, p = .ofText t ∧ (FileHandle.of p).path = .ofText (cleanText t) := by
  cases ht : Utf8.decode? p.bytes with
  | none => exact Or.inl (by simp [FileHandle.of, FilePath.text?, ht])
  | some t =>
    have hp : p = .ofText t := congrArg FilePath.mk (Utf8.decode?_eq_some.1 ht)
    refine Or.inr ⟨t, hp, ?_⟩
    rw [hp, of_ofText]

theorem not_mem_path (hc : c.toNat < 0x80) (hs : c ≠ '/') (h : c.toNat.toUInt8 ∉ p.bytes) :
    c.toNat.toUInt8 ∉ (FileHandle.of p).path.bytes := by
  rcases path_of_cases p with hp | ⟨t, rfl, hp⟩
  · rwa [hp]
  · rw [hp]
    rw [FilePath.bytes_ofText, Utf8.toUInt8_mem_encode hc] at h ⊢
    intro hmem
    rcases Path.mem_unify ((Path.cleanText_sublist t).subset hmem) with hmem | ⟨hslash, -⟩
    · exact h hmem
    · exact hs hslash

theorem relative_eq_beside (hb : 0x5C ∉ p.bytes) (hne : r ≠ "")
    (hs : ∀ c ∈ r.toList.head?, c ≠ '/' ∧ c ≠ '\\') : (FileHandle.of p).relative r =
      .ok (.of (.ofText (cleanText ((FileHandle.of p).path.beside r.toList).lossy.toList))) := by
  have hback : 0x5C ∉ (FileHandle.of p).path.bytes :=
    not_mem_path (c := '\\') (by decide) (by decide) hb
  have hnil : r.toList ≠ [] := by simpa using hne
  rw [relative, shown_of, Path.relative, Path.relativeText_eq hnil,
    Path.composed_of_relative (Path.head?_unify_ne hs),
    Path.unify_eq_self (FilePath.backslash_not_mem_lossy hback), ← FilePath.lossy_beside hback]
  simp [FilePath.ofString_eq]

/-- A text that is made a handle leads where it leads before it is cleaned. -/
theorem path_of_shown (hcolon : ':' ∉ t) (hback : '\\' ∉ t) : ∃ u,
    (FileHandle.of (.ofText (cleanText t))).path = .ofText u ∧
      (u.head? = some '/' ↔ t.head? = some '/') ∧
        ∀ place, Path.walk place u = Path.walk place t := by
  have hclean : ':' ∉ cleanText t := Path.colon_not_mem_cleanText hcolon
  refine ⟨cleanText (cleanText t), by rw [of_ofText], ?_, fun place => ?_⟩
  · rw [Path.head?_cleanText hclean, Path.unify_cleanText, Path.head?_cleanText hcolon,
      Path.unify_eq_self hback]
  · rw [Path.walk_cleanText hclean, Path.unify_cleanText, Path.walk_cleanText hcolon,
      Path.unify_eq_self hback]

theorem walk_of_shown (hcolon : 0x3A ∉ b.bytes) (hback : 0x5C ∉ b.bytes) :
    (∀ place, (FileHandle.of (.ofText (cleanText b.lossy.toList))).path.walk
      (place.map FilePath.reshown) = (b.walk place).map FilePath.reshown) ∧
    ((∀ place, (FileHandle.of (.ofText (cleanText b.lossy.toList))).path.walk place = b.walk place) ↔
      ∀ name ∈ b.walk [], FilePath.IsText name) := by
  have hshown : ':' ∉ b.lossy.toList := FilePath.not_mem_lossy (by decide) (by decide) hcolon
  obtain ⟨u, hu, hroot, hwalk⟩ := path_of_shown hshown (FilePath.backslash_not_mem_lossy hback)
  have hrooted : (FilePath.ofText u).isRooted = b.isRooted := by
    rw [Bool.eq_iff_iff, FilePath.isRooted_ofText, beq_iff_eq, hroot, FilePath.head?_lossy hback]
  rw [hu]
  exact FilePath.walk_reshown hback hrooted hwalk

/-- A relative path leads beside the file of the handle, over names as they are shown. That is the path
beside the file, as the directory has it, just if all names on it are texts: what is shown of any other
name does not have its bytes. -/
theorem relative_beside_iff (hcolon : 0x3A ∉ p.bytes) (hback : 0x5C ∉ p.bytes) (hne : r ≠ "")
    (hr : ':' ∉ r.toList) (hs : ∀ c ∈ r.toList.head?, c ≠ '/' ∧ c ≠ '\\') :
    ∃ h : FileHandle, (FileHandle.of p).resource.relative r w = (.ok (.file h), w) ∧
      (∀ place, h.path.walk (place.map FilePath.reshown) =
        (((FileHandle.of p).path.beside r.toList).walk place).map FilePath.reshown) ∧
      ((∀ place, h.path.walk place = ((FileHandle.of p).path.beside r.toList).walk place) ↔
        ∀ name ∈ ((FileHandle.of p).path.beside r.toList).walk [], FilePath.IsText name) := by
  have hrelative := relative_eq_beside hback hne hs
  have hcolon' : 0x3A ∉ ((FileHandle.of p).path.beside r.toList).bytes :=
    FilePath.not_mem_beside (c := ':') (by decide)
      (not_mem_path (c := ':') (by decide) (by decide) hcolon) (Path.colon_not_mem_unify hr)
  have hback' : 0x5C ∉ ((FileHandle.of p).path.beside r.toList).bytes :=
    FilePath.not_mem_beside (c := '\\') (by decide)
      (not_mem_path (c := '\\') (by decide) (by decide) hback) Path.backslash_not_mem_unify
  refine ⟨_, ?_, walk_of_shown hcolon' hback'⟩
  change (Handle.file <$> Attempt.ofExcept ((FileHandle.of p).relative r)) w = _
  rw [hrelative]
  rfl

/-- Below `d`, a directory whose name is no text, and a file in it. -/
def unreadable : FilePath := ⟨[0x64, 0x2F, 0x80, 0x2F, 0x61]⟩

/-- Where a name that is no text is climbed out of again, it does not matter how it is shown. -/
theorem relative_beside_iff_climbing : (0x3A ∉ unreadable.bytes ∧ 0x5C ∉ unreadable.bytes) ∧
    ∃ h : FileHandle, (FileHandle.of unreadable).resource.relative "..\\b" drivesWorld =
        (.ok (.file h), drivesWorld) ∧
      ∀ place, h.path.walk place = ((FileHandle.of unreadable).path.beside "..\\b".toList).walk place := by
  have hcolon : 0x3A ∉ unreadable.bytes := by decide
  have hback : 0x5C ∉ unreadable.bytes := by decide
  obtain ⟨h, hrelative, -, hiff⟩ := relative_beside_iff (r := "..\\b") (w := drivesWorld) hcolon hback
    (by decide) (by decide) (by simp)
  have hwalk : ((FileHandle.of unreadable).path.beside "..\\b".toList).walk [] =
      [Utf8.encode ['b'], Utf8.encode ['d']] := by decide
  have htext : ∀ name ∈ ((FileHandle.of unreadable).path.beside "..\\b".toList).walk [],
      FilePath.IsText name := by
    rw [hwalk]
    simp [FilePath.IsText]
  exact ⟨⟨hcolon, hback⟩, h, hrelative, hiff.2 htext⟩

/-- Beside the file itself, the relative path leads to another directory: the one whose name is what is
shown for the name that is no text. -/
theorem relative_beside_elsewhere : (0x3A ∉ unreadable.bytes ∧ 0x5C ∉ unreadable.bytes) ∧
    ∃ h : FileHandle, (FileHandle.of unreadable).resource.relative "b" drivesWorld =
        (.ok (.file h), drivesWorld) ∧
      h.path.walk [] = [Utf8.encode ['b'], Utf8.encode ['\ufffd'], Utf8.encode ['d']] ∧
      ((FileHandle.of unreadable).path.beside "b".toList).walk [] =
        [Utf8.encode ['b'], [0x80], Utf8.encode ['d']] := by
  refine ⟨by decide, ⟨"d/\ufffd/b", .ofString "d/\ufffd/b"⟩, ?_, ?_, ?_⟩
  · rfl
  · decide
  · decide

end Resources.FileHandle
