import Resources.Handle.File
import Resources.Proofs.Disk.Cleaned
import Resources.Proofs.Disk.Nodes
import Resources.Proofs.Resource.Reading
import Resources.Proofs.Text.Lossy

/-! File handles and what their path leads to on the disk. -/
namespace Resources.FileHandle

open Resources.Path (clean cleanText KeepsDrive)

variable {h : FileHandle} {w : World} {n : Node} {m : Nat} {t : String}

theorem of_ofText (p : List Char) :
    FileHandle.of (.ofText p) = ⟨clean (.ofList p), .ofText (cleanText p)⟩ := by
  simp [FileHandle.of, FilePath.ofString_eq]

theorem of_ofString (t : String) :
    FileHandle.of (.ofString t) = ⟨clean t, .ofString (clean t)⟩ := by
  simp [FilePath.ofString_eq, of_ofText]

/-- A handle shows its path, with a mark for what is no text. -/
theorem shown_of (p : FilePath) : (FileHandle.of p).shown = (FileHandle.of p).path.lossy := by
  unfold FileHandle.of
  split
  · simp [FilePath.lossy, FilePath.ofString_eq, clean]
  · rfl

theorem of_eq_of_path {p q : FilePath} (h : (FileHandle.of p).path = (FileHandle.of q).path) :
    FileHandle.of p = FileHandle.of q := by
  have hshown : (FileHandle.of p).shown = (FileHandle.of q).shown := by
    rw [shown_of, shown_of, h]
  generalize FileHandle.of p = x at *
  generalize FileHandle.of q = y at *
  cases x
  cases y
  simp_all

theorem present_of_find (hf : w.disk.find h.path = .ok n) : (h.resource.present w).1 = true :=
  Disk.holds_iff.2 ⟨n, hf⟩

theorem readable_of_find (hf : w.disk.find h.path = .ok n) :
    (h.resource.readable w).1 = decide (n ≠ .directory) := by
  change w.disk.holdsFile h.path = _
  rw [Bool.eq_iff_iff, Disk.holdsFile_iff, hf]
  cases n <;> simp

theorem readBytes_of_find (hf : w.disk.find h.path = .ok (.file m)) :
    (h.resource.readBytes w).1 = .ok (w.disk.body m).content := by
  have ho : h.resource.openStream w = (.ok (.file m 0), w) := by
    change (h.openStream w.disk, w) = _
    rw [openStream, hf]
  rw [Resource.readBytes_of_open ho, Stream.take_none (by trivial)]
  rfl

/-- What a path leads to is what its handle finds, reads and answers for, as long as cleaning leaves
something of the path and keeps its drive. -/
theorem cleaning_keeps_target (ht : '\\' ∉ t.toList) (hc : clean t ≠ "")
    (hk : KeepsDrive t.toList) (hf : w.disk.find (.ofString t) = .ok n) :
    ((FileHandle.of (.ofString t)).resource.present w).1 = true ∧
    ((FileHandle.of (.ofString t)).resource.readable w).1 = decide (n ≠ .directory) ∧
    ∀ m, n = .file m →
      ((FileHandle.of (.ofString t)).resource.readBytes w).1 = .ok (w.disk.body m).content := by
  have hclean : w.disk.find (FileHandle.of (.ofString t)).path = .ok n := by
    rw [of_ofString]
    exact Disk.find_clean ht hc hk hf
  refine ⟨present_of_find hclean, readable_of_find hclean, ?_⟩
  rintro m rfl
  exact readBytes_of_find hclean

/-- Nothing is found at a path of which cleaning leaves nothing. -/
theorem absent_of_clean_eq_empty (hc : clean t = "") :
    ((FileHandle.of (.ofString t)).resource.present w).1 = false := by
  change w.disk.holds (FileHandle.of (.ofString t)).path = false
  rw [Bool.eq_false_iff, Ne, Disk.holds_iff, of_ofString, hc]
  rintro ⟨n, hf⟩
  obtain ⟨l, hl, -⟩ := Disk.find_eq_ok.1 hf
  exact (Disk.resolve_eq_ok.1 hl).2.1 rfl

/-- Directories and files with the names of drives, and one file outside them. -/
def drivesWorld : World where
  disk :=
    { entries := [([Utf8.encode "C:".toList], .directory),
        ([Utf8.encode "C:a".toList], .directory),
        ([Utf8.encode "b".toList, Utf8.encode "C:a".toList], .directory),
        ([Utf8.encode "in.txt".toList, Utf8.encode "C:a".toList], .file 0),
        ([Utf8.encode "out.txt".toList], .file 1)]
      bodies := [⟨[0x61], .epoch⟩, ⟨[0x62], .epoch⟩]
      home := [] }
  web := ⟨[], false⟩
  sent := []
  built := []
  taken := []
  next := 0

theorem cleaning_keeps_target_behind_drive :
    drivesWorld.disk.find (.ofString "C:a//b/../in.txt") = .ok (.file 0) ∧
    ((FileHandle.of (.ofString "C:a//b/../in.txt")).resource.readBytes drivesWorld).1 =
      .ok [0x61] := by
  have hf : drivesWorld.disk.find (.ofString "C:a//b/../in.txt") = .ok (.file 0) := rfl
  obtain ⟨-, -, hb⟩ := cleaning_keeps_target (by decide) (by decide) (by decide) hf
  exact ⟨hf, hb 0 rfl⟩

/-- A path of which nothing is left, and a path that climbs back over its drive, lead to something
that their handles do not find. -/
theorem cleaning_loses_target :
    drivesWorld.disk.find (.ofString ".") = .ok .directory ∧
    ((FileHandle.of (.ofString ".")).resource.present drivesWorld).1 = false ∧
    drivesWorld.disk.find (.ofString "C:/../out.txt") = .ok (.file 1) ∧
    ((FileHandle.of (.ofString "C:/../out.txt")).resource.present drivesWorld).1 = false := by
  decide

end Resources.FileHandle
