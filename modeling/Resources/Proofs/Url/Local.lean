import Resources.Proofs.Path.Names
import Resources.Proofs.Url.Percent
import Resources.Url.Local

/-! File paths as URLs and back. The path of the URL of names is the rooted path with these names,
and it goes on with a slash where its end looks like a drive. -/
namespace Resources

variable {names : List Bytes} {p : FilePath} {ss : List Path.Segment}

namespace FilePath

/-- Does the path end in a letter and a colon or bar, with something before them? -/
def EndsInDrive (p : FilePath) : Prop :=
  ∃ above c m, above ≠ [] ∧ p.bytes = above ++ [c, m] ∧
    Url.isDrive [Char.ofNat c.toNat, Char.ofNat m.toNat] = true

end FilePath

namespace Url

open FilePath (slash EndsInDrive slashed)

/-- A path goes on with a slash where it ends like a drive. -/
theorem endDrive_of_endsInDrive (h : p.EndsInDrive) : endDrive p.bytes = p.slashed.bytes := by
  obtain ⟨above, c, m, hne, hb, hdrive⟩ := h
  obtain ⟨before, a, rfl⟩ := (List.eq_nil_or_concat' above).resolve_left hne
  simp [endDrive, hb, hdrive, slashed]

theorem endDrive_of_not_endsInDrive (h : ¬ p.EndsInDrive) : endDrive p.bytes = p.bytes := by
  unfold endDrive
  split
  · rename_i m c a before hr
    rw [if_neg]
    intro hdrive
    have hb : p.bytes = (a :: before).reverse ++ [c, m] := by
      rw [← List.reverse_reverse p.bytes, hr]
      simp
    exact h ⟨_, c, m, by simp, hb, hdrive⟩
  · rfl

theorem endsInDrive_iff : p.EndsInDrive ↔ endDrive p.bytes ≠ p.bytes := by
  constructor
  · intro h he
    have hlength := congrArg List.length ((endDrive_of_endsInDrive h).symm.trans he)
    simp [slashed] at hlength
  · intro h
    by_contra hnot
    exact h (endDrive_of_not_endsInDrive hnot)

instance (p : FilePath) : Decidable p.EndsInDrive := decidable_of_iff _ endsInDrive_iff.symm

theorem filePath?_ofNames (names : List Bytes) :
    (Url.ofNames names).filePath? = some ⟨endDrive (FilePath.ofNames names).bytes⟩ := by
  have hfile : (Url.ofNames names).isFile = true := rfl
  have hhost : (Url.ofNames names).host? = none := rfl
  have hpath : (Url.ofNames names).path = .segments
      (if names = [] then [[]] else names.map (Percent.encodeBytes Percent.nameSet)) := by
    cases names <;> rfl
  unfold filePath?
  rw [hfile, hhost, hpath]
  by_cases hnil : names = []
  · subst hnil
    rfl
  · simp only [if_neg hnil, FilePath.ofNames, List.flatMap_map,
      Percent.decode_encodeBytes Percent.invertible_nameSet]

/-- The path of a cleaned path's URL is that path, but for a slash where it ends like a drive. -/
theorem filePath?_ofFilePath {t : List Char} (hclean : Path.cleanText t = t)
    (hroot : t.head? = some '/') (hend : t = ['/'] ∨ t.getLast? ≠ some '/') :
    ∃ u, ofFilePath? (.ofText t) = some u ∧
      u.filePath? = some ⟨endDrive (FilePath.ofText t).bytes⟩ := by
  have hrooted : (FilePath.ofText t).isRooted = true := by simp [hroot]
  refine ⟨Url.ofNames (FilePath.ofText t).names, by simp [ofFilePath?, hrooted], ?_⟩
  rcases FilePath.ofText_clean_cases hroot with ⟨hbase, -⟩ | ⟨-, ht, hn⟩
  · rw [hclean] at hbase
    rw [filePath?_ofNames, ← hbase]
  · exfalso
    have hspelled := FilePath.cleanText_of_slash hroot
    rw [hclean, if_pos ⟨ht, hn⟩] at hspelled
    rcases hend with rfl | hend
    · exact hn rfl
    · apply hend
      rw [hspelled]
      exact List.getLast?_concat

end Url

end Resources
