import Resources.Loader
import Resources.Proofs.Handle.File
import Resources.Proofs.Path.Climbs
import Resources.Proofs.Path.Spellings

/-! Locations below a base directory. Reading one is walking on from the base, whatever separators or
drive the location begins with. -/
namespace Resources

namespace Path

variable {p q t : List Char} {place : List Segment}

/-! ### Walks below a directory -/

theorem walk_append_end (hp : p ≠ []) : walk place (p ++ ['/']) = walk place p := by
  obtain ⟨c, p, rfl⟩ := List.exists_cons_of_ne_nil hp
  rw [walk, walk, segments_append_end, List.foldl_append]
  simp

theorem walk_append_slash (p q : List Char) :
    walk place (p ++ '/' :: q) = (segments q).foldl step (walk place (p ++ ['/'])) := by
  have hhead : (p ++ '/' :: q).head? = (p ++ ['/']).head? := by cases p <;> rfl
  rw [walk, walk, segments_append_slash, segments_append_end, List.foldl_append, List.foldl_append,
    hhead]
  simp

/-- A directory ends in a slash, its own or one that is put behind it. -/
theorem asDirectory_cases (ht : t ≠ []) :
    ∃ above, asDirectory t = above ++ ['/'] ∧ (t = above ∨ t = above ++ ['/']) := by
  unfold asDirectory
  split
  · rename_i h
    obtain ⟨above, habove⟩ := List.getLast?_eq_some_iff.1 (h.resolve_left ht)
    exact ⟨above, habove, Or.inr habove⟩
  · exact ⟨t, rfl, Or.inl rfl⟩

/-- What is joined to a directory does not reach into its drive, and makes none. -/
theorem drive_asDirectory_append (ht : t ≠ []) (q : List Char) :
    drive (asDirectory t ++ q) = drive t := by
  obtain ⟨above, hdir, htext⟩ := asDirectory_cases ht
  have hsplit (r : List Char) : drive (above ++ '/' :: r) = drive above := by
    change (splitDrive (unify (above ++ '/' :: r))).1 = (splitDrive (unify above)).1
    have hunify : unify (above ++ '/' :: r) = unify above ++ '/' :: unify r := by simp [unify]
    rw [hunify, splitDrive_append_slash]
  have hjoin : asDirectory t ++ q = above ++ '/' :: q := by simp [hdir]
  rw [hjoin, hsplit]
  rcases htext with rfl | rfl
  · rfl
  · exact (hsplit []).symm

theorem walk_asDirectory_append (ht : t ≠ []) (q : List Char) :
    walk place (unify (asDirectory t ++ q)) =
      (segments (unify q)).foldl step (walk place (unify t)) := by
  obtain ⟨above, hdir, htext⟩ := asDirectory_cases ht
  have hjoin : unify (asDirectory t ++ q) = unify above ++ '/' :: unify q := by
    simp [hdir, unify]
  rw [hjoin, walk_append_slash]
  rcases htext with rfl | rfl
  · rw [walk_append_end (by simpa [unify] using ht)]
  · rw [unify_append]
    rfl

theorem head?_asDirectory_append (ht : t ≠ []) (q : List Char) :
    (asDirectory t ++ q).head? = t.head? := by
  obtain ⟨c, t, rfl⟩ := List.exists_cons_of_ne_nil ht
  unfold asDirectory
  split <;> rfl

theorem walk_of_relative (hp : p.head? ≠ some '/') :
    walk place p = (segments p).foldl step place := by
  rw [walk, if_neg hp]

end Path

namespace Loader

open Resources.Path (Ordinary Overclimbs Simplest asDirectory clean drive plain rest segments unify walk)

variable {l : Loader} {b s : String}

theorem handle_of_path (hm : ¬ classPathMark <+: s.toList)
    (hu : ∀ u, Url.parse s = .ok u → String.ofList u.scheme ∉ schemes) :
    l.handle s = l.pathHandle s := by
  have hmark : classPathMark.isPrefixOf s.toList = false := by
    rwa [Bool.eq_false_iff, Ne, List.isPrefixOf_iff_prefix]
  have hurl : url? s = none := by
    unfold url?
    cases hp : Url.parse s with
    | error e => rfl
    | ok u => simpa [Except.toOption, Option.filter] using hu u hp
  rw [handle, hmark, hurl]

/-- The location without the separators in front of it. -/
def below (s : String) : List Char := s.toList.dropWhile Url.isSlash

theorem head?_below (s : String) : (unify (below s)).head? ≠ some '/' := by
  refine Path.head?_unify_ne fun c hc => ?_
  have hstop := List.head?_dropWhile_not Url.isSlash s.toList
  have hhead : (s.toList.dropWhile Url.isSlash).head? = some c := hc
  rw [hhead] at hstop
  simpa [Url.isSlash] using hstop

theorem pathHandle_below (hb : l.baseDir = some (.ofString b)) : l.pathHandle s =
    .file (.of (.ofString (.ofList (asDirectory b.toList ++ below s)))) := by
  have hh : (below s).head? ≠ some '/' := fun hh => head?_below s (Path.head?_unify.2 (Or.inl hh))
  have hjoin : (FilePath.ofString b).join (.ofText (below s)) =
      .ofString (.ofList (asDirectory b.toList ++ below s)) := by
    rw [FilePath.ofString_eq, FilePath.ofString_eq, String.toList_ofList, FilePath.join_ofText hh]
  rw [← hjoin, pathHandle, hb]
  rfl

/-- A location that is no URL and no name on the class path is a file below the base directory. Its
path is written in the simplest way and walks on from the base as the location says. A drive in the
location is a name like any other, and what leads out of the base is only the climbs that the
location has more than names. -/
theorem handle_below_base (hb : l.baseDir = some (.ofString b)) (hne : b ≠ "")
    (hd : drive b.toList = []) (hm : ¬ classPathMark <+: s.toList)
    (hu : ∀ u, Url.parse s = .ok u → String.ofList u.scheme ∉ schemes) :
    ∃ p : String, l.handle s = .file ⟨p, .ofString p⟩ ∧
      (p.toList.head? = some '/' ↔ b.toList.head? = some '/' ∨ b.toList.head? = some '\\') ∧
      Simplest p.toList ∧
      (∀ place, walk place p.toList = walk (walk place (unify b.toList)) (unify (below s))) ∧
      ∃ (climbs : Nat) (names : List Path.Segment), (∀ name ∈ names, Ordinary name) ∧
        (climbs ≠ 0 ↔ Overclimbs (segments (unify (below s)))) ∧
        ∀ place, walk place p.toList =
          names.reverse ++ (walk place (unify b.toList)).drop climbs := by
  have hne : b.toList ≠ [] := by rwa [Ne, String.toList_eq_nil_iff]
  have hdrive := (Path.drive_asDirectory_append hne (below s)).trans hd
  have hhead := Path.head?_asDirectory_append hne (below s)
  have hbelow (place : List Path.Segment) :
      walk place (unify (asDirectory b.toList ++ below s)) =
        (segments (unify (below s))).foldl Path.step (walk place (unify b.toList)) :=
    Path.walk_asDirectory_append hne (below s)
  have hhandle := (handle_of_path hm hu).trans (pathHandle_below hb)
  generalize asDirectory b.toList ++ below s = path at hdrive hhead hbelow hhandle
  have hrest : rest path = unify path := by
    rw [← Path.drive_append_rest, hdrive, List.nil_append]
  have hclean : (clean (.ofList path)).toList = plain path := by
    rw [Path.toList_clean, String.toList_ofList, Path.cleanText_eq, hdrive, List.nil_append]
  have hwalk (place : List Path.Segment) : walk place (plain path) =
      (segments (unify (below s))).foldl Path.step (walk place (unify b.toList)) := by
    rw [Path.walk_plain, hrest, hbelow]
  refine ⟨clean (.ofList path), ?_, ?_, ?_, ?_, ?_⟩
  · rw [hhandle, FileHandle.of_ofString]
  · rw [hclean, Path.rooted_plain, Path.rooted_eq, hrest, beq_iff_eq, Path.head?_unify, hhead]
  · rw [hclean]
    exact Path.simplest_plain path
  · intro place
    rw [hclean, hwalk, Path.walk_of_relative (head?_below s)]
  · obtain ⟨climbs, names, hnames, hclimbs, hstep⟩ :=
      Path.foldl_step_eq (segments (unify (below s)))
    refine ⟨climbs, names, hnames, hclimbs.symm, fun place => ?_⟩
    rw [hclean, hwalk, hstep]

/-- A loader with a base directory that is spelled with a backslash. -/
def appLoader : Loader :=
  ⟨some (.ofString "srv\\app"), ⟨0, .empty⟩, ⟨1, Settings.standard.timeout⟩⟩

/-- A drive behind the first separators is a name, and one climb more than names leaves the base. -/
theorem handle_below_base_app :
    appLoader.handle "\\/C:/../../D:\\.//x" =
      .file ⟨"srv/D:/x", .ofString "srv/D:/x"⟩ ∧
    ∀ place, walk place "srv/D:/x".toList =
      walk (walk place (unify "srv\\app".toList)) (unify "C:/../../D:\\.//x".toList) := by
  have hu : ∀ u, Url.parse "\\/C:/../../D:\\.//x" = .ok u → String.ofList u.scheme ∉ schemes := by
    intro u hu
    cases hu
  obtain ⟨p, hp, -, -, hwalk, -⟩ := handle_below_base (l := appLoader) (b := "srv\\app")
    (s := "\\/C:/../../D:\\.//x") rfl (by decide) (by decide) (by decide) hu
  have hpath : appLoader.handle "\\/C:/../../D:\\.//x" =
      .file ⟨"srv/D:/x", .ofString "srv/D:/x"⟩ := by decide
  refine ⟨hpath, ?_⟩
  have hsame : p = "srv/D:/x" := by
    rw [hpath, Handle.file.injEq, FileHandle.mk.injEq] at hp
    exact hp.1.symm
  rw [hsame] at hwalk
  exact hwalk

end Loader

end Resources
