import Resources.Loader
import Resources.Proofs.ClassPath.Bundle
import Resources.Proofs.ClassPath.Containment
import Resources.Proofs.Handle.Readable
import Resources.Proofs.Loader.Location

/-! Paths and names that are given back: what a handle shows, or a bundle lists, is cleaned and
loaded again. That leads to the same handle unless a drive with a `.` behind it has come to stand in
front. -/
namespace Resources

open Resources.Path (clean cleanText IdleDrive)

variable {t : String} {p : FilePath}

theorem clean_clean_iff (p : String) :
    clean (clean p) = clean p ↔ ¬ IdleDrive (clean p).toList := by
  rw [Path.clean_inj, Path.toList_clean]
  exact Path.cleanText_cleanText_iff

theorem ClassPathHandle.of_eq_iff {n : String} {c : Context} {h : ClassPathHandle} :
    of n c = h ↔ plainName n = h.name ∧ c = h.context := by
  obtain ⟨name, context⟩ := h
  rw [of, mk.injEq]

theorem FileHandle.of_text (ht : p.text? = some t) :
    FileHandle.of p = ⟨clean t, .ofString (clean t)⟩ := by
  rw [FileHandle.of, ht]

theorem FileHandle.of_shown_iff (ht : p.text? = some t) :
    FileHandle.of (.ofString (FileHandle.of p).shown) = FileHandle.of p ↔
      ¬ IdleDrive (FileHandle.of p).shown.toList := by
  rw [of_text ht, of_ofString, ← clean_clean_iff, FileHandle.mk.injEq]
  constructor
  · exact fun h => h.1
  · exact fun h => ⟨h, congrArg FilePath.ofString h⟩

/-! ### Names of a loader -/

namespace Loader

variable {l : Loader} {h h' : ClassPathHandle}

/-- The class path handles that come of a loader, from locations and through relative paths. -/
inductive Gives (l : Loader) : ClassPathHandle → Prop
  | located {s : String} {h : ClassPathHandle} : l.handle s = .classPath h → Gives l h
  | relative {h h' : ClassPathHandle} {path : String} :
      Gives l h → h.relative path = .ok h' → Gives l h'

theorem toList_mark (name : String) :
    ("classpath:" ++ name).toList = classPathMark ++ name.toList := String.toList_append

theorem isPrefixOf_mark (t : List Char) : classPathMark.isPrefixOf (classPathMark ++ t) = true := by
  rw [List.isPrefixOf_iff_prefix]
  exact List.prefix_append _ _

/-- A location with the mark of class paths is the name behind the mark. -/
theorem handle_mark (name : String) :
    l.handle ("classpath:" ++ name) = .classPath (.of name l.context) := by
  unfold handle
  rw [toList_mark, isPrefixOf_mark]
  simp only [List.drop_left, String.ofList_toList]

theorem lookupContext?_eq_some {c : Context} (hc : l.lookupContext? = some c) : c = l.context := by
  unfold lookupContext? at hc
  split at hc
  · cases hc
  · exact (Option.some.inj hc).symm

theorem handle_classPath {s : String} (hs : l.handle s = .classPath h) :
    ∃ n, h = .of n l.context := by
  unfold handle at hs
  split at hs
  · exact ⟨_, (Handle.classPath.inj hs).symm⟩
  · split at hs <;> cases hs
  · unfold pathHandle at hs
    split at hs
    · cases hs
    · split at hs
      · rename_i c hc
        obtain rfl := lookupContext?_eq_some hc
        exact ⟨s, (Handle.classPath.inj hs).symm⟩
      · cases hs

theorem reachable_of_gives (hg : l.Gives h) :
    ∃ n, ClassPathHandle.Reachable n l.context h := by
  induction hg with
  | located hs =>
    obtain ⟨n, rfl⟩ := handle_classPath hs
    exact ⟨n, .named⟩
  | relative _ hr ih =>
    obtain ⟨n, hn⟩ := ih
    exact ⟨n, hn.relative hr⟩

theorem handle_name_iff (hg : l.Gives h) :
    l.handle ("classpath:" ++ h.name) = .classPath h ↔ ¬ IdleDrive h.name.toList := by
  obtain ⟨n, hn⟩ := reachable_of_gives hg
  obtain ⟨⟨m, hm⟩, hc⟩ := ClassPathHandle.plain_reachable hn
  have hagain := plainName_plainName_iff (n := m)
  rw [← hm] at hagain
  rw [← hagain, handle_mark, Handle.classPath.injEq, ClassPathHandle.of_eq_iff,
    and_iff_left hc.symm]

end Loader

/-- What was cleaned is cleaned to itself, the name of an entry leads to that entry, and what a
handle shows or is named leads to that handle: just where no drive with a `.` behind it has come to
stand in front. -/
theorem resolves_again_iff (p n label : String) (entries : List (String × Bytes)) (path : FilePath)
    (l : Loader) :
    (clean (clean p) = clean p ↔ ¬ IdleDrive (clean p).toList) ∧
    (plainName (plainName n) = plainName n ↔ ¬ IdleDrive (plainName n).toList) ∧
    (∀ name ∈ (Bundle.ofList label entries).names,
      ∀ c, (ClassPathHandle.of name c).name = name ↔ ¬ IdleDrive name.toList) ∧
    (∀ name ∈ (Bundle.ofList label entries).names, climbsOut name = false →
      ¬ IdleDrive name.toList →
      ∃ data, (Bundle.ofList label entries).get? name = some data ∧
        ∀ (c : Context) (before after : List Root) (w : World),
          c.classPath.roots = before ++ .bundle (Bundle.ofList label entries) :: after →
          (∀ r ∈ before, r.holds w.disk name = false) →
          ((ClassPathHandle.of name c).resource.readBytes w).1 = .ok data) ∧
    (∀ t, path.text? = some t →
      (FileHandle.of (.ofString (FileHandle.of path).shown) = FileHandle.of path ↔
        ¬ IdleDrive (FileHandle.of path).shown.toList)) ∧
    ∀ h, l.Gives h →
      (l.handle ("classpath:" ++ h.name) = .classPath h ↔ ¬ IdleDrive h.name.toList) := by
  have hplain := Bundle.plain_ofList label entries
  refine ⟨clean_clean_iff p, plainName_plainName_iff, ?_, ?_,
    fun t ht => FileHandle.of_shown_iff ht, fun h hg => Loader.handle_name_iff hg⟩
  · intro name hn c
    rw [ClassPathHandle.name_of]
    exact plainName_listed_iff hplain hn
  · intro name hn hc hi
    obtain ⟨data, hd⟩ := Option.isSome_iff_exists.1 (Bundle.mem_names.1 hn)
    refine ⟨data, hd, fun c before after w hroots hbefore => ?_⟩
    have hl := lookup_listed hplain hd hc hi hroots hbefore
    refine ((ClassPathHandle.of name c).reads.reads data).2 ?_
    rw [ClassPathHandle.content?, hl]

/-- Bundles of one entry, and what they are looked up in. -/
def listing (name : String) : Bundle := .ofList "listing" [(name, [0x61])]

def listingContext (name : String) : Context := ⟨0, ⟨[.bundle (listing name)]⟩⟩

/-- A drive in front is no harm while a name is behind it. -/
theorem resolves_again_behind_drive :
    "C:b/x" ∈ (listing "/a/../C:b/./x").names ∧
    ((ClassPathHandle.of "C:b/x" (listingContext "/a/../C:b/./x")).resource.readBytes
      emptyWorld).1 = .ok [0x61] ∧
    (FileHandle.of (.ofString "./C:b/./x")).shown = "C:b/x" ∧
    FileHandle.of (.ofString "C:b/x") = FileHandle.of (.ofString "./C:b/./x") := by
  have hget : (listing "/a/../C:b/./x").get? "C:b/x" = some [0x61] := by decide
  have hn : "C:b/x" ∈ (listing "/a/../C:b/./x").names := Bundle.mem_names.2 (by rw [hget]; rfl)
  have ht : (FilePath.ofString "./C:b/./x").text? = some "./C:b/./x" := by decide
  have hs : (FileHandle.of (.ofString "./C:b/./x")).shown = "C:b/x" := by decide
  have hi : ¬ IdleDrive "C:b/x".toList := by decide
  obtain ⟨-, -, -, hlist, hfile, -⟩ := resolves_again_iff "" "" "listing"
    [("/a/../C:b/./x", [0x61])] (.ofString "./C:b/./x") dataLoader
  obtain ⟨data, hd, hread⟩ := hlist "C:b/x" hn (by decide) hi
  obtain rfl : data = [0x61] := Option.some.inj (hd.symm.trans hget)
  refine ⟨hn, hread (listingContext "/a/../C:b/./x") [] [] emptyWorld rfl (by simp), hs, ?_⟩
  have hfile := hfile "./C:b/./x" ht
  rw [hs] at hfile
  exact hfile.2 hi

/-- The `.` behind a drive that cleaning has brought to the front is cleaned away the second time,
and what was listed, shown or named is not found under what is left. -/
theorem resolves_elsewhere :
    clean "./C:./x" = "C:./x" ∧ clean "C:./x" ≠ "C:./x" ∧
    plainName "/C:./x" = "C:./x" ∧ plainName "C:./x" ≠ "C:./x" ∧
    "C:./x" ∈ (listing "/C:./x").names ∧
    ((ClassPathHandle.of "C:./x" (listingContext "/C:./x")).resource.readBytes emptyWorld).1 =
      .error (.notFound "class path resource [C:x]") ∧
    (FileHandle.of (.ofString "./C:./x")).shown = "C:./x" ∧
    FileHandle.of (.ofString "C:./x") ≠ FileHandle.of (.ofString "./C:./x") ∧
    dataLoader.handle "classpath:/C:./x" = .classPath ⟨"C:./x", dataLoader.context⟩ ∧
    dataLoader.handle "classpath:C:./x" ≠ .classPath ⟨"C:./x", dataLoader.context⟩ := by
  have hn : "C:./x" ∈ (listing "/C:./x").names := Bundle.mem_names.2 (by decide)
  exact ⟨by decide, by decide, by decide, by decide, hn, by decide, by decide, by decide, by decide,
    by decide⟩

end Resources
