import Resources.Loader
import Resources.Proofs.Handle.File
import Resources.Proofs.Path.Relative
import Resources.Proofs.Url.Names

/-! Locations without a colon. They are paths to any loader, and reading a relative path from the
handle of one is loading what the location and the path compose to. -/
namespace Resources

open Resources.Path (segments unify cleanText relativeText asDirectory directory head?_unify_ne)

variable {t p q : List Char} {s r x : String}

/-! ### Locations that are no URL -/

theorem Loader.handle_of_no_colon (l : Loader) (h : ':' ∉ s.toList) :
    l.handle s = l.pathHandle s := by
  have hm : Loader.classPathMark.isPrefixOf s.toList = false := by
    rw [Bool.eq_false_iff, Ne, List.isPrefixOf_iff_prefix]
    intro hp
    exact h (hp.subset (by decide))
  have hu : Loader.url? s = none := by
    rw [Loader.url?, Url.parse_of_no_colon h]
    rfl
  rw [Loader.handle, hm, hu]

theorem dropWhile_isSlash (h : (unify t).head? ≠ some '/') : t.dropWhile Url.isSlash = t := by
  rw [Ne, Path.head?_unify, not_or] at h
  cases t with
  | nil => rfl
  | cons c t =>
    rw [List.dropWhile_cons_of_neg]
    simpa [Url.isSlash] using h

theorem plainName_of_relative (hc : ':' ∉ s.toList) (hs : (unify s.toList).head? ≠ some '/') :
    plainName s = Path.clean s := by
  have hn : (cleanText s.toList).head? ≠ some '/' := (Path.head?_cleanText hc).not.2 hs
  unfold plainName
  simp only [Path.toList_clean]
  split
  · rename_i r he
    simp [he] at hn
  · rfl

/-! ### Handles and relative paths -/

theorem pathHandle_of_base {l : Loader} (hb : l.baseDir = some (.ofText t))
    (hs : (unify s.toList).head? ≠ some '/') :
    l.pathHandle s = .file (.of (.ofText (asDirectory t ++ s.toList))) := by
  have hh : s.toList.head? ≠ some '/' := fun hh => hs (Path.head?_unify.2 (Or.inl hh))
  rw [Loader.pathHandle, hb]
  simp only [dropWhile_isSlash hs, FilePath.join_ofText hh]

/-- The last segment neither stays nor climbs. -/
def EndsPlainly (p : List Char) : Prop :=
  ∀ s ∈ (segments (unify p)).getLast?, s ≠ Path.here ∧ s ≠ Path.up

theorem relative_clean (hp : ':' ∉ p) (hr : ':' ∉ r.toList) (hl : EndsPlainly p) :
    Path.relative (.ofList (cleanText p)) r = Path.relative (.ofList p) r := by
  simp only [Path.relative, String.toList_ofList, Path.relativeText_clean hp hr hl]

theorem FileHandle.relative_of (hp : ':' ∉ p) (hr : ':' ∉ r.toList) (hl : EndsPlainly p)
    (hx : Path.relative (.ofList p) r = some x) :
    (FileHandle.of (.ofText p)).relative r = .ok (.of (.ofString x)) := by
  rw [FileHandle.of_ofText, relative]
  simp only [Path.clean, String.toList_ofList, relative_clean hp hr hl, hx]

theorem ClassPathHandle.relative_of {c : Context} {h : ClassPathHandle} (hp : ':' ∉ s.toList)
    (hs : (unify s.toList).head? ≠ some '/') (hr : ':' ∉ r.toList) (hl : EndsPlainly s.toList)
    (hx : Path.relative s r = some x) (ho : (ClassPathHandle.of s c).relative r = .ok h) :
    h = .of x c := by
  have hrel : Path.relative (plainName s) r = some x := by
    rw [plainName_of_relative hp hs, Path.clean, relative_clean hp hr hl, String.ofList_toList, hx]
  rw [relative, ClassPathHandle.of] at ho
  simp only [hrel] at ho
  split at ho
  · simp at ho
  · exact (Except.ok.inj ho).symm

/-! ### Below a base directory -/

theorem segments_below : segments (unify (asDirectory t ++ p)) =
    (segments (unify (asDirectory t))).dropLast ++ segments (unify p) := by
  rw [Path.unify_append, ← Path.directory_unify_asDirectory, Path.segments_directory_append,
    Path.directory_unify_asDirectory]

theorem endsPlainly_below (hl : EndsPlainly p) : EndsPlainly (asDirectory t ++ p) := by
  rw [EndsPlainly, segments_below, List.getLast?_append_of_ne_nil _ Path.segments_ne_nil]
  exact hl

theorem relativeText_of_relative (hne : q ≠ []) (hq : (unify q).head? ≠ some '/') :
    relativeText p q = some (cleanText (directory (unify p) ++ unify q)) := by
  simp [relativeText, hne, hq]

/-- A relative path that is read below a base directory stays in front of what it is read from. -/
theorem relativeText_below (hne : q ≠ []) (hq : (unify q).head? ≠ some '/') :
    relativeText (asDirectory t ++ p) q =
      some (cleanText (asDirectory t ++ (directory (unify p) ++ unify q))) := by
  have hu : unify (directory (unify (asDirectory t ++ p)) ++ unify q) =
      unify (asDirectory t ++ (directory (unify p) ++ unify q)) := by
    rw [Path.unify_relative Path.unify_unify, Path.unify_append, Path.unify_append,
      Path.unify_relative Path.unify_unify,
      Path.directory_append Path.directory_unify_asDirectory, List.append_assoc]
  rw [relativeText_of_relative hne hq, cleanText, cleanText, Path.ofText_congr hu]

theorem same_below (ht : ':' ∉ t) (hp : ':' ∉ p) (hq : ':' ∉ q)
    (hps : (unify p).head? ≠ some '/') (hqs : (unify q).head? ≠ some '/') :
    FilePath.Same
      (.ofText (cleanText (cleanText (asDirectory t ++ (directory (unify p) ++ unify q)))))
      (.ofText (cleanText (asDirectory t ++ cleanText (directory (unify p) ++ unify q)))) := by
  have hb := Path.colon_not_mem_asDirectory ht
  have hrel := Path.colon_not_mem_relative (Path.colon_not_mem_unify hp) hq
  have hjoin : ':' ∉ asDirectory t ++ (directory (unify p) ++ unify q) := by
    rw [List.mem_append, not_or]
    exact ⟨hb, hrel⟩
  have hjoin' : ':' ∉ asDirectory t ++ cleanText (directory (unify p) ++ unify q) := by
    rw [List.mem_append, not_or]
    exact ⟨hb, Path.colon_not_mem_cleanText hrel⟩
  have hs : (unify (directory (unify p) ++ unify q)).head? ≠ some '/' := by
    rw [Path.unify_relative Path.unify_unify, Ne, Path.head?_directory_append hqs]
    exact hps
  obtain ⟨hr, hn⟩ := Path.names_append_cleanText Path.directory_unify_asDirectory hb hrel hs
  rw [FilePath.same_ofText_clean (Path.colon_not_mem_cleanText hjoin) hjoin', hr, hn,
    Path.rooted_cleanText hjoin, Path.names_cleanText hjoin]
  exact ⟨rfl, rfl⟩

/-! ### Any loader -/

theorem relative_file_eq_ok {f : FileHandle} {h : Handle} {w : World} :
    ((Handle.file f).resource.relative r w).1 = .ok h ↔
      ∃ g, f.relative r = .ok g ∧ .file g = h := by
  change ((Handle.file <$> Attempt.ofExcept (f.relative r) : Attempt Handle) w).1 = _ ↔ _
  rw [Attempt.map_ofExcept]
  cases f.relative r <;> simp [Except.map]

theorem relative_classPath_eq_ok {f : ClassPathHandle} {h : Handle} {w : World} :
    ((Handle.classPath f).resource.relative r w).1 = .ok h ↔
      ∃ g, f.relative r = .ok g ∧ .classPath g = h := by
  change ((Handle.classPath <$> Attempt.ofExcept (f.relative r) : Attempt Handle) w).1 = _ ↔ _
  rw [Attempt.map_ofExcept]
  cases f.relative r <;> simp [Except.map]

section

variable {l : Loader} {h : Handle} {w : World}

theorem alike_below_base (hb : l.baseDir = some (.ofText t)) (ht : ':' ∉ t) (hs : ':' ∉ s.toList)
    (hr : ':' ∉ r.toList) (hss : (unify s.toList).head? ≠ some '/')
    (hrs : (unify r.toList).head? ≠ some '/') (hne : r.toList ≠ []) (hl : EndsPlainly s.toList)
    (hx : Path.relative s r = some x) (hxs : (unify x.toList).head? ≠ some '/')
    (ho : ((l.pathHandle s).resource.relative r w).1 = .ok h) : h.Alike (l.pathHandle x) := by
  have hjoin : ':' ∉ asDirectory t ++ s.toList := by
    rw [List.mem_append, not_or]
    exact ⟨Path.colon_not_mem_asDirectory ht, hs⟩
  have hbelow : Path.relative (.ofList (asDirectory t ++ s.toList)) r = some (.ofList (cleanText
      (asDirectory t ++ (directory (unify s.toList) ++ unify r.toList)))) := by
    rw [Path.relative, String.toList_ofList, relativeText_below hne hrs, Option.map_some]
  have hxt : x.toList = cleanText (directory (unify s.toList) ++ unify r.toList) := by
    rw [Path.relative, relativeText_of_relative hne hrs, Option.map_some, Option.some_inj] at hx
    rw [← hx, String.toList_ofList]
  rw [pathHandle_of_base hb hss] at ho
  obtain ⟨g, hg, rfl⟩ := relative_file_eq_ok.1 ho
  rw [FileHandle.relative_of hjoin hr (endsPlainly_below hl) hbelow] at hg
  obtain rfl := Except.ok.inj hg
  rw [pathHandle_of_base hb hxs, FilePath.ofString_eq, FileHandle.of_ofText, FileHandle.of_ofText,
    String.toList_ofList, hxt]
  exact same_below ht hs hr hss hrs

theorem alike_without_base (hb : l.baseDir = none) (hs : ':' ∉ s.toList) (hr : ':' ∉ r.toList)
    (hss : (unify s.toList).head? ≠ some '/') (hl : EndsPlainly s.toList)
    (hx : Path.relative s r = some x)
    (ho : ((l.pathHandle s).resource.relative r w).1 = .ok h) : h.Alike (l.pathHandle x) := by
  rw [Loader.pathHandle, hb] at ho ⊢
  cases hc : l.lookupContext? with
  | some c =>
    simp only [hc] at ho ⊢
    obtain ⟨g, hg, rfl⟩ := relative_classPath_eq_ok.1 ho
    rw [ClassPathHandle.relative_of hs hss hr hl hx hg]
    rfl
  | none =>
    simp only [hc] at ho ⊢
    obtain ⟨g, hg, rfl⟩ := relative_file_eq_ok.1 ho
    rw [FilePath.ofString_eq, FileHandle.relative_of hs hr hl (by rwa [String.ofList_toList])] at hg
    obtain rfl := Except.ok.inj hg
    exact ⟨rfl, rfl⟩

/-- Reading a relative path from the handle of a location is loading what the two compose to, in a
base directory, on a class path or without either. -/
theorem handle_relative_alike
    (hb : ∀ b, l.baseDir = some b → ∃ t : String, b = .ofString t ∧ ':' ∉ t.toList)
    (hs : ':' ∉ s.toList) (hr : ':' ∉ r.toList) (hss : ∀ c ∈ s.toList.head?, c ≠ '/' ∧ c ≠ '\\')
    (hrs : ∀ c ∈ r.toList.head?, c ≠ '/' ∧ c ≠ '\\') (hne : r ≠ "") (hl : EndsPlainly s.toList)
    (ho : ((l.handle s).resource.relative r w).1 = .ok h) :
    ∃ x, Path.relative s r = some x ∧ h.Alike (l.handle x) := by
  have hss := head?_unify_ne hss
  have hrs := head?_unify_ne hrs
  have hne : r.toList ≠ [] := by rwa [Ne, String.toList_eq_nil_iff]
  have hcolon := Path.colon_not_mem_relative (Path.colon_not_mem_unify hs) hr
  generalize hq : directory (unify s.toList) ++ unify r.toList = q at hcolon
  have hx : Path.relative s r = some (.ofList (cleanText q)) := by
    rw [Path.relative, relativeText_of_relative hne hrs, hq, Option.map_some]
  have hxc : ':' ∉ (String.ofList (cleanText q)).toList := by
    rw [String.toList_ofList]
    exact Path.colon_not_mem_cleanText hcolon
  refine ⟨_, hx, ?_⟩
  rw [l.handle_of_no_colon hs] at ho
  rw [l.handle_of_no_colon hxc]
  cases hbase : l.baseDir with
  | none => exact alike_without_base hbase hs hr hss hl hx ho
  | some b =>
    obtain ⟨t, rfl, ht⟩ := hb b hbase
    refine alike_below_base hbase ht hs hr hss hrs hne hl hx ?_ ho
    rw [String.toList_ofList, Path.unify_cleanText, Ne, Path.head?_cleanText hcolon, ← hq,
      Path.unify_relative Path.unify_unify, Path.head?_directory_append hrs]
    exact hss

end

/-- A loader with a base directory, in an empty world. -/
def dataLoader : Loader := ⟨some (.ofString "data"), ⟨0, .empty⟩, ⟨1, Settings.standard.timeout⟩⟩

def emptyWorld : World where
  disk := { entries := [], bodies := [], home := [] }
  web := ⟨[], false⟩
  sent := []
  built := []
  taken := []
  next := 2

/-- Climbs of the relative path cancel names of the location and of the base directory. -/
theorem handle_relative_alike_below_data :
    ((dataLoader.handle "a/x").resource.relative "../..\\up//c/" emptyWorld).1 =
      .ok (.file (.of (.ofString "up/c/"))) ∧
    ∃ x, Path.relative "a/x" "../..\\up//c/" = some x ∧
      (Handle.file (.of (.ofString "up/c/"))).Alike (dataLoader.handle x) := by
  have ho : ((dataLoader.handle "a/x").resource.relative "../..\\up//c/" emptyWorld).1 =
      .ok (.file (.of (.ofString "up/c/"))) := rfl
  have hb : ∀ b, dataLoader.baseDir = some b → ∃ t : String, b = .ofString t ∧ ':' ∉ t.toList := by
    intro b hb
    exact ⟨"data", (Option.some.inj hb).symm, by decide⟩
  exact ⟨ho, handle_relative_alike hb (by decide) (by decide) (by simp) (by simp) (by decide)
    (by simp [EndsPlainly, unify, segments]; decide) ho⟩

end Resources
