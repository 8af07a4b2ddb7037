import Resources.Handle.ClassPath
import Resources.Proofs.Disk.Nodes
import Resources.Proofs.Resource.Calls

/-! What a class path handle answers. All answers are about what the first root that holds the name
holds there, and no root behind that one is ever heard. -/
namespace Resources

variable {α : Type} {d : Disk} {name : String} {r : Root} {before after after' : List Root}

/-- Is something there by this name? Where a look at the disk fails, nothing is. -/
def Root.holds (d : Disk) (name : String) : Root → Bool
  | directory dir => d.holds (candidate dir name)
  | bundle b => (b.get? name).isSome

/-- The root that answers for a name. None answers for a name that climbs out. -/
def ClassPath.firstRoot? (d : Disk) (cp : ClassPath) (name : String) : Option Root :=
  if climbsOut name then none else cp.roots.find? (Root.holds d name)

theorem Root.isSome_lookup : (r.lookup d name).isSome = r.holds d name := by
  cases r with
  | directory dir =>
    simp only [lookup, holds]
    cases d.holds (candidate dir name) <;> rfl
  | bundle b => simp [lookup, holds]

/-- The first hit is what the first root that holds the name leads to. -/
theorem findSome?_lookup (roots : List Root) :
    roots.findSome? (Root.lookup d name) =
      (roots.find? (Root.holds d name)).bind (Root.lookup d name) := by
  induction roots with
  | nil => rfl
  | cons r roots ih =>
    rw [List.findSome?_cons, List.find?_cons, ← Root.isSome_lookup]
    cases hr : r.lookup d name with
    | none => exact ih
    | some x => simp [hr]

theorem ClassPath.lookup_eq_bind {cp : ClassPath} :
    cp.lookup d name = (cp.firstRoot? d name).bind (Root.lookup d name) := by
  unfold lookup firstRoot?
  cases climbsOut name with
  | true => rfl
  | false => exact findSome?_lookup cp.roots

theorem ClassPath.holds_of_firstRoot {cp : ClassPath} (h : cp.firstRoot? d name = some r) :
    r.holds d name = true := by
  unfold firstRoot? at h
  split at h
  · cases h
  · exact List.find?_some h

theorem ClassPath.lookup_of_no_root {cp : ClassPath} (h : cp.firstRoot? d name = none) :
    cp.lookup d name = none := by
  rw [lookup_eq_bind, h]
  rfl

theorem ClassPath.lookup_of_directory {cp : ClassPath} {dir : FilePath}
    (h : cp.firstRoot? d name = some (.directory dir)) :
    cp.lookup d name = some (.file (Root.candidate dir name)) ∧
      d.holds (Root.candidate dir name) = true := by
  have hh : d.holds (Root.candidate dir name) = true := holds_of_firstRoot h
  refine ⟨?_, hh⟩
  rw [lookup_eq_bind, h]
  simp only [Option.bind_some, Root.lookup, hh, if_true]

theorem ClassPath.lookup_of_bundle {cp : ClassPath} {b : Bundle}
    (h : cp.firstRoot? d name = some (.bundle b)) :
    ∃ data, b.get? name = some data ∧ cp.lookup d name = some (.bundled data) := by
  have hh : (b.get? name).isSome = true := holds_of_firstRoot h
  obtain ⟨data, hd⟩ := Option.isSome_iff_exists.1 hh
  refine ⟨data, hd, ?_⟩
  rw [lookup_eq_bind, h]
  simp only [Option.bind_some, Root.lookup, hd, Option.map_some]

/-- A path that a name leads to is there. -/
theorem Root.holds_of_lookup {p : FilePath} (h : r.lookup d name = some (.file p)) :
    d.holds p = true := by
  cases r with
  | directory dir =>
    simp only [lookup] at h
    split at h
    · obtain rfl := Hit.file.inj (Option.some.inj h)
      assumption
    · cases h
  | bundle b => simp [lookup] at h

theorem ClassPath.holds_of_lookup {cp : ClassPath} {p : FilePath}
    (h : cp.lookup d name = some (.file p)) : d.holds p = true := by
  unfold lookup at h
  split at h
  · cases h
  · obtain ⟨r, -, hr⟩ := List.exists_of_findSome?_eq_some h
    exact Root.holds_of_lookup hr

/-- What stands behind a root that holds the name makes no difference. -/
theorem ClassPath.lookup_append (hr : r.holds d name = true) :
    lookup d ⟨before ++ r :: after⟩ name = lookup d ⟨before ++ r :: after'⟩ name := by
  obtain ⟨x, hx⟩ := Option.isSome_iff_exists.1 (Root.isSome_lookup.trans hr)
  have hf (behind : List Root) : (before ++ r :: behind).findSome? (Root.lookup d name) =
      (before.findSome? (Root.lookup d name)).or (some x) := by
    rw [List.findSome?_append, List.findSome?_cons, hx]
  unfold lookup
  simp only [hf]

namespace ClassPathHandle

variable {h h' : ClassPathHandle} {w : World} {p : FilePath} {data : Bytes}

/-- The answers where no root holds the name. -/
structure Absent (h : ClassPathHandle) (w : World) : Prop where
  present : (h.resource.present w).1 = false
  readable : (h.resource.readable w).1 = false
  isFile : (h.resource.isFile w).1 = false
  url : (h.resource.url w).1 = .error (.unresolvableLocator h.description "URL")
  file : (h.resource.file w).1 = .error (.notFound h.description)
  openStream : (h.resource.openStream w).1 = .error (.notFound h.description)
  contentLength : (h.resource.contentLength w).1 = .error (.notFound h.description)
  lastModified : (h.resource.lastModified w).1 = .error (.notFound h.description)

/-- The answers where the name is found on the disk. -/
structure OnDisk (h : ClassPathHandle) (w : World) (p : FilePath) : Prop where
  present : (h.resource.present w).1 = true
  isFile : (h.resource.isFile w).1 = true
  file : (h.resource.file w).1 = .ok p
  url : ∃ names, p.absoluteNames? w.disk.home.reverse = some names ∧
    (h.resource.url w).1 = .ok (.ofNames names)
  metadata : ∃ m, w.disk.metadata p = .ok m ∧ (h.resource.contentLength w).1 = .ok m.length ∧
    (h.resource.lastModified w).1 = .ok m.modified
  readable : (h.resource.readable w).1 = true ↔ w.disk.find p ≠ .ok .directory
  openStream : (∃ s, (h.resource.openStream w).1 = .ok s) ↔ w.disk.find p ≠ .ok .directory

/-- The answers where the name is found in a bundle. -/
structure Bundled (h : ClassPathHandle) (w : World) (data : Bytes) : Prop where
  present : (h.resource.present w).1 = true
  readable : (h.resource.readable w).1 = true
  isFile : (h.resource.isFile w).1 = false
  openStream : (h.resource.openStream w).1 = .ok (.ofBytes data)
  contentLength : (h.resource.contentLength w).1 = .ok data.length
  file : (h.resource.file w).1 =
    .error (.notFound s!"{h.description} (embedded, not in a file system)")
  url : (h.resource.url w).1 = .error (.unresolvableLocator h.description "URL")
  lastModified : (h.resource.lastModified w).1 =
    .error (.resolution h.description "embedded assets carry no modification time")

theorem name_of (n : String) (c : Context) : (of n c).name = plainName n := by rw [of]

theorem context_of (n : String) (c : Context) : (of n c).context = c := by rw [of]

theorem lookup_of (n : String) (c : Context) :
    (of n c).lookup d = c.classPath.lookup d (plainName n) := by
  rw [lookup, name_of, context_of]

/-! ### From a look-up to all answers -/

theorem absent_of_lookup (hl : h.lookup w.disk = none) : h.Absent w := by
  have hh : h.hit w.disk = .error h.notFound := by rw [hit, hl]
  exact {
    present := show h.present w.disk = false by simp [present, hl]
    readable := show h.readable w.disk = false by simp [readable, hl]
    isFile := show h.isFile w.disk = false by simp [isFile, hl]
    url := show h.url w.disk = _ by simp [url, hl, notResolved]
    file := show h.file w.disk = _ by rw [file, hh]; rfl
    openStream := show h.openStream w.disk = _ by rw [openStream, hh]; rfl
    contentLength := show h.contentLength w.disk = _ by rw [contentLength, hh]; rfl
    lastModified := show h.lastModified w.disk = _ by rw [lastModified, hh]; rfl }

theorem bundled_of_lookup (hl : h.lookup w.disk = some (.bundled data)) : h.Bundled w data := by
  have hh : h.hit w.disk = .ok (.bundled data) := by rw [hit, hl]
  exact {
    present := show h.present w.disk = true by simp [present, hl]
    readable := show h.readable w.disk = true by simp [readable, hl]
    isFile := show h.isFile w.disk = false by simp [isFile, hl]
    openStream := show h.openStream w.disk = _ by rw [openStream, hh]; rfl
    contentLength := show h.contentLength w.disk = _ by rw [contentLength, hh]; rfl
    file := show h.file w.disk = _ by rw [file, hh]; rfl
    url := show h.url w.disk = _ by simp [url, hl, notResolved]
    lastModified := show h.lastModified w.disk = _ by rw [lastModified, hh]; rfl }

theorem onDisk_of_lookup (hl : h.lookup w.disk = some (.file p)) (hp : w.disk.holds p = true) :
    h.OnDisk w p := by
  have hh : h.hit w.disk = .ok (.file p) := by rw [hit, hl]
  obtain ⟨n, hf⟩ := Disk.holds_iff.1 hp
  obtain ⟨names, hn⟩ := Disk.absoluteNames_of_find hf
  obtain ⟨l, -, hm⟩ := Disk.metadata_of_find hf
  have hop (op : String) : h.metadata p op w.disk = .ok (w.disk.about l n) := by
    rw [metadata, hm]
    rfl
  exact {
    present := show h.present w.disk = true by simp [present, hl]
    isFile := show h.isFile w.disk = true by simp [isFile, hl]
    file := show h.file w.disk = _ by rw [file, hh]; rfl
    url := ⟨names, hn, show h.url w.disk = _ by simp [url, hl, hn]⟩
    metadata := by
      refine ⟨w.disk.about l n, hm, ?_, ?_⟩
      · change (h.hit w.disk >>= _) = _
        simp only [hh, bind, Except.bind, hop]
        rfl
      · change (h.hit w.disk >>= _) = _
        simp only [hh, bind, Except.bind, hop]
        rfl
    readable := by
      change h.readable w.disk = true ↔ _
      simp only [readable, hl, Disk.holdsFile_iff, hf]
      cases n <;> simp
    openStream := by
      change (∃ s, h.openStream w.disk = .ok s) ↔ _
      simp only [openStream, hh, hf, bind, Except.bind]
      cases n <;> simp }

/-! ### Handles that look up alike -/

theorem description_congr (hn : h.name = h'.name) : h.description = h'.description :=
  congrArg (fun name => s!"class path resource [{name}]") hn

theorem hit_congr (hn : h.name = h'.name) (hl : h.lookup d = h'.lookup d) : h.hit d = h'.hit d := by
  simp only [hit, hl, notFound, description_congr hn]

theorem openStream_congr (hn : h.name = h'.name) (hl : h.lookup d = h'.lookup d) :
    h.openStream d = h'.openStream d := by
  simp only [openStream, hit_congr hn hl, failed, description_congr hn]

/-- Answers are made from the name and from what it leads to. -/
theorem ask_congr (hn : h.name = h'.name) (hl : h.lookup w.disk = h'.lookup w.disk)
    (q : Question α) : (h.resource.ask q w).1 = (h'.resource.ask q w).1 := by
  have hd := description_congr hn
  have hh := hit_congr hn hl
  have hm (p : FilePath) (op : String) : h.metadata p op w.disk = h'.metadata p op w.disk := by
    unfold metadata failed
    rw [hd]
  have hu : h.url w.disk = h'.url w.disk := by simp only [url, hl, notResolved, hd]
  cases q with
  | present =>
    change h.present w.disk = h'.present w.disk
    simp only [present, hl]
  | readable =>
    change h.readable w.disk = h'.readable w.disk
    simp only [readable, hl]
  | isFile =>
    change h.isFile w.disk = h'.isFile w.disk
    simp only [isFile, hl]
  | url => exact hu
  | uri => exact hu
  | file =>
    change h.file w.disk = h'.file w.disk
    simp only [file, hh, hd]
  | contentLength =>
    change h.contentLength w.disk = h'.contentLength w.disk
    simp only [contentLength, hh, hm]
  | lastModified =>
    change h.lastModified w.disk = h'.lastModified w.disk
    simp only [lastModified, hh, hm, hd]
  | fileName =>
    change h.fileName = h'.fileName
    simp only [fileName, hn]
  | description => exact hd
  | isOpen => rfl
  | kind => rfl

theorem streamsChannels : h.resource.StreamsChannels := rfl

theorem take_congr (hn : h.name = h'.name) (hl : h.lookup w.disk = h'.lookup w.disk)
    (t : Taking α) : (h.resource.take t w).1 = (h'.resource.take t w).1 := by
  have ho : h.resource.openStream w = h'.resource.openStream w :=
    congrArg (·, w) (openStream_congr hn hl)
  cases hs : h'.openStream w.disk with
  | error f =>
    have hs : h'.resource.openStream w = (.error f, w) := congrArg (·, w) hs
    rw [Resource.take_of_open_error streamsChannels (ho.trans hs),
      Resource.take_of_open_error streamsChannels hs]
  | ok s =>
    have hs : h'.resource.openStream w = (.ok s, w) := congrArg (·, w) hs
    rw [Resource.take_of_open streamsChannels (ho.trans hs),
      Resource.take_of_open streamsChannels hs]
    exact congrArg (fun description => t.ofStream description w.disk s) (description_congr hn)

/-- All answers of a handle are about what the first root that holds its name holds there, and they
are the same whatever roots stand behind one that holds it. -/
theorem answers_of_first_root (n : String) (c : Context) (w : World) :
    (match c.classPath.firstRoot? w.disk (plainName n) with
      | none => (ClassPathHandle.of n c).Absent w
      | some (.directory dir) =>
        (ClassPathHandle.of n c).OnDisk w (Root.candidate dir (plainName n))
      | some (.bundle b) => ∃ data, b.get? (plainName n) = some data ∧
        (ClassPathHandle.of n c).Bundled w data) ∧
    ∀ (before : List Root) (r : Root) (after after' : List Root),
      c.classPath.roots = before ++ r :: after → r.holds w.disk (plainName n) = true →
      ∀ c' : Context, c'.classPath.roots = before ++ r :: after' → ∀ {α : Type},
        (∀ q : Question α, ((ClassPathHandle.of n c).resource.ask q w).1 =
          ((ClassPathHandle.of n c').resource.ask q w).1) ∧
        ∀ t : Taking α, ((ClassPathHandle.of n c).resource.take t w).1 =
          ((ClassPathHandle.of n c').resource.take t w).1 := by
  constructor
  · cases hr : c.classPath.firstRoot? w.disk (plainName n) with
    | none => exact absent_of_lookup ((lookup_of n c).trans (ClassPath.lookup_of_no_root hr))
    | some r =>
      cases r with
      | directory dir =>
        obtain ⟨hl, hh⟩ := ClassPath.lookup_of_directory hr
        exact onDisk_of_lookup ((lookup_of n c).trans hl) hh
      | bundle b =>
        obtain ⟨data, hd, hl⟩ := ClassPath.lookup_of_bundle hr
        exact ⟨data, hd, bundled_of_lookup ((lookup_of n c).trans hl)⟩
  · intro before r after after' hc hr c' hc' α
    have hl : (ClassPathHandle.of n c).lookup w.disk = (ClassPathHandle.of n c').lookup w.disk := by
      have hcp : c.classPath = ⟨before ++ r :: after⟩ := by rw [← hc]
      have hcp' : c'.classPath = ⟨before ++ r :: after'⟩ := by rw [← hc']
      rw [lookup_of, lookup_of, hcp, hcp']
      exact ClassPath.lookup_append hr
    exact ⟨ask_congr rfl hl, take_congr rfl hl⟩

def defaults : Bundle := .ofList "defaults" [("/./app.yaml", [0x61])]

/-- A directory that is not there, a bundle, and what stands behind them. -/
def layered (behind : List Root) : Context :=
  ⟨0, ⟨[.directory (.ofString "conf")] ++ .bundle defaults :: behind⟩⟩

/-- Nothing is on the disk but a file in its root. -/
def fileWorld : World where
  disk :=
    { entries := [([Utf8.encode "app.yaml".toList], .file 0)]
      bodies := [⟨[0x62], .epoch⟩]
      home := [] }
  web := ⟨[], false⟩
  sent := []
  built := []
  taken := []
  next := 1

/-- The bundle answers, and the file of the same name in the root behind it is never heard. -/
theorem answers_of_first_root_layered :
    Root.holds fileWorld.disk (plainName "x/../app.yaml") (.directory (.ofString "/")) = true ∧
    (∃ data, defaults.get? (plainName "x/../app.yaml") = some data ∧
      (ClassPathHandle.of "x/../app.yaml" (layered [.directory (.ofString "/")])).Bundled
        fileWorld data) ∧
    ((ClassPathHandle.of "x/../app.yaml" (layered [.directory (.ofString "/")])).resource.take
        .bytes fileWorld).1 =
      ((ClassPathHandle.of "x/../app.yaml" (layered [])).resource.take .bytes fileWorld).1 := by
  have hf : (layered [.directory (.ofString "/")]).classPath.firstRoot? fileWorld.disk
      (plainName "x/../app.yaml") = some (.bundle defaults) := by decide
  have hh : Root.holds fileWorld.disk (plainName "x/../app.yaml") (.bundle defaults) = true := by
    decide
  obtain ⟨hfirst, hbehind⟩ :=
    answers_of_first_root "x/../app.yaml" (layered [.directory (.ofString "/")]) fileWorld
  rw [hf] at hfirst
  exact ⟨by decide, hfirst, (hbehind [_] _ _ [] rfl hh (layered []) rfl).2 .bytes⟩

end ClassPathHandle

end Resources
