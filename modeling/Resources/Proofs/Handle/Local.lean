import Resources.Proofs.Disk.Tree
import Resources.Proofs.Handle.File
import Resources.Proofs.Handle.Url
import Resources.Proofs.Url.Local

/-! A file asked by its path and by its URL. Both answer from the disk, but a URL opens a directory,
and its path may have a slash more. -/
namespace Resources

open Resources.Path (clean cleanText)

variable {w : World} {p q : FilePath} {r r' : Resource}

/-! ### Failures by kind -/

/-- What kind of failure it is, and what kind of fault stands behind it. -/
def Failure.errorKind (e : Failure) : FailureKind × Option FaultKind := (e.kind, e.fault?.map (·.kind))

/-- The kind of the failures that a fault is reported as. -/
def Fault.errorKind (f : Fault) : FailureKind × Option FaultKind :=
  if f.kind = .notFound then (.notFound, none) else (.io, some f.kind)

theorem errorKind_ofFault (operation description : String) (f : Fault) :
    (Failure.ofFault operation description f).errorKind = f.errorKind := by
  unfold Failure.ofFault Fault.errorKind
  split <;> rfl

theorem errorKind_map {α β : Type} (x : Except Fault α) (g : α → β) (operation description : String) :
    ((x.mapError (Failure.ofFault operation description)).map g).mapError Failure.errorKind =
      (x.map g).mapError Fault.errorKind := by
  cases x with
  | error f => exact congrArg Except.error (errorKind_ofFault operation description f)
  | ok a => rfl

/-- The faults of the disk are told apart by their kinds. -/
theorem eq_of_errorKind {f f' : Fault} (h : f ∈ Disk.faults) (h' : f' ∈ Disk.faults)
    (hk : f.errorKind = f'.errorKind) : f = f' := by
  have hall : ∀ f ∈ Disk.faults, ∀ f' ∈ Disk.faults, f.errorKind = f'.errorKind → f = f' := by
    decide
  exact hall f h f' h' hk

/-! ### Answers from the disk -/

namespace Resource

/-- The same answers without opening anything, failures by their kinds. -/
structure SameAnswers (r r' : Resource) (w : World) : Prop where
  present : (r.present w).1 = (r'.present w).1
  readable : (r.readable w).1 = (r'.readable w).1
  contentLength : (r.contentLength w).1.mapError Failure.errorKind =
    (r'.contentLength w).1.mapError Failure.errorKind
  lastModified : (r.lastModified w).1.mapError Failure.errorKind =
    (r'.lastModified w).1.mapError Failure.errorKind

/-- The same stream or the same kind of failure, and the same content. -/
structure SameContent (r r' : Resource) (w : World) : Prop where
  opens : (r.openStream w).1.mapError Failure.errorKind =
    (r'.openStream w).1.mapError Failure.errorKind
  reads : (r.readBytes w).1.mapError Failure.errorKind =
    (r'.readBytes w).1.mapError Failure.errorKind

/-- All answers are about what the disk has at a path. How a directory opens is left open. -/
structure OfPath (r : Resource) (p : FilePath) (w : World) : Prop where
  present : (r.present w).1 = w.disk.holds p
  readable : (r.readable w).1 = w.disk.holdsFile p
  contentLength : (r.contentLength w).1.mapError Failure.errorKind =
    ((w.disk.metadata p).map (·.length)).mapError Fault.errorKind
  lastModified : (r.lastModified w).1.mapError Failure.errorKind =
    ((w.disk.metadata p).map (·.modified)).mapError Fault.errorKind
  opens : ∀ n, w.disk.find p = .ok (.file n) → r.openStream w = (.ok (.file n 0), w)
  fails : ∀ f, w.disk.find p = .error f →
    ∃ e, r.openStream w = (.error e, w) ∧ e.errorKind = f.errorKind

theorem sameAnswers (h : r.OfPath p w) (h' : r'.OfPath q w)
    (hf : w.disk.find q = w.disk.find p) (hm : w.disk.metadata q = w.disk.metadata p) :
    r.SameAnswers r' w := by
  constructor
  · rw [h.present, h'.present, Disk.holds, Disk.holds, hf]
  · rw [h.readable, h'.readable, Disk.holdsFile, Disk.holdsFile, hm]
  · rw [h.contentLength, h'.contentLength, hm]
  · rw [h.lastModified, h'.lastModified, hm]

/-- What is no directory is opened and read alike. -/
theorem sameContent (h : r.OfPath p w) (h' : r'.OfPath q w)
    (hf : w.disk.find q = w.disk.find p) (hne : w.disk.find p ≠ .ok .directory) :
    r.SameContent r' w := by
  cases hp : w.disk.find p with
  | error f =>
    obtain ⟨e, he, hk⟩ := h.fails f hp
    obtain ⟨e', he', hk'⟩ := h'.fails f (hf.trans hp)
    have hkinds : e.errorKind = e'.errorKind := hk.trans hk'.symm
    constructor
    · simp only [he, he', Except.mapError, hkinds]
    · simp only [readBytes_of_open_error he, readBytes_of_open_error he', Except.mapError, hkinds]
  | ok n =>
    cases n with
    | directory => exact absurd hp hne
    | file n =>
      have ho := h.opens n hp
      have ho' := h'.opens n (hf.trans hp)
      constructor
      · rw [ho, ho']
      · rw [readBytes_of_open ho, readBytes_of_open ho', Stream.take_none (by trivial)]
        rfl

/-- Only where the disk finds the same at both paths are all answers the same. -/
theorem find_eq_of_same (h : r.OfPath p w) (h' : r'.OfPath q w) (hs : r.SameAnswers r' w)
    (hfile : ∀ n, w.disk.find q = .ok (.file n) → w.disk.find q = w.disk.find p) :
    w.disk.find q = w.disk.find p := by
  have hpresent := hs.present
  have hreadable := hs.readable
  have hlength := hs.contentLength
  rw [h.present, h'.present] at hpresent
  rw [h.readable, h'.readable] at hreadable
  rw [h.contentLength, h'.contentLength] at hlength
  cases hq : w.disk.find q with
  | error f' =>
    cases hp : w.disk.find p with
    | ok n => simp [Disk.holds, hp, hq, Except.isOk, Except.toBool] at hpresent
    | error f =>
      rw [Disk.metadata_of_fault hp, Disk.metadata_of_fault hq] at hlength
      have hk : f.errorKind = f'.errorKind := by simpa [Except.map, Except.mapError] using hlength
      rw [eq_of_errorKind (Disk.fault_of_find hp) (Disk.fault_of_find hq) hk]
  | ok n' =>
    cases n' with
    | file n' => rw [← hq, hfile n' hq]
    | directory =>
      have hdir : w.disk.holdsFile q = false := by
        rw [Bool.eq_false_iff, Ne, Disk.holdsFile_iff, hq]
        simp
      cases hp : w.disk.find p with
      | error f => simp [Disk.holds, hp, hq, Except.isOk, Except.toBool] at hpresent
      | ok n =>
        cases n with
        | directory => rfl
        | file n => rw [hdir, Disk.holdsFile_iff.2 ⟨n, hp⟩] at hreadable; simp at hreadable

/-- Where the first does not open a directory and the second does, they are the same just as long as
there is none, and the same is found at both paths. -/
theorem same_iff (h : r.OfPath p w) (h' : r'.OfPath q w)
    (hdir : w.disk.find p = .ok .directory → ∃ e, (r.openStream w).1 = .error e)
    (hdir' : w.disk.find q = .ok .directory → (r'.openStream w).1 = .ok .directory)
    (hfile : ∀ n, w.disk.find q = .ok (.file n) → w.disk.find q = w.disk.find p) :
    r.SameAnswers r' w ∧ r.SameContent r' w ↔
      w.disk.find p ≠ .ok .directory ∧ w.disk.find q = w.disk.find p := by
  constructor
  · rintro ⟨hs, hc⟩
    have hf := find_eq_of_same h h' hs hfile
    refine ⟨fun hd => ?_, hf⟩
    obtain ⟨e, he⟩ := hdir hd
    have ho := hc.opens
    rw [he, hdir' (hf.trans hd)] at ho
    cases ho
  · rintro ⟨hne, hf⟩
    exact ⟨sameAnswers h h' hf (Disk.metadata_congr hf hne), sameContent h h' hf hne⟩

end Resource

theorem FileHandle.ofPath (h : FileHandle) : h.resource.OfPath h.path w := by
  constructor
  · rfl
  · rfl
  · exact errorKind_map _ _ "content_length" h.description
  · exact errorKind_map _ _ "last_modified" h.description
  · intro n hn
    change (h.openStream w.disk, w) = _
    rw [openStream, hn]
  · intro f hf
    refine ⟨h.failed "open" f, ?_, errorKind_ofFault _ _ f⟩
    change (h.openStream w.disk, w) = _
    rw [openStream, hf]

theorem Attempt.onDisk_bind_pure {α β : Type} (x : Disk → Except Failure α) (g : α → β) :
    ((Attempt.onDisk x >>= fun a => pure (g a)) w).1 = (x w.disk).map g := by
  cases hx : x w.disk with
  | error e =>
    have ho : Attempt.onDisk x w = (.error e, w) := congrArg (·, w) hx
    rw [Attempt.bind_of_error _ ho]
    rfl
  | ok a =>
    have ho : Attempt.onDisk x w = (.ok a, w) := congrArg (·, w) hx
    rw [Attempt.bind_of_ok _ ho]
    rfl

theorem UrlHandle.openStream_of_localPath {h : UrlHandle} (hp : h.localPath? = some p) :
    h.resource.openStream w = (h.openLocal p w.disk, w) :=
  congrFun (openStream_eq_onDisk hp) w

/-- A directory is opened by its URL. -/
theorem UrlHandle.openStream_of_directory {h : UrlHandle} (hp : h.localPath? = some p)
    (hd : w.disk.find p = .ok .directory) : h.resource.openStream w = (.ok .directory, w) := by
  rw [openStream_of_localPath hp, openLocal, hd]

theorem UrlHandle.ofPath {h : UrlHandle} (hp : h.localPath? = some p) : h.resource.OfPath p w := by
  have hhttp := isHttp_of_localPath hp
  constructor
  · change (h.present w).1 = _
    simp only [present, hhttp, hp]
    rfl
  · change (h.readable w).1 = _
    simp only [readable, hp]
    rfl
  · change (h.contentLength w).1.mapError _ = _
    simp only [contentLength, hhttp, Bool.false_eq_true, if_false, hp, Attempt.onDisk_bind_pure]
    exact errorKind_map _ _ "content_length" h.description
  · change (h.lastModified w).1.mapError _ = _
    simp only [lastModified, hhttp, Bool.false_eq_true, if_false, hp, Attempt.onDisk_bind_pure]
    exact errorKind_map _ _ "last_modified" h.description
  · intro n hn
    rw [openStream_of_localPath hp, openLocal, hn]
  · intro f hf
    refine ⟨h.failed "open" f, ?_, errorKind_ofFault _ _ f⟩
    rw [openStream_of_localPath hp, openLocal, hf]

namespace FileHandle

variable {t : String}

/-- A directory is not opened by its path. -/
theorem openStream_of_directory {h : FileHandle} (hd : w.disk.find h.path = .ok .directory) :
    (h.resource.openStream w).1 = .error (.io "open" h.description isDirectory) := by
  change h.openStream w.disk = _
  rw [openStream, hd]

/-- No file is found behind one more slash. -/
theorem not_file_slashed {n : Nat} (hne : p.bytes ≠ []) :
    w.disk.find p.slashed ≠ .ok (.file n) := by
  intro hn
  cases ((Disk.find_slashed hne).1 hn).2.1

/-- A file and the URL of its path give the same answers and the same content unless it is a
directory, or the path ends like a drive and something else is found behind one more slash. A
directory opens by its URL alone, and what is opened cannot be read. -/
theorem same_by_url_iff (hclean : clean t = t) (hroot : t.toList.head? = some '/')
    (hend : t = "/" ∨ t.toList.getLast? ≠ some '/') (c : Client) (w : World) :
    ∃ u, Url.ofFilePath? (.ofString t) = some u ∧
      ((FileHandle.of (.ofString t)).resource.SameAnswers (UrlHandle.mk u c).resource w ∧
          (FileHandle.of (.ofString t)).resource.SameContent (UrlHandle.mk u c).resource w ↔
        w.disk.find (.ofString t) ≠ .ok .directory ∧
          ((FilePath.ofString t).EndsInDrive →
            w.disk.find (FilePath.ofString t).slashed = w.disk.find (.ofString t))) ∧
      (w.disk.find (.ofString t) = .ok .directory → ¬ (FilePath.ofString t).EndsInDrive →
        (FileHandle.of (.ofString t)).resource.SameAnswers (UrlHandle.mk u c).resource w ∧
        ((FileHandle.of (.ofString t)).resource.openStream w).1 =
          .error (.io "open" (FileHandle.of (.ofString t)).description isDirectory) ∧
        ((UrlHandle.mk u c).resource.openStream w).1 = .ok .directory ∧
        ((UrlHandle.mk u c).resource.readBytes w).1 =
          .error (.io "read" (UrlHandle.mk u c).description .directory)) := by
  have hpath : (FileHandle.of (.ofString t)).path = .ofString t := by rw [of_ofString, hclean]
  obtain ⟨u, hu, hq⟩ : ∃ u, Url.ofFilePath? (.ofString t) = some u ∧
      u.filePath? = some ⟨Url.endDrive (FilePath.ofString t).bytes⟩ := by
    apply Url.filePath?_ofFilePath
    · rw [← Path.toList_clean, hclean]
    · exact hroot
    · exact hend.imp_left (congrArg String.toList)
  have hfile : (FileHandle.of (.ofString t)).resource.OfPath (.ofString t) w := by
    have hof := (FileHandle.of (.ofString t)).ofPath (w := w)
    rwa [hpath] at hof
  have hopen : w.disk.find (.ofString t) = .ok .directory →
      ((FileHandle.of (.ofString t)).resource.openStream w).1 =
        .error (.io "open" (FileHandle.of (.ofString t)).description isDirectory) :=
    fun hd => openStream_of_directory (hpath.symm ▸ hd)
  refine ⟨u, hu, ?_⟩
  by_cases hdrive : (FilePath.ofString t).EndsInDrive
  · rw [Url.endDrive_of_endsInDrive hdrive] at hq
    refine ⟨?_, fun _ hnot => absurd hdrive hnot⟩
    rw [forall_prop_of_true hdrive]
    refine Resource.same_iff hfile (UrlHandle.ofPath (h := ⟨u, c⟩) hq) (fun hd => ⟨_, hopen hd⟩)
      (fun hd => ?_) fun n hn => ?_
    · rw [UrlHandle.openStream_of_directory (h := ⟨u, c⟩) hq hd]
    · refine absurd hn (not_file_slashed ?_)
      intro hnil
      obtain ⟨above, c, m, -, hb, -⟩ := hdrive
      simp [hb] at hnil
  · rw [Url.endDrive_of_not_endsInDrive hdrive] at hq
    have hurl := UrlHandle.ofPath (h := ⟨u, c⟩) (w := w) hq
    have hopenUrl := UrlHandle.openStream_of_directory (h := ⟨u, c⟩) (w := w) hq
    refine ⟨?_, fun hd _ => ?_⟩
    · rw [Resource.same_iff hfile hurl (fun hd => ⟨_, hopen hd⟩) (fun hd => by rw [hopenUrl hd])
        fun _ _ => rfl]
      simp [hdrive]
    · refine ⟨Resource.sameAnswers hfile hurl rfl rfl, hopen hd, by rw [hopenUrl hd], ?_⟩
      rw [Resource.readBytes_of_open (hopenUrl hd)]
      rfl

/-- A file, a file with a name like a drive, and a directory below the root. -/
def drawerWorld : World where
  disk :=
    { entries := [([Utf8.encode "a.txt".toList], .file 0), ([Utf8.encode "notes:".toList], .file 0),
        ([Utf8.encode "data".toList], .directory)]
      bodies := [⟨[0x61], .epoch⟩]
      home := [] }
  web := ⟨[], false⟩
  sent := []
  built := []
  taken := []
  next := 1

def drawerClient : Client := ⟨0, Settings.defaultTimeout⟩

theorem same_by_url_file : ∃ u, Url.ofFilePath? (.ofString "/a.txt") = some u ∧
    (FileHandle.of (.ofString "/a.txt")).resource.SameAnswers (UrlHandle.mk u drawerClient).resource
      drawerWorld ∧
    (FileHandle.of (.ofString "/a.txt")).resource.SameContent (UrlHandle.mk u drawerClient).resource
      drawerWorld := by
  obtain ⟨u, hu, hsame, -⟩ := same_by_url_iff (t := "/a.txt") (by decide) (by decide)
    (Or.inr (by decide)) drawerClient drawerWorld
  refine ⟨u, hu, hsame.2 ⟨by decide, ?_⟩⟩
  rintro ⟨above, c, m, -, hb, hdrive⟩
  obtain ⟨-, hend⟩ := List.append_inj' (show Utf8.encode "/a.t".toList ++ [0x78, 0x74] =
    above ++ [c, m] from hb) rfl
  obtain ⟨rfl, rfl⟩ : c = 0x78 ∧ m = 0x74 := by simpa [eq_comm] using hend
  exact absurd hdrive (by decide)

/-- A directory is opened by its URL and not by its path, and a file whose name ends like a drive is
not found by its URL. -/
theorem different_by_url :
    Url.ofFilePath? (.ofString "/data") = some (.ofNames [Utf8.encode "data".toList]) ∧
    ((FileHandle.of (.ofString "/data")).resource.openStream drawerWorld).1 =
      .error (.io "open" "file [/data]" isDirectory) ∧
    ((UrlHandle.mk (.ofNames [Utf8.encode "data".toList]) drawerClient).resource.openStream
      drawerWorld).1 = .ok .directory ∧
    Url.ofFilePath? (.ofString "/notes:") = some (.ofNames [Utf8.encode "notes:".toList]) ∧
    ((FileHandle.of (.ofString "/notes:")).resource.present drawerWorld).1 = true ∧
    ((UrlHandle.mk (.ofNames [Utf8.encode "notes:".toList]) drawerClient).resource.present
      drawerWorld).1 = false := by
  decide

end FileHandle

end Resources
