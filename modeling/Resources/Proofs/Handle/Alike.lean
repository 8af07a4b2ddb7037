import Resources.Proofs.Disk.Spellings
import Resources.Proofs.Handle.Local
import Resources.Proofs.Handle.Readable
import Resources.Proofs.Url.Twins

/-! Handles that are alike. What is asked of one is answered as by the other, and a relative path
leads on to handles that are alike again, but where spellings of a path end differently. -/
namespace Resources

open FilePath (EndsOpen)
open Url (Twins)

variable {α β : Type} {w w' : World}

/-! ### Answers of the web -/

/-- The answers are the same in worlds with one web. -/
def Act.Agree (x y : Act α) : Prop := ∀ w w', w.web = w'.web → (x w).1 = (y w').1

theorem Act.agree_bind {x y : Act α} {f g : α → Act β} (hx : x.OfWeb) (hy : y.OfWeb)
    (hxy : Agree x y) (hfg : ∀ a, Agree (f a) (g a)) : Agree (x >>= f) (y >>= g) := by
  intro w w' hw
  change (f (x w).1 (x w).2).1 = (g (y w').1 (y w').2).1
  rw [hxy w w' hw]
  exact hfg _ _ _ ((hx w).1.trans (hw.trans (hy w').1.symm))

theorem Act.agree_pure (a : α) : Agree (pure a) (pure a) := fun _ _ _ => rfl

theorem Attempt.agree_bind {x y : Attempt α} {f g : α → Attempt β} (hx : x.run.OfWeb)
    (hy : y.run.OfWeb) (hxy : x.run.Agree y.run) (hfg : ∀ a, (f a).run.Agree (g a).run) :
    (x >>= f).run.Agree (y >>= g).run := by
  rw [ExceptT.run_bind, ExceptT.run_bind]
  refine Act.agree_bind hx hy hxy fun outcome => ?_
  cases outcome with
  | ok a => exact hfg a
  | error e => exact Act.agree_pure _

theorem Attempt.agree_succeeds {x y : Attempt α} (hx : x.run.OfWeb) (hy : y.run.OfWeb)
    (hxy : x.run.Agree y.run) : x.succeeds.Agree y.succeeds := by
  refine Act.agree_bind hx hy hxy fun outcome => ?_
  cases outcome <;> exact Act.agree_pure _

theorem Client.agree_fetch {u v : Url} (h : Twins u v) (c c' : Client) (m : Method) :
    (c.fetch m u).Agree (c'.fetch m v) := by
  intro w w' hw
  change ((c.build w).2.web.fetch m u).1 = ((c'.build w').2.web.fetch m v).1
  rw [web_build, web_build, hw, Web.fetch_congr _ m h]

namespace UrlHandle

variable {h h' : UrlHandle}

theorem description_eq (hu : Twins h.url h'.url) : h.description = h'.description := by
  rw [description, hu.text, description]

theorem agree_fetch (hu : Twins h.url h'.url) (m : Method) :
    (h.fetch m).run.Agree (h'.fetch m).run := by
  refine Attempt.agree_bind (Attempt.ofWeb_lift (h.client.ofWeb_fetch m h.url))
    (Attempt.ofWeb_lift (h'.client.ofWeb_fetch m h'.url)) ?_ fun outcome => ?_
  · exact Act.agree_bind (h.client.ofWeb_fetch m h.url) (h'.client.ofWeb_fetch m h'.url)
      (Client.agree_fetch hu _ _ m) fun _ => Act.agree_pure _
  · rw [description_eq hu]
    cases outcome <;> exact Act.agree_pure _

theorem agree_get (hu : Twins h.url h'.url) : h.get.run.Agree h'.get.run := by
  refine Attempt.agree_bind (ofWeb_fetch .get) (ofWeb_fetch .get) (agree_fetch hu .get) fun r => ?_
  unfold checked refused
  rw [description_eq hu]
  split <;> exact Act.agree_pure _

theorem agree_presentOnWeb (hu : Twins h.url h'.url) : h.presentOnWeb.Agree h'.presentOnWeb := by
  refine Act.agree_bind (ofWeb_fetch .head) (ofWeb_fetch .head) (agree_fetch hu .head) fun outcome => ?_
  cases outcome with
  | error f => exact Act.agree_pure _
  | ok r =>
    simp only
    split
    · exact Attempt.agree_succeeds ofWeb_get ofWeb_get (agree_get hu)
    · exact Act.agree_pure _

end UrlHandle

/-! ### Answers that are the same -/

/-- The answers of two resources, each in a world of its own. Of what is read only the bytes count. -/
structure Resource.Like (r r' : Resource) (w w' : World) : Prop where
  present : (r.present w).1 = (r'.present w').1
  readable : (r.readable w).1 = (r'.readable w').1
  reads (b : Bytes) : (r.readBytes w).1 = .ok b ↔ (r'.readBytes w').1 = .ok b

/-- Streams that open alike are read alike. -/
theorem Resource.readBytes_congr {r r' : Resource} {x : Except Failure Stream} {w₁ w₁' : World}
    (hdescription : r.description = r'.description) (ho : r.openStream w = (x, w₁))
    (ho' : r'.openStream w' = (x, w₁'))
    (hx : ∀ s, x = .ok s → (s.take w₁.disk none).1 = (s.take w₁'.disk none).1) :
    (r.readBytes w).1 = (r'.readBytes w').1 := by
  cases x with
  | error e => rw [readBytes_of_open_error ho, readBytes_of_open_error ho']
  | ok s => rw [readBytes_of_open ho, readBytes_of_open ho', hdescription, hx s rfl]

namespace UrlHandle

variable {h h' : UrlHandle}

/-- What a response brings is read without the disk. -/
theorem take_response (r : Response) (d d' : Disk) :
    ((Stream.source ⟨r.body, none, r.ending⟩).take d none).1 =
      ((Stream.source ⟨r.body, none, r.ending⟩).take d' none).1 := by
  have hflows : (Stream.source ⟨r.body, none, r.ending⟩).Flows := by simp [Stream.Flows]
  rw [Stream.take_none hflows, Stream.take_none hflows]
  rfl

theorem readBytes_of_web (hu : Twins h.url h'.url) (hhttp : h.isHttp = true) (hw : w.web = w'.web) :
    (h.resource.readBytes w).1 = (h'.resource.readBytes w').1 := by
  have hhttp' : h'.isHttp = true := hu.isHttp.symm.trans hhttp
  have hget : (h.get w).1 = (h'.get w').1 := agree_get hu w w' hw
  have hopen : ∀ {h : UrlHandle} {w : World}, h.isHttp = true → h.resource.openStream w =
      (h.get >>= fun r => pure (.source ⟨r.body, none, r.ending⟩)) w := by
    intro h w hhttp
    change h.openStream w = _
    rw [openStream, if_pos hhttp]
  -- The worlds that are left differ in the clients that were built.
  obtain ⟨x, w₁, hx⟩ : ∃ x w₁, h.get w = (x, w₁) := ⟨_, _, rfl⟩
  obtain ⟨x', w₁', hx'⟩ : ∃ x w₁, h'.get w' = (x, w₁) := ⟨_, _, rfl⟩
  rw [hx, hx'] at hget
  obtain rfl : x = x' := hget
  cases x with
  | error e =>
    refine Resource.readBytes_congr (description_eq hu)
      ((hopen hhttp).trans (Attempt.bind_of_error _ hx))
      ((hopen hhttp').trans (Attempt.bind_of_error _ hx')) ?_
    rintro _ ⟨⟩
  | ok r =>
    refine Resource.readBytes_congr (description_eq hu) ((hopen hhttp).trans (Attempt.bind_of_ok _ hx))
      ((hopen hhttp').trans (Attempt.bind_of_ok _ hx')) ?_
    rintro _ ⟨⟩
    exact take_response r _ _

theorem readBytes_of_disk (hu : Twins h.url h'.url) (hhttp : h.isHttp = false)
    (hd : w.disk = w'.disk) : (h.resource.readBytes w).1 = (h'.resource.readBytes w').1 := by
  have hhttp' : h'.isHttp = false := hu.isHttp.symm.trans hhttp
  have hpath : h.localPath? = h'.localPath? := hu.filePath?
  have hdescription := description_eq hu
  cases hp : h'.localPath? with
  | some p =>
    have hsame : h.openLocal p w.disk = h'.openLocal p w'.disk := by
      unfold openLocal failed
      rw [hdescription, hd]
    have hopen : h'.resource.openStream w' = (h.openLocal p w.disk, w') := by
      rw [openStream_of_localPath hp, hsame]
    refine Resource.readBytes_congr hdescription (openStream_of_localPath (hpath.trans hp)) hopen ?_
    intro s _
    rw [hd]
  | none =>
    have hopen : ∀ {h : UrlHandle} {w : World}, h.isHttp = false → h.localPath? = none →
        h.resource.openStream w = (.error (.io "open" h.description h.unsupported), w) := by
      intro h w hhttp hp
      change h.openStream w = _
      simp only [openStream, hhttp, hp]
      rfl
    have hunsupported : h.unsupported = h'.unsupported := by
      rw [unsupported, hu.scheme, unsupported]
    rw [Resource.readBytes_of_open_error (hopen hhttp (hpath.trans hp)),
      Resource.readBytes_of_open_error (hopen hhttp' hp), hdescription, hunsupported]

/-- Handles of URLs with one text answer alike, whatever their clients. -/
theorem like (hu : Twins h.url h'.url) (hd : w.disk = w'.disk) (hw : w.web = w'.web) :
    h.resource.Like h'.resource w w' := by
  have hhttp : h.isHttp = h'.isHttp := hu.isHttp
  have hpath : h.localPath? = h'.localPath? := hu.filePath?
  have hpresent : (h.present w).1 = (h'.present w').1 := by
    unfold present
    rw [hhttp, hpath]
    split
    · exact agree_presentOnWeb hu w w' hw
    · cases h'.localPath? with
      | some p => exact congrArg (Disk.holds · p) hd
      | none => rfl
  constructor
  · exact hpresent
  · change (h.readable w).1 = (h'.readable w').1
    unfold readable
    rw [hpath]
    cases h'.localPath? with
    | some p => exact congrArg (Disk.holdsFile · p) hd
    | none => exact hpresent
  · intro b
    cases hh : h.isHttp with
    | true => rw [readBytes_of_web hu hh hw]
    | false => rw [readBytes_of_disk hu hh hd]

theorem relative_congr (hu : Twins h.url h'.url) (r : String) :
    (∃ e e', h.relative r = .error e ∧ h'.relative r = .error e') ∨
      ∃ x x', h.relative r = .ok x ∧ h'.relative r = .ok x' ∧ Twins x.url x'.url := by
  unfold relative
  by_cases hr : r = ""
  · rw [if_pos hr, if_pos hr]
    exact Or.inl ⟨_, _, rfl, rfl⟩
  · rw [if_neg hr, if_neg hr]
    rcases hu.join (.ofList (Path.unify r.toList)) with ⟨e, he, he'⟩ | ⟨u', v', hj, hj', htwins⟩
    · rw [he, he']
      exact Or.inl ⟨_, _, rfl, rfl⟩
    · rw [hj, hj']
      exact Or.inr ⟨_, _, rfl, rfl, htwins⟩

end UrlHandle

/-! ### Files -/

namespace FileHandle

variable {h h' : FileHandle}

theorem path_ne_here (p : FilePath) : (FileHandle.of p).path.bytes ≠ FilePath.here := by
  unfold FileHandle.of
  split
  · rename_i t _
    have hhere : FilePath.here = Utf8.encode Path.here := by decide
    rw [FilePath.ofString, FilePath.ofText, Path.toList_clean, hhere, Ne, Utf8.encode_inj]
    exact Path.cleanText_ne_here t.toList
  · rename_i hnone
    intro hbytes
    rw [FilePath.text?, hbytes] at hnone
    exact absurd hnone (by decide)

theorem path_of_broken (r : Bytes) : (FileHandle.of ⟨0x80 :: r⟩).path = ⟨0x80 :: r⟩ := rfl

theorem absent_of_long (hlong : Disk.pathLimit ≤ h.path.bytes.length) :
    (h.resource.present w).1 = false := by
  change w.disk.holds h.path = false
  rw [Bool.eq_false_iff]
  exact fun hholds => absurd (Disk.length_of_holds hholds) (Nat.not_lt.2 hlong)

theorem like_iff (hd : w.disk = w'.disk) : h.resource.Like h'.resource w w' ↔
    w.disk.holds h.path = w.disk.holds h'.path ∧
      w.disk.content? h.path = w.disk.content? h'.path := by
  have hreads := FileHandle.reads (w := w) h
  have hreads' := FileHandle.reads (w := w') h'
  rw [← hd] at hreads'
  have hpresent : (h'.resource.present w').1 = w.disk.holds h'.path := congrArg (Disk.holds · _) hd.symm
  constructor
  · intro hlike
    refine ⟨hlike.present.trans hpresent, Option.ext fun b => ?_⟩
    rw [← hreads.reads, hlike.reads, hreads'.reads]
  · rintro ⟨hholds, hcontent⟩
    constructor
    · exact hholds.trans hpresent.symm
    · rw [hreads.readable, hreads'.readable, hcontent]
    · intro b
      rw [hreads.reads, hreads'.reads, hcontent]

/-- What is relative to a path that ends alike, or to the root, is one file. -/
theorem relative_congr {p q : FilePath} (h : (FileHandle.of p).path.Same (FileHandle.of q).path)
    {r : String} (hr : ((FileHandle.of p).path.EndsOpen ↔ (FileHandle.of q).path.EndsOpen) ∨ r = "" ∨
      (Path.unify r.toList).head? = some '/') :
    (∃ e e', (FileHandle.of p).relative r = .error e ∧ (FileHandle.of q).relative r = .error e') ∨
      ∃ x, (FileHandle.of p).relative r = .ok x ∧ (FileHandle.of q).relative r = .ok x := by
  have hsame : Path.relative (FileHandle.of p).shown r = Path.relative (FileHandle.of q).shown r := by
    rcases hr with hopen | rfl | hslash
    · rw [shown_of, shown_of]
      exact FilePath.relative_congr h hopen (path_ne_here p) (path_ne_here q) r
    · simp only [Path.relative, Path.relativeText, String.toList_empty, if_true]
    · simp only [Path.relative, Path.relativeText, hslash, if_true]
  unfold relative
  rw [hsame]
  cases Path.relative (FileHandle.of q).shown r with
  | none => exact Or.inl ⟨_, _, rfl, rfl⟩
  | some x => exact Or.inr ⟨_, rfl, rfl⟩

end FileHandle

/-! ### Names and bytes -/

theorem ClassPathHandle.like (h : ClassPathHandle) (hd : w.disk = w'.disk) :
    h.resource.Like h.resource w w' := by
  constructor
  · exact congrArg h.present hd
  · exact congrArg h.readable hd
  · intro b
    rw [(reads h).reads, (reads h).reads, hd]

theorem BytesHandle.like {h h' : BytesHandle} (hdata : h.data = h'.data) :
    h.resource.Like h'.resource w w' := by
  constructor
  · rfl
  · rfl
  · intro b
    rw [(reads h).reads, (reads h').reads, hdata]

/-! ### Handles -/

namespace Handle

/-- The handles that come of constructors. A file is one of a path, and a URL is one that was made. -/
inductive Made : Handle → Prop
  | file (p : FilePath) : Made (.file (.of p))
  | classPath (h : ClassPathHandle) : Made (.classPath h)
  | url {h : UrlHandle} : h.url.Made → Made (.url h)
  | bytes (h : BytesHandle) : Made (.bytes h)
  | stream (h : StreamHandle) : Made (.stream h)

/-- Paths of files that end in a segment that leads nowhere both, or neither. -/
def EndAlike : Handle → Handle → Prop
  | file x, file y => x.path.EndsOpen ↔ y.path.EndsOpen
  | _, _ => True

/-- Paths of files that are short enough for the disk both, or neither. -/
def FitAlike : Handle → Handle → Prop
  | file x, file y => x.path.bytes.length < Disk.pathLimit ↔ y.path.bytes.length < Disk.pathLimit
  | _, _ => True

/-- A relative path leads to handles that are alike, or is refused by both. -/
def RelativeAlike (a b : Handle) (r : String) (w w' : World) : Prop :=
  (∃ e e', (a.resource.relative r w).1 = .error e ∧ (b.resource.relative r w').1 = .error e') ∨
    ∃ a' b', (a.resource.relative r w).1 = .ok a' ∧ (b.resource.relative r w').1 = .ok b' ∧
      a'.Alike b'

/-- Relative paths that need nothing of the world. -/
theorem relativeAlike_of_except {a b : Handle} {r : String} {x y : Except Failure α} {f : α → Handle}
    (ha : a.resource.relative r = f <$> Attempt.ofExcept x)
    (hb : b.resource.relative r = f <$> Attempt.ofExcept y)
    (h : (∃ e e', x = .error e ∧ y = .error e') ∨
      ∃ s t, x = .ok s ∧ y = .ok t ∧ (f s).Alike (f t)) : a.RelativeAlike b r w w' := by
  unfold RelativeAlike
  rw [ha, hb, Attempt.map_ofExcept, Attempt.map_ofExcept]
  rcases h with ⟨e, e', rfl, rfl⟩ | ⟨s, t, rfl, rfl, h⟩
  · exact Or.inl ⟨e, e', rfl, rfl⟩
  · exact Or.inr ⟨f s, f t, rfl, rfl, h⟩

theorem relativeAlike_file {p q : FilePath} {r : String} (h : (file (.of p)).Alike (file (.of q)))
    (hr : (file (.of p)).EndAlike (file (.of q)) ∨ r = "" ∨
      (Path.unify r.toList).head? = some '/') :
    (file (.of p)).RelativeAlike (file (.of q)) r w w' := by
  apply relativeAlike_of_except rfl rfl
  rcases FileHandle.relative_congr h hr with herror | ⟨x, hx, hx'⟩
  · exact Or.inl herror
  · exact Or.inr ⟨x, x, hx, hx', rfl, rfl⟩

theorem relativeAlike_classPath (x : ClassPathHandle) (r : String) :
    (classPath x).RelativeAlike (classPath x) r w w' := by
  apply relativeAlike_of_except rfl rfl
  cases x.relative r with
  | error e => exact Or.inl ⟨e, e, rfl, rfl⟩
  | ok y => exact Or.inr ⟨y, y, rfl, rfl, rfl⟩

theorem relativeAlike_url {x y : UrlHandle} (h : Twins x.url y.url) (r : String) :
    (url x).RelativeAlike (url y) r w w' := by
  apply relativeAlike_of_except rfl rfl
  rcases UrlHandle.relative_congr h r with herror | ⟨x', y', hx, hy, htwins⟩
  · exact Or.inl herror
  · exact Or.inr ⟨x', y', hx, hy, htwins.text⟩

/-- A shelf with a name that is no text, and a file on it. -/
def shelfWorld : World where
  disk :=
    { entries := [([[0x80]], .directory), ([[0x66], [0x80]], .file 0)]
      bodies := [⟨[0x61], .epoch⟩]
      home := [] }
  web := ⟨[], false⟩
  sent := []
  built := []
  taken := []
  next := 0

/-- One spelling of the path of that file. -/
def shelfFile : Handle := file (.of ⟨[0x80, 0x2F, 0x2F, 0x66]⟩)

/-- Another spelling of it. -/
def shelfFileAgain : Handle := file (.of ⟨[0x80, 0x2F, 0x2E, 0x2F, 0x66]⟩)

theorem alike_slashes (n : Nat) :
    (file (.of ⟨0x80 :: List.replicate n FilePath.slash⟩)).Alike (file (.of ⟨[0x80]⟩)) :=
  FilePath.same_append_slashes (p := ⟨[0x80]⟩) (by decide) n

end Handle

end Resources
