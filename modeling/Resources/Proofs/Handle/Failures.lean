import Resources.Proofs.Handle.Missing

/-! How calls on handles fail. Each failure is about the handle, and what kind of failure it is tells
what was asked of which kind of handle. -/
namespace Resources

variable {α β : Type} {e : Failure} {w : World}

/-! ### How calls fail -/

/-- Does the call ask for the URL? -/
def Call.asksUrl : Call α → Bool
  | ask .url | ask .uri => true
  | _ => false

def Call.asksFile : Call α → Bool
  | ask .file => true
  | _ => false

def Call.isRelative : Call α → Bool
  | relative _ => true
  | _ => false

/-- Does a name lead to a content in memory? -/
def Handle.isBundled (d : Disk) : Handle → Bool
  | classPath h =>
    match h.lookup d with
    | some (.bundled _) => true
    | _ => false
  | _ => false

/-- What a failure says it is about. A content in memory, asked for its file, says that it is one. -/
def Handle.blamed (h : Handle) (d : Disk) (k : Call α) : String :=
  if k.asksFile && h.isBundled d then s!"{h.description} (embedded, not in a file system)"
  else h.description

/-- How a call on a handle may fail. -/
inductive Handle.MayFail (h : Handle) (w : World) : {α : Type} → Call α → Failure → Prop
  | content {e : Failure} {α : Type} (t : Taking α) : e.Reports h.description →
      MayFail h w (.take t) e
  | length {e : Failure} : e.Reports h.description → MayFail h w (.ask .contentLength) e
  | time {e : Failure} : e.Reports h.description → MayFail h w (.ask .lastModified) e
  | consumed {s : StreamHandle} {α : Type} (t : Taking α) : h = .stream s → s.isTaken w = true →
      MayFail h w (.take t) (.alreadyConsumed h.description)
  | url : MayFail h w (.ask .url) (.unresolvableLocator h.description "URL")
  | uri : MayFail h w (.ask .uri) (.unresolvableLocator h.description "URL")
  | noFile : MayFail h w (.ask .file) (.notFound (h.blamed w.disk (.ask .file)))
  | remote {u : UrlHandle} : h = .url u → u.isFile = false →
      MayFail h w (.ask .file) (.unresolvableLocator h.description "file path")
  | placeless {u : UrlHandle} (reason : String) : h = .url u →
      MayFail h w (.ask .file) (.resolution h.description reason)
  | relative (path reason : String) : MayFail h w (.relative path) (.resolution h.description reason)
  | unsupported (path : String) : h.kind ∈ [.byteArray, .inputStream] →
      MayFail h w (.relative path) (.notSupported "create_relative" h.description)

/-- An address beside a handle is refused with a reason. -/
theorem Handle.mayFail_relative {h : Handle} {path : String} {x : Except Failure α} {f : α → Handle}
    (hx : ∀ e, x = .error e → ∃ reason, e = .resolution h.description reason)
    (he : ((f <$> Attempt.ofExcept x) w).1 = .error e) : h.MayFail w (.relative path) e := by
  obtain ⟨reason, rfl⟩ := hx e (Attempt.map_ofExcept_eq_error he)
  exact .relative path reason

/-! ### Each kind of handle -/

namespace FileHandle

variable {h : FileHandle}

theorem failsAs_openStream :
    h.resource.openStream.FailsAs (Failure.Reports h.resource.description) := by
  refine Attempt.failsAs_onDisk fun d e he => ?_
  unfold openStream at he
  split at he
  · obtain rfl := Except.error.inj he
    exact Failure.reports_ofFault _ _ _
  · obtain rfl := Except.error.inj he
    exact .faulty "open" (by simp [isDirectory])
  · cases he

theorem url_eq_error {d : Disk} (he : h.url d = .error e) :
    e = .unresolvableLocator h.description "URL" := by
  unfold url at he
  split at he
  · cases he
  · exact (Except.error.inj he).symm

theorem reports_metadata {g : Metadata → β} {operation : String} {d : Disk}
    (he : (h.metadata operation d).map g = .error e) : e.Reports h.description := by
  unfold metadata at he
  cases hm : d.metadata h.path with
  | ok m => rw [hm] at he; cases he
  | error f =>
    rw [hm] at he
    obtain rfl := Except.error.inj he
    exact Failure.reports_ofFault _ _ _

theorem relative_eq_error {path : String} (he : h.relative path = .error e) :
    ∃ reason, e = .resolution h.description reason := by
  unfold relative at he
  split at he
  · cases he
  · exact ⟨_, (Except.error.inj he).symm⟩

theorem mayFail {k : Call α} (he : k.failure? (h.resource.call k w).1 = some e) :
    (Handle.file h).MayFail w k e := by
  cases k with
  | take t =>
    have hc : h.resource.StreamsChannels := rfl
    exact .content t (Resource.reports_take hc failsAs_openStream t w e (failureIn_eq_some.1 he))
  | relative path =>
    exact Handle.mayFail_relative (fun _ => relative_eq_error) (failureIn_eq_some.1 he)
  | ask q =>
    cases q with
    | url =>
      obtain rfl := url_eq_error (failureIn_eq_some.1 he)
      exact .url
    | uri =>
      obtain rfl := url_eq_error (failureIn_eq_some.1 he)
      exact .uri
    | contentLength => exact .length (reports_metadata (failureIn_eq_some.1 he))
    | lastModified => exact .time (reports_metadata (failureIn_eq_some.1 he))
    | _ => cases he

end FileHandle

namespace ClassPathHandle

variable {h : ClassPathHandle} {disk : Disk}

/-- An answer about a hit fails where there is none, or as the answer itself. -/
theorem reports_of_hit {f : Hit → Except Failure α}
    (hf : ∀ x e, f x = .error e → e.Reports h.description) (he : (h.hit disk >>= f) = .error e) :
    e.Reports h.description := by
  unfold hit at he
  split at he
  · exact hf _ e he
  · obtain rfl := Except.error.inj he
    exact .absent

theorem failsAs_openStream :
    h.resource.openStream.FailsAs (Failure.Reports h.resource.description) := by
  refine Attempt.failsAs_onDisk fun d e he => reports_of_hit (fun x e he => ?_) he
  cases x with
  | bundled data => cases he
  | file p =>
    simp only at he
    split at he
    · obtain rfl := Except.error.inj he
      exact Failure.reports_ofFault _ _ _
    · obtain rfl := Except.error.inj he
      exact .faulty "open" (by simp [FileHandle.isDirectory])
    · cases he

theorem reports_contentLength (he : h.contentLength disk = .error e) :
    e.Reports h.description := by
  refine reports_of_hit (fun x e he => ?_) he
  cases x with
  | bundled data => cases he
  | file p => exact Failure.reports_of_bind_mapError (fun m => ⟨_, rfl⟩) he

theorem reports_lastModified (he : h.lastModified disk = .error e) :
    e.Reports h.description := by
  refine reports_of_hit (fun x e he => ?_) he
  cases x with
  | bundled data =>
    obtain rfl := Except.error.inj he
    exact .unresolved _
  | file p => exact Failure.reports_of_bind_mapError (fun m => ⟨_, rfl⟩) he

theorem url_eq_error (he : h.url disk = .error e) :
    e = .unresolvableLocator h.description "URL" := by
  unfold url at he
  split at he
  · split at he
    · cases he
    · exact (Except.error.inj he).symm
  · exact (Except.error.inj he).symm

theorem file_eq_error (he : h.file disk = .error e) :
    e = .notFound ((Handle.classPath h).blamed disk (.ask .file)) := by
  cases hl : h.lookup disk with
  | none =>
    have hb : (Handle.classPath h).isBundled disk = false := by simp [Handle.isBundled, hl]
    simp only [file, hit, hl, bind, Except.bind, notFound] at he
    rw [Handle.blamed, hb]
    exact (Except.error.inj he).symm
  | some x =>
    cases x with
    | file p => simp [file, hit, hl, bind, Except.bind] at he
    | bundled data =>
      have hb : (Handle.classPath h).isBundled disk = true := by simp [Handle.isBundled, hl]
      simp only [file, hit, hl, bind, Except.bind] at he
      rw [Handle.blamed, hb]
      exact (Except.error.inj he).symm

theorem relative_eq_error {path : String} (he : h.relative path = .error e) :
    ∃ reason, e = .resolution h.description reason := by
  unfold relative at he
  split at he
  · exact ⟨_, (Except.error.inj he).symm⟩
  · simp only at he
    split at he
    · exact ⟨_, (Except.error.inj he).symm⟩
    · cases he

theorem mayFail {k : Call α} (he : k.failure? (h.resource.call k w).1 = some e) :
    (Handle.classPath h).MayFail w k e := by
  cases k with
  | take t =>
    exact .content t
      (Resource.reports_take streamsChannels failsAs_openStream t w e (failureIn_eq_some.1 he))
  | relative path =>
    exact Handle.mayFail_relative (fun _ => relative_eq_error) (failureIn_eq_some.1 he)
  | ask q =>
    cases q with
    | url =>
      obtain rfl := url_eq_error (failureIn_eq_some.1 he)
      exact .url
    | uri =>
      obtain rfl := url_eq_error (failureIn_eq_some.1 he)
      exact .uri
    | file =>
      obtain rfl := file_eq_error (failureIn_eq_some.1 he)
      exact .noFile
    | contentLength => exact .length (reports_contentLength (failureIn_eq_some.1 he))
    | lastModified => exact .time (reports_lastModified (failureIn_eq_some.1 he))
    | _ => cases he

end ClassPathHandle

namespace UrlHandle

variable {h : UrlHandle}

theorem failsAs_fetch (m : Method) : (h.fetch m).FailsAs (Failure.Reports h.description) := by
  refine Attempt.failsAs_bind (Attempt.failsAs_lift _) fun outcome => ?_
  cases outcome with
  | ok r => exact Attempt.failsAs_pure r
  | error f => exact Attempt.failsAs_throw (.refused _)

theorem reports_refused (status : Nat) : (h.refused status).Reports h.description := by
  unfold refused
  split
  · exact .absent
  · exact .faulty "fetch" (by simp)

theorem failsAs_checked (r : Response) : (h.checked r).FailsAs (Failure.Reports h.description) := by
  unfold checked
  split
  · exact Attempt.failsAs_pure r
  · exact Attempt.failsAs_throw (reports_refused _)

theorem failsAs_get : h.get.FailsAs (Failure.Reports h.description) :=
  Attempt.failsAs_bind (failsAs_fetch .get) failsAs_checked

theorem failsAs_header (name : String) :
    (h.header name).FailsAs (Failure.Reports h.description) := by
  refine Attempt.failsAs_bind (failsAs_fetch .head) fun r =>
    Attempt.failsAs_bind (failsAs_checked r) fun r => ?_
  cases r.headerText? name with
  | some t => exact Attempt.failsAs_pure t
  | none => exact Attempt.failsAs_throw (.unresolved _)

theorem failsAs_metadata (p : FilePath) (operation : String) :
    (Attempt.onDisk (h.metadata p operation)).FailsAs (Failure.Reports h.description) :=
  Attempt.failsAs_onDisk fun _ _ he => Failure.reports_of_mapError he

theorem failsAs_openStream :
    h.resource.openStream.FailsAs (Failure.Reports h.resource.description) := by
  change h.openStream.FailsAs (Failure.Reports h.description)
  cases hh : h.isHttp with
  | true =>
    rw [openStream_eq_get hh]
    exact Attempt.failsAs_bind failsAs_get fun r => Attempt.failsAs_pure _
  | false =>
    cases hp : h.localPath? with
    | none =>
      rw [openStream_eq_throw hh hp]
      exact Attempt.failsAs_throw (.faulty "open" (by simp [unsupported]))
    | some p =>
      rw [openStream_eq_onDisk hp]
      refine Attempt.failsAs_onDisk fun d e he => ?_
      unfold openLocal at he
      split at he
      · obtain rfl := Except.error.inj he
        exact Failure.reports_ofFault _ _ _
      · cases he
      · cases he

theorem failsAs_contentLength : h.contentLength.FailsAs (Failure.Reports h.description) := by
  unfold contentLength
  split
  · refine Attempt.failsAs_bind (failsAs_header _) fun value => ?_
    split
    · exact Attempt.failsAs_pure _
    · exact Attempt.failsAs_throw (.unresolved _)
  · split
    · exact Attempt.failsAs_bind (failsAs_metadata _ _) fun m => Attempt.failsAs_pure _
    · exact Attempt.failsAs_throw (.unresolved _)

theorem failsAs_lastModified : h.lastModified.FailsAs (Failure.Reports h.description) := by
  unfold lastModified
  split
  · refine Attempt.failsAs_bind (failsAs_header _) fun value => ?_
    split
    · exact Attempt.failsAs_pure _
    · exact Attempt.failsAs_throw (.unresolved _)
  · split
    · exact Attempt.failsAs_bind (failsAs_metadata _ _) fun m => Attempt.failsAs_pure _
    · exact Attempt.failsAs_throw (.unresolved _)

theorem mayFail_file (he : h.file = .error e) :
    (Handle.url h).MayFail w (.ask .file) e := by
  unfold file at he
  split at he
  · rename_i hf
    obtain rfl := Except.error.inj he
    exact .remote rfl (by simpa using hf)
  · split at he
    · cases he
    · obtain rfl := Except.error.inj he
      exact .placeless _ rfl

theorem relative_eq_error {path : String} (he : h.relative path = .error e) :
    ∃ reason, e = .resolution h.description reason := by
  unfold relative at he
  split at he
  · exact ⟨_, (Except.error.inj he).symm⟩
  · split at he
    · cases he
    · exact ⟨_, (Except.error.inj he).symm⟩

theorem mayFail {k : Call α} (he : k.failure? (h.resource.call k w).1 = some e) :
    (Handle.url h).MayFail w k e := by
  cases k with
  | take t =>
    have hc : h.resource.StreamsChannels := rfl
    exact .content t (Resource.reports_take hc failsAs_openStream t w e (failureIn_eq_some.1 he))
  | relative path =>
    exact Handle.mayFail_relative (fun _ => relative_eq_error) (failureIn_eq_some.1 he)
  | ask q =>
    cases q with
    | file => exact mayFail_file (failureIn_eq_some.1 he)
    | contentLength => exact .length (failsAs_contentLength w e (failureIn_eq_some.1 he))
    | lastModified => exact .time (failsAs_lastModified w e (failureIn_eq_some.1 he))
    | _ => cases he

end UrlHandle

namespace BytesHandle

variable {h : BytesHandle}

theorem mayFail {k : Call α} (he : k.failure? (h.resource.call k w).1 = some e) :
    (Handle.bytes h).MayFail w k e := by
  cases k with
  | take t =>
    -- Channels are opened in a way of their own, which cannot fail.
    let r : Resource := { h.resource with openChannel := Channel.ofStream <$> h.resource.openStream }
    have hr : (r.take t).FailsAs (Failure.Reports h.description) :=
      Resource.reports_take (r := r) rfl (Attempt.failsAs_pure _) t
    cases t with
    | channel => cases he
    | stream | bytes | text | json => exact .content _ (hr w e (failureIn_eq_some.1 he))
  | relative path =>
    obtain rfl := Option.some.inj he
    exact .unsupported path (.head _)
  | ask q =>
    cases q with
    | url =>
      obtain rfl := Option.some.inj he
      exact .url
    | uri =>
      obtain rfl := Option.some.inj he
      exact .uri
    | file =>
      obtain rfl := Option.some.inj he
      exact .noFile
    | lastModified =>
      obtain rfl := Option.some.inj he
      exact .time (.unresolved _)
    | _ => cases he

end BytesHandle

namespace StreamHandle

variable {h : StreamHandle}

theorem mayFail {k : Call α} (he : k.failure? (h.resource.call k w).1 = some e) :
    (Handle.stream h).MayFail w k e := by
  cases k with
  | take t =>
    have he : (h.resource.take t w).1 = .error e := failureIn_eq_some.1 he
    cases hw : h.isTaken w with
    | true =>
      rw [take_of_taken hw] at he
      obtain rfl := Except.error.inj he
      exact .consumed t rfl hw
    | false =>
      rw [take_of_not_taken hw] at he
      exact .content t (t.reports_ofStream he)
  | relative path =>
    obtain rfl := Option.some.inj he
    exact .unsupported path (.tail _ (.head _))
  | ask q =>
    cases q with
    | url =>
      obtain rfl := Option.some.inj he
      exact .url
    | uri =>
      obtain rfl := Option.some.inj he
      exact .uri
    | file =>
      obtain rfl := Option.some.inj he
      exact .noFile
    | contentLength =>
      obtain rfl := Option.some.inj he
      exact .length (.unresolved _)
    | lastModified =>
      obtain rfl := Option.some.inj he
      exact .time (.unresolved _)
    | _ => cases he

end StreamHandle
/-! ### All handles -/

namespace Handle

theorem mayFail {h : Handle} {k : Call α} (he : k.failure? (h.resource.call k w).1 = some e) :
    h.MayFail w k e := by
  cases h with
  | file h => exact FileHandle.mayFail he
  | classPath h => exact ClassPathHandle.mayFail he
  | url h => exact UrlHandle.mayFail he
  | bytes h => exact BytesHandle.mayFail he
  | stream h => exact StreamHandle.mayFail he

/-- What the failure of a call on a handle tells. -/
structure Tells (h : Handle) (w : World) (k : Call α) (e : Failure) : Prop where
  description : e.description = h.blamed w.disk k
  faulty : ∀ operation d f, e = .io operation d f → f.kind ≠ .notFound
  consumed : ∀ d, e = .alreadyConsumed d → ∃ s, h = .stream s ∧ s.isTaken w = true
  unsupported : ∀ operation d, e = .notSupported operation d →
    k.isRelative = true ∧ h.kind ∈ [.byteArray, .inputStream]
  unresolvable : ∀ d form, e = .unresolvableLocator d form →
    k.asksUrl = true ∨ k.asksFile = true ∧ ∃ u, h = .url u ∧ u.isFile = false
  relative : k.isRelative = true → h.kind ∈ [.file, .classPath, .url] →
    ∃ reason, e = .resolution h.description reason

theorem blamed_of_not_file {h : Handle} {k : Call α} {disk : Disk} (hk : k.asksFile = false) :
    h.blamed disk k = h.description := by
  simp [blamed, hk]

theorem tells_of_reports {h : Handle} {k : Call α} (he : e.Reports h.description)
    (hf : k.asksFile = false) (hr : k.isRelative = false) : h.Tells w k e where
  description := by
    rw [blamed_of_not_file hf]
    cases he <;> rfl
  faulty := by
    rintro operation d f rfl
    cases he
    assumption
  consumed := by
    rintro d rfl
    cases he
  unsupported := by
    rintro operation d rfl
    cases he
  unresolvable := by
    rintro d form rfl
    cases he
  relative hk := by simp [hr] at hk

theorem tells_of_unresolvable {h : Handle} {k : Call α} {form : String}
    (hb : h.blamed w.disk k = h.description)
    (hk : k.asksUrl = true ∨ k.asksFile = true ∧ ∃ u, h = .url u ∧ u.isFile = false)
    (hr : k.isRelative = false) : h.Tells w k (.unresolvableLocator h.description form) where
  description := hb.symm
  faulty := nofun
  consumed := nofun
  unsupported := nofun
  unresolvable _ _ _ := hk
  relative hk := by simp [hr] at hk

theorem tells_of_resolution {h : Handle} {k : Call α} {reason : String}
    (hb : h.blamed w.disk k = h.description) : h.Tells w k (.resolution h.description reason) where
  description := hb.symm
  faulty := nofun
  consumed := nofun
  unsupported := nofun
  unresolvable := nofun
  relative _ _ := ⟨reason, rfl⟩

theorem tells_of_mayFail {h : Handle} {k : Call α} (he : h.MayFail w k e) : h.Tells w k e := by
  cases he with
  | content t he => exact tells_of_reports he rfl rfl
  | length he => exact tells_of_reports he rfl rfl
  | time he => exact tells_of_reports he rfl rfl
  | consumed t hs ht =>
    exact {
      description := (blamed_of_not_file rfl).symm
      faulty := nofun
      consumed := fun _ _ => ⟨_, hs, ht⟩
      unsupported := nofun
      unresolvable := nofun
      relative := nofun }
  | url => exact tells_of_unresolvable (blamed_of_not_file rfl) (.inl rfl) rfl
  | uri => exact tells_of_unresolvable (blamed_of_not_file rfl) (.inl rfl) rfl
  | remote hu hf =>
    refine tells_of_unresolvable ?_ (.inr ⟨rfl, _, hu, hf⟩) rfl
    rw [hu]
    rfl
  | noFile =>
    exact {
      description := rfl
      faulty := nofun
      consumed := nofun
      unsupported := nofun
      unresolvable := nofun
      relative := nofun }
  | placeless reason hu =>
    refine tells_of_resolution ?_
    rw [hu]
    rfl
  | relative path reason => exact tells_of_resolution (blamed_of_not_file rfl)
  | unsupported path hk =>
    exact {
      description := (blamed_of_not_file rfl).symm
      faulty := nofun
      consumed := nofun
      unsupported := fun _ _ _ => ⟨rfl, hk⟩
      unresolvable := nofun
      relative := fun _ hk' => by
        revert hk hk'
        cases h.kind <;> simp }

/-- A content in memory, by its name. -/
def appHandle : Handle := .classPath (.of "app.yaml" (ClassPathHandle.layered []))

end Handle

end Resources
