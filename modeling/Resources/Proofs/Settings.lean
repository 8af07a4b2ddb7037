import Resources.Settings
import Resources.Proofs.Json.Needed
import Resources.Proofs.Json.Rendered
import Resources.Proofs.Path.Shown

/-! Settings and their JSON form. Two halves meet at the settings that JSON holds: those are read back
as they are written, and no others are read. -/
namespace Resources.Settings

open Json hiding IsText
open Scan
open FilePath (IsText)

variable {s : Settings} {g : Given} {p : FilePath} {ps : List FilePath} {b : Option String}
  {ts : List String} {d : Duration} {n : Nat} {v : Value} {t u w r : Bytes} {f : Feed}

/-! ### What has a JSON form -/

theorem exists_texts (h : ∀ p ∈ ps, IsText p.bytes) : ∃ ts : List String, ps = ts.map .ofString := by
  induction ps with
  | nil => exact ⟨[], rfl⟩
  | cons p ps ih =>
    obtain ⟨hp, hps⟩ := List.forall_mem_cons.1 h
    obtain ⟨x, rfl⟩ := FilePath.isText_iff_ofString.1 hp
    obtain ⟨ts, rfl⟩ := ih hps
    exact ⟨x :: ts, rfl⟩

/-- The settings with these texts for paths. -/
def ofTexts (b : Option String) (ts : List String) (d : Duration) : Settings :=
  ⟨b.map .ofString, ts.map .ofString, d⟩

/-- The fields of the JSON form of settings with these texts for paths. -/
def members (b : Option String) (ts : List String) (n : Nat) : List (String × Value) :=
  [("base_dir", b.elim .null .text), ("class_path", .list (ts.map .text)),
    ("http_timeout_secs", .number (.whole n))]

theorem mapM_text (ts : List String) :
    (ts.map FilePath.ofString).mapM (fun p => Value.text <$> p.text?) = some (ts.map .text) := by
  induction ts with
  | nil => rfl
  | cons x ts ih =>
    rw [List.map_cons, List.mapM_cons, ih, FilePath.ofString_eq, FilePath.text?_ofText,
      String.ofList_toList]
    rfl

theorem toJson?_ofTexts : (ofTexts b ts d).toJson? = some (.record (members b ts d.seconds)) := by
  unfold toJson? ofTexts
  simp only [mapM_text]
  cases b with
  | none => rfl
  | some x =>
    simp only [Option.map_some, FilePath.ofString_eq, FilePath.text?_ofText, String.ofList_toList]
    rfl

theorem mapM_eq_none (h : ∃ p ∈ ps, ¬ IsText p.bytes) :
    ps.mapM (fun p => Value.text <$> p.text?) = none := by
  induction ps with
  | nil => simp at h
  | cons p ps ih =>
    rw [List.mapM_cons]
    by_cases hp : IsText p.bytes
    · obtain ⟨q, hq, hbad⟩ := h
      have hq : q ∈ ps := (List.mem_cons.1 hq).resolve_left (by rintro rfl; exact hbad hp)
      rw [ih ⟨q, hq, hbad⟩]
      cases p.text? <;> rfl
    · rw [FilePath.text?_of_not_isText hp]
      rfl

theorem eq_ofTexts (h : ¬ ((∃ p, s.baseDir = some p ∧ ¬ IsText p.bytes) ∨
    ∃ p ∈ s.classPath, ¬ IsText p.bytes)) : ∃ b ts, s = ofTexts b ts s.timeout := by
  obtain ⟨base, ps, d⟩ := s
  rw [not_or] at h
  obtain ⟨ts, rfl⟩ := exists_texts fun p hp => by_contra fun hbad => h.2 ⟨p, hp, hbad⟩
  cases base with
  | none => exact ⟨none, ts, rfl⟩
  | some p =>
    have hp : IsText p.bytes := by_contra fun hbad => h.1 ⟨p, rfl, hbad⟩
    obtain ⟨x, rfl⟩ := FilePath.isText_iff_ofString.1 hp
    exact ⟨some x, ts, rfl⟩

/-- Only paths that are no text keep settings from having a JSON form. -/
theorem toJson?_eq_none : s.toJson? = none ↔
    (∃ p, s.baseDir = some p ∧ ¬ IsText p.bytes) ∨ ∃ p ∈ s.classPath, ¬ IsText p.bytes := by
  constructor
  · intro h
    by_contra hbad
    obtain ⟨b, ts, hs⟩ := eq_ofTexts hbad
    rw [hs, toJson?_ofTexts] at h
    cases h
  · obtain ⟨base, ps, d⟩ := s
    rintro (⟨p, rfl, hp⟩ | hps)
    · unfold toJson?
      simp only [FilePath.text?_of_not_isText hp]
      rfl
    · unfold toJson?
      simp only [mapM_eq_none hps]
      cases base with
      | none => rfl
      | some p =>
        simp only
        cases p.text? <;> rfl

/-! ### What is written is read back -/

/-- A path is written as a text. -/
def PathText (t : Bytes) (p : FilePath) (r : Bytes) : Prop := ∃ x, Quotation t x r ∧ p = .ofString x

theorem path_of : TakenBy path PathText := by
  rintro b t _ r hb ⟨x, hx, rfl⟩ hr
  unfold path
  rw [Scan.bind_of_ok _ (textValue_of hb hx hr)]
  rfl

theorem PathText.begins : Begins PathText := by
  rintro t _ r ⟨x, ⟨u, rfl, -⟩, -⟩
  exact ⟨0x22, u, rfl, by decide, by decide⟩

theorem PathText.length_lt (h : PathText t p r) : r.length < t.length := by
  obtain ⟨x, ⟨u, rfl, hx⟩, -⟩ := h
  exact Nat.lt_succ_of_lt (Quoted.length_lt hx)

theorem pathText_render (x : String) (r : Bytes) :
    PathText (utf8 (Value.text x).render ++ r) (.ofString x) r := ⟨x, text_quote x r, rfl⟩

theorem base_of (hx : Blanks u t) (ht : Rendered t (b.elim .null .text) r) (hr : Apart r) :
    base ⟨u, none⟩ = .ok (b.map .ofString, ⟨r, none⟩) := by
  cases b with
  | none =>
    subst ht
    exact nullOr_null hx
  | some x =>
    obtain ⟨y, hy, htext⟩ := text_quote x r
    obtain rfl : t = 0x22 :: y := Eq.trans ht hy
    have hpath : path ⟨0x22 :: y, none⟩ = .ok (.ofString x, ⟨r, none⟩) :=
      path_of (Blanks.refl _) ⟨x, ⟨y, rfl, htext⟩, rfl⟩ hr
    exact nullOr_some hx (by decide) (by decide) hpath

theorem paths_of (hx : Blanks u t) (ht : Rendered t (.list (ts.map .text)) r) :
    paths ⟨u, none⟩ = .ok (ts.map .ofString, ⟨r, none⟩) := by
  obtain ⟨w, hw, hitems⟩ := items_render (fun x (_ : x ∈ ts) => pathText_render x) r
  obtain rfl : t = 0x5B :: w := Eq.trans ht hw
  exact listValue_of path_of PathText.begins PathText.length_lt hx hitems

theorem seconds_of (hn : n < Nat.pow 2 64) (hx : Blanks u t)
    (ht : Rendered t (.number (.whole n)) r) (hr : Apart r) :
    seconds ⟨u, none⟩ = .ok (.ofSeconds n, ⟨r, none⟩) := by
  subst ht
  unfold seconds
  rw [Scan.bind_of_ok _ (wholeValue_of (figures_render hn r) hn hx hr)]
  rfl

theorem field_base {o : Option FilePath} (hg : g.baseDir = none) (hw : Blanks w (0x3A :: u))
    (ho : base ⟨u, none⟩ = .ok (o, f)) :
    field g "base_dir" ⟨w, none⟩ = .ok ({ g with baseDir := some o }, f) := by
  unfold field once
  simp only [hg, Option.isSome_none, Bool.false_eq_true, if_false, if_true, pure_bind]
  exact colon_bind _ hw ho

theorem field_paths (hg : g.classPath = none) (hw : Blanks w (0x3A :: u))
    (hps : paths ⟨u, none⟩ = .ok (ps, f)) :
    field g "class_path" ⟨w, none⟩ = .ok ({ g with classPath := some ps }, f) := by
  have hkey : "class_path" ≠ "base_dir" := by decide
  unfold field once
  simp only [hkey, hg, Option.isSome_none, Bool.false_eq_true, if_false, if_true, pure_bind]
  exact colon_bind _ hw hps

theorem field_seconds (hg : g.timeout = none) (hw : Blanks w (0x3A :: u))
    (hd : seconds ⟨u, none⟩ = .ok (d, f)) :
    field g "http_timeout_secs" ⟨w, none⟩ = .ok ({ g with timeout := some d }, f) := by
  have hkey : "http_timeout_secs" ≠ "base_dir" := by decide
  have hkey' : "http_timeout_secs" ≠ "class_path" := by decide
  unfold field once
  simp only [hkey, hkey', hg, Option.isSome_none, Bool.false_eq_true, if_false, if_true, pure_bind]
  exact colon_bind _ hw hd

/-- The fields of the JSON form are taken in their order, each for the first time. -/
theorem through_members (hn : n < Nat.pow 2 64) : Through field Rendered {} (members b ts n)
    ⟨some (b.map .ofString), some (ts.map .ofString), some (.ofSeconds n)⟩ := by
  refine .cons (fun hw hx ht hr => field_base rfl hw (base_of hx ht hr)) ?_
  refine .cons (fun hw hx ht _ => field_paths rfl hw (paths_of hx ht)) ?_
  exact .cons (fun hw hx ht hr => field_seconds rfl hw (seconds_of hn hx ht hr)) .nil

theorem ofJson_members (hn : n < Nat.pow 2 64) :
    ofJson (Value.record (members b ts n)).render = .ok (ofTexts b ts (.ofSeconds n)) := by
  obtain ⟨u, hu, hfields⟩ := fields_render (members b ts n) []
  rw [List.append_nil] at hu
  have hbody : recordBody field {} ⟨0x7B :: u, none⟩ =
      .ok (⟨some (b.map .ofString), some (ts.map .ofString), some (.ofSeconds n)⟩, ⟨[0x7D], none⟩) :=
    fields_of (through_members hn) Rendered.length_le hfields (Nat.lt_succ_self _)
  have hscan : scan ⟨0x7B :: u, none⟩ = .ok (ofTexts b ts (.ofSeconds n), ⟨[], none⟩) := by
    unfold scan
    rw [Scan.bind_of_ok _ (Scan.upcoming_cons (Blanks.refl _) (by decide))]
    simp only
    rw [Scan.bind_of_ok _ (enclosed_of_ok hbody (endRecord_of [] none))]
    rfl
  rw [← hu] at hscan
  exact readText_of hscan (Blanks.refl _)

/-! ### What is read has a JSON form -/

/-- Settings that JSON holds: paths that are texts, and whole seconds of 64 bits. -/
structure Held (s : Settings) : Prop where
  baseDir : ∀ p ∈ s.baseDir, IsText p.bytes
  classPath : ∀ p ∈ s.classPath, IsText p.bytes
  timeout : ∃ n, n < Nat.pow 2 64 ∧ s.timeout = .ofSeconds n

/-- Each field read so far is one that JSON holds. -/
structure Given.Held (g : Given) : Prop where
  baseDir : ∀ o ∈ g.baseDir, ∀ p ∈ o, IsText p.bytes
  classPath : ∀ ps ∈ g.classPath, ∀ p ∈ ps, IsText p.bytes
  timeout : ∀ d ∈ g.timeout, ∃ n, n < Nat.pow 2 64 ∧ d = .ofSeconds n

theorem Given.held_none : Given.Held {} := ⟨by simp, by simp, by simp⟩

/-- The standard settings stand in for fields that are missing. -/
theorem Given.Held.settings (h : g.Held) : g.settings.Held := by
  refine ⟨fun p hp => ?_, fun p hp => ?_, ?_⟩
  · cases hb : g.baseDir with
    | none => simp [Given.settings, hb] at hp
    | some o => exact h.baseDir o hb p (by simpa [Given.settings, hb] using hp)
  · cases hps : g.classPath with
    | none => simp [Given.settings, hps] at hp
    | some ps => exact h.classPath ps hps p (by simpa [Given.settings, hps] using hp)
  · cases hd : g.timeout with
    | none => exact ⟨30, by decide, by simp [Given.settings, hd, defaultTimeout]⟩
    | some d => simpa [Given.settings, hd] using h.timeout d hd

theorem yields_path : Yields path fun p => IsText p.bytes :=
  .after fun x => .pure ⟨x.toList, rfl⟩

theorem yields_base : Yields base fun o => ∀ p ∈ o, IsText p.bytes := yields_path.nullOr

theorem yields_paths : Yields paths fun ps => ∀ p ∈ ps, IsText p.bytes := yields_path.listValue

theorem yields_seconds : Yields seconds fun d => ∃ n, n < Nat.pow 2 64 ∧ d = .ofSeconds n :=
  Yields.wholeValue.bind fun n hn => .pure ⟨n, hn, rfl⟩

theorem yields_field (g : Given) (key : String) (hg : g.Held) : Yields (field g key) Given.Held := by
  unfold field
  split
  · refine .after fun _ => .after fun _ => yields_base.bind fun o ho => .pure ?_
    exact { hg with baseDir := by simpa using ho }
  split
  · refine .after fun _ => .after fun _ => yields_paths.bind fun ps hps => .pure ?_
    exact { hg with classPath := by simpa using hps }
  split
  · refine .after fun _ => .after fun _ => yields_seconds.bind fun d hd => .pure ?_
    exact { hg with timeout := by simpa using hd }
  · exact .after fun _ => .after fun _ => .pure hg

theorem yields_positional : Yields positional Given.Held := by
  unfold positional
  refine .after fun _ => .after fun more => ?_
  split
  · refine yields_base.bind fun o ho => .after fun more => ?_
    split
    · refine yields_paths.bind fun ps hps => .after fun more => ?_
      split
      · refine yields_seconds.bind fun d hd => .pure ?_
        exact ⟨by simpa using ho, by simpa using hps, by simpa using hd⟩
      · exact .pure ⟨by simpa using ho, by simpa using hps, by simp⟩
    · exact .pure ⟨by simpa using ho, by simp, by simp⟩
  · exact .pure ⟨by simp, by simp, by simp⟩

theorem held_of_ofJson {x : String} (h : ofJson x = .ok s) : s.Held := by
  have hscan : Yields scan Held := by
    unfold scan
    refine .after fun y => ?_
    split
    · exact .fail _ _
    · exact yields_positional.enclosed.bind fun g hg => .pure hg.settings
    · have hbody := Yields.recordBody yields_field Given.held_none
      exact hbody.enclosed.bind fun g hg => .pure hg.settings
    · exact Yields.wrongType.settle
  exact hscan.readText h

/-! ### Round trips -/

/-- What has a JSON form is read back, but for what its timeout has beyond whole seconds. -/
theorem ofJson_of_toJson? (hn : s.timeout.seconds < Nat.pow 2 64) (hv : s.toJson? = some v) :
    ofJson v.render = .ok { s with timeout := .ofSeconds s.timeout.seconds } := by
  have hsome : s.toJson? ≠ none := by simp [hv]
  obtain ⟨b, ts, hs⟩ := eq_ofTexts (mt toJson?_eq_none.2 hsome)
  generalize s.timeout = d at hs hn
  subst hs
  rw [toJson?_ofTexts] at hv
  rw [← Option.some.inj hv]
  exact ofJson_members hn

theorem Held.toJson? (h : s.Held) : ∃ v, s.toJson? = some v ∧ ofJson v.render = .ok s := by
  obtain ⟨n, hn, hd⟩ := h.timeout
  obtain ⟨b, ts, hs⟩ := eq_ofTexts (s := s) (by
    rintro (⟨p, hp, hbad⟩ | ⟨p, hp, hbad⟩)
    · exact hbad (h.baseDir p hp)
    · exact hbad (h.classPath p hp))
  rw [hd] at hs
  subst hs
  exact ⟨_, toJson?_ofTexts, ofJson_members hn⟩

/-- Settings have a JSON form unless a path of theirs is no text. From it they are read back, but for
what their timeout has beyond whole seconds, and whatever is read as settings is so read again. -/
theorem json_round_trip :
    (∀ s : Settings, s.toJson? = none ↔
      (∃ p, s.baseDir = some p ∧ ¬ IsText p.bytes) ∨ ∃ p ∈ s.classPath, ¬ IsText p.bytes) ∧
    (∀ (s : Settings) (v : Value), s.timeout.seconds < Nat.pow 2 64 → s.toJson? = some v →
      ofJson v.render = .ok { s with timeout := .ofSeconds s.timeout.seconds }) ∧
    ∀ (x : String) (s : Settings), ofJson x = .ok s →
      ∃ v, s.toJson? = some v ∧ ofJson v.render = .ok s :=
  ⟨fun _ => toJson?_eq_none, fun _ _ => ofJson_of_toJson?, fun _ _ hx => (held_of_ofJson hx).toJson?⟩

/-- Settings whose paths need escapes of all kinds, one path twice, and the longest timeout. -/
def spelled : Settings :=
  ofTexts (some "/srv/\"a\"\\b\n\x01\x7f") ["é/😀", "", "é/😀"] ⟨18446744073709551615, 999999999⟩

/-- Settings with a path that is no text. -/
def unspelled : Settings := { spelled with classPath := [.ofString "/a", ⟨[0x2F, 0xFF]⟩] }

/-- Settings as a list, without its last item, and with escapes in it. -/
def listed : String := " [ null , [\"\\u002f\\u00E9\\ud83d\\ude00\"] ] "

theorem json_round_trip_spelled :
    (∃ v, spelled.toJson? = some v ∧
      ofJson v.render = .ok { spelled with timeout := .ofSeconds 18446744073709551615 }) ∧
    ((∃ p, unspelled.baseDir = some p ∧ ¬ IsText p.bytes) ∨
      ∃ p ∈ unspelled.classPath, ¬ IsText p.bytes) ∧
    ofJson listed = .ok ⟨none, [.ofString "/é😀"], .ofSeconds 30⟩ ∧
    ∃ v, Settings.toJson? ⟨none, [.ofString "/é😀"], .ofSeconds 30⟩ = some v ∧
      ofJson v.render = .ok ⟨none, [.ofString "/é😀"], .ofSeconds 30⟩ := by
  have hread : ofJson listed = .ok ⟨none, [.ofString "/é😀"], .ofSeconds 30⟩ := by decide +kernel
  refine ⟨⟨_, toJson?_ofTexts, ?_⟩, (json_round_trip.1 unspelled).1 rfl, hread,
    json_round_trip.2.2 listed _ hread⟩
  exact json_round_trip.2.1 spelled _ (by decide) toJson?_ofTexts

end Resources.Settings
