import Mathlib.Data.List.TakeDrop
import Resources.Proofs.Url.Formed

/-! Whole URLs that are read, alone or against a base. They are formed. -/
namespace Resources.Url

variable {c : Char} {s : Segment} {t r : List Char} {u b : Url} {base : Option Url}
  {scheme : List Char} {authority : Option Authority} {bare : Prop}

theorem isFile_iff : u.isFile = true ↔ u.scheme = fileScheme := by
  constructor
  · intro h
    have hname : String.ofList u.scheme = "file" := of_decide_eq_true h
    simpa [fileScheme] using congrArg String.toList hname
  · intro h
    simp [isFile, hasScheme, h, fileScheme]

theorem query_tailOf {special : Bool} {q : List Char} (hq : (tailOf special t).1 = some q) :
    '#' ∉ q := by
  have hset : (if special then Percent.specialQuerySet else Percent.querySet)
      '#'.toNat.toUInt8 = true := by cases special <;> decide
  unfold tailOf at hq
  split at hq
  · obtain rfl := Option.some.inj hq
    exact Percent.not_mem_encode (by decide) (Or.inl hset)
  · cases hq
  · cases hq

theorem formed_assemble {p : Path × List Char} (hs : ':' ∉ scheme)
    (ha : ∀ a, authority = some a → a.Formed) (hp : p.1.Formed (authority = none))
    (hf : scheme = fileScheme → ∃ h, authority = some ⟨[], none, h, none⟩) :
    (assemble scheme authority p).Formed := by
  constructor
  · exact hs
  · exact ha
  · exact hp
  · exact fun q hq => query_tailOf hq
  · intro hfile
    exact hf (isFile_iff.1 hfile)

theorem Formed.withFragment (hu : u.Formed) (f : Option (List Char)) :
    ({ u with fragment := f } : Url).Formed :=
  ⟨hu.scheme, hu.authority, hu.path, hu.query, hu.file⟩

theorem Path.Formed.behind {p : Path} (ha : authority ≠ none) (hp : p.Formed False) :
    p.Formed (authority = none) := by
  cases p with
  | segments ss => exact ⟨hp.1, fun h => absurd h ha⟩
  | plain t => exact hp.1.elim

theorem formed_unnamed : Authority.Formed .unnamed :=
  Authority.formed_of_parts (by simp [Lacks, Authority.unnamed]) (by simp [Authority.unnamed])
    (by simp [Authority.unnamed]) (by simp [Authority.unnamed])

theorem formed_ofHost {o : Option Host} (ho : ∀ h, o = some h → h.Formed) :
    Authority.Formed ⟨[], none, o, none⟩ :=
  Authority.formed_of_parts (by simp [Lacks]) (by simp) ho (by simp)

/-- A local URL is formed from its host and its path. -/
theorem formed_file {o : Option Host} {p : Path × List Char} (ho : ∀ h, o = some h → h.Formed)
    (hp : p.1.Formed False) : (assemble fileScheme (some ⟨[], none, o, none⟩) p).Formed := by
  apply formed_assemble
  · decide
  · rintro _ ⟨⟩
    exact formed_ofHost ho
  · exact Path.Formed.behind (by simp) hp
  · exact fun _ => ⟨o, rfl⟩

theorem formed_fileRoot (t : List Char) :
    (assemble fileScheme (some .unnamed) (pathFrom .file [] t)).Formed :=
  formed_file (by simp) (formed_root t)

theorem afterSlashes_eq_ok : afterSlashes scheme t = .ok u ↔ ∃ a rest,
    authorityOf (family scheme) scheme t = .ok (a, rest) ∧
      u = assemble scheme (some a) (pathStart (family scheme) rest) := by
  unfold afterSlashes
  cases authorityOf (family scheme) scheme t with
  | error e => simp [bind, Except.bind]
  | ok x => simp [bind, Except.bind, pure, Except.pure, Prod.ext_iff, and_assoc, eq_comm]

theorem formed_afterSlashes (hs : ':' ∉ scheme) (hf : scheme ≠ fileScheme)
    (hu : afterSlashes scheme t = .ok u) : u.Formed := by
  obtain ⟨a, rest, ha, rfl⟩ := afterSlashes_eq_ok.1 hu
  apply formed_assemble hs
  · rintro _ ⟨⟩
    exact formed_authorityOf ha
  · exact Path.Formed.behind (by simp) (formed_pathStart rest)
  · exact fun h => absurd h hf

/-- A local URL whose path begins at the root, of a host or of none. -/
def Hosted (u : Url) : Prop := ∃ o p, (∀ h, o = some h → ∃ name, hostOf name = .ok h) ∧
  (∃ q, p = pathFrom .file [] q ∨ p = keptPath q) ∧
    u = assemble fileScheme (some ⟨[], none, o, none⟩) p

theorem hosted_behindFileHost {o : Option Host} {below : List Char}
    (ho : ∀ h, o = some h → ∃ name, hostOf name = .ok h)
    (hu : (if o = none ∨ o = some (.domain "localhost".toList) then
        Except.ok (assemble fileScheme (some .unnamed) (keptPath below))
      else Except.ok (assemble fileScheme
        (some ⟨[], none, if (segmentsFrom true true [] below).1.head?.any isPlainDrive then none else o,
          none⟩) (pathFrom .file [] below)) : Except Cause Url) = .ok u) : u.Hosted := by
  split at hu
  · obtain rfl := Except.ok.inj hu
    exact ⟨none, _, by simp, ⟨below, Or.inr rfl⟩, rfl⟩
  · obtain rfl := Except.ok.inj hu
    refine ⟨_, _, fun h hh => ?_, ⟨below, Or.inl rfl⟩, rfl⟩
    split at hh
    · cases hh
    · exact ho h hh

theorem hosted_fileAfterSlashes (hu : fileAfterSlashes t = .ok u) : u.Hosted := by
  unfold fileAfterSlashes at hu
  simp only [bind, Except.bind, pure, Except.pure] at hu
  split at hu
  · obtain rfl := Except.ok.inj hu
    exact ⟨none, _, by simp, ⟨t, Or.inl rfl⟩, rfl⟩
  by_cases hnone : (t.span fun c => !endsAuthority true c).1 = []
  · rw [if_pos hnone] at hu
    exact hosted_behindFileHost (o := none) (by simp) hu
  · rw [if_neg hnone] at hu
    cases hof : hostOf (t.span fun c => !endsAuthority true c).1 with
    | error e =>
      rw [hof] at hu
      cases hu
    | ok host =>
      rw [hof] at hu
      refine hosted_behindFileHost (o := some host) ?_ hu
      rintro _ ⟨⟩
      exact ⟨_, hof⟩

theorem Hosted.formed (h : u.Hosted) : u.Formed := by
  obtain ⟨o, p, ho, ⟨q, hq⟩, rfl⟩ := h
  refine formed_file (fun host hh => ?_) ?_
  · obtain ⟨name, hname⟩ := ho host hh
    exact formed_hostOf hname
  · rcases hq with rfl | rfl
    · exact formed_root q
    · exact formed_keptPath q

/-- The host of a local URL is formed. -/
theorem Formed.fileHost (hb : b.Formed) (hfile : b.isFile = true) : ∀ h, b.host? = some h → h.Formed := by
  obtain ⟨o, ho⟩ := hb.file hfile
  intro h hh
  obtain rfl : o = some h := by simpa [host?, ho] using hh
  have hauthority := hb.authority _ ho
  have htext : Authority.hostText ⟨[], none, some h, none⟩ = h.text := by simp [Authority.hostText]
  constructor
  · rw [← htext]
    exact hauthority.host
  · intro hnil
    have hnone := hauthority.missing.2 (htext.trans hnil)
    simp at hnone

/-- A path read against a base stays with the authority of the base. -/
theorem Formed.withPath {p : Path × List Char} (hb : b.Formed)
    (hp : p.1.Formed (b.authority = none)) (hs : b.scheme = scheme) :
    (assemble scheme b.authority p).Formed := by
  subst hs
  exact formed_assemble hb.scheme hb.authority hp fun hscheme => hb.file (isFile_iff.2 hscheme)

/-- A local path that begins with one slash. A drive stays that of the base. -/
def fromRoot (base : Option Url) (r : List Char) : Url :=
  if startsWithDrive r then assemble fileScheme (some .unnamed) (pathFrom .file [] r)
  else
    let first := base.bind fun b => match b.path with
      | .segments ss => ss.head?
      | .plain _ => none
    match first.filter isPlainDrive with
    | some drive => assemble fileScheme (some .unnamed) (pathFrom .file [drive] r)
    | none => assemble fileScheme (some ⟨[], none, base.bind host?, none⟩) (pathFrom .file [] r)

/-- A local reference without a slash before it. -/
def fromBase (base : Option Url) (t : List Char) : Url :=
  match base with
  | none => assemble fileScheme (some .unnamed)
      (if t = [] then (.segments [[]], []) else pathFrom .file [] t)
  | some b =>
    match t with
    | [] => { b with fragment := none }
    | '?' :: _ => assemble fileScheme b.authority (b.path, t)
    | '#' :: r => { b with fragment := some (fragmentOf r) }
    | _ =>
      if startsWithDrive t then assemble fileScheme (some .unnamed) (pathFrom .file [] t)
      else assemble fileScheme b.authority (pathFrom .file (parentStack true b.path) t)

/-- What a local reference is read as does not depend on the base. -/
theorem fileUrl_cases (t : List Char) :
    (∃ r, ∀ base, fileUrl base t = fileAfterSlashes r) ∨
      (∃ r, ∀ base, fileUrl base t = .ok (fromRoot base r)) ∨
        ∀ base, fileUrl base t = .ok (fromBase base t) := by
  have hite : ∀ {p : Prop} [Decidable p] {u v : Url},
      (if p then pure u else pure v : Except Cause Url) = .ok (if p then u else v) := by
    intro p _ u v
    split <;> rfl
  cases t with
  | nil => exact Or.inr (Or.inr fun base => by cases base <;> rfl)
  | cons c r =>
    by_cases hc : isSlash c = true
    · cases r with
      | nil =>
        refine Or.inr (Or.inl ⟨[], fun base => ?_⟩)
        simp only [fileUrl, fromRoot, hc, if_true]
        generalize Option.filter isPlainDrive _ = drive
        cases drive <;> exact hite
      | cons d r =>
        by_cases hd : isSlash d = true
        · refine Or.inl ⟨r, fun base => ?_⟩
          simp only [fileUrl, hc, hd, if_true]
        · refine Or.inr (Or.inl ⟨d :: r, fun base => ?_⟩)
          simp only [fileUrl, fromRoot, hc, hd, if_true, Bool.false_eq_true, if_false]
          generalize Option.filter isPlainDrive _ = drive
          cases drive <;> exact hite
    · refine Or.inr (Or.inr fun base => ?_)
      cases base with
      | none => simp [fileUrl, fromBase, hc, pure, Except.pure]
      | some b =>
        simp only [fileUrl, fromBase, hc, Bool.false_eq_true, if_false]
        by_cases hq : c = '?'
        · subst hq
          rfl
        by_cases hf : c = '#'
        · subst hf
          rfl
        simp only [hq, hf, if_false]
        split <;> simp_all [pure, Except.pure]

theorem segmentFormed_drive (hs : isPlainDrive s = true) : SegmentFormed False s := by
  unfold isPlainDrive at hs
  split at hs
  · rename_i c m
    simp only [Bool.and_eq_true, decide_eq_true_eq] at hs
    obtain ⟨hletter, rfl⟩ := hs
    have hmarks : ∀ c ∈ pathMarks, c.isAlpha = false ∧ c ∉ [':'] :=
      List.all_iff_forall_prop.1 (by decide)
    refine ⟨fun m hm hmem => ?_, False.elim⟩
    obtain ⟨hno, hcolon⟩ := hmarks m hm
    rcases List.mem_cons.1 hmem with rfl | hmem
    · rw [hletter] at hno
      cases hno
    · exact hcolon hmem
  · cases hs

theorem formed_fromRoot (hb : ∀ b, base = some b → b.Formed ∧ b.isFile = true) (r : List Char) :
    (fromRoot base r).Formed := by
  have hhost : ∀ h, base.bind host? = some h → h.Formed := by
    intro h hh
    obtain ⟨b, rfl, hh⟩ := Option.bind_eq_some_iff.1 hh
    exact (hb b rfl).1.fileHost (hb b rfl).2 h hh
  unfold fromRoot
  split
  · exact formed_fileRoot r
  · simp only
    split
    · rename_i drive hdrive
      refine formed_file (by simp) (formed_pathFrom ?_ r)
      simpa using segmentFormed_drive (Option.filter_eq_some_iff.1 hdrive).2
    · exact formed_file hhost (formed_root r)

theorem formed_fromBase (hb : ∀ b, base = some b → b.Formed ∧ b.isFile = true) (t : List Char) :
    (fromBase base t).Formed := by
  unfold fromBase
  split
  · split
    · exact formed_file (by simp) (formed_segments (by simpa using segmentFormed_nil) (by simp))
    · exact formed_fileRoot t
  · rename_i b
    obtain ⟨hb, hfile⟩ := hb b rfl
    have hscheme := isFile_iff.1 hfile
    split
    · exact hb.withFragment none
    · exact hb.withPath hb.path hscheme
    · exact hb.withFragment _
    · split
      · exact formed_fileRoot _
      · exact hb.withPath (formed_pathFrom (segmentFormed_parentStack true hb.path) _) hscheme

theorem formed_fileUrl (hb : ∀ b, base = some b → b.Formed ∧ b.isFile = true)
    (hu : fileUrl base t = .ok u) : u.Formed := by
  rcases fileUrl_cases t with ⟨r, h⟩ | ⟨r, h⟩ | h
  · rw [h] at hu
    exact (hosted_fileAfterSlashes hu).formed
  · rw [h] at hu
    obtain rfl := Except.ok.inj hu
    exact formed_fromRoot hb r
  · rw [h] at hu
    obtain rfl := Except.ok.inj hu
    exact formed_fromBase hb t

/-- What a reference leads to: the base up to its fragment, a host of its own, or a path, behind the
authority of the base. -/
theorem relativeUrl_cases (hu : relativeUrl b t = .ok u) : (∃ f, u = { b with fragment := f }) ∨
    (∃ q, afterSlashes b.scheme q = .ok u) ∨ ∃ p, u = assemble b.scheme b.authority p ∧
      (p.1 = b.path ∨ ∃ stack q, (stack = [] ∨ stack = parentStack false b.path) ∧
        p = pathFrom (family b.scheme) stack q) := by
  have hpath : ∀ {stack : List Segment} {q : List Char}, (stack = [] ∨ stack = parentStack false b.path) →
      (pure (assemble b.scheme b.authority (pathFrom (family b.scheme) stack q)) : Except Cause Url) =
        .ok u → ∃ p, u = assemble b.scheme b.authority p ∧
          (p.1 = b.path ∨ ∃ stack q, (stack = [] ∨ stack = parentStack false b.path) ∧
            p = pathFrom (family b.scheme) stack q) := by
    intro stack q hstack hu
    obtain rfl := Except.ok.inj hu
    exact ⟨_, rfl, Or.inr ⟨stack, q, hstack, rfl⟩⟩
  unfold relativeUrl at hu
  simp only at hu
  split at hu
  · exact Or.inl ⟨none, (Except.ok.inj hu).symm⟩
  · exact Or.inr (Or.inr ⟨_, (Except.ok.inj hu).symm, Or.inl rfl⟩)
  · exact Or.inl ⟨_, (Except.ok.inj hu).symm⟩
  · split at hu
    · split at hu
      · split at hu
        · exact Or.inr (Or.inl ⟨_, hu⟩)
        · exact Or.inr (Or.inr (hpath (Or.inl rfl) hu))
      · exact Or.inr (Or.inr (hpath (Or.inl rfl) hu))
    · exact Or.inr (Or.inr (hpath (Or.inr rfl) hu))

theorem formed_relativeUrl (hb : b.Formed) (hfile : b.isFile ≠ true) (hu : relativeUrl b t = .ok u) :
    u.Formed := by
  rcases relativeUrl_cases hu with ⟨f, rfl⟩ | ⟨q, hq⟩ | ⟨p, rfl, hp | ⟨stack, q, hstack, rfl⟩⟩
  · exact hb.withFragment f
  · exact formed_afterSlashes hb.scheme (fun h => hfile (isFile_iff.2 h)) hq
  · exact hb.withPath (hp ▸ hb.path) rfl
  · refine hb.withPath ?_ rfl
    rcases hstack with rfl | rfl
    · exact formed_root q
    · exact formed_pathFrom (segmentFormed_parentStack false hb.path) q

theorem toLower_ne_colon (hc : c ≠ ':') : c.toLower ≠ ':' := by
  intro h
  unfold Char.toLower at h
  split at h
  · rename_i hupper
    have hval : c.val + ('a'.val - 'A'.val) = ':'.val := congrArg Char.val h
    obtain ⟨hlow, hhigh⟩ := hupper
    grind
  · exact hc h

theorem colon_not_mem_scheme? (h : scheme? t = some (scheme, r)) : ':' ∉ scheme := by
  unfold scheme? at h
  split at h
  · split at h
    · rename_i s r hspan
      obtain ⟨rfl, rfl⟩ := Prod.mk.inj (Option.some.inj h)
      rw [List.span_eq_takeWhile_dropWhile] at hspan
      obtain ⟨rfl, -⟩ := Prod.mk.inj hspan
      intro hmem
      obtain ⟨c, hc, hcolon⟩ := List.mem_map.1 hmem
      refine toLower_ne_colon ?_ hcolon
      rintro rfl
      exact absurd (List.mem_takeWhile_imp hc) (by decide)
    · cases h
  · cases h

theorem family_file_iff : family scheme = .file ↔ scheme = fileScheme := by
  have hname : String.ofList scheme = "file" ↔ scheme = fileScheme := by
    constructor
    · intro h
      simpa [fileScheme] using congrArg String.toList h
    · rintro rfl
      rfl
  rw [← hname]
  unfold family
  split_ifs <;> simp_all

theorem ne_fileScheme_of_family (h : family scheme ≠ .file) : scheme ≠ fileScheme := fun hs =>
  h (family_file_iff.2 hs)

/-- Without an authority a path is plain where no slash comes first. -/
theorem formed_plain (hs : ':' ∉ scheme) (hf : scheme ≠ fileScheme) (ht : t.head? ≠ some '/') :
    (assemble scheme none (.plain (Percent.encode Percent.control
      (t.span fun c => c ≠ '?' && c ≠ '#').1), (t.span fun c => c ≠ '?' && c ≠ '#').2)).Formed := by
  apply formed_assemble hs
  · simp
  · refine ⟨rfl, ?_, ?_⟩
    · intro c hc
      have hmark : c ∈ ':' :: hostMarks := by
        have hall : ∀ c ∈ ['?', '#'], c ∈ ':' :: hostMarks :=
          List.all_iff_forall_prop.1 (by decide)
        exact hall c hc
      refine Percent.not_mem_encode hmark (Or.inr fun hmem => ?_)
      rw [List.span_eq_takeWhile_dropWhile] at hmem
      have hother := List.mem_takeWhile_imp hmem
      simp only [ne_eq, Bool.and_eq_true, decide_eq_true_eq] at hother
      simp only [List.mem_cons, List.not_mem_nil, or_false] at hc
      exact hc.elim hother.1 hother.2
    · cases t with
      | nil => exact Option.some_ne_none _ ∘ Eq.symm
      | cons c t =>
        rw [List.span_eq_takeWhile_dropWhile, List.takeWhile_cons]
        split
        · exact Percent.head?_encode_ne (by decide) (by simpa using ht)
        · exact Option.some_ne_none _ ∘ Eq.symm
  · exact fun h => absurd h hf

/-- How a text is read: against the base, where it has no scheme or that of the base, or else alone. -/
inductive Reading (base : Option Url) : Url → Prop
  | same {b : Url} {f : Option (List Char)} : base = some b → Reading base { b with fragment := f }
  | inFiles {nearest : Option Url} {q : List Char} {u : Url} :
      (∀ b, nearest = some b → base = some b ∧ b.isFile = true) → fileUrl nearest q = .ok u →
        Reading base u
  | against {b u : Url} {q : List Char} : base = some b → b.isFile ≠ true → relativeUrl b q = .ok u →
      Reading base u
  | asked {scheme q : List Char} {u : Url} : ':' ∉ scheme → scheme ≠ fileScheme →
      afterSlashes scheme q = .ok u → Reading base u
  | rooted {scheme q : List Char} : ':' ∉ scheme → family scheme = .other →
      Reading base (assemble scheme none (pathFrom .other [] q))
  | plain {scheme q : List Char} : ':' ∉ scheme → family scheme = .other → q.head? ≠ some '/' →
      Reading base (assemble scheme none (.plain (Percent.encode Percent.control
        (q.span fun c => c ≠ '?' && c ≠ '#').1), (q.span fun c => c ≠ '?' && c ≠ '#').2))

theorem reading_of_schemeUrl (hs : ':' ∉ scheme) (hu : schemeUrl base scheme t = .ok u) :
    Reading base u := by
  have hsame : ∀ b, base.filter (·.scheme = scheme) = some b → base = some b ∧ b.scheme = scheme := by
    intro b h
    obtain ⟨hb, hscheme⟩ := Option.filter_eq_some_iff.1 h
    exact ⟨hb, of_decide_eq_true hscheme⟩
  unfold schemeUrl at hu
  simp only at hu
  split at hu
  · rename_i hfamily
    refine .inFiles (fun b h => ?_) hu
    obtain ⟨hb, hscheme⟩ := hsame b h
    exact ⟨hb, isFile_iff.2 (hscheme.trans (family_file_iff.1 hfamily))⟩
  · rename_i hfamily
    have hf : scheme ≠ fileScheme := ne_fileScheme_of_family (by simp [hfamily])
    split at hu
    · rename_i b h
      obtain ⟨hb, hscheme⟩ := hsame b h
      split at hu
      · refine .against hb (fun hfile => hf ?_) hu
        rw [← hscheme, isFile_iff.1 hfile]
      · exact .asked hs hf hu
    · exact .asked hs hf hu
  · rename_i hfamily
    split at hu
    · exact .asked hs (ne_fileScheme_of_family (by simp [hfamily])) hu
    · obtain rfl := Except.ok.inj hu
      exact .rooted hs hfamily
    · rename_i hslash
      obtain rfl := Except.ok.inj hu
      refine .plain hs hfamily fun h => ?_
      obtain ⟨q, rfl⟩ := List.head?_eq_some_iff.1 h
      exact hslash q rfl

theorem reading_of_read (hu : read base t = .ok u) : Reading base u := by
  unfold read at hu
  simp only at hu
  split at hu
  · rename_i hscheme
    exact reading_of_schemeUrl (colon_not_mem_scheme? hscheme) hu
  · cases hu
  · split at hu
    · obtain rfl := Except.ok.inj hu
      exact .same rfl
    · cases hu
    · split at hu
      · rename_i hfile
        refine .inFiles ?_ hu
        rintro _ ⟨⟩
        exact ⟨rfl, hfile⟩
      · rename_i hfile
        exact .against rfl hfile hu

theorem formed_read (hb : ∀ b, base = some b → b.Formed) (hu : read base t = .ok u) : u.Formed := by
  cases reading_of_read hu with
  | same h => exact (hb _ h).withFragment _
  | inFiles h hu => exact formed_fileUrl (fun b hn => ⟨hb b (h b hn).1, (h b hn).2⟩) hu
  | against h hfile hu => exact formed_relativeUrl (hb _ h) hfile hu
  | asked hs hf hu => exact formed_afterSlashes hs hf hu
  | @rooted scheme q hs hf =>
    have hne : scheme ≠ fileScheme := ne_fileScheme_of_family (by simp [hf])
    exact formed_assemble hs (by simp) (formed_root q) fun h => absurd h hne
  | plain hs hf ht => exact formed_plain hs (ne_fileScheme_of_family (by simp [hf])) ht

/-- A URL that is read is formed. -/
theorem formed_parse {location : String} (hu : parse location = .ok u) : u.Formed :=
  formed_read (by simp) hu

theorem Formed.join {reference : String} (hb : b.Formed) (hu : b.join reference = .ok u) : u.Formed :=
  formed_read (by rintro _ ⟨⟩; exact hb) hu

/-- The URL of names is formed. -/
theorem formed_ofNames (names : List Bytes) : (ofNames names).Formed := by
  constructor
  · exact (by decide : ':' ∉ fileScheme)
  · rintro _ ⟨⟩
    exact formed_unnamed
  · rw [path_ofNames]
    refine ⟨fun s hs c hc hmem => ?_, by simp [ofNames]⟩
    have hends : ∀ c ∈ pathMarks, endsAuthority true c = true :=
      List.all_iff_forall_prop.1 (by decide)
    have hno := (unmarked_nameSegments s hs c hmem).no_end
    rw [hends c hc] at hno
    cases hno
  · rintro _ ⟨⟩
  · exact fun _ => ⟨none, rfl⟩

/-- The URLs that come of reading a text, alone or against another, and of the names of a file. -/
inductive Made : Url → Prop
  | parsed {location : String} {u : Url} : parse location = .ok u → Made u
  | joined {u v : Url} {reference : String} : Made u → u.join reference = .ok v → Made v
  | named (names : List Bytes) : Made (ofNames names)

theorem Made.formed (h : u.Made) : u.Formed := by
  induction h with
  | parsed hu => exact formed_parse hu
  | joined _ hv ih => exact ih.join hv
  | named names => exact formed_ofNames names

end Resources.Url
