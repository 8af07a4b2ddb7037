import Resources.Proofs.Text.Marks
import Resources.Url.Parser

/-! What the text of a URL tells. In a URL that is formed as parsing forms it no part holds the mark
that ends it, so the text tells all parts from each other, but for the host and the port of an
authority, which it tells as one. -/
namespace Resources

variable {m : Char} {x y : List Char} {o o' : Option (List Char)}

namespace Url

theorem append_optional_inj (hx : m ∉ x) (hy : m ∉ y)
    (h : x ++ optional m o = y ++ optional m o') : x = y ∧ o = o' := by
  cases o with
  | none =>
    cases o' with
    | none => exact ⟨by simpa [optional] using h, rfl⟩
    | some r => exact absurd (by simp [optional] at h; simp [h]) hx
  | some r =>
    cases o' with
    | none => exact absurd (by simp [optional] at h; simp [← h]) hy
    | some r' =>
      obtain ⟨rfl, rfl⟩ := append_mark_inj hx hy h
      exact ⟨rfl, rfl⟩

/-- The first segment is told by the slash behind it. -/
theorem append_flatMap_slash_inj {s s' : Segment} {ss ss' : List Segment} (hs : '/' ∉ s)
    (hs' : '/' ∉ s') (h : s ++ ss.flatMap ('/' :: ·) = s' ++ ss'.flatMap ('/' :: ·)) :
    s = s' ∧ ss.flatMap ('/' :: ·) = ss'.flatMap ('/' :: ·) := by
  have hmark : ∀ ss : List Segment, ∃ o, ss.flatMap ('/' :: ·) = optional '/' o := by
    rintro (_ | ⟨s, ss⟩)
    · exact ⟨none, rfl⟩
    · exact ⟨some (s ++ ss.flatMap ('/' :: ·)), rfl⟩
  obtain ⟨o, ho⟩ := hmark ss
  obtain ⟨o', ho'⟩ := hmark ss'
  rw [ho, ho'] at h ⊢
  obtain ⟨rfl, rfl⟩ := append_optional_inj hs hs' h
  exact ⟨rfl, rfl⟩

/-- Segments are told by the slashes before them. -/
theorem flatMap_slash_inj {ss ss' : List Segment} (hs : ∀ s ∈ ss, '/' ∉ s) (hs' : ∀ s ∈ ss', '/' ∉ s)
    (h : ss.flatMap ('/' :: ·) = ss'.flatMap ('/' :: ·)) : ss = ss' := by
  induction ss generalizing ss' with
  | nil => cases ss' <;> simp at h ⊢
  | cons s ss ih =>
    cases ss' with
    | nil => simp at h
    | cons t ts =>
      rw [List.forall_mem_cons] at hs hs'
      obtain ⟨rfl, hrest⟩ := append_flatMap_slash_inj hs.1 hs'.1 (List.cons.inj h).2
      rw [ih hs.2 hs'.2 hrest]

end Url

/-! ### URLs as they are formed -/

/-- What ends a path, or a segment of it. -/
def pathMarks : List Char := ['/', '?', '#']

/-- What ends a host and a port, or the password before them. -/
def hostMarks : List Char := '@' :: pathMarks

structure Authority.Formed (a : Authority) : Prop where
  username : Lacks a.username (':' :: hostMarks)
  password : ∀ p, a.password = some p → Lacks p hostMarks
  host : Lacks a.hostText hostMarks
  missing : a.host = none ↔ a.hostText = []

/-- Where there is no authority, a path has segments and does not begin with a dot, or it is plain
and does not begin with a slash. -/
def Url.Path.Formed (bare : Prop) : Url.Path → Prop
  | .segments ss => (∀ s ∈ ss, Lacks s pathMarks) ∧ (bare → ss ≠ [] ∧ ['.'] ∉ ss)
  | .plain t => bare ∧ Lacks t ['?', '#'] ∧ t.head? ≠ some '/'

structure Url.Formed (u : Url) : Prop where
  scheme : ':' ∉ u.scheme
  authority : ∀ a, u.authority = some a → a.Formed
  path : u.path.Formed (u.authority = none)
  query : ∀ q, u.query = some q → '#' ∉ q
  file : u.isFile = true → ∃ h, u.authority = some ⟨[], none, h, none⟩

/-! ### What the text tells -/

/-- The authority with its port as part of the host. -/
def Authority.outline (a : Authority) : Authority :=
  { a with host := a.host.map fun _ => .domain a.hostText, port := none }

/-- The parts of a URL that its text tells. -/
def Url.outline (u : Url) : Url := { u with authority := u.authority.map Authority.outline }

namespace Authority

variable {a a' : Authority}

theorem userinfo_eq (a : Authority) : a.userinfo =
    if a.username = [] ∧ a.password = none then []
    else a.username ++ Url.optional ':' a.password ++ ['@'] := by
  obtain ⟨user, password, host, port⟩ := a
  cases user <;> cases password <;> simp [userinfo, Url.optional]

theorem Formed.user (ha : a.Formed) : '@' ∉ a.username ++ Url.optional ':' a.password := by
  have huser := ha.username '@' (by decide)
  cases hp : a.password with
  | none => simpa [Url.optional] using huser
  | some p =>
    have hpassword := ha.password p hp '@' (by decide)
    simp [Url.optional, huser, hpassword]

theorem outline_eq_of_parts (hu : a.username = a'.username) (hp : a.password = a'.password)
    (hh : a.hostText = a'.hostText) (ha : a.Formed) (ha' : a'.Formed) : a.outline = a'.outline := by
  have hmissing : a.host = none ↔ a'.host = none := by rw [ha.missing, ha'.missing, hh]
  obtain ⟨user, password, host, port⟩ := a
  obtain ⟨user', password', host', port'⟩ := a'
  cases host <;> cases host' <;> simp_all [outline]

theorem outline_eq_of_text (ha : a.Formed) (ha' : a'.Formed) (h : a.text = a'.text) :
    a.outline = a'.outline := by
  have hhost := ha.host '@' (by decide)
  have hhost' := ha'.host '@' (by decide)
  have hbare : ∀ {a : Authority}, a.username = [] ∧ a.password = none → a.text = a.hostText := by
    intro a hnone
    rw [text, userinfo_eq, if_pos hnone, List.nil_append]
  have hnamed : ∀ {a : Authority}, ¬ (a.username = [] ∧ a.password = none) →
      a.text = (a.username ++ Url.optional ':' a.password) ++ '@' :: a.hostText := by
    intro a hsome
    rw [text, userinfo_eq, if_neg hsome, List.append_assoc, List.singleton_append]
  by_cases hnone : a.username = [] ∧ a.password = none
  · by_cases hnone' : a'.username = [] ∧ a'.password = none
    · rw [hbare hnone, hbare hnone'] at h
      exact outline_eq_of_parts (hnone.1.trans hnone'.1.symm) (hnone.2.trans hnone'.2.symm) h ha ha'
    · rw [hbare hnone, hnamed hnone'] at h
      exact absurd (by simp [h]) hhost
  · by_cases hnone' : a'.username = [] ∧ a'.password = none
    · rw [hnamed hnone, hbare hnone'] at h
      exact absurd (by simp [← h]) hhost'
    · rw [hnamed hnone, hnamed hnone'] at h
      obtain ⟨huser, hhosts⟩ := append_mark_inj ha.user ha'.user h
      obtain ⟨hname, hpassword⟩ := Url.append_optional_inj (ha.username ':' (by decide))
        (ha'.username ':' (by decide)) huser
      exact outline_eq_of_parts hname hpassword hhosts ha ha'

theorem Formed.text_lacks (ha : a.Formed) : Lacks a.text pathMarks := by
  intro c hc hmem
  have hmark : c ∈ hostMarks := List.mem_cons_of_mem _ hc
  have hne : c ≠ '@' ∧ c ≠ ':' := by
    constructor <;> rintro rfl <;> exact absurd hc (by decide)
  rw [text, userinfo_eq, List.mem_append] at hmem
  rcases hmem with hmem | hmem
  · split at hmem
    · cases hmem
    · simp only [List.mem_append, List.mem_singleton, hne.1, or_false] at hmem
      rcases hmem with hmem | hmem
      · exact ha.username c (List.mem_cons_of_mem _ hmark) hmem
      · cases hp : a.password with
        | none => simp [hp, Url.optional] at hmem
        | some p =>
          have hp' : c ∈ p := by simpa [hp, Url.optional, hne.2] using hmem
          exact ha.password p hp c hmark hp'
  · exact ha.host c hmark hmem

end Authority

namespace Url

variable {u v : Url}

/-- What stands between the scheme and the query. -/
def body (u : Url) : List Char := u.frontChars ++ u.path.text

theorem chars_eq (u : Url) :
    u.chars = u.scheme ++ ':' :: (u.body ++ optional '?' u.query ++ optional '#' u.fragment) := by
  simp [chars, body]

theorem lacks_flatMap_slash {ss : List Segment} (h : ∀ s ∈ ss, Lacks s pathMarks) :
    Lacks (ss.flatMap ('/' :: ·)) ['?', '#'] := by
  intro c hc hmem
  obtain ⟨s, hs, hmem⟩ := List.mem_flatMap.1 hmem
  rcases List.mem_cons.1 hmem with rfl | hmem
  · exact absurd hc (by decide)
  · exact h s hs c (List.mem_cons_of_mem _ hc) hmem

/-- The shapes of what stands between the scheme and the query. -/
theorem Formed.body_cases (hu : u.Formed) :
    (∃ a ss, u.authority = some a ∧ u.path = .segments ss ∧ a.Formed ∧ (∀ s ∈ ss, Lacks s pathMarks) ∧
      u.body = '/' :: '/' :: (a.text ++ ss.flatMap ('/' :: ·))) ∨
    (∃ s ss, u.authority = none ∧ u.path = .segments (s :: ss) ∧
      (∀ t ∈ s :: ss, Lacks t pathMarks) ∧ s ≠ ['.'] ∧
      u.body = (if s = [] ∧ ss ≠ [] then ['/', '.'] else []) ++ (s :: ss).flatMap ('/' :: ·)) ∨
    ∃ t, u.authority = none ∧ u.path = .plain t ∧ Lacks t ['?', '#'] ∧ t.head? ≠ some '/' ∧
      u.body = t := by
  have hpath := hu.path
  cases ha : u.authority with
  | some a =>
    left
    cases hp : u.path with
    | segments ss =>
      rw [hp] at hpath
      refine ⟨a, ss, rfl, rfl, hu.authority a ha, hpath.1, ?_⟩
      simp [body, frontChars, ha, hp, Path.text]
    | plain t =>
      rw [hp] at hpath
      simp [Path.Formed, ha] at hpath
  | none =>
    right
    cases hp : u.path with
    | segments ss =>
      left
      rw [hp] at hpath
      obtain ⟨hne, hdot⟩ := hpath.2 ha
      obtain ⟨s, ss, rfl⟩ := List.exists_cons_of_ne_nil hne
      refine ⟨s, ss, rfl, rfl, hpath.1, fun hs => hdot (hs ▸ List.mem_cons_self), ?_⟩
      cases s <;> cases ss <;> simp [body, frontChars, ha, hp, Path.text]
    | plain t =>
      right
      rw [hp] at hpath
      exact ⟨t, rfl, rfl, hpath.2.1, hpath.2.2, by simp [body, frontChars, ha, hp, Path.text]⟩

theorem Formed.body_lacks (hu : u.Formed) : Lacks u.body ['?', '#'] := by
  rcases hu.body_cases with ⟨a, ss, -, -, ha, hss, hb⟩ | ⟨s, ss, -, -, hss, -, hb⟩ | ⟨t, -, -, ht, -, hb⟩
  · intro c hc hmem
    have htext : c ∉ a.text := ha.text_lacks c (List.mem_cons_of_mem _ hc)
    have hpath := lacks_flatMap_slash hss c hc
    have hslash : c ≠ '/' := by rintro rfl; exact absurd hc (by decide)
    rw [hb] at hmem
    simp only [List.mem_cons, List.mem_append, hslash, htext, false_or] at hmem
    exact hpath hmem
  · intro c hc hmem
    have hpath := lacks_flatMap_slash hss c hc
    rw [hb, List.mem_append] at hmem
    rcases hmem with hmem | hmem
    · split at hmem
      · have hnot : ∀ c ∈ ['/', '.'], c ∉ ['?', '#'] :=
          List.all_iff_forall_prop.1 (by decide)
        exact hnot c hmem hc
      · cases hmem
    · exact hpath hmem
  · rwa [hb]

/-- Where there is no authority, nothing looks like one. -/
theorem bare_ne_authority {s : Segment} {ss : List Segment} (hs : Lacks s pathMarks) (r : List Char) :
    (if s = [] ∧ ss ≠ [] then ['/', '.'] else []) ++ (s :: ss).flatMap ('/' :: ·) ≠
      '/' :: '/' :: r := by
  cases s with
  | nil => cases ss <;> simp
  | cons c s =>
    have hc : c ≠ '/' := by
      rintro rfl
      exact hs '/' (by decide) List.mem_cons_self
    simp [hc]

theorem bare_inj {s s' : Segment} {ss ss' : List Segment} (hs : ∀ t ∈ s :: ss, Lacks t pathMarks)
    (hs' : ∀ t ∈ s' :: ss', Lacks t pathMarks) (hdot : s ≠ ['.']) (hdot' : s' ≠ ['.'])
    (h : (if s = [] ∧ ss ≠ [] then ['/', '.'] else []) ++ (s :: ss).flatMap ('/' :: ·) =
      (if s' = [] ∧ ss' ≠ [] then ['/', '.'] else []) ++ (s' :: ss').flatMap ('/' :: ·)) :
    s :: ss = s' :: ss' := by
  have hslash : ∀ {ts : List Segment}, (∀ t ∈ ts, Lacks t pathMarks) → ∀ t ∈ ts, '/' ∉ t :=
    fun hts t ht => hts t ht '/' (by decide)
  have hfirst : ∀ {s : Segment} {ss ts : List Segment}, (∀ t ∈ s :: ss, Lacks t pathMarks) →
      s ≠ ['.'] → ['/', '.'] ++ ts.flatMap ('/' :: ·) ≠ (s :: ss).flatMap ('/' :: ·) := by
    intro s ss ts hs hdot h
    have htail : ['.'] ++ ts.flatMap ('/' :: ·) = s ++ ss.flatMap ('/' :: ·) :=
      (List.cons.inj h).2
    exact hdot (append_flatMap_slash_inj (by decide) (hslash hs s List.mem_cons_self) htail).1.symm
  by_cases hcond : s = [] ∧ ss ≠ []
  · by_cases hcond' : s' = [] ∧ ss' ≠ []
    · rw [if_pos hcond, if_pos hcond'] at h
      exact flatMap_slash_inj (hslash hs) (hslash hs') (List.append_cancel_left h)
    · rw [if_pos hcond, if_neg hcond', List.nil_append] at h
      exact absurd h (hfirst hs' hdot')
  · by_cases hcond' : s' = [] ∧ ss' ≠ []
    · rw [if_neg hcond, if_pos hcond', List.nil_append] at h
      exact absurd h.symm (hfirst hs hdot)
    · rw [if_neg hcond, if_neg hcond', List.nil_append, List.nil_append] at h
      exact flatMap_slash_inj (hslash hs) (hslash hs') h

/-- What stands between the scheme and the query tells authority and path. -/
theorem body_inj (hu : u.Formed) (hv : v.Formed) (h : u.body = v.body) :
    u.authority.map Authority.outline = v.authority.map Authority.outline ∧ u.path = v.path := by
  have hbare : ∀ (s : Segment) (ss : List Segment), ∃ r,
      (if s = [] ∧ ss ≠ [] then ['/', '.'] else []) ++ (s :: ss).flatMap ('/' :: ·) = '/' :: r := by
    intro s ss
    split
    · exact ⟨_, rfl⟩
    · exact ⟨_, rfl⟩
  -- Two slashes begin only what has an authority, one slash only what has segments without one.
  rcases hu.body_cases with ⟨a, ss, hau, hpu, ha, hss, hbu⟩ | ⟨s, ss, hau, hpu, hss, hdot, hbu⟩ |
    ⟨t, hau, hpu, -, hslash, hbu⟩
  · rcases hv.body_cases with ⟨a', ss', hav, hpv, ha', hss', hbv⟩ | ⟨s', ss', -, -, hss', -, hbv⟩ |
      ⟨t', -, -, -, hslash', hbv⟩
    · rw [hbu, hbv] at h
      obtain ⟨htext, hpath⟩ := append_flatMap_slash_inj (ha.text_lacks '/' (by decide))
        (ha'.text_lacks '/' (by decide)) (List.cons.inj (List.cons.inj h).2).2
      have hsegments : ss = ss' := flatMap_slash_inj (fun s hs => hss s hs '/' (by decide))
        (fun s hs => hss' s hs '/' (by decide)) hpath
      rw [hau, hav, hpu, hpv, hsegments, Option.map_some, Option.map_some,
        Authority.outline_eq_of_text ha ha' htext]
      exact ⟨rfl, rfl⟩
    · rw [hbu, hbv] at h
      exact absurd h.symm (bare_ne_authority (hss' s' List.mem_cons_self) _)
    · rw [hbu, hbv] at h
      exact absurd (by rw [← h]; rfl) hslash'
  · rcases hv.body_cases with ⟨a', ss', -, -, -, -, hbv⟩ | ⟨s', ss', hav, hpv, hss', hdot', hbv⟩ |
      ⟨t', -, -, -, hslash', hbv⟩
    · rw [hbu, hbv] at h
      exact absurd h (bare_ne_authority (hss s List.mem_cons_self) _)
    · rw [hbu, hbv] at h
      rw [hau, hav, hpu, hpv, bare_inj hss hss' hdot hdot' h]
      exact ⟨rfl, rfl⟩
    · obtain ⟨r, hr⟩ := hbare s ss
      rw [hbu, hbv, hr] at h
      exact absurd (by rw [← h]; rfl) hslash'
  · rcases hv.body_cases with ⟨a', ss', -, -, -, -, hbv⟩ | ⟨s', ss', -, -, -, -, hbv⟩ |
      ⟨t', hav, hpv, -, -, hbv⟩
    · rw [hbu, hbv] at h
      exact absurd (by rw [h]; rfl) hslash
    · obtain ⟨r, hr⟩ := hbare s' ss'
      rw [hbu, hbv, hr] at h
      exact absurd (by rw [h]; rfl) hslash
    · rw [hbu, hbv] at h
      rw [hau, hav, hpu, hpv, h]
      exact ⟨rfl, rfl⟩

/-- URLs with one text have all parts in common that a text can tell. -/
theorem outline_eq_of_text (hu : u.Formed) (hv : v.Formed) (h : u.text = v.text) :
    u.outline = v.outline := by
  have hchars : u.chars = v.chars := by
    simpa [text] using congrArg String.toList h
  rw [chars_eq, chars_eq] at hchars
  obtain ⟨hscheme, hrest⟩ := append_mark_inj hu.scheme hv.scheme hchars
  have hquery : ∀ {u : Url}, u.Formed → '#' ∉ u.body ++ optional '?' u.query := by
    intro u hu hmem
    rcases List.mem_append.1 hmem with hmem | hmem
    · exact hu.body_lacks '#' (by decide) hmem
    · cases hq : u.query with
      | none => simp [hq, optional] at hmem
      | some q =>
        have hq' : '#' ∈ q := by simpa [hq, optional] using hmem
        exact hu.query q hq hq'
  obtain ⟨hbefore, hfragment⟩ := append_optional_inj (hquery hu) (hquery hv) hrest
  obtain ⟨hbody, hqueries⟩ := append_optional_inj (hu.body_lacks '?' (by decide))
    (hv.body_lacks '?' (by decide)) hbefore
  obtain ⟨hauthority, hpath⟩ := body_inj hu hv hbody
  obtain ⟨scheme, authority, path, query, fragment⟩ := u
  obtain ⟨scheme', authority', path', query', fragment'⟩ := v
  simp_all [outline]

end Url

end Resources
