import Resources.Proofs.Handle.Composed

/-! Relative paths on the web that begin with a slash. One slash leads to the root of the same host. Behind
two slashes a reference names a host of its own, and that one is asked. -/
namespace Resources.Url

variable {b b' u : Url} {q t : List Char}

/-- The host that is asked for a URL, and its port. -/
def site (u : Url) : Option (Option Host × Option Nat) := u.authority.map fun a => (a.host, a.port)

/-- Behind two slashes a reference says itself who is asked. -/
def Names (scheme t : List Char) (a : Authority) : Prop :=
  ∃ q rest, strip t = '/' :: '/' :: q ∧ authorityOf (family scheme) scheme q = .ok (a, rest)

/-- Blanks do not hide the first slash: it stands before all of them that count. -/
theorem strip_of_rooted (ht : t.head? = some '/') : ∃ q, strip t = '/' :: q := by
  obtain ⟨t, rfl⟩ := List.head?_eq_some_iff.1 ht
  unfold strip
  simp only
  rw [List.dropWhile_cons_of_neg (by decide), List.reverse_cons, List.dropWhile_append]
  split
  · exact ⟨[], by decide⟩
  · exact ⟨_, by rw [List.reverse_append]; rfl⟩

theorem scheme?_of_rooted (q : List Char) : scheme? ('/' :: q) = none := rfl

/-- A base without segments refuses what begins with a slash. -/
theorem join_of_rooted (hf : family b.scheme = .web) (ht : t.head? = some '/')
    (hu : b.join (.ofList t) = .ok u) : relativeUrl b (strip t) = .ok u := by
  obtain ⟨q, hq⟩ := strip_of_rooted ht
  have hscheme : scheme? (strip t) = none := by rw [hq, scheme?_of_rooted]
  cases hp : b.path with
  | plain p =>
    rw [join, String.toList_ofList] at hu
    unfold read at hu
    simp only [hscheme, hp] at hu
    rw [hq] at hu
    cases hu
  | segments ss => rw [← join_of_no_scheme hp hf hscheme, hu]

theorem not_isSlash_of_rooted (hback : '\\' ∉ t) (hq : strip t = '/' :: q)
    (hone : ¬ ['/', '/'] <+: strip t) : ∀ c ∈ q.head?, isSlash c = false := by
  intro c hc
  obtain ⟨q, rfl⟩ := List.head?_eq_some_iff.1 hc
  rw [hq] at hone
  have hne : c ≠ '/' := by
    rintro rfl
    exact hone ⟨q, rfl⟩
  have hne' : c ≠ '\\' := by
    rintro rfl
    exact hback (mem_of_mem_strip (by simp [hq]))
  simp [isSlash, hne, hne']

/-- A rooted reference names an authority, or stays with that of the base. -/
theorem authority_of_rooted (hf : family b.scheme = .web) (ht : t.head? = some '/') (hback : '\\' ∉ t)
    (hu : b.join (.ofList t) = .ok u) : u.scheme = b.scheme ∧
      ((¬ ['/', '/'] <+: strip t ∧ u.authority = b.authority) ∨
        ∃ a, Names b.scheme t a ∧ u.authority = some a) := by
  have hread := join_of_rooted hf ht hu
  obtain ⟨q, hq⟩ := strip_of_rooted ht
  by_cases htwo : ['/', '/'] <+: strip t
  · obtain ⟨q, hq⟩ := htwo
    rw [← hq, List.cons_append, List.cons_append, List.nil_append, relativeUrl_slashes] at hread
    obtain ⟨a, rest, ha, rfl⟩ := afterSlashes_eq_ok.1 hread
    exact ⟨rfl, Or.inr ⟨a, ⟨q, rest, hq.symm, ha⟩, rfl⟩⟩
  · rw [hq, relativeUrl_root hf (not_isSlash_of_rooted hback hq htwo)] at hread
    obtain rfl := Except.ok.inj hread
    exact ⟨rfl, Or.inl ⟨htwo, rfl⟩⟩

/-- At most one authority is named. -/
theorem Names.unique {scheme : List Char} {a a' : Authority} (h : Names scheme t a)
    (h' : Names scheme t a') : a = a' := by
  obtain ⟨q, rest, hq, ha⟩ := h
  obtain ⟨q', rest', hq', ha'⟩ := h'
  obtain rfl : q = q' := by simpa [hq] using hq'
  rw [ha] at ha'
  exact (Prod.mk.inj (Except.ok.inj ha')).1

theorem Names.slashes {scheme : List Char} {a : Authority} (h : Names scheme t a) :
    ['/', '/'] <+: strip t := by
  obtain ⟨q, rest, hq, -⟩ := h
  exact ⟨q, hq.symm⟩

/-- Of the base a rooted reference sees the scheme and the authority, and nothing else. -/
theorem relativeUrl_of_rooted (hscheme : b.scheme = b'.scheme) (hauthority : b.authority = b'.authority)
    (q : List Char) : relativeUrl b ('/' :: q) = relativeUrl b' ('/' :: q) := by
  have hslash : isSlash '/' = true := rfl
  cases q with
  | nil => simp [relativeUrl, hslash, hscheme, hauthority]
  | cons c q => simp [relativeUrl, hslash, hscheme, hauthority]

end Resources.Url

namespace Resources.UrlHandle

open Resources.Path (unify)

variable {g h h' : UrlHandle} {r : String}

theorem join_of_relative (ho : h.relative r = .ok h') :
    ∃ u, h.url.join (.ofList (unify r.toList)) = .ok u ∧ h' = { h with url := u } := by
  unfold relative at ho
  split at ho
  · cases ho
  · split at ho
    · rename_i u hu
      exact ⟨u, hu, (Except.ok.inj ho).symm⟩
    · cases ho

/-- On a URL with segments a relative path that begins with a slash is read from its root. -/
theorem relative_of_rooted {ss : List Url.Segment} {u : Url} (hp : h.url.path = .segments ss)
    (hh : h.isHttp = true) (hr : r.toList.head? = some '/' ∨ r.toList.head? = some '\\')
    (hu : Url.relativeUrl h.url (Url.strip (unify r.toList)) = .ok u) :
    h.relative r = .ok { h with url := u } := by
  obtain ⟨q, hq⟩ := Url.strip_of_rooted (Path.head?_unify.2 hr)
  have hnone : Url.scheme? (Url.strip (unify r.toList)) = none := by rw [hq, Url.scheme?_of_rooted]
  have hne : r ≠ "" := by
    rintro rfl
    simp at hr
  exact relative_of_join hne (by rw [Url.join_of_no_scheme hp (Url.family_of_isHttp hh) hnone, hu])

/-- A relative path that begins with a slash keeps the scheme. It keeps host and port too, unless it begins,
as it is read, with two slashes and names others behind them. -/
theorem relative_rooted_iff (hh : h.isHttp = true)
    (hr : r.toList.head? = some '/' ∨ r.toList.head? = some '\\') (ho : h.relative r = .ok h') :
    h'.url.scheme = h.url.scheme ∧
      (¬ ['/', '/'] <+: Url.strip (unify r.toList) → h'.url.authority = h.url.authority) ∧
      (h'.url.site = h.url.site ↔
        ∀ a, Url.Names h.url.scheme (unify r.toList) a → some (a.host, a.port) = h.url.site) := by
  obtain ⟨u, hu, rfl⟩ := join_of_relative ho
  obtain ⟨hscheme, ⟨hone, hauthority⟩ | ⟨a, ha, hauthority⟩⟩ := Url.authority_of_rooted
    (Url.family_of_isHttp hh) (Path.head?_unify.2 hr) Path.backslash_not_mem_unify hu
  · have hsite : u.site = h.url.site := by rw [Url.site, hauthority, Url.site]
    exact ⟨hscheme, fun _ => hauthority, fun _ a ha => absurd ha.slashes hone, fun _ => hsite⟩
  · have hsite : u.site = some (a.host, a.port) := by rw [Url.site, hauthority, Option.map_some]
    refine ⟨hscheme, fun hone => absurd ha.slashes hone, fun hsame a' ha' => ?_, fun hall => ?_⟩
    · rw [ha'.unique ha, ← hsite, hsame]
    · rw [hsite, hall a ha]

/-- What is read at the root of the host `c`. -/
def fromRootOf (c : Char) (s : Url.Segment) : UrlHandle :=
  { docs with url := ⟨docs.url.scheme, some ⟨[], none, some (.domain [c]), none⟩, .segments [s], none, none⟩ }

/-- Behind a backslash and a tab the slash is the second one. The host named behind it is that of the
URL. -/
theorem relative_rooted_iff_docs : docs.isHttp = true ∧ "\\\t/h/y".toList.head? = some '\\' ∧
    docs.relative "\\\t/h/y" = .ok (fromRootOf 'h' ['y']) ∧
      (fromRootOf 'h' ['y']).url.scheme = docs.url.scheme ∧
        ∀ a, Url.Names docs.url.scheme (unify "\\\t/h/y".toList) a →
          some (a.host, a.port) = docs.url.site := by
  have hread : Url.relativeUrl docs.url (Url.strip (unify "\\\t/h/y".toList)) =
      .ok (fromRootOf 'h' ['y']).url := by decide +kernel
  have hrelative := relative_of_rooted (h := docs) rfl rfl (Or.inr rfl) hread
  obtain ⟨hscheme, -, hsite⟩ := relative_rooted_iff rfl (Or.inr rfl) hrelative
  exact ⟨rfl, rfl, hrelative, hscheme, hsite.1 rfl⟩

/-- Another host is asked. -/
theorem relative_rooted_elsewhere : Url.parse "http://h/docs/v1/a.txt" = .ok docs.url ∧
    docs.isHttp = true ∧ "//c/d".toList.head? = some '/' ∧ docs.relative "//c/d" = .ok (fromRootOf 'c' ['d']) ∧
      docs.url.site = some (some (.domain ['h']), none) ∧
        (fromRootOf 'c' ['d']).url.site = some (some (.domain ['c']), none) := by
  have hread : Url.relativeUrl docs.url (Url.strip (unify "//c/d".toList)) =
      .ok (fromRootOf 'c' ['d']).url := by decide +kernel
  exact ⟨parse_docs, rfl, rfl, relative_of_rooted rfl rfl (Or.inl rfl) hread, rfl, rfl⟩

/-- Without a second slash nothing is refused, and all behind the authority is replaced. -/
theorem relative_rooted_ok (hm : h.url.Made) (hh : h.isHttp = true)
    (hr : r.toList.head? = some '/' ∨ r.toList.head? = some '\\')
    (hone : ¬ ['/', '/'] <+: Url.strip (unify r.toList)) : ∃ q,
      Url.strip (unify r.toList) = '/' :: q ∧ h.relative r =
        .ok { h with url := Url.assemble h.url.scheme h.url.authority (Url.pathFrom .web [] q) } := by
  obtain ⟨q, hq⟩ := Url.strip_of_rooted (Path.head?_unify.2 hr)
  obtain ⟨ss, hp, -⟩ := hm.segments (Url.family_of_isHttp hh)
  refine ⟨q, hq, relative_of_rooted hp hh hr ?_⟩
  rw [hq, Url.relativeUrl_root (Url.family_of_isHttp hh)
    (Url.not_isSlash_of_rooted Path.backslash_not_mem_unify hq hone)]

/-- Of the URL only the scheme and the authority count: read against any other URL that has them, the
relative path leads to the same one. -/
theorem relative_rooted_alone (hg : g.url.Made) (hh : h.isHttp = true)
    (hscheme : g.url.scheme = h.url.scheme) (hauthority : g.url.authority = h.url.authority)
    (hr : r.toList.head? = some '/' ∨ r.toList.head? = some '\\') (ho : h.relative r = .ok h') :
    g.relative r = .ok { g with url := h'.url } := by
  obtain ⟨u, hu, rfl⟩ := join_of_relative ho
  have hroot := Path.head?_unify.2 hr
  have hread := Url.join_of_rooted (Url.family_of_isHttp hh) hroot hu
  obtain ⟨q, hq⟩ := Url.strip_of_rooted hroot
  rw [hq, Url.relativeUrl_of_rooted hscheme.symm hauthority.symm, ← hq] at hread
  have hg' : g.isHttp = true := by
    rw [← hh]
    simp only [isHttp, Url.isHttp, Url.hasScheme, hscheme]
  obtain ⟨ss, hp, -⟩ := hg.segments (Url.family_of_isHttp hg')
  exact relative_of_rooted hp hg' hr hread

end Resources.UrlHandle
