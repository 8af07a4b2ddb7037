import Resources.Proofs.Url.Read
import Resources.Web

/-! URLs with one text. Their parts may differ in how a host is held, but no reader tells them apart:
references lead to URLs with one text again, and the web answers both alike. -/
namespace Resources

variable {a a' : Authority} {u v : Url} {t : List Char}

/-! ### Authorities -/

namespace Authority

theorem hostText_eq_of_outline (ha : a.Formed) (ha' : a'.Formed) (h : a.outline = a'.outline) :
    a.hostText = a'.hostText := by
  have hhost : (a.host.map fun _ => Host.domain a.hostText) =
      a'.host.map fun _ => Host.domain a'.hostText := congrArg Authority.host h
  cases hu : a.host with
  | none =>
    have hv : a'.host = none := by simpa [hu] using hhost
    rw [ha.missing.1 hu, ha'.missing.1 hv]
  | some o =>
    obtain ⟨o', hv⟩ : ∃ o', a'.host = some o' := by
      cases hv : a'.host with
      | none => simp [hu, hv] at hhost
      | some o' => exact ⟨o', rfl⟩
    simpa [hu, hv] using hhost

theorem username_eq_of_outline (h : a.outline = a'.outline) : a.username = a'.username := by
  have huser := congrArg username h
  exact huser

theorem password_eq_of_outline (h : a.outline = a'.outline) : a.password = a'.password := by
  have hpassword := congrArg password h
  exact hpassword

theorem text_eq_of_outline (ha : a.Formed) (ha' : a'.Formed) (h : a.outline = a'.outline) :
    a.text = a'.text := by
  rw [text, text, userinfo_eq, userinfo_eq, username_eq_of_outline h, password_eq_of_outline h,
    hostText_eq_of_outline ha ha' h]

/-- Without the user. -/
def nameless (a : Authority) : Authority := { a with username := [], password := none }

theorem Formed.nameless (ha : a.Formed) : a.nameless.Formed :=
  ⟨by simp [Authority.nameless, Lacks], by simp [Authority.nameless], ha.host, ha.missing⟩

theorem outline_nameless (h : a.outline = a'.outline) : a.nameless.outline = a'.nameless.outline :=
  congrArg Authority.nameless h

end Authority

namespace Url

/-- URLs that were formed and have one text. -/
structure Twins (u v : Url) : Prop where
  left : u.Formed
  right : v.Formed
  outline : u.outline = v.outline

theorem twins_of_text (hu : u.Formed) (hv : v.Formed) (h : u.text = v.text) : Twins u v :=
  ⟨hu, hv, outline_eq_of_text hu hv h⟩

namespace Twins

theorem scheme (h : Twins u v) : u.scheme = v.scheme := by
  have hscheme := congrArg Url.scheme h.outline
  exact hscheme

theorem path (h : Twins u v) : u.path = v.path := by
  have hpath := congrArg Url.path h.outline
  exact hpath

theorem query (h : Twins u v) : u.query = v.query := by
  have hquery := congrArg Url.query h.outline
  exact hquery

theorem fragment (h : Twins u v) : u.fragment = v.fragment := by
  have hfragment := congrArg Url.fragment h.outline
  exact hfragment

theorem authority (h : Twins u v) :
    u.authority.map Authority.outline = v.authority.map Authority.outline := by
  have hauthority := congrArg Url.authority h.outline
  exact hauthority

theorem hasScheme (h : Twins u v) (name : String) : u.hasScheme name = v.hasScheme name := by
  rw [Url.hasScheme, h.scheme, Url.hasScheme]

theorem isFile (h : Twins u v) : u.isFile = v.isFile := h.hasScheme "file"

theorem isHttp (h : Twins u v) : u.isHttp = v.isHttp := by
  rw [Url.isHttp, h.hasScheme, h.hasScheme, Url.isHttp]

/-- Both have an authority, or neither has. -/
theorem authorities (h : Twins u v) : u.authority = none ∧ v.authority = none ∨
    ∃ a a', u.authority = some a ∧ v.authority = some a' ∧ a.Formed ∧ a'.Formed ∧
      a.outline = a'.outline := by
  have hmap := h.authority
  cases hu : u.authority with
  | none =>
    left
    rw [hu] at hmap
    simpa using hmap.symm
  | some a =>
    right
    cases hv : v.authority with
    | none => simp [hu, hv] at hmap
    | some a' =>
      rw [hu, hv] at hmap
      exact ⟨a, a', rfl, rfl, h.left.authority a hu, h.right.authority a' hv, Option.some.inj hmap⟩

theorem chars (h : Twins u v) : u.chars = v.chars := by
  have hfront : u.frontChars = v.frontChars := by
    rcases h.authorities with ⟨hu, hv⟩ | ⟨a, a', hu, hv, ha, ha', hout⟩
    · simp only [frontChars, hu, hv, h.path]
    · simp only [frontChars, hu, hv, Authority.text_eq_of_outline ha ha' hout]
  rw [Url.chars, hfront, h.scheme, h.path, h.query, h.fragment, Url.chars]

theorem text (h : Twins u v) : u.text = v.text := congrArg String.ofList h.chars

theorem host_none_iff (h : Twins u v) : u.host? = none ↔ v.host? = none := by
  rcases h.authorities with ⟨hu, hv⟩ | ⟨a, a', hu, hv, ha, ha', hout⟩
  · simp [host?, hu, hv]
  · have hhost := congrArg (fun a => a.host.isNone) hout
    simp only [Authority.outline, Option.isNone_map] at hhost
    simp only [host?, hu, hv, Option.bind_some]
    rw [← Option.isNone_iff_eq_none, hhost, Option.isNone_iff_eq_none]

/-- They lead to one place on the disk. -/
theorem filePath? (h : Twins u v) : u.filePath? = v.filePath? := by
  have hhost := h.host_none_iff
  unfold Url.filePath?
  rw [h.isFile, h.path]
  cases hu : u.host? with
  | none => rw [hhost.1 hu]
  | some o =>
    cases hv : v.host? with
    | none => simp [hhost.2 hv] at hu
    | some o' => cases v.isFile <;> cases v.path <;> rfl

/-- What is done to both authorities, by what an outline tells, is done to twins. -/
theorem mapAuthority {f : Authority → Authority} (h : Twins u v)
    (hformed : ∀ a, a.Formed → (f a).Formed)
    (houtline : ∀ a a', a.outline = a'.outline → (f a).outline = (f a').outline)
    (hfile : ∀ o, f ⟨[], none, o, none⟩ = ⟨[], none, o, none⟩) :
    Twins { u with authority := u.authority.map f } { v with authority := v.authority.map f } := by
  have hall : ∀ {u : Url}, u.Formed → ({ u with authority := u.authority.map f } : Url).Formed := by
    intro u hu
    constructor
    · exact hu.scheme
    · intro a ha
      obtain ⟨b, hb, rfl⟩ := Option.map_eq_some_iff.1 ha
      exact hformed b (hu.authority b hb)
    · rw [Option.map_eq_none_iff]
      exact hu.path
    · exact hu.query
    · intro hf
      obtain ⟨o, ho⟩ := hu.file hf
      exact ⟨o, by rw [ho, Option.map_some, hfile]⟩
  refine ⟨hall h.left, hall h.right, ?_⟩
  have hmap : (u.authority.map f).map Authority.outline = (v.authority.map f).map Authority.outline := by
    rcases h.authorities with ⟨hu, hv⟩ | ⟨a, a', hu, hv, -, -, hout⟩
    · rw [hu, hv]
    · rw [hu, hv, Option.map_some, Option.map_some, Option.map_some, Option.map_some,
        houtline a a' hout]
  simp only [Url.outline, hmap, h.scheme, h.path, h.query, h.fragment]

theorem withFragment (h : Twins u v) (f : Option (List Char)) :
    Twins { u with fragment := f } { v with fragment := f } :=
  ⟨h.left.withFragment f, h.right.withFragment f, by
    simp only [Url.outline, h.authority, h.scheme, h.path, h.query]⟩

end Twins

/-! ### References -/

section

variable {o o' : Option Authority} (ho : o.map Authority.outline = o'.map Authority.outline)
include ho

theorem outline_of_authority {scheme : List Char} {path : Path} {query fragment : Option (List Char)} :
    outline ⟨scheme, o, path, query, fragment⟩ = outline ⟨scheme, o', path, query, fragment⟩ := by
  rw [outline, ho, outline]

theorem outline_assemble {scheme : List Char} {p : Path × List Char} :
    (assemble scheme o p).outline = (assemble scheme o' p).outline :=
  outline_of_authority ho

end

theorem outline_fromRoot (h : Twins u v) (hf : u.isFile = true) (r : List Char) :
    (fromRoot (some u) r).outline = (fromRoot (some v) r).outline := by
  obtain ⟨o, ho⟩ := h.left.file hf
  obtain ⟨o', ho'⟩ := h.right.file (h.isFile ▸ hf)
  have hu : (⟨[], none, u.host?, none⟩ : Authority) = ⟨[], none, o, none⟩ := by simp [host?, ho]
  have hv : (⟨[], none, v.host?, none⟩ : Authority) = ⟨[], none, o', none⟩ := by simp [host?, ho']
  unfold fromRoot
  simp only [Option.bind_some, h.path, hu, hv]
  split
  · rfl
  · split
    · rfl
    · apply outline_assemble
      rw [← ho, ← ho']
      exact h.authority

theorem outline_fromBase (h : Twins u v) (t : List Char) :
    (fromBase (some u) t).outline = (fromBase (some v) t).outline := by
  simp only [fromBase, h.scheme, h.path, h.query]
  split
  · exact outline_of_authority h.authority
  · exact outline_assemble h.authority
  · exact outline_of_authority h.authority
  · split
    · rfl
    · exact outline_assemble h.authority

theorem outline_fileUrl (h : Twins u v) (hf : u.isFile = true) (t : List Char) :
    (fileUrl (some u) t).map outline = (fileUrl (some v) t).map outline := by
  rcases fileUrl_cases t with ⟨r, hr⟩ | ⟨r, hr⟩ | hr
  · rw [hr, hr]
  · rw [hr, hr]
    exact congrArg Except.ok (outline_fromRoot h hf r)
  · rw [hr, hr]
    exact congrArg Except.ok (outline_fromBase h t)

theorem outline_relativeUrl (h : Twins u v) (t : List Char) :
    (relativeUrl u t).map outline = (relativeUrl v t).map outline := by
  simp only [relativeUrl, h.scheme, h.path, h.query]
  split
  · exact congrArg Except.ok (outline_of_authority h.authority)
  · exact congrArg Except.ok (outline_assemble h.authority)
  · exact congrArg Except.ok (outline_of_authority h.authority)
  · split
    · split
      · split
        · rfl
        · exact congrArg Except.ok (outline_assemble h.authority)
      · exact congrArg Except.ok (outline_assemble h.authority)
    · exact congrArg Except.ok (outline_assemble h.authority)

theorem outline_schemeUrl (h : Twins u v) (scheme t : List Char) :
    (schemeUrl (some u) scheme t).map outline = (schemeUrl (some v) scheme t).map outline := by
  unfold schemeUrl
  by_cases hs : v.scheme = scheme
  · have hu : (some u).filter (·.scheme = scheme) = some u := by simp [h.scheme, hs]
    have hv : (some v).filter (·.scheme = scheme) = some v := by simp [hs]
    simp only [hu, hv]
    split
    · rename_i hfamily
      refine outline_fileUrl h (isFile_iff.2 ?_) t
      rw [h.scheme, hs, family_file_iff.1 hfamily]
    · split
      · exact outline_relativeUrl h t
      · rfl
    · rfl
  · have hu : (some u).filter (·.scheme = scheme) = none := by simp [h.scheme, hs]
    have hv : (some v).filter (·.scheme = scheme) = none := by simp [hs]
    simp only [hu, hv]

theorem outline_join (h : Twins u v) (reference : String) :
    (u.join reference).map outline = (v.join reference).map outline := by
  unfold join read
  cases hs : scheme? (strip reference.toList) with
  | some x =>
    simp only [hs]
    exact outline_schemeUrl h _ _
  | none =>
    simp only [hs, h.scheme, h.path, h.query, h.isFile]
    split
    · exact congrArg Except.ok (outline_of_authority h.authority)
    · rfl
    · split
      · rename_i hf
        exact outline_fileUrl h (h.isFile.trans hf) _
      · exact outline_relativeUrl h _

/-- A reference is refused by both for one cause, or leads to URLs with one text. -/
theorem Twins.join (h : Twins u v) (reference : String) :
    (∃ e, u.join reference = .error e ∧ v.join reference = .error e) ∨
      ∃ u' v', u.join reference = .ok u' ∧ v.join reference = .ok v' ∧ Twins u' v' := by
  have houtline := outline_join h reference
  cases hu : u.join reference with
  | error e =>
    cases hv : v.join reference with
    | error e' =>
      rw [hu, hv] at houtline
      obtain rfl : e = e' := Except.error.inj houtline
      exact Or.inl ⟨e, rfl, rfl⟩
    | ok v' =>
      rw [hu, hv] at houtline
      cases houtline
  | ok u' =>
    cases hv : v.join reference with
    | error e' =>
      rw [hu, hv] at houtline
      cases houtline
    | ok v' =>
      rw [hu, hv] at houtline
      exact Or.inr ⟨u', v', rfl, rfl, h.left.join hu, h.right.join hv, Except.ok.inj houtline⟩

end Url

/-! ### The web -/

namespace Web

open Url (Twins)

theorem twins_sentUrl (h : Twins u v) : Twins (sentUrl u) (sentUrl v) :=
  (h.mapAuthority (fun _ ha => ha.nameless) (fun _ _ hout => Authority.outline_nameless hout)
    fun _ => rfl).withFragment none

theorem twins_namedUrl (h : Twins u v) : Twins (namedUrl u) (namedUrl v) := by
  apply h.mapAuthority
  · intro a ha
    split
    · exact ha.nameless
    · exact ha
  · intro a a' hout
    rw [Authority.username_eq_of_outline hout]
    split
    · exact Authority.outline_nameless hout
    · exact hout
  · intro o
    split <;> rfl

/-- The port of a host can always be sent. -/
theorem all_sendable_hostText {h : Host} (hh : a.host = some h) :
    (h.text.all fun c => c ∉ ['"', '\x60', '\x7b', '\x7d']) =
      a.hostText.all fun c => c ∉ ['"', '\x60', '\x7b', '\x7d'] := by
  obtain ⟨user, password, host, port⟩ := a
  obtain rfl : host = some h := hh
  cases port with
  | none => simp [Authority.hostText]
  | some p =>
    have hport : ((':' :: Nat.toDigits 10 p).all fun c => c ∉ ['"', '\x60', '\x7b', '\x7d']) = true := by
      rw [List.all_eq_true]
      intro c hc
      have hbad : ∀ c ∈ ['"', '\x60', '\x7b', '\x7d'], c ≠ ':' ∧ c.isAlphanum ≠ true :=
        List.all_iff_forall_prop.1 (by decide)
      refine decide_eq_true fun hmem => ?_
      obtain ⟨hcolon, hdigit⟩ := hbad c hmem
      rcases List.mem_cons.1 hc with rfl | hc
      · exact hcolon rfl
      · exact hdigit (isAlphanum_of_toDigits (by decide) (by decide) hc)
    rw [Authority.hostText, List.all_append, hport, Bool.and_true]
    rfl

theorem isSendable_congr (h : Twins u v) : isSendable u = isSendable v := by
  unfold isSendable
  rw [(twins_namedUrl h).chars]
  congr 1
  have hnone := h.host_none_iff
  rcases h.authorities with ⟨hu, hv⟩ | ⟨a, a', hu, hv, ha, ha', hout⟩
  · simp [Url.host?, hu, hv]
  · have hau : u.host? = a.host := by simp [Url.host?, hu]
    have hav : v.host? = a'.host := by simp [Url.host?, hv]
    rw [hau, hav] at hnone ⊢
    cases hh : a.host with
    | none => rw [hnone.1 hh]
    | some o =>
      cases hh' : a'.host with
      | none => simp [hnone.2 hh'] at hh
      | some o' =>
        simp only [all_sendable_hostText hh, all_sendable_hostText hh',
          Authority.hostText_eq_of_outline ha ha' hout]

theorem ask_congr (w : Web) (m : Method) (h : Twins u v) : w.ask m u = w.ask m v := by
  have hrequest : requestOf m u = requestOf m v := by
    rw [requestOf, (twins_sentUrl h).text, requestOf]
  unfold ask
  rw [(twins_namedUrl h).text, h.hasScheme, hrequest]

theorem target?_congr (h : Twins u v) (r : Response) :
    target? u r = none ∧ target? v r = none ∨
      ∃ u' v', target? u r = some u' ∧ target? v r = some v' ∧ Twins u' v' := by
  unfold target?
  split
  · cases r.header? "location" with
    | none => exact Or.inl ⟨rfl, rfl⟩
    | some b =>
      cases ht : Utf8.decode? b with
      | none => simp [ht]
      | some t =>
        simp only [ht, Option.bind_some]
        rcases h.join (.ofList t) with ⟨e, hu, hv⟩ | ⟨u', v', hu, hv, htwins⟩
        · rw [hu, hv]
          exact Or.inl ⟨rfl, rfl⟩
        · rw [hu, hv]
          exact Or.inr ⟨u', v', rfl, rfl, htwins⟩
  · exact Or.inl ⟨rfl, rfl⟩

theorem follow_congr (w : Web) (m : Method) (n : Nat) (h : Twins u v) :
    w.follow m n u = w.follow m n v := by
  -- A redirect leads from twins to other twins, so the induction is over all of them.
  induction n using Nat.strong_induction_on generalizing u v with
  | _ n ih =>
    unfold follow
    rw [isSendable_congr h, (twins_namedUrl h).text, ask_congr w m h]
    split
    · rfl
    · split
      · rfl
      · rename_i r sent _
        rcases target?_congr h r with ⟨hu, hv⟩ | ⟨u', v', hu, hv, htwins⟩
        · rw [hu, hv]
        · rw [hu, hv]
          cases n with
          | zero => rfl
          | succ n => simp only [htwins.isHttp, ih n (Nat.lt_succ_self n) htwins]

/-- The web answers both alike, and is asked the same for both. -/
theorem fetch_congr (w : Web) (m : Method) (h : Twins u v) : w.fetch m u = w.fetch m v :=
  follow_congr w m redirectLimit h

end Web

end Resources
