import Resources.Handle.Url
import Resources.Proofs.Path.Composition
import Resources.Proofs.Url.Reference

/-! Relative paths on the web and of files. Over characters that a URL leaves as they are, one rule reads
both. -/
namespace Resources.UrlHandle

open Resources.Path (segments unify here up composed Ordinary)
open Url (Unreserved)

variable {h : UrlHandle} {r : String} {q : List Char}

/-- What a relative path may be made of. -/
def Readable (r : List Char) : Prop := ∀ c ∈ r, Unreserved c ∨ c = '/' ∨ c = '\\'

theorem unreserved_unify (hr : Readable r.toList) : ∀ c ∈ unify r.toList, Unreserved c ∨ c = '/' := by
  intro c hc
  rcases Path.mem_unify hc with hmem | ⟨hslash, -⟩
  · rcases hr c hmem with hc' | rfl | rfl
    · exact Or.inl hc'
    · exact Or.inr rfl
    · exact absurd hc Path.backslash_not_mem_unify
  · exact Or.inr hslash

theorem relative_of_join {u : Url} (hne : r ≠ "")
    (hu : h.url.join (.ofList (unify r.toList)) = .ok u) : h.relative r = .ok { h with url := u } := by
  rw [relative, if_neg hne, hu]

theorem exists_last (hinit : [] ∉ (segments q).dropLast)
    (hl : ∀ s ∈ (segments q).getLast?, s ≠ here ∧ s ≠ up) : ∃ init last, segments q = init ++ [last] ∧
      [] ∉ init ∧ last ≠ here ∧ last ≠ up := by
  obtain ⟨init, last, hs⟩ : ∃ init last, segments q = init ++ [last] :=
    ⟨_, _, (List.dropLast_concat_getLast Path.segments_ne_nil).symm⟩
  rw [hs, List.dropLast_concat] at hinit
  exact ⟨init, last, hs, hinit, hl last (by simp [hs])⟩

/-- Both rules lead to one path, and the URL keeps scheme and authority. -/
def LeadsAlike (h : UrlHandle) (r : String) : Prop := ∃ u, h.relative r = .ok { h with url := u } ∧
  Path.relative (.ofList h.url.path.text) r = some (.ofList u.path.text) ∧
  u.scheme = h.url.scheme ∧ u.authority = h.url.authority

/-- Both rules go on from the same names, over the same segments. -/
theorem leadsAlike_of_segments {ns init : List Url.Segment} {last : Url.Segment} (hne : r ≠ "")
    (hc : ':' ∉ composed h.url.path.text r.toList) (hn : ∀ s ∈ ns, Ordinary s)
    (hl : last ≠ here ∧ last ≠ up)
    (hs : segments (composed h.url.path.text r.toList) = [] :: (ns ++ init ++ [last]))
    (hu : h.url.join (.ofList (unify r.toList)) = .ok ⟨h.url.scheme, h.url.authority,
      .segments ((init.foldl Path.step ns.reverse).reverse ++ [last]), none, none⟩) :
    LeadsAlike h r := by
  have hnil : r.toList ≠ [] := by simpa using hne
  have hclean := Path.segments_cleanText_behind hc Path.unify_composed hs hn hl
  refine ⟨_, relative_of_join hne hu, ?_, rfl, rfl⟩
  rw [Path.relative, String.toList_ofList, Path.relativeText_eq hnil, Option.map_some,
    Url.text_of_segments hclean (by simp)]

section

variable {ss : List Url.Segment} (hpath : h.url.path = .segments ss) (hweb : Url.family h.url.scheme = .web)
  (hne : r ≠ "") (hcolon : ':' ∉ composed h.url.path.text r.toList)
  (hchars : ∀ c ∈ unify r.toList, Unreserved c ∨ c = '/') (hslashes : ¬ ['/', '/'] <:+: unify r.toList)
  (hl : ∀ s ∈ (segments (unify r.toList)).getLast?, s ≠ here ∧ s ≠ up)
include hpath hweb hne hcolon hchars hslashes hl

theorem leadsAlike_of_root (hroot : (unify r.toList).head? = some '/') : LeadsAlike h r := by
  obtain ⟨q, hq⟩ := List.head?_eq_some_iff.1 hroot
  rw [hq] at hchars hslashes hl
  rw [List.forall_mem_cons] at hchars
  rw [Path.segments_slash_cons, List.getLast?_cons_of_ne_nil Path.segments_ne_nil] at hl
  have hhead : q.head? ≠ some '/' := by
    intro hhead
    obtain ⟨q', rfl⟩ := List.head?_eq_some_iff.1 hhead
    exact hslashes ⟨[], q', rfl⟩
  have hinit := Path.nil_not_mem_dropLast hhead fun hin =>
    hslashes (hin.trans (List.suffix_cons '/' q).isInfix)
  obtain ⟨init, last, hs, hinit, hlast⟩ := exists_last hinit hl
  have hsegments : segments (composed h.url.path.text r.toList) = [] :: ([] ++ init ++ [last]) := by
    rw [Path.composed_of_rooted hroot, hq, Path.segments_slash_cons, hs]
    rfl
  have hjoin := Url.join_root hpath hweb hchars.2 hhead hs hinit hlast
  rw [← hq] at hjoin
  exact leadsAlike_of_segments hne hcolon (by simp) hlast hsegments hjoin

theorem leadsAlike_of_place (hbase : segments h.url.path.text = [] :: ss) (hss : ss ≠ [])
    (hplace : ∀ s ∈ ss.dropLast, Ordinary s ∧ Url.isDrive s = false)
    (hself : unify h.url.path.text = h.url.path.text)
    (hroot : (unify r.toList).head? ≠ some '/') : LeadsAlike h r := by
  have hinit := Path.nil_not_mem_dropLast hroot hslashes
  obtain ⟨init, last, hs, hinit, hlast⟩ := exists_last hinit hl
  have hnil : unify r.toList ≠ [] := by simpa [unify] using hne
  have hsegments : segments (composed h.url.path.text r.toList) =
      [] :: (ss.dropLast ++ init ++ [last]) := by
    rw [Path.composed_of_relative hroot, hself, Path.segments_directory_append, hbase, hs,
      List.dropLast_cons_of_ne_nil hss, List.cons_append, List.append_assoc]
  have hjoin := Url.join_path hpath hweb (fun s hmem => (hplace s hmem).2) hchars hroot hnil hs hinit
    hlast
  exact leadsAlike_of_segments hne hcolon (fun s hmem => (hplace s hmem).1) hlast hsegments hjoin

end

/-- The place of a web URL: names, and the last segment, which is cut off. -/
theorem place_of_url {u : Url} (hm : u.Made) (hweb : Url.family u.scheme = .web)
    (hp : ∀ c ∈ u.path.text, Unreserved c ∨ c = '/')
    (hgap : [] ∉ (segments u.path.text).tail.dropLast) : ∃ ss, u.path = .segments ss ∧
      segments u.path.text = [] :: ss ∧ ss ≠ [] ∧
        ∀ s ∈ ss.dropLast, Ordinary s ∧ Url.isDrive s = false := by
  obtain ⟨ss, hpath, hne, hfirm⟩ := hm.segments hweb
  have hformed := hm.formed.path
  rw [hpath] at hformed hp hgap
  have hs := Url.segments_text hne fun s hs => hformed.1 s hs '/' (by decide)
  have hchars := Url.unreserved_of_mem_segments hp
  rw [hs] at hchars hgap
  refine ⟨ss, hpath, by rw [hpath, hs], hne, fun s hmem => ?_⟩
  have hin : s ∈ ss := List.dropLast_subset _ hmem
  have hs' := hchars s (List.mem_cons_of_mem _ hin)
  obtain ⟨hup, hhere⟩ := hfirm s hin
  refine ⟨⟨?_, (Url.isHere_iff hs').not.1 hhere, (Url.isUp_iff hs').not.1 hup⟩, Url.not_isDrive hs'⟩
  rintro rfl
  exact hgap hmem

/-- Reading a relative path against a URL of the web is composing it with the path of the URL. -/
theorem relative_composed (hm : h.url.Made) (hh : h.isHttp = true)
    (hp : ∀ c ∈ h.url.path.text, Unreserved c ∨ c = '/')
    (hgap : [] ∉ (segments h.url.path.text).tail.dropLast) (hne : r ≠ "") (hr : Readable r.toList)
    (hslashes : ¬ ['/', '/'] <:+: unify r.toList)
    (hl : ∀ s ∈ (segments (unify r.toList)).getLast?, s ≠ here ∧ s ≠ up) :
    ∃ u, h.relative r = .ok { h with url := u } ∧
      Path.relative (.ofList h.url.path.text) r = some (.ofList u.path.text) ∧
      u.scheme = h.url.scheme ∧ u.authority = h.url.authority := by
  have hweb := Url.family_of_isHttp hh
  obtain ⟨ss, hpath, hbase, hss, hplace⟩ := place_of_url hm hweb hp hgap
  have hchars := unreserved_unify hr
  have hcolon : ':' ∉ composed h.url.path.text r.toList :=
    Path.colon_not_mem_composed (Url.colon_not_mem hp) fun hmem => by
      rcases hr ':' hmem with hc | hc
      · exact hc.ne.2.1 rfl
      · exact absurd hc (by decide)
  have hself : unify h.url.path.text = h.url.path.text := Path.unify_eq_self fun hmem =>
    (hp _ hmem).elim (fun hc => hc.ne.2.2.2.1 rfl) (by decide)
  by_cases hroot : (unify r.toList).head? = some '/'
  · exact leadsAlike_of_root hpath hweb hne hcolon hchars hslashes hl hroot
  · exact leadsAlike_of_place hpath hweb hne hcolon hchars hslashes hl hbase hss hplace hself hroot

def docs : UrlHandle :=
  ⟨⟨"http".toList, some ⟨[], none, some (.domain ['h']), none⟩,
      .segments ["docs".toList, "v1".toList, "a.txt".toList], none, none⟩,
    ⟨0, Settings.defaultTimeout⟩⟩

theorem parse_docs : Url.parse "http://h/docs/v1/a.txt" = .ok docs.url := by rfl

/-- More climbs than there are names, and a slash at the end. -/
theorem relative_composed_docs : Url.parse "http://h/docs/v1/a.txt" = .ok docs.url ∧
    ∃ u, docs.relative "..\\../../b/./c/../" = .ok { docs with url := u } ∧
      Path.relative (.ofList docs.url.path.text) "..\\../../b/./c/../" = some (.ofList u.path.text) ∧
      u.path.text = "/b/".toList ∧ u.scheme = docs.url.scheme ∧ u.authority = docs.url.authority := by
  have hp : ∀ c ∈ docs.url.path.text, Unreserved c ∨ c = '/' :=
    List.all_iff_forall_prop.1 (by decide)
  have hgap : [] ∉ (segments docs.url.path.text).tail.dropLast := by decide
  have hr : Readable "..\\../../b/./c/../".toList := List.all_iff_forall_prop.1 (by decide)
  have hslashes : ¬ ['/', '/'] <:+: unify "..\\../../b/./c/../".toList := by
    simp [unify, List.infix_cons_iff]
  obtain ⟨u, hu, hpath, hscheme, hauthority⟩ := relative_composed (.parsed parse_docs) rfl hp hgap
    (by decide) hr hslashes (by decide)
  have hrelative : Path.relative (.ofList docs.url.path.text) "..\\../../b/./c/../" = some "/b/" := by
    rfl
  have htext : u.path.text = "/b/".toList := by
    rw [hrelative] at hpath
    simpa using (congrArg String.toList (Option.some.inj hpath)).symm
  exact ⟨parse_docs, u, hu, hpath, htext, hscheme, hauthority⟩

end Resources.UrlHandle
