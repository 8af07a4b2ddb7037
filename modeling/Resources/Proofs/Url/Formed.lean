import Resources.Proofs.Domain.Characters
import Resources.Proofs.Url.Outline
import Resources.Proofs.Url.Names

/-! What parsing forms. An authority or a path that is read holds no mark in a part that the mark
would end. -/
namespace Resources

variable {c : Char} {t r : List Char} {h : Host} {a : Authority}

/-! ### Characters -/

/-- A mark that is spelled out in a part of a URL, or is not in its text, is not in what is written. -/
theorem Percent.not_mem_encode {set : UInt8 → Bool} (hc : c ∈ ':' :: hostMarks)
    (h : set c.toNat.toUInt8 = true ∨ c ∉ t) : c ∉ encode set t := by
  have hmarks : ∀ c ∈ ':' :: hostMarks, c.toNat < 0x80 ∧ c ≠ '%' ∧
      ∀ n ∈ List.range 16, c ≠ digit n :=
    List.all_iff_forall_prop.1 (by decide)
  obtain ⟨hascii, hpercent, hdigit⟩ := hmarks c hc
  intro hmem
  obtain ⟨b, hb, hmem⟩ := List.mem_flatMap.1 hmem
  have hlt : b.toNat < 256 := b.toNat_lt
  unfold encodeByte at hmem
  split at hmem
  · simp only [List.mem_cons, List.not_mem_nil, or_false] at hmem
    rcases hmem with hmem | hmem | hmem
    · exact hpercent hmem
    · exact hdigit _ (List.mem_range.2 (by omega)) hmem
    · exact hdigit _ (List.mem_range.2 (by omega)) hmem
  · rename_i hset
    obtain rfl : c = Char.ofNat b.toNat := List.mem_singleton.1 hmem
    rw [toNat_ofNat_byte] at h hascii
    have hbyte : b.toNat.toUInt8 = b := by simp
    rw [hbyte] at h
    rcases h with h | h
    · exact hset h
    · apply h
      have hback : _ ∈ Utf8.encode t ↔ Char.ofNat b.toNat ∈ t :=
        Utf8.toUInt8_mem_encode (by rwa [toNat_ofNat_byte])
      rw [toNat_ofNat_byte, hbyte] at hback
      exact hback.1 hb

theorem Percent.encode_ne_nil {set : UInt8 → Bool} (ht : t ≠ []) : encode set t ≠ [] := by
  obtain ⟨c, t, rfl⟩ := List.exists_cons_of_ne_nil ht
  obtain ⟨b, bs, hb⟩ := List.exists_cons_of_ne_nil (Utf8.encodeChar_ne_nil c)
  have hbyte : encodeByte set b ≠ [] := by
    unfold encodeByte
    split <;> simp
  rw [encode, Utf8.encode_cons, hb]
  simp [encodeBytes, hbyte]

theorem Percent.head?_encode_ne {set : UInt8 → Bool} {d : Char} (hc : c ∈ ':' :: hostMarks)
    (hd : d ≠ c) : (encode set (d :: t)).head? ≠ some c := by
  have hfirst : c ∉ encode set [d] := not_mem_encode hc (Or.inr (by simpa using Ne.symm hd))
  have hne : encode set [d] ≠ [] := encode_ne_nil (List.cons_ne_nil d [])
  obtain ⟨e, es, he⟩ := List.exists_cons_of_ne_nil hne
  have happend : encode set (d :: t) = encode set [d] ++ encode set t := by
    simp [encode, Utf8.encode_cons, encodeBytes]
  rw [happend, he]
  rw [he] at hfirst
  rintro ⟨⟩
  exact hfirst List.mem_cons_self

theorem barred_of_hostMark (hc : c ∈ hostMarks) : Domain.Barred c := by
  have hall : ∀ c ∈ hostMarks, Domain.isForbidden c = true ∧ c.isAlphanum = false ∧ c ≠ '-' ∧
      c ≠ '.' :=
    List.all_iff_forall_prop.1 (by decide)
  obtain ⟨hforbidden, halphanum, hhyphen, hdot⟩ := hall c hc
  exact ⟨hforbidden, halphanum, hhyphen, hdot⟩

theorem isAlphanum_of_toDigits {b n : Nat} (hb : 1 < b) (hb' : b ≤ 16) (h : c ∈ Nat.toDigits b n) :
    c.isAlphanum = true := by
  have hall : ∀ d ∈ List.range 16, d.digitChar.isAlphanum = true := by decide
  induction n using Nat.strong_induction_on with
  | _ n ih =>
    rw [Nat.toDigits_eq_if hb] at h
    split at h
    · rw [List.mem_singleton.1 h]
      exact hall n (List.mem_range.2 (by omega))
    · rcases List.mem_append.1 h with h | h
      · exact ih (n / b) (Nat.div_lt_self (by omega) hb) h
      · rw [List.mem_singleton.1 h]
        have hlt : n % b < b := Nat.mod_lt _ (by omega)
        exact hall _ (List.mem_range.2 (by omega))

theorem not_alphanum_of_hostMark (hc : c ∈ hostMarks) : c.isAlphanum ≠ true := by
  simp [(barred_of_hostMark hc).no_alphanum]

/-! ### Hosts -/

theorem Ipv4.lacks_text (address : Nat) : Lacks (text address) hostMarks := by
  intro c hc hmem
  rcases mem_intercalate hmem with rfl | ⟨t, ht, hmem⟩
  · exact (barred_of_hostMark hc).no_dot rfl
  · obtain ⟨i, -, rfl⟩ := List.mem_map.1 ht
    exact not_alphanum_of_hostMark hc (isAlphanum_of_toDigits (by decide) (by decide) hmem)

theorem Ipv6.lacks_pieceTexts (ns : List Nat) : Lacks (pieceTexts ns) hostMarks := by
  intro c hc hmem
  rcases mem_intercalate hmem with rfl | ⟨t, ht, hmem⟩
  · exact absurd hc (by decide)
  · obtain ⟨n, -, rfl⟩ := List.mem_map.1 ht
    exact not_alphanum_of_hostMark hc (isAlphanum_of_toDigits (by decide) (by decide) hmem)

theorem Ipv6.lacks_text (ns : List Nat) : Lacks (text ns) hostMarks := by
  unfold text
  simp only
  split
  · exact lacks_pieceTexts ns
  · intro c hc hmem
    rcases List.mem_append.1 hmem with hmem | hmem
    · rcases List.mem_append.1 hmem with hmem | hmem
      · exact lacks_pieceTexts _ c hc hmem
      · have hcolon : ∀ c ∈ [':', ':'], c ∉ hostMarks :=
          List.all_iff_forall_prop.1 (by decide)
        exact hcolon c hmem hc
    · exact lacks_pieceTexts _ c hc hmem

/-- A host as it is formed: its text is there, and holds no mark that ends it. -/
structure Host.Formed (h : Host) : Prop where
  lacks : Lacks h.text hostMarks
  ne_nil : h.text ≠ []

theorem Host.formed_ipv4 (address : Nat) : (Host.ipv4 address).Formed := by
  constructor
  · exact Ipv4.lacks_text address
  · simp [text, Ipv4.text]

theorem Host.formed_ipv6 (ns : List Nat) : (Host.ipv6 ns).Formed := by
  constructor
  · intro c hc hmem
    have hbrackets : ∀ c ∈ hostMarks, c ≠ '[' ∧ c ≠ ']' :=
      List.all_iff_forall_prop.1 (by decide)
    obtain ⟨hopen, hclose⟩ := hbrackets c hc
    have hmem : c ∈ Ipv6.text ns := by simpa [text, hopen, hclose] using hmem
    exact Ipv6.lacks_text ns c hc hmem
  · exact List.cons_ne_nil _ _

namespace Url

theorem formed_hostOf (hh : hostOf t = .ok h) : h.Formed := by
  unfold hostOf at hh
  split at hh
  · simp only [bind, Except.bind, pure, Except.pure, throw, throwThe, MonadExceptOf.throw] at hh
    split at hh
    · cases hh
    · split at hh
      · cases hh
        exact Host.formed_ipv6 _
      · cases hh
  · split at hh
    · rename_i name hname
      simp only [bind, Except.bind, pure, Except.pure, throw, throwThe, MonadExceptOf.throw] at hh
      split at hh
      · cases hh
      rename_i hne
      split at hh
      · split at hh
        · cases hh
          exact Host.formed_ipv4 _
        · cases hh
      · cases hh
        exact ⟨fun c hc => Domain.not_mem_toAscii? (barred_of_hostMark hc) hname, hne⟩
    · cases hh

/-- A host that is kept as it is written has no mark left, or is an address. -/
theorem formed_plainHostOf {o : Option Host} (hh : plainHostOf t = .ok o) :
    ∀ h, o = some h → h.Formed := by
  unfold plainHostOf at hh
  split at hh
  · cases hh
    simp
  · rename_i tail
    cases hhost : hostOf ('[' :: tail) with
    | error e =>
      rw [hhost] at hh
      cases hh
    | ok h =>
      rw [hhost] at hh
      obtain rfl : some h = o := Except.ok.inj hh
      rintro _ ⟨⟩
      exact formed_hostOf hhost
  · split at hh
    · cases hh
    · rename_i hnil _ hany
      cases hh
      rintro _ ⟨⟩
      constructor
      · intro c hc
        refine Percent.not_mem_encode (List.mem_cons_of_mem _ hc) (Or.inr fun hmem => ?_)
        have hforbidden : ∀ c ∈ hostMarks, isForbiddenHostChar c = true :=
          List.all_iff_forall_prop.1 (by decide)
        exact hany (List.any_eq_true.2 ⟨c, hmem, hforbidden c hc⟩)
      · apply Percent.encode_ne_nil
        rintro rfl
        exact hnil rfl

/-! ### Authorities -/

theorem Authority.formed_of_parts (hu : Lacks a.username (':' :: hostMarks))
    (hp : ∀ p, a.password = some p → Lacks p hostMarks) (hh : ∀ h, a.host = some h → h.Formed)
    (hport : a.host = none → a.port = none) : a.Formed := by
  have hlacks : ∀ p : Nat, Lacks (':' :: Nat.toDigits 10 p) hostMarks := by
    intro p c hc hmem
    rcases List.mem_cons.1 hmem with rfl | hmem
    · exact absurd hc (by decide)
    · exact not_alphanum_of_hostMark hc (isAlphanum_of_toDigits (by decide) (by decide) hmem)
  constructor
  · exact hu
  · exact hp
  · obtain ⟨user, password, host, port⟩ := a
    intro c hc hmem
    rcases List.mem_append.1 hmem with hmem | hmem
    · cases host with
      | none => cases hmem
      | some h => exact (hh h rfl).lacks c hc hmem
    · cases port with
      | none => cases hmem
      | some p => exact hlacks p c hc hmem
  · obtain ⟨user, password, host, port⟩ := a
    cases host with
    | none =>
      have hnone := hport rfl
      simp only at hnone
      simp [Authority.hostText, hnone]
    | some h =>
      have hne := (hh h rfl).ne_nil
      simp [Authority.hostText, hne]

theorem lacks_userOf (t : List Char) : Lacks (userOf t).1 (':' :: hostMarks) ∧
    ∀ p, (userOf t).2 = some p → Lacks p hostMarks := by
  have hset : ∀ c ∈ ':' :: hostMarks, Percent.userinfoSet c.toNat.toUInt8 = true :=
    List.all_iff_forall_prop.1 (by decide)
  constructor
  · intro c hc
    exact Percent.not_mem_encode hc (Or.inl (hset c hc))
  · intro p hp c hc
    unfold userOf at hp
    simp only at hp
    split at hp
    · cases hp
    · obtain rfl := Option.some.inj hp
      exact Percent.not_mem_encode (List.mem_cons_of_mem _ hc)
        (Or.inl (hset c (List.mem_cons_of_mem _ hc)))

/-- The port behind a host. -/
def behindHost (scheme user : List Char) (password : Option (List Char)) (host : Option Host)
    (rest : List Char) : Except Cause (Authority × List Char) := do
  if host = none ∧ rest.head? = some ':' then throw .emptyHost
  let (port, rest) ← match rest with
    | ':' :: r => portOf scheme r
    | _ => pure (none, rest)
  if host = none ∧ (user ≠ [] ∨ password ≠ none) then throw .emptyHost
  pure (⟨user, password, host, port⟩, rest)

/-- The host and the port behind a user. -/
def behindUser (family : Family) (scheme user : List Char) (password : Option (List Char))
    (t : List Char) : Except Cause (Authority × List Char) := do
  let (h, rest) := splitHost family.isSpecial false t
  let host ← if family.isSpecial then
      if h = [] then throw .emptyHost
      some <$> hostOf h
    else plainHostOf h
  behindHost scheme user password host rest

theorem formed_behindHost {scheme user rest : List Char} {password : Option (List Char)}
    {host : Option Host} (hu : Lacks user (':' :: hostMarks))
    (hp : ∀ p, password = some p → Lacks p hostMarks) (hh : ∀ h, host = some h → h.Formed)
    (ha : behindHost scheme user password host rest = .ok (a, r)) : a.Formed := by
  unfold behindHost at ha
  simp only [bind, Except.bind, pure, Except.pure, throw, throwThe, MonadExceptOf.throw] at ha
  split at ha
  · cases ha
  rename_i hcolon
  have hport : ∀ {port : Option Nat} {below : List Char}, (host = none → port = none) →
      (if host = none ∧ (user ≠ [] ∨ password ≠ none) then .error .emptyHost
        else .ok (⟨user, password, host, port⟩, below) : Except Cause (Authority × List Char)) =
        .ok (a, r) → a.Formed := by
    intro port below hport ha
    split at ha
    · cases ha
    · cases ha
      exact Authority.formed_of_parts hu hp hh hport
  split at ha
  · split at ha
    · cases ha
    · exact hport (fun hnone => absurd ⟨hnone, rfl⟩ hcolon) ha
  · exact hport (fun _ => rfl) ha

theorem formed_behindUser {family : Family} {scheme user : List Char} {password : Option (List Char)}
    (hu : Lacks user (':' :: hostMarks)) (hp : ∀ p, password = some p → Lacks p hostMarks)
    (ha : behindUser family scheme user password t = .ok (a, r)) : a.Formed := by
  unfold behindUser at ha
  simp only [bind, Except.bind, throw, throwThe, MonadExceptOf.throw] at ha
  split at ha
  · split at ha
    · cases ha
    · cases hhost : hostOf (splitHost family.isSpecial false t).1 with
      | error e =>
        rw [hhost] at ha
        cases ha
      | ok h =>
        rw [hhost] at ha
        refine formed_behindHost hu hp ?_ ha
        rintro _ ⟨⟩
        exact formed_hostOf hhost
  · split at ha
    · cases ha
    · rename_i host hhost
      exact formed_behindHost hu hp (formed_plainHostOf hhost) ha

theorem formed_authorityOf {family : Family} {scheme : List Char}
    (ha : authorityOf family scheme t = .ok (a, r)) : a.Formed := by
  have hnobody : ∀ {below : List Char}, behindUser family scheme [] none below = .ok (a, r) →
      a.Formed := fun ha => formed_behindUser (by simp [Lacks]) (by simp) ha
  unfold authorityOf at ha
  simp only at ha
  split at ha
  · exact hnobody ha
  · split at ha
    · cases ha
    · exact hnobody ha
  · exact formed_behindUser (lacks_userOf _).1 (lacks_userOf _).2 ha

/-! ### Paths -/

variable {s : Segment} {raw stack : List Segment} {bare : Prop} {family : Family}

/-- A segment as it is formed. Where there is no authority it is no dot. -/
structure SegmentFormed (bare : Prop) (s : Segment) : Prop where
  lacks : Lacks s pathMarks
  no_dot : bare → s ≠ ['.']

theorem segmentFormed_nil : SegmentFormed bare [] := ⟨by simp [Lacks], by simp⟩

theorem lacks_splitPath (special : Bool) (t : List Char) :
    ∀ s ∈ (splitPath special t).1, Lacks s pathMarks := by
  have hnil : Lacks [] pathMarks := by simp [Lacks]
  induction t with
  | nil => simpa [splitPath] using hnil
  | cons c t ih =>
    unfold splitPath
    split
    · simpa using hnil
    · rename_i hend
      rw [not_or] at hend
      simp only
      split
      · rw [List.forall_mem_cons]
        exact ⟨hnil, ih⟩
      · rename_i hslash
        rw [not_or] at hslash
        have hc : c ∉ pathMarks := by simp [pathMarks, hend.1, hend.2, hslash.1]
        have hcons : ∀ {s : Segment}, Lacks s pathMarks → Lacks (c :: s) pathMarks := by
          intro s hs m hm hmem
          rcases List.mem_cons.1 hmem with rfl | hmem
          · exact hc hm
          · exact hs m hm hmem
        split
        · rename_i s ss hss
          rw [hss, List.forall_mem_cons] at ih
          rw [List.forall_mem_cons]
          exact ⟨hcons ih.1, ih.2⟩
        · simpa using hcons hnil

theorem lacks_encode_pathSet (hs : Lacks s pathMarks) :
    Lacks (Percent.encode Percent.pathSet s) pathMarks := fun c hc =>
  Percent.not_mem_encode (List.mem_cons_of_mem _ (List.mem_cons_of_mem _ hc)) (Or.inr (hs c hc))

theorem segmentFormed_driveForm (file : Bool) (hs : Lacks s pathMarks) (hhere : ¬ isHere s = true) :
    SegmentFormed bare (driveForm file stack s) := by
  unfold driveForm
  split
  · constructor
    · intro c hc hmem
      rcases List.mem_append.1 hmem with hmem | hmem
      · exact hs c hc (List.mem_of_mem_take hmem)
      · rw [List.mem_singleton.1 hmem] at hc
        exact absurd hc (by decide)
    · intro _ hdot
      cases s with
      | nil => simp at hdot
      | cons c s => simp at hdot
  · refine ⟨hs, fun _ hdot => hhere ?_⟩
    rw [hdot]
    decide

section

variable {P : Segment → Prop}

theorem forall_mem_climb (hst : ∀ s ∈ stack, P s) : ∀ s ∈ climb stack, P s := by
  cases stack with
  | nil => exact hst
  | cons top above =>
    rw [climb]
    split
    · exact hst
    · exact fun s hs => hst s (List.mem_cons_of_mem _ hs)

theorem forall_mem_descend (file : Bool) (hst : ∀ s ∈ stack, P s)
    (hs : ¬ isUp s = true → ¬ isHere s = true → P (driveForm file stack s)) :
    ∀ s' ∈ descend file stack s, P s' := by
  unfold descend
  split
  · exact forall_mem_climb hst
  split
  · exact hst
  · rw [List.forall_mem_cons]
    exact ⟨hs ‹_› ‹_›, hst⟩

theorem forall_mem_settle (file : Bool) (hnil : P []) (hst : ∀ s ∈ stack, P s)
    (hs : ¬ isUp s = true → ¬ isHere s = true → P (driveForm file stack s)) :
    ∀ s' ∈ settle file stack s, P s' := by
  unfold settle
  split
  · rw [List.forall_mem_cons]
    exact ⟨hnil, forall_mem_climb hst⟩
  split
  · rw [List.forall_mem_cons]
    exact ⟨hnil, hst⟩
  · rw [List.forall_mem_cons]
    exact ⟨hs ‹_› ‹_›, hst⟩

/-- What is true of the segments of a place, and of those that a walk puts on them, is true of all it
leads over. Dots are never put there. -/
theorem forall_mem_walk (file : Bool) (hnil : P []) (hst : ∀ s ∈ stack, P s)
    (hraw : ∀ s ∈ raw, ∀ stack, ¬ isUp s = true → ¬ isHere s = true → P (driveForm file stack s)) :
    ∀ s ∈ walk file stack raw, P s := by
  induction raw generalizing stack with
  | nil => exact hst
  | cons s raw ih =>
    rw [List.forall_mem_cons] at hraw
    cases raw with
    | nil => exact forall_mem_settle file hnil hst (hraw.1 stack)
    | cons next raw => exact ih (forall_mem_descend file hst (hraw.1 stack)) hraw.2

theorem mem_parentStack {file : Bool} {ss : List Segment} (h : s ∈ parentStack file (.segments ss)) :
    s ∈ ss := by
  unfold parentStack at h
  simp only at h
  split at h
  · rename_i top above hreverse
    rw [← List.mem_reverse, hreverse]
    split at h
    · exact h
    · exact List.mem_cons_of_mem _ h
  · cases h

end

theorem settle_ne_nil (file : Bool) (stack : List Segment) (s : Segment) : settle file stack s ≠ [] := by
  unfold settle
  split_ifs <;> simp

theorem walk_ne_nil (file : Bool) (hraw : raw ≠ []) : walk file stack raw ≠ [] := by
  induction raw generalizing stack with
  | nil => exact absurd rfl hraw
  | cons s raw ih =>
    cases raw with
    | nil => exact settle_ne_nil file stack s
    | cons next raw => exact ih (List.cons_ne_nil _ _)

theorem formed_segments {ss : List Segment} (hss : ∀ s ∈ ss, SegmentFormed bare s) (hne : ss ≠ []) :
    (Path.segments ss).Formed bare :=
  ⟨fun s hs => (hss s hs).lacks, fun hb => ⟨hne, fun hdot => (hss _ hdot).no_dot hb rfl⟩⟩

theorem trimmed_cases (ss : List Segment) : trimmed ss = [[]] ∨
    trimmed ss ≠ [] ∧ ∀ s ∈ trimmed ss, s ∈ ss := by
  unfold trimmed
  split
  · exact Or.inl rfl
  · rename_i hne
    exact Or.inr ⟨hne, fun s hs => (List.dropWhile_sublist _).subset hs⟩

theorem formed_trimmed {ss : List Segment} (hss : ∀ s ∈ ss, SegmentFormed bare s) :
    (Path.segments (trimmed ss)).Formed bare := by
  rcases trimmed_cases ss with htrim | ⟨htrim, hmem⟩
  · rw [htrim]
    exact formed_segments (by simpa using segmentFormed_nil) (by simp)
  · exact formed_segments (fun s hs => hss s (hmem s hs)) htrim

theorem segmentFormed_segmentsFrom (special file : Bool) (hst : ∀ s ∈ stack, SegmentFormed bare s)
    (t : List Char) : ∀ s ∈ (segmentsFrom special file stack t).1, SegmentFormed bare s := by
  have hraw : ∀ s ∈ (splitPath special t).1.map (Percent.encode Percent.pathSet),
      Lacks s pathMarks := by
    intro s hs
    obtain ⟨r, hr, rfl⟩ := List.mem_map.1 hs
    exact lacks_encode_pathSet (lacks_splitPath _ t r hr)
  intro s hs
  exact forall_mem_walk _ segmentFormed_nil hst
    (fun s hs _ _ hhere => segmentFormed_driveForm _ (hraw s hs) hhere) s (List.mem_reverse.1 hs)

theorem segmentsFrom_ne_nil (special file : Bool) (stack : List Segment) (t : List Char) :
    (segmentsFrom special file stack t).1 ≠ [] := by
  intro hnil
  refine walk_ne_nil file ?_ (List.reverse_eq_nil_iff.1 hnil)
  simpa using splitPath_ne_nil special t

theorem formed_pathFrom (hst : ∀ s ∈ stack, SegmentFormed bare s) (t : List Char) :
    (pathFrom family stack t).1.Formed bare := by
  have hss := segmentFormed_segmentsFrom family.isSpecial (family = .file) hst t
  unfold pathFrom
  simp only
  split
  · exact formed_trimmed hss
  · exact formed_segments hss (segmentsFrom_ne_nil _ _ _ _)

theorem formed_keptPath (t : List Char) : (keptPath t).1.Formed bare :=
  formed_trimmed (segmentFormed_segmentsFrom true false (by simp) t)

theorem formed_root (t : List Char) : (pathFrom family [] t).1.Formed bare :=
  formed_pathFrom (by simp) t

/-- Behind an authority a path may be missing. -/
theorem formed_pathStart (t : List Char) : (pathStart family t).1.Formed False := by
  have hempty : (Path.segments []).Formed False := ⟨by simp, False.elim⟩
  unfold pathStart
  split
  · split
    · exact formed_segments (by simpa using segmentFormed_nil) (by simp)
    · exact hempty
  · split
    · exact formed_root _
    split
    · exact hempty
    · exact formed_root _

theorem segmentFormed_parentStack (file : Bool) {p : Path} (hp : p.Formed bare) :
    ∀ s ∈ parentStack file p, SegmentFormed bare s := by
  intro s hs
  cases p with
  | segments ss =>
    have hmem := mem_parentStack hs
    exact ⟨hp.1 s hmem, fun hb hdot => (hp.2 hb).2 (hdot ▸ hmem)⟩
  | plain t => cases hs

end Url

end Resources
