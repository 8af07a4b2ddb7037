import Resources.Loader
import Resources.Proofs.Client.Use

/-! Sessions with loaders and handles, and the clients in them. Those who go back to one founding
share a client, and it is built once something was asked through it. -/
namespace Resources

variable {α : Type}

/-- A loader, a handle or a client, with the number of the founding that it goes back to. -/
structure Held (α : Type) where
  value : α
  founding : Nat

/-- A loader or a URL handle that is made of no other is a founding. -/
structure Session where
  world : World
  loaders : List (Held Loader)
  handles : List (Held Handle)
  foundings : Nat

namespace Session

inductive Step : Type 1 where
  | load (settings : Settings)
  | clone (i : Nat)
  | withClassPath (i : Nat) (c : ClassPath)
  | withBaseDir (i : Nat) (dir : FilePath)
  | url (u : Url)
  | parse (location : String)
  | locate (i : Nat) (location : String)
  | relative (i : Nat) (path : String)
  | call {α : Type} (i : Nat) (k : Call α)
  | compare (i j : Nat)
  /-- The disk and the web change from outside. -/
  | outside (d : Disk) (web : Web)

def onLoader (s : Session) (i : Nat) (f : Held Loader → Session) : Session :=
  match s.loaders[i]? with
  | some l => f l
  | none => s

def onHandle (s : Session) (i : Nat) (f : Held Handle → Session) : Session :=
  match s.handles[i]? with
  | some h => f h
  | none => s

def addLoader (s : Session) (l : Loader) (founding : Nat) : Session :=
  { s with loaders := s.loaders ++ [⟨l, founding⟩] }

def addHandle (s : Session) (h : Handle) (founding : Nat) : Session :=
  { s with handles := s.handles ++ [⟨h, founding⟩] }

/-- What is made of something goes back to what that goes back to. -/
def step (s : Session) : Step → Session
  | .load settings =>
    let (l, w) := Loader.ofSettings settings s.world
    { s with world := w, foundings := s.foundings + 1 }.addLoader l s.foundings
  | .clone i => s.onLoader i fun l => s.addLoader l.value l.founding
  | .withClassPath i c => s.onLoader i fun l =>
    let (l', w) := l.value.withClassPath c s.world
    { s with world := w }.addLoader l' l.founding
  | .withBaseDir i dir => s.onLoader i fun l => s.addLoader (l.value.withBaseDir dir) l.founding
  | .url u =>
    let (h, w) := UrlHandle.fresh u s.world
    { s with world := w, foundings := s.foundings + 1 }.addHandle (.url h) s.foundings
  | .parse location =>
    match UrlHandle.parse location s.world with
    | (.ok h, w) =>
      { s with world := w, foundings := s.foundings + 1 }.addHandle (.url h) s.foundings
    | (.error _, w) => { s with world := w }
  | .locate i location => s.onLoader i fun l => s.addHandle (l.value.handle location) l.founding
  | .relative i path => s.onHandle i fun h =>
    match h.value.resource.relative path s.world with
    | (.ok h', w) => { s with world := w }.addHandle h' h.founding
    | (.error _, w) => { s with world := w }
  | .call i k => s.onHandle i fun h => { s with world := (h.value.resource.call k s.world).2 }
  | .compare _ _ => s
  | .outside d web => { s with world := { s.world with disk := d, web := web } }

def run (s : Session) (as : List Step) : Session := as.foldl step s

/-- Nothing is made yet, and nothing is built. -/
def start (d : Disk) (web : Web) : Session := ⟨⟨d, web, [], [], [], 0⟩, [], [], 0⟩

/-- The clients of loaders and of URL handles. -/
def clients (s : Session) : List (Held Client) :=
  (s.loaders.map fun l => ⟨l.value.client, l.founding⟩) ++
    s.handles.filterMap fun h => h.value.client?.map (⟨·, h.founding⟩)

/-- The client that a step asks through, if it asks the web. -/
def asks? (s : Session) : Step → Option Client
  | .call i k => s.handles[i]?.bind fun h => h.value.asks? k
  | _ => none

/-- The clients that a run asks through, in order. -/
def asked (s : Session) : List Step → List Client
  | [] => []
  | a :: as => (s.asks? a).toList ++ (s.step a).asked as

variable {s t : Session} {x y : Held Client} {c : Client}

/-! ### Clients at hand -/

theorem mem_clients : x ∈ s.clients ↔ (∃ l ∈ s.loaders, ⟨l.value.client, l.founding⟩ = x) ∨
    ∃ h ∈ s.handles, ∃ c, h.value.client? = some c ∧ ⟨c, h.founding⟩ = x := by
  simp [clients]

theorem mem_clients_of_loader {i : Nat} {l : Held Loader} (h : s.loaders[i]? = some l) :
    ⟨l.value.client, l.founding⟩ ∈ s.clients :=
  mem_clients.2 (Or.inl ⟨l, List.mem_of_getElem? h, rfl⟩)

theorem mem_clients_of_handle {i : Nat} {h : Held Handle} (hi : s.handles[i]? = some h)
    (hc : h.value.client? = some c) : ⟨c, h.founding⟩ ∈ s.clients :=
  mem_clients.2 (Or.inr ⟨h, List.mem_of_getElem? hi, c, hc, rfl⟩)

theorem mem_clients_addLoader {l : Loader} {n : Nat} :
    x ∈ (s.addLoader l n).clients ↔ x ∈ s.clients ∨ x = ⟨l.client, n⟩ := by
  simp only [mem_clients, addLoader, List.mem_append, List.mem_singleton]
  grind

theorem mem_clients_addHandle {h : Handle} {n : Nat} :
    x ∈ (s.addHandle h n).clients ↔ x ∈ s.clients ∨ ∃ c, h.client? = some c ∧ x = ⟨c, n⟩ := by
  simp only [mem_clients, addHandle, List.mem_append, List.mem_singleton]
  grind

theorem mem_clients_addUrl {h : UrlHandle} {n : Nat} :
    x ∈ (s.addHandle (.url h) n).clients ↔ x ∈ s.clients ∨ x = ⟨h.client, n⟩ := by
  rw [mem_clients_addHandle]
  simp [Handle.client?]

/-- No client is new, though one more may hold an old one. -/
structure Keeps (s t : Session) : Prop where
  next_le : s.world.next ≤ t.world.next
  foundings_eq : t.foundings = s.foundings
  clients_iff (x : Held Client) : x ∈ t.clients ↔ x ∈ s.clients

/-- A client is new, and so is the founding. -/
structure Founds (c : Client) (s t : Session) : Prop where
  next_le : s.world.next ≤ c.id
  lt_next : c.id < t.world.next
  foundings_eq : t.foundings = s.foundings + 1
  clients_iff (x : Held Client) : x ∈ t.clients ↔ x ∈ s.clients ∨ x = ⟨c, s.foundings⟩

theorem keeps_refl (s : Session) : s.Keeps s := ⟨Nat.le_refl _, rfl, fun _ => Iff.rfl⟩

theorem keeps_addLoader {w : World} {l : Loader} {n : Nat} (hw : s.world.next ≤ w.next)
    (hl : ⟨l.client, n⟩ ∈ s.clients) : s.Keeps ({ s with world := w }.addLoader l n) := by
  refine ⟨hw, rfl, fun x => mem_clients_addLoader.trans ⟨?_, Or.inl⟩⟩
  rintro (hx | rfl)
  · exact hx
  · exact hl

theorem keeps_addHandle {w : World} {h : Handle} {n : Nat} (hw : s.world.next ≤ w.next)
    (hh : ∀ c, h.client? = some c → ⟨c, n⟩ ∈ s.clients) :
    s.Keeps ({ s with world := w }.addHandle h n) := by
  refine ⟨hw, rfl, fun x => mem_clients_addHandle.trans ⟨?_, Or.inl⟩⟩
  rintro (hx | ⟨c, hc, rfl⟩)
  · exact hx
  · exact hh c hc

theorem keeps_onLoader {i : Nat} {f : Held Loader → Session}
    (hf : ∀ l, s.loaders[i]? = some l → s.Keeps (f l)) : s.Keeps (s.onLoader i f) := by
  unfold onLoader
  split
  · exact hf _ ‹_›
  · exact keeps_refl s

theorem keeps_onHandle {i : Nat} {f : Held Handle → Session}
    (hf : ∀ h, s.handles[i]? = some h → s.Keeps (f h)) : s.Keeps (s.onHandle i f) := by
  unfold onHandle
  split
  · exact hf _ ‹_›
  · exact keeps_refl s

/-- A handle has no client but that of its loader. -/
theorem client_handle {l : Loader} {location : String} (h : (l.handle location).client? = some c) :
    c = l.client := by
  unfold Loader.handle at h
  split at h
  · cases h
  · split at h
    · cases h
    · exact (Option.some.inj h).symm
  · unfold Loader.pathHandle at h
    split at h
    · cases h
    · split at h <;> cases h

/-- A relative handle has the client of the handle that it is relative to. -/
theorem client_relative {h h' : Handle} {path : String} {w w' : World}
    (hr : h.resource.relative path w = (.ok h', w')) : h'.client? = h.client? := by
  cases h with
  | file h =>
    obtain ⟨f, -, rfl⟩ := Attempt.map_ofExcept_eq_ok (congrArg Prod.fst hr)
    rfl
  | classPath h =>
    obtain ⟨f, -, rfl⟩ := Attempt.map_ofExcept_eq_ok (congrArg Prod.fst hr)
    rfl
  | url h =>
    obtain ⟨f, hf, rfl⟩ := Attempt.map_ofExcept_eq_ok (congrArg Prod.fst hr)
    unfold UrlHandle.relative at hf
    split at hf
    · cases hf
    · split at hf
      · obtain rfl := Except.ok.inj hf
        rfl
      · cases hf
  | bytes h => cases congrArg Prod.fst hr
  | stream h => cases congrArg Prod.fst hr

/-- A location that is no URL makes nothing. -/
theorem parse_cases (location : String) (w : World) :
    (∃ u, UrlHandle.parse location w = (.ok ⟨u, ⟨w.next, Settings.defaultTimeout⟩⟩,
      { w with next := w.next + 1 })) ∨ ∃ e, UrlHandle.parse location w = (.error e, w) := by
  unfold UrlHandle.parse
  cases Url.parse location with
  | ok u => exact Or.inl ⟨u, rfl⟩
  | error c => exact Or.inr ⟨_, rfl⟩

theorem next_call (h : Handle) (k : Call α) (w : World) :
    (h.resource.call k w).2.next = w.next := by
  cases hk : h.asks? k with
  | none => exact (Handle.frame_of_not_asks hk w).2
  | some c => exact (Handle.uses_of_asks hk w).next_eq

/-- One step founds something, or it leaves the clients as they are. -/
theorem step_cases (s : Session) (a : Step) : s.Keeps (s.step a) ∨ ∃ c, s.Founds c (s.step a) := by
  cases a with
  | load settings =>
    right
    refine ⟨⟨s.world.next + 1, settings.timeout⟩, ?_, ?_, rfl, fun x => ?_⟩
    · exact Nat.le_succ _
    · exact Nat.lt_succ_self (s.world.next + 1)
    · exact mem_clients_addLoader
  | clone i =>
    exact Or.inl (keeps_onLoader fun l hl =>
      keeps_addLoader (Nat.le_refl _) (mem_clients_of_loader hl))
  | withClassPath i c =>
    exact Or.inl (keeps_onLoader fun l hl =>
      keeps_addLoader (Nat.le_succ _) (mem_clients_of_loader hl))
  | withBaseDir i dir =>
    exact Or.inl (keeps_onLoader fun l hl =>
      keeps_addLoader (Nat.le_refl _) (mem_clients_of_loader hl))
  | url u =>
    right
    refine ⟨⟨s.world.next, Settings.defaultTimeout⟩, ?_, ?_, rfl, fun x => ?_⟩
    · exact Nat.le_refl _
    · exact Nat.lt_succ_self s.world.next
    · exact mem_clients_addUrl
  | parse location =>
    simp only [step]
    rcases parse_cases location s.world with ⟨u, hp⟩ | ⟨e, hp⟩
    · rw [hp]
      refine Or.inr ⟨⟨s.world.next, Settings.defaultTimeout⟩, ?_, ?_, rfl, fun x => ?_⟩
      · exact Nat.le_refl _
      · exact Nat.lt_succ_self s.world.next
      · exact mem_clients_addUrl
    · rw [hp]
      exact Or.inl ⟨Nat.le_refl _, rfl, fun _ => Iff.rfl⟩
  | locate i location =>
    refine Or.inl (keeps_onLoader fun l hl => keeps_addHandle (Nat.le_refl _) fun c hc => ?_)
    rw [client_handle hc]
    exact mem_clients_of_loader hl
  | relative i path =>
    refine Or.inl (keeps_onHandle fun h hh => ?_)
    have hnext : (h.value.resource.relative path s.world).2.next = s.world.next :=
      next_call h.value (.relative path) s.world
    rcases hr : h.value.resource.relative path s.world with ⟨outcome, w⟩
    rw [hr] at hnext
    cases outcome with
    | ok h' =>
      refine keeps_addHandle (Nat.le_of_eq hnext.symm) fun c hc => ?_
      rw [client_relative hr] at hc
      exact mem_clients_of_handle hh hc
    | error e => exact ⟨Nat.le_of_eq hnext.symm, rfl, fun _ => Iff.rfl⟩
  | call i k =>
    exact Or.inl (keeps_onHandle fun h hh =>
      ⟨Nat.le_of_eq (next_call h.value k s.world).symm, rfl, fun _ => Iff.rfl⟩)
  | compare i j => exact Or.inl (keeps_refl s)
  | outside d web => exact Or.inl ⟨Nat.le_refl _, rfl, fun _ => Iff.rfl⟩

/-! ### Sharing -/

/-- Clients are told apart just as the foundings are that they go back to. -/
structure Sound (s : Session) : Prop where
  founding_eq : ∀ x ∈ s.clients, ∀ y ∈ s.clients, x.value.id = y.value.id → x.founding = y.founding
  client_eq : ∀ x ∈ s.clients, ∀ y ∈ s.clients, x.founding = y.founding → x.value = y.value
  id_lt : ∀ x ∈ s.clients, x.value.id < s.world.next
  founding_lt : ∀ x ∈ s.clients, x.founding < s.foundings

theorem sound_start (d : Disk) (web : Web) : (start d web).Sound := by
  constructor <;> simp [clients, start]

theorem Sound.of_keeps (h : s.Sound) (hk : s.Keeps t) : t.Sound := by
  constructor
  · intro x hx y hy
    exact h.founding_eq x ((hk.clients_iff x).1 hx) y ((hk.clients_iff y).1 hy)
  · intro x hx y hy
    exact h.client_eq x ((hk.clients_iff x).1 hx) y ((hk.clients_iff y).1 hy)
  · intro x hx
    exact Nat.lt_of_lt_of_le (h.id_lt x ((hk.clients_iff x).1 hx)) hk.next_le
  · intro x hx
    rw [hk.foundings_eq]
    exact h.founding_lt x ((hk.clients_iff x).1 hx)

/-- A client that is founded has an identity and a founding that no other has. -/
theorem Sound.of_founds (h : s.Sound) (hf : s.Founds c t) : t.Sound := by
  have hid (x : Held Client) (hx : x ∈ s.clients) : x.value.id < c.id :=
    Nat.lt_of_lt_of_le (h.id_lt x hx) hf.next_le
  constructor
  · intro x hx y hy he
    rcases (hf.clients_iff x).1 hx with hx | rfl <;> rcases (hf.clients_iff y).1 hy with hy | rfl
    · exact h.founding_eq x hx y hy he
    · exact absurd he (Nat.ne_of_lt (hid x hx))
    · exact absurd he.symm (Nat.ne_of_lt (hid y hy))
    · rfl
  · intro x hx y hy he
    rcases (hf.clients_iff x).1 hx with hx | rfl <;> rcases (hf.clients_iff y).1 hy with hy | rfl
    · exact h.client_eq x hx y hy he
    · exact absurd he (Nat.ne_of_lt (h.founding_lt x hx))
    · exact absurd he.symm (Nat.ne_of_lt (h.founding_lt y hy))
    · rfl
  · intro x hx
    rcases (hf.clients_iff x).1 hx with hx | rfl
    · exact Nat.lt_trans (hid x hx) hf.lt_next
    · exact hf.lt_next
  · intro x hx
    rw [hf.foundings_eq]
    rcases (hf.clients_iff x).1 hx with hx | rfl
    · exact Nat.lt_succ_of_lt (h.founding_lt x hx)
    · exact Nat.lt_succ_self _

theorem sound_step (h : s.Sound) (a : Step) : (s.step a).Sound := by
  rcases step_cases s a with hk | ⟨c, hf⟩
  · exact h.of_keeps hk
  · exact h.of_founds hf

theorem sound_run (h : s.Sound) (as : List Step) : (s.run as).Sound := by
  induction as generalizing s with
  | nil => exact h
  | cons a as ih => exact ih (sound_step h a)

/-- Clients stay at hand. -/
theorem mem_clients_step (hx : x ∈ s.clients) (a : Step) : x ∈ (s.step a).clients := by
  rcases step_cases s a with hk | ⟨c, hf⟩
  · exact (hk.clients_iff x).2 hx
  · exact (hf.clients_iff x).2 (Or.inl hx)

theorem mem_clients_run (hx : x ∈ s.clients) (as : List Step) : x ∈ (s.run as).clients := by
  induction as generalizing s with
  | nil => exact hx
  | cons a as ih => exact ih (mem_clients_step hx a)

/-! ### Building -/

theorem built_onLoader {i : Nat} {f : Held Loader → Session}
    (hf : ∀ l, (f l).world.built = s.world.built) :
    (s.onLoader i f).world.built = s.world.built := by
  unfold onLoader
  split
  · exact hf _
  · rfl

theorem built_onHandle {i : Nat} {f : Held Handle → Session}
    (hf : ∀ h, s.handles[i]? = some h → (f h).world.built = s.world.built) :
    (s.onHandle i f).world.built = s.world.built := by
  unfold onHandle
  split
  · exact hf _ ‹_›
  · rfl

theorem asks_relative (h : Handle) (path : String) : h.asks? (.relative path) = none := by
  cases h with
  | url h => simp [Handle.asks?, Call.fetches]
  | _ => rfl

/-- A step that asks through no client builds none. -/
theorem built_step_of_not_asks {a : Step} (ha : s.asks? a = none) :
    (s.step a).world.built = s.world.built := by
  cases a with
  | load settings | url u | compare i j | outside d web => rfl
  | clone i | withClassPath i c | withBaseDir i dir | locate i location =>
    exact built_onLoader fun _ => rfl
  | parse location =>
    simp only [step]
    rcases parse_cases location s.world with ⟨u, hp⟩ | ⟨e, hp⟩
    · rw [hp]
      rfl
    · rw [hp]
  | relative i path =>
    refine built_onHandle fun h hh => ?_
    have hbuilt : (h.value.resource.relative path s.world).2.built = s.world.built :=
      (Handle.frame_of_not_asks (asks_relative h.value path) s.world).1
    rcases hr : h.value.resource.relative path s.world with ⟨outcome, w⟩
    rw [hr] at hbuilt
    cases outcome <;> exact hbuilt
  | call i k =>
    refine built_onHandle fun h hh => ?_
    simp only [asks?, hh, Option.bind_some] at ha
    exact (Handle.frame_of_not_asks ha s.world).1

theorem asks_eq_some {a : Step} (ha : s.asks? a = some c) : ∃ (α : Type) (i : Nat) (k : Call α)
    (h : Held Handle), a = .call i k ∧ s.handles[i]? = some h ∧ h.value.asks? k = some c := by
  cases a with
  | call i k =>
    obtain ⟨h, hh, hk⟩ := Option.bind_eq_some_iff.1 ha
    exact ⟨_, i, k, h, rfl, hh, hk⟩
  | _ => cases ha

theorem mem_built_step (a : Step) (id : Nat) :
    id ∈ (s.step a).world.built ↔ (∃ c, s.asks? a = some c ∧ id = c.id) ∨ id ∈ s.world.built := by
  cases ha : s.asks? a with
  | none => simp [built_step_of_not_asks ha]
  | some c =>
    obtain ⟨α, i, k, h, rfl, hh, hk⟩ := asks_eq_some ha
    simp only [step, onHandle, hh, (Handle.uses_of_asks hk s.world).mem_built]
    simp

theorem mem_built_run (as : List Step) (id : Nat) :
    id ∈ (s.run as).world.built ↔ (∃ c ∈ s.asked as, id = c.id) ∨ id ∈ s.world.built := by
  induction as generalizing s with
  | nil => simp [run, asked]
  | cons a as ih =>
    change id ∈ ((s.step a).run as).world.built ↔ _
    rw [ih, mem_built_step]
    simp only [asked, List.mem_append, Option.mem_toList]
    grind

theorem mem_clients_of_asks {a : Step} (ha : s.asks? a = some c) : ∃ n, ⟨c, n⟩ ∈ s.clients := by
  obtain ⟨α, i, k, h, rfl, hh, hk⟩ := asks_eq_some ha
  exact ⟨h.founding, mem_clients_of_handle hh (Handle.client_of_asks hk)⟩

/-- What was asked through is at hand. -/
theorem mem_clients_of_asked {as : List Step} (h : c ∈ s.asked as) :
    ∃ n, ⟨c, n⟩ ∈ (s.run as).clients := by
  induction as generalizing s with
  | nil => cases h
  | cons a as ih =>
    rcases List.mem_append.1 h with ha | has
    · obtain ⟨n, hn⟩ := mem_clients_of_asks (Option.mem_toList.1 ha)
      exact ⟨n, mem_clients_run hn (a :: as)⟩
    · exact ih has

theorem isBuilt_run_iff (h : s.Sound) (hs : s.world.built = []) {as : List Step}
    (hx : x ∈ (s.run as).clients) :
    x.value.isBuilt (s.run as).world = true ↔ x.value ∈ s.asked as := by
  rw [Client.isBuilt, decide_eq_true_iff, mem_built_run, hs]
  constructor
  · rintro (⟨c, hc, he⟩ | hnil)
    · obtain ⟨n, hn⟩ := mem_clients_of_asked hc
      have hr := sound_run h as
      have hn' := hr.founding_eq x hx _ hn he
      rwa [hr.client_eq x hx _ hn hn']
    · cases hnil
  · intro hc
    exact Or.inl ⟨_, hc, rfl⟩

theorem asked_append (as bs : List Step) :
    s.asked (as ++ bs) = s.asked as ++ (s.run as).asked bs := by
  induction as generalizing s with
  | nil => rfl
  | cons a as ih =>
    rw [List.cons_append, asked, ih, asked, List.append_assoc]
    rfl

/-- Loaders and URL handles share a client just when they go back to one founding. It is built just
when some call asked the web through it, and stays so; any other step builds nothing. -/
theorem clients_of_run (d : Disk) (web : Web) (as : List Step) :
    (∀ x ∈ ((start d web).run as).clients, ∀ y ∈ ((start d web).run as).clients,
      x.value = y.value ↔ x.founding = y.founding) ∧
    (∀ x ∈ ((start d web).run as).clients,
      (x.value.isBuilt ((start d web).run as).world = true ↔ x.value ∈ (start d web).asked as) ∧
      ∀ bs, x.value.isBuilt ((start d web).run as).world = true →
        x.value.isBuilt ((start d web).run (as ++ bs)).world = true) ∧
    ∀ a, ((start d web).run as).asks? a = none →
      (((start d web).run as).step a).world.built = ((start d web).run as).world.built := by
  have hstart := sound_start d web
  have hrun := sound_run hstart as
  refine ⟨fun x hx y hy => ?_, fun x hx => ⟨isBuilt_run_iff hstart rfl hx, fun bs hb => ?_⟩,
    fun a ha => built_step_of_not_asks ha⟩
  · exact ⟨fun he => hrun.founding_eq x hx y hy (congrArg Client.id he), hrun.client_eq x hx y hy⟩
  · rw [isBuilt_run_iff hstart rfl hx] at hb
    have hx' : x ∈ ((start d web).run (as ++ bs)).clients := by
      rw [run, List.foldl_append]
      exact mem_clients_run hx bs
    rw [isBuilt_run_iff hstart rfl hx', asked_append]
    exact List.mem_append_left _ hb

end Session

end Resources
