import Resources.Proofs.Handle.Stream
import Resources.Proofs.Json.Value
import Resources.Proofs.Resource.Reading

/-! Readers of text and of JSON beside the reader of bytes. Each gives what the bytes as a whole say. -/
namespace Resources.Resource

variable {r : Resource} {w w' : World} {s : Stream} {b : Bytes}

/-! ### Text -/

theorem readText_of_ok (h : r.readBytes w = (.ok b, w')) : (r.readText w).1 =
    match Utf8.decode b with
    | .ok cs => .ok (.ofList cs)
    | .error m => .error (badData "read_to_string" r.description m.message) := by
  unfold readText
  rw [Attempt.bind_of_ok _ h]
  cases Utf8.decode b <;> rfl

theorem readText_of_error {e : Failure} (h : r.readBytes w = (.error e, w')) :
    (r.readText w).1 = .error e :=
  congrArg Prod.fst (Attempt.bind_of_error _ h)

theorem readText_eq_ok (text : String) :
    (r.readText w).1 = .ok text ↔ (r.readBytes w).1 = .ok (utf8 text) := by
  rcases h : r.readBytes w with ⟨outcome, w'⟩
  cases outcome with
  | error e => simp [readText_of_error h]
  | ok b =>
    rw [readText_of_ok h, Except.ok.injEq, utf8, ← Utf8.decode_eq_ok]
    cases Utf8.decode b with
    | error m => simp
    | ok cs => simp [← String.toList_inj]

theorem readText_of_not_text (hb : (r.readBytes w).1 = .ok b) (hn : ∀ text, b ≠ utf8 text) :
    ∃ reason, (r.readText w).1 =
      .error (.io "read_to_string" r.description ⟨.invalidData, reason⟩) := by
  have hrun : r.readBytes w = (.ok b, (r.readBytes w).2) := Prod.ext hb rfl
  rw [readText_of_ok hrun]
  cases hd : Utf8.decode b with
  | ok cs => exact absurd (Utf8.decode_eq_ok.1 hd) (by simpa [utf8] using hn (.ofList cs))
  | error m => exact ⟨m.message, rfl⟩

/-! ### JSON -/

theorem readValue_of_open (h : r.openStream w = (.ok s, w')) : (r.readValue w).1 =
    (Json.readFeed Json.anyValue ⟨(s.remaining w'.disk).1, (s.remaining w'.disk).2⟩).mapError
      fun stop => badData "read_json" r.description (stop.message true (s.remaining w'.disk).1) := by
  unfold readValue readJson
  rw [Attempt.bind_of_ok _ h]
  rfl

theorem mapError_eq_ok {α β γ : Type} {x : Except α γ} {f : α → β} {c : γ} :
    x.mapError f = .ok c ↔ x = .ok c := by
  cases x <;> simp [Except.mapError]

theorem readValue_eq_ok (hf : ∀ s, (r.openStream w).1 = .ok s → s.Flows) (v : Json.Value) :
    (r.readValue w).1 = .ok v ↔ ∃ b, (r.readBytes w).1 = .ok b ∧ Json.IsText b v := by
  rcases h : r.openStream w with ⟨outcome, w'⟩
  cases outcome with
  | error e =>
    have hv : r.readValue w = (.error e, w') := Attempt.bind_of_error _ h
    simp [hv, readBytes_of_open_error h]
  | ok s =>
    have hs : s.Flows := hf s (by rw [h])
    rw [readValue_of_open h, readBytes_of_open h, Stream.take_none hs, Stream.whole]
    rcases s.remaining w'.disk with ⟨b, ending⟩
    rw [mapError_eq_ok, Json.readFeed_eq_ok]
    cases ending with
    | none => simp [Except.mapError]
    | some f => simp [Except.mapError]

/-- The readers agree with the bytes. Text is read where they are the bytes of a text, and a value
where they are one JSON text as a whole, whatever the portions they come in. A portion without bytes
would be an end, so streams flow. -/
theorem readers_agree (r : Resource) (w : World) :
    (∀ text, (r.readText w).1 = .ok text ↔ (r.readBytes w).1 = .ok (utf8 text)) ∧
    (∀ b, (r.readBytes w).1 = .ok b → (∀ text, b ≠ utf8 text) → ∃ reason, (r.readText w).1 =
      .error (.io "read_to_string" r.description ⟨.invalidData, reason⟩)) ∧
    ((∀ s, (r.openStream w).1 = .ok s → s.Flows) → ∀ v,
      (r.readValue w).1 = .ok v ↔ ∃ b, (r.readBytes w).1 = .ok b ∧ Json.IsText b v) :=
  ⟨readText_eq_ok, fun _ => readText_of_not_text, readValue_eq_ok⟩

/-- A list of a word and a text, byte by byte. -/
def listing : StreamHandle := ⟨0, ⟨utf8 " [null,\n\"\\u00e9\"]", some 1, none⟩, "listing"⟩

theorem readers_agree_listing :
    (∀ s, (listing.resource.openStream StreamHandle.uploadWorld).1 = .ok s → s.Flows) ∧
    (listing.resource.readBytes StreamHandle.uploadWorld).1 = .ok listing.source.rest ∧
    (listing.resource.readValue StreamHandle.uploadWorld).1 = .ok (.list [.null, .text "é"]) ∧
    Json.IsText listing.source.rest (.list [.null, .text "é"]) := by
  have hf : ∀ s, (listing.resource.openStream StreamHandle.uploadWorld).1 = .ok s → s.Flows := by
    intro s hs
    obtain rfl : .source listing.source = s := Except.ok.inj hs
    exact fun h => nomatch h
  have hb : (listing.resource.readBytes StreamHandle.uploadWorld).1 = .ok listing.source.rest := by
    rfl
  have hv : (listing.resource.readValue StreamHandle.uploadWorld).1 =
      .ok (.list [.null, .text "é"]) := by
    rfl
  obtain ⟨-, -, hjson⟩ := readers_agree listing.resource StreamHandle.uploadWorld
  obtain ⟨b, hb', ht⟩ := (hjson hf _).1 hv
  obtain rfl : listing.source.rest = b := Except.ok.inj (hb.symm.trans hb')
  exact ⟨hf, hb, hv, ht⟩

/-! ### Faults -/

/-- Two failures of one kind, and for one kind of fault if there is one behind them. -/
def ToldAlike (f g : Failure) : Prop :=
  f.kind = g.kind ∧ f.fault?.map (·.kind) = g.fault?.map (·.kind)

theorem toldAlike_badData_iff {d reason : String} {x : Fault} :
    ToldAlike (badData "read_json" d reason) (.ofFault "read" d x) ↔ x.kind = .invalidData := by
  unfold ToldAlike Failure.ofFault
  split
  · rename_i hx
    simp [badData, Failure.kind, hx]
  · simp [badData, Failure.kind, Failure.fault?, eq_comm]

theorem message_of_fault {stop : Json.Stop} {x : Fault} (h : stop.cause = .fault x) (live : Bool)
    (b : Bytes) : ∃ place, stop.message live b = x.text ++ place := by
  have hcause : stop.cause.message = x.text := by
    rw [h]
    rfl
  unfold Json.Stop.message
  rw [hcause]
  by_cases hs : stop.settled = true
  · rw [if_pos hs]
    generalize stop.place live b = p
    obtain ⟨line, column⟩ := p
    refine ⟨" at line " ++ (toString line ++ (" column " ++ toString column)), ?_⟩
    simp only [String.append_assoc]
    rfl
  · rw [if_neg hs]
    exact ⟨"", String.append_empty.symm⟩

/-- A stream that breaks off within a JSON text is refused in the words of its fault, and yet as bad
data. The reader of bytes tells the fault as it is, so the two agree on faults of that kind only. -/
theorem readValue_broken_off_iff {x : Fault} {v : Json.Value} {c : Bytes}
    (ho : r.openStream w = (.ok s, w')) (hs : s.Flows) (hr : s.remaining w'.disk = (b, some x))
    (ht : Json.IsText (b ++ c) v) :
    ∃ f g, (r.readValue w).1 = .error f ∧ (r.readBytes w).1 = .error g ∧
      (∃ place, f = badData "read_json" r.description (x.text ++ place)) ∧
      g = .ofFault "read" r.description x ∧ (ToldAlike f g ↔ x.kind = .invalidData) := by
  obtain ⟨stop, hstop, hcause⟩ := Json.readFeed_of_begun x ht
  obtain ⟨place, hplace⟩ := message_of_fault hcause true b
  refine ⟨_, _, ?_, ?_, ⟨place, rfl⟩, rfl, toldAlike_badData_iff⟩
  · rw [readValue_of_open ho, hr, hstop, ← hplace]
    rfl
  · rw [readBytes_of_open ho, Stream.take_none hs, Stream.whole, hr]
    rfl

/-- A record that breaks off before its first value. -/
def cutShort (x : Fault) : StreamHandle := ⟨0, ⟨utf8 "\x7b\"a\":", some 1, some x⟩, "cut short"⟩

/-- The record that was to come. -/
theorem isText_cutShort : Json.IsText (utf8 "\x7b\"a\":" ++ utf8 "null\x7d") (.record [("a", .null)]) := by
  have hread : Json.readFeed Json.anyValue ⟨utf8 "\x7b\"a\":" ++ utf8 "null\x7d", none⟩ =
      .ok (.record [("a", .null)]) := by
    rfl
  exact (Json.readFeed_eq_ok.1 hread).2

theorem readValue_broken_off_timeout :
    ∃ s w', (cutShort ⟨.timedOut, "x"⟩).resource.openStream StreamHandle.uploadWorld = (.ok s, w') ∧
      s.Flows ∧ s.remaining w'.disk = (utf8 "\x7b\"a\":", some ⟨.timedOut, "x"⟩) ∧
      ∃ f g, ((cutShort ⟨.timedOut, "x"⟩).resource.readValue StreamHandle.uploadWorld).1 = .error f ∧
        ((cutShort ⟨.timedOut, "x"⟩).resource.readBytes StreamHandle.uploadWorld).1 = .error g ∧
        ¬ ToldAlike f g := by
  have hs : (Stream.source (cutShort ⟨.timedOut, "x"⟩).source).Flows := fun h => nomatch h
  obtain ⟨f, g, hf, hg, -, -, halike⟩ := readValue_broken_off_iff
    (r := (cutShort ⟨.timedOut, "x"⟩).resource) (w := StreamHandle.uploadWorld) rfl hs rfl
    isText_cutShort
  exact ⟨_, _, rfl, hs, rfl, f, g, hf, hg, fun h => nomatch halike.1 h⟩

/-- What was there and is gone is told as such by one reader, and as bad data by the other. -/
theorem readValue_disguises_absence :
    Json.IsText (utf8 "\x7b\"a\":" ++ utf8 "null\x7d") (.record [("a", .null)]) ∧
    ((cutShort ⟨.notFound, "gone"⟩).resource.readBytes StreamHandle.uploadWorld).1 =
      .error (.notFound "InputStream resource [cut short]") ∧
    ((cutShort ⟨.notFound, "gone"⟩).resource.readValue StreamHandle.uploadWorld).1 =
      .error (.io "read_json" "InputStream resource [cut short]"
        ⟨.invalidData, "gone at line 1 column 5"⟩) :=
  ⟨isText_cutShort, by rfl, by rfl⟩

end Resources.Resource
