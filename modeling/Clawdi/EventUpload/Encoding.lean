import Clawdi.EventUpload.Agreement

namespace Clawdi.EventUpload
open SessionEvents List
section
variable {depth : Nat} {name : String}

def FieldPlain (depth : Nat) (field : String × Option TsValue) : Prop := ∀ item ∈ field.2, Plain depth item

lemma plain_object (names : List String) {fields : List (String × Option TsValue)}
    (named : fields.map Prod.fst = names) (schema : names.Nodup ∧ ∀ name ∈ names, AsciiName name)
    (each : ∀ field ∈ fields, FieldPlain depth field) : Plain (depth + 1) (.object fields) := by
  subst named
  exact ⟨schema.1, schema.2, each⟩

lemma plain_array {α : Type} {items : List α} {write : α → TsValue}
    (each : ∀ item, Plain depth (write item)) : Plain (depth + 1) (.array (items.map write)) :=
  forall_mem_map.mpr fun item _ => each item

@[simp] lemma textField_plain (v : Option String) : FieldPlain (depth + 1) (textField name v) := by
  cases v <;> rintro _ ⟨⟩
  exact trivial

@[simp] lemma numberField_plain (v : Option SafeInteger) : FieldPlain (depth + 1) (numberField name v) := by
  cases v <;> rintro _ ⟨⟩
  exact trivial

@[simp] lemma some_plain {item} (plain : Plain depth item) : FieldPlain depth (name, some item) := by
  rintro _ ⟨⟩
  exact plain

@[simp] lemma optional_plain {α : Type} {write : α → TsValue} (v : Option α)
    (each : ∀ item, Plain depth (write item)) : FieldPlain depth (name, v.map write) := by
  cases v <;> rintro _ ⟨⟩
  exact each _

@[simp] lemma boolean_plain (v : Bool) : Plain (depth + 1) (.boolean v) := trivial

@[simp] lemma source_plain (src : SessionEventSource) : Plain (depth + 2) src.value :=
  plain_object ["adapter", "session_key", "record_id", "record_seq", "part_index"] rfl (by decide)
    (by simp)

@[simp] lemma part_plain (part : SessionContentPart) : Plain (depth + 2) part.value := by
  cases part with
  | text content => exact plain_object ["type", "text"] rfl (by decide) (by simp)
  | attachment =>
    exact plain_object ["type", "attachment_id", "availability", "uri", "name", "media_type", "size_bytes",
      "sha256"] rfl (by decide) (by simp)

lemma reaction_plain (reaction : SessionEventReaction) : Plain (depth + 2) reaction.value :=
  plain_object ["emoji", "author", "at", "seen"] rfl (by decide) (by simp)

lemma metadata_plain (metadata : SessionEventDisplayMetadata) : Plain (depth + 4) metadata.value :=
  plain_object ["task_count", "attempt", "reactions"] rfl (by decide)
    (by simp [plain_array reaction_plain])

lemma semantics_plain (semantics : SessionEventSemantics) : Plain (depth + 5) semantics.value :=
  plain_object ["lifecycle", "display", "compressed_summary", "display_kind", "display_metadata"] rfl
    (by decide) (by simp [metadata_plain])

@[simp] lemma parts_plain (parts : List SessionContentPart) : FieldPlain (depth + 3) (partsField parts) :=
  some_plain (plain_array part_plain)

lemma event_plain (ev : SessionEvent) : Plain (depth + 6) ev.value := by
  rcases ev with ⟨seq, eventId, src, timestamp, semantics, body⟩
  cases body with
  | message =>
    exact plain_object ["seq", "event_id", "source", "timestamp", "semantics", "type", "role", "parts", "model"]
      rfl (by decide) (by simp [EventBody.fields, semantics_plain])
  | toolCall =>
    exact plain_object ["seq", "event_id", "source", "timestamp", "semantics", "type", "call_id", "name",
      "arguments_json", "model"] rfl (by decide) (by simp [EventBody.fields, semantics_plain])
  | toolResult =>
    exact plain_object ["seq", "event_id", "source", "timestamp", "semantics", "type", "call_id", "name",
      "status", "parts", "result_json"] rfl (by decide) (by simp [EventBody.fields, semantics_plain])
  | reasoning =>
    exact plain_object ["seq", "event_id", "source", "timestamp", "semantics", "type", "kind", "parts",
      "payload_json", "model"] rfl (by decide)
      (by simp [EventBody.fields, semantics_plain, plain_array])

lemma identity_plain (ev : SessionEvent) : Plain (depth + 3) ev.identity :=
  plain_object ["source", "type"] rfl (by decide) (by simp)

end

section
variable {mems : List (String × JsonValue)} {adapter : EventAdapter}

lemma lookup_distinct {name item} (distinct : (mems.map Prod.fst).Nodup)
    (mem : (name, item) ∈ mems) : mems.lookup name = some item := by
  induction mems with
  | nil => cases mem
  | cons first mems ih =>
    obtain ⟨apart, distinct⟩ := nodup_cons.mp distinct
    rcases mem_cons.mp mem with rfl | later
    · simp
    · have alt : name ≠ first.1 := by
        rintro rfl
        exact apart (mem_map.mpr ⟨_, later, rfl⟩)
      rw [lookup_cons, beq_eq_false_iff_ne.mpr alt]
      exact ih distinct later

def SessionEvent.raw (ev : SessionEvent) : RawSessionEvent :=
  match denote ev.value with
  | .object mems => mems
  | _ => []

def Parses (adapter : EventAdapter) : Prop :=
  ∀ text mems, readJson text = some (.object mems) → adapter.rawEvent text = some mems

variable (ev : SessionEvent)

lemma denote_event : denote ev.value = .object ev.raw := rfl

lemma raw_member {name item}
    (field : (name, some item) ∈ [("source", some ev.source.value), textField "type" ev.body.type]) :
    rawMember ev.raw name = .ok (denote item) := by
  have readable := (denote_agrees (@event_plain 0 ev)).1
  rw [denote_event] at readable
  have mem : (name, denote item) ∈ ev.raw := by
    have raw : ev.raw = _ := JsonValue.object.inj ((denote_event ev).symm.trans (denote_object _))
    rw [raw]
    refine mem_map.mpr ⟨(name, item), mem_present.mpr ?_, rfl⟩
    rw [(sortFields_perm _).mem_iff, mem_append]
    left
    simp only [mem_cons] at field ⊢
    tauto
  rw [rawMember, lookup_distinct readable.1 mem]

lemma identity_agrees : canonicalEventJson (.object [("source", denote ev.source.value),
    ("type", .text ev.body.type)]) = canonicalJson ev.identity := by
  have order : units "source" ≤ units "type" := by decide
  have sorted : sortFields [("source", some ev.source.value), textField "type" ev.body.type] =
      [("source", some ev.source.value), textField "type" ev.body.type] :=
    List.Pairwise.insertionSort_eq (pairwise_pair.mpr order)
  have ident : denote ev.identity =
      .object [("source", denote ev.source.value), ("type", .text ev.body.type)] := by
    rw [SessionEvent.identity, denote_object, sorted]
    rfl
  rw [← ident]
  exact (denote_agrees (@identity_plain 0 ev)).2

lemma event_agrees : canonicalEventJson (.object ev.raw) = ev.encoded := (denote_agrees (@event_plain 0 ev)).2

lemma event_read (parses : Parses adapter) : adapter.rawEvent ev.encoded = some ev.raw := by
  apply parses
  rw [← event_agrees]
  exact readJson_canonical (denote_agrees (@event_plain 10 ev)).1

lemma event_oneLine : 0x0a ∉ ev.encoded ∧ 0x0d ∉ ev.encoded := by
  have printable := canonical_printable (denote_agrees (@event_plain 0 ev)).1
  rw [denote_event, event_agrees] at printable
  exact ⟨fun raw => absurd (printable _ raw) (by decide), fun raw => absurd (printable _ raw) (by decide)⟩

lemma head_agrees (base : Digest) (evs : List SessionEvent) :
    SessionEvents.advanceEventHead base (evs.map SessionEvent.raw) = advanceEventHead base evs := by
  rw [SessionEvents.advanceEventHead, foldl_map]
  simp only [event_agrees]
  rfl

theorem canonical_encoding_agrees (parses : Parses adapter) :
    (∀ ev : SessionEvent, ∃ raw src type, adapter.rawEvent ev.encoded = some raw ∧
      canonicalEventJson (.object raw) = ev.encoded ∧
        rawMember raw "source" = .ok src ∧ rawMember raw "type" = .ok type ∧
          sha256 (canonicalEventJson (.object [("source", src), ("type", type)])) =
            sha256 (canonicalJson ev.identity) ∧ 0x0a ∉ ev.encoded ∧ 0x0d ∉ ev.encoded) ∧
    ∀ base, ∀ evs : List SessionEvent, ∃ raws, evs.mapM (fun ev => adapter.rawEvent ev.encoded) = some raws ∧
        SessionEvents.advanceEventHead base raws = advanceEventHead base evs := by
  constructor
  · intro ev
    have src := @raw_member ev "source" ev.source.value (by simp)
    have type := @raw_member ev "type" (.string ev.body.type) (by simp [textField])
    exact ⟨ev.raw, _, _, event_read ev parses, event_agrees ev, src, type,
      congrArg sha256 (identity_agrees ev), event_oneLine ev⟩
  · intro base evs
    refine ⟨evs.map SessionEvent.raw, ?_, head_agrees base evs⟩
    simp only [event_read _ parses]
    exact mapM_pure

def greeting : SessionEvent where
  seq := ⟨0, by decide⟩
  eventId := "866c5c850b6944cf80794c304871aa908c7e25be9dd36fa34a1ffc46e9943459"
  source := ⟨.codex, "key", "record \"1\"", some ⟨3, by decide⟩, none⟩
  timestamp := none
  semantics := none
  body := .message .user [.text "h\u00e9\n\x7f\u2028"] none

def thought : SessionEvent := { greeting with
  seq := ⟨1, by decide⟩
  eventId := "b3b5b4fcbf9014c91f90d54d9feec6687d4782544b439245a023db076f796c51"
  body := .reasoning .thinking ["😀"] none none }

def listing : SessionEvent := { greeting with
  seq := ⟨2, by decide⟩
  eventId := "f88adcd53428b32a496390202d9dd6aae057d690651d4cc263cfd8ca5fb3c85a"
  body := .toolCall "call" "ls" none none }

def greetings : List SessionEvent := [greeting, thought, listing]

def greetingAdapter : EventAdapter where
  rawEvent text :=
    match readJson text with
    | some (.object mems) => some mems
    | _ => none
  event text :=
    match greetings.findIdx? (·.encoded = text), greetings.find? (·.encoded = text) with
    | some seq, some ev => .ok ⟨seq, sha256 (canonicalJson ev.identity)⟩
    | _, _ => .error "seq (missing)"

lemma greetingAdapter_parses : Parses greetingAdapter := by
  intro text mems read
  simp only [greetingAdapter, read]

theorem canonical_encoding_agrees_greeting : ∃ raws,
    greetings.mapM (fun ev => greetingAdapter.rawEvent ev.encoded) = some raws ∧
      SessionEvents.advanceEventHead EMPTY_EVENT_HEAD raws = advanceEventHead EMPTY_EVENT_HEAD greetings :=
  (canonical_encoding_agrees greetingAdapter_parses).2 _ _

end
end Clawdi.EventUpload
