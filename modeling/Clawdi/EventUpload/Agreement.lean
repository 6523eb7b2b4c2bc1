import Clawdi.EventUpload.Canonical
import Clawdi.EventUpload.Reading

namespace Clawdi.EventUpload
open SessionEvents List Option
section
variable {point unit : Nat}

lemma ascii_escape : ∀ point < 0x80,
    ((charUnits point).flatMap stringifyUnit).flatMap asciiUnit = escapeCodePoint point := by decide +kernel

lemma unit_escape (large : 0x80 ≤ unit) : (stringifyUnit unit).flatMap asciiUnit = unicodeEscape unit := by
  have plain : stringifyUnit unit = [unit] := by
    unfold stringifyUnit
    split_ifs <;> first | omega | rfl
  rw [plain, flatMap_singleton, asciiUnit, if_neg (by omega)]

lemma codePoint_escape (point : Nat) :
    ((charUnits point).flatMap stringifyUnit).flatMap asciiUnit = escapeCodePoint point := by
  by_cases small : point < 0x80
  · exact ascii_escape point small
  unfold escapeCodePoint charUnits
  split_ifs
  any_goals omega
  · rw [flatMap_singleton, unit_escape (by omega)]
  · rw [flatMap_cons, flatMap_singleton, flatMap_append, unit_escape (by omega), unit_escape (by omega)]

lemma asciiJsonString_eq (text : String) : asciiJsonString text = jsonString text := by
  have inside (points : List Nat) :
      ((points.flatMap charUnits).flatMap stringifyUnit).flatMap asciiUnit = points.flatMap escapeCodePoint := by
    induction points with
    | nil => rfl
    | cons point points ih => rw [flatMap_cons, flatMap_append, flatMap_append, codePoint_escape, ih, flatMap_cons]
  rw [asciiJsonString, units, flatMap_append, flatMap_append, inside]
  rfl

def AsciiName (name : String) : Prop := ∀ point ∈ codePoints name, point < 0x80

instance (name : String) : Decidable (AsciiName name) :=
  inferInstanceAs (Decidable (∀ point ∈ codePoints name, point < 0x80))

lemma units_ascii {name} (plain : AsciiName name) : units name = codePoints name := by
  conv_rhs => rw [← flatMap_singleton' (codePoints name)]
  refine flatMap_congr fun point mem => ?_
  have small := plain point mem
  rw [charUnits, if_pos (by omega)]

end

section

mutual

def denote : TsValue → JsonValue
  | .null => .null
  | .boolean v => .bool v
  | .number v => .int v.value
  | .string v => .text v
  | .array items => .list (denoteItems items)
  | .object fields => .object (present (sortFields (denoteFields fields)))

def denoteItems : List TsValue → List JsonValue
  | [] => []
  | item :: items => denote item :: denoteItems items

def denoteFields : List (String × Option TsValue) → List (String × Option JsonValue)
  | [] => []
  | (name, some item) :: fields => (name, some (denote item)) :: denoteFields fields
  | (name, none) :: fields => (name, none) :: denoteFields fields

end

variable (items : List TsValue)

lemma denoteItems_eq : denoteItems items = items.map denote := by
  induction items with
  | nil => rfl
  | cons item items ih => rw [denoteItems, ih, map_cons]

lemma canonicalJsons_eq : canonicalJsons items = items.map canonicalJson := by
  induction items with
  | nil => rfl
  | cons item items ih => rw [canonicalJsons, ih, map_cons]

lemma denoteFields_eq (fields : List (String × Option TsValue)) :
    denoteFields fields = fields.map fun field => (field.1, field.2.map denote) := by
  induction fields with
  | nil => rfl
  | cons field fields ih => rcases field with ⟨name, _ | item⟩ <;> rw [denoteFields, ih] <;> rfl

lemma canonicalFields_eq (fields : List (String × Option TsValue)) :
    canonicalFields fields = fields.map fun field => (field.1, field.2.map canonicalJson) := by
  induction fields with
  | nil => rfl
  | cons field fields ih => rcases field with ⟨name, _ | item⟩ <;> rw [canonicalFields, ih] <;> rfl

def Plain : Nat → TsValue → Prop
  | 0, _ => False
  | depth + 1, .array items => ∀ item ∈ items, Plain depth item
  | depth + 1, .object fields =>
    (fields.map Prod.fst).Nodup ∧ (∀ name ∈ fields.map Prod.fst, AsciiName name) ∧
      ∀ field ∈ fields, ∀ item ∈ field.2, Plain depth item
  | _, _ => True

variable {α β : Type} {fields : List (String × Option α)} (change : α → β)

lemma sortFields_map (fields : List (String × α)) : sortFields (fields.map fun field => (field.1, change field.2)) =
      (sortFields fields).map fun field => (field.1, change field.2) := by
  symm
  apply map_insertionSort
  exact fun _ _ _ _ => Iff.rfl

lemma present_map (fields : List (String × Option α)) :
    present (fields.map fun field => (field.1, field.2.map change)) =
      (present fields).map fun field => (field.1, change field.2) := by
  rw [present, present, filterMap_map, map_filterMap]
  congr
  funext field
  rcases field with ⟨name, _ | item⟩ <;> rfl

lemma mem_present {mem} : mem ∈ present fields ↔ (mem.1, some mem.2) ∈ fields := by
  rcases mem with ⟨name, item⟩
  simp [present]

lemma sortFields_perm (fields : List (String × α)) : (sortFields fields).Perm fields := perm_insertionSort _ fields

lemma present_nodup (distinct : (fields.map Prod.fst).Nodup) : ((present fields).map Prod.fst).Nodup := by
  rw [List.Nodup, pairwise_map] at distinct ⊢
  refine distinct.filterMap _ fun first snd apart one isOne two isTwo => ?_
  obtain ⟨_, _, rfl⟩ := map_eq_some_iff.mp isOne
  obtain ⟨_, _, rfl⟩ := map_eq_some_iff.mp isTwo
  exact apart

lemma present_sorted (fields : List (String × Option α)) :
    (present (sortFields fields)).Pairwise fun first snd => units first.1 ≤ units snd.1 := by
  refine (pairwise_insertionSort _ fields).filterMap _ fun first snd order one isOne two isTwo => ?_
  obtain ⟨_, _, rfl⟩ := map_eq_some_iff.mp isOne
  obtain ⟨_, _, rfl⟩ := map_eq_some_iff.mp isTwo
  exact order

lemma denote_object (fields : List (String × Option TsValue)) : denote (.object fields) =
    .object ((present (sortFields fields)).map fun field => (field.1, denote field.2)) := by
  rw [denote, denoteFields_eq, sortFields_map, present_map]

lemma canonicalJson_object (fields : List (String × Option TsValue)) : canonicalJson (.object fields) =
    0x7b :: separated ((present (sortFields fields)).map fun field =>
      jsonMember (field.1, canonicalJson field.2)) ++ [0x7d] := by
  rw [canonicalJson, canonicalFields_eq, sortFields_map, present_map, List.map_map]
  simp only [asciiJsonString_eq]
  rfl

lemma denote_agrees {depth : Nat} {v} (plain : Plain depth v) :
    Readable depth (denote v) ∧ canonicalEventJson (denote v) = canonicalJson v := by
  induction depth generalizing v with
  | zero => exact plain.elim
  | succ depth ih =>
    cases v with
    | null | boolean => exact ⟨trivial, rfl⟩
    | number v => exact ⟨v.safe, rfl⟩
    | string v => exact ⟨trivial, (asciiJsonString_eq v).symm⟩
    | array items =>
      have same : (items.map denote).map canonicalEventJson = items.map canonicalJson := by
        rw [List.map_map]
        exact List.map_congr_left fun item mem => (ih (plain item mem)).2
      rw [denote, denoteItems_eq, canonicalEventJson, canonicalItems_eq, same, canonicalJson, canonicalJsons_eq]
      exact ⟨List.forall_mem_map.mpr fun item mem => (ih (plain item mem)).1, rfl⟩
    | object fields =>
      obtain ⟨distinct, names, plain⟩ := plain
      have own {field : String × TsValue} (mem : field ∈ present (sortFields fields)) :
          (field.1, some field.2) ∈ fields := (sortFields_perm fields).mem_iff.mp (mem_present.mp mem)
      have agree {field : String × TsValue} (mem : field ∈ present (sortFields fields)) :=
        ih (plain _ (own mem) field.2 rfl)
      have codeUnits {field : String × TsValue} (mem : field ∈ present (sortFields fields)) :
          units field.1 = codePoints field.1 :=
        units_ascii (names _ (mem_map_of_mem (f := Prod.fst) (own mem)))
      have sorted : ((present (sortFields fields)).map fun field => (field.1, denote field.2)).Pairwise
          fun first snd => codePoints first.1 ≤ codePoints snd.1 := by
        rw [pairwise_map]
        refine List.Pairwise.imp_of_mem (fun {first snd} left right order => ?_) (present_sorted fields)
        rwa [codeUnits left, codeUnits right] at order
      have apart : (((present (sortFields fields)).map fun field => (field.1, denote field.2)).map
          Prod.fst).Nodup := by
        rw [List.map_map]
        exact present_nodup (((sortFields_perm fields).map Prod.fst).nodup_iff.mpr distinct)
      rw [denote_object, canonicalJson_object, canonicalObject_sorted sorted, List.map_map]
      refine ⟨⟨apart, sorted, List.forall_mem_map.mpr fun field mem => (agree mem).1⟩, ?_⟩
      have same := List.map_congr_left fun field mem =>
        congrArg (fun text => jsonMember (field.1, text)) (agree mem).2
      exact congrArg (fun parts => 0x7b :: separated parts ++ [0x7d]) same

end
end Clawdi.EventUpload
