import Clawdi.Noise.BinaryNode

namespace Clawdi.Noise
open List
section
variable {α β : Type} {x : Reader α} {f : α → Reader β}

lemma reader_bind_ok {data rest a} (first : x data = .ok (a, rest)) : (x >>= f) data = f a rest := by
  show Except.bind (x data) _ = _
  rw [first]
  rfl

lemma reader_bind_error {data e} (first : x data = .error e) : (x >>= f) data = .error e := by
  show Except.bind (x data) _ = _
  rw [first]
  rfl

lemma reader_pure (a : α) (data : List UInt8) : (pure a : Reader α) data = .ok (a, data) := rfl
lemma readByte_cons (b : UInt8) (rest : List UInt8) : readByte (b :: rest) = .ok (b, rest) := rfl

lemma readBytes_append (v rest : List UInt8) : readBytes v.length (v ++ rest) = .ok (v, rest) := by
  have enough : ¬(v ++ rest).length < v.length := by
    rw [length_append]
    omega
  rw [readBytes, if_neg enough, take_left, drop_left]

end

section

lemma toBytes_length (bytes num : ℕ) : (toBytes bytes num).length = bytes := by
  induction bytes generalizing num with
  | zero => rfl
  | succ bytes ih => simp [toBytes, ih]

lemma fromBytes_toBytes {bytes num : ℕ} (bound : num < 256 ^ bytes) : fromBytes (toBytes bytes num) = num := by
  induction bytes generalizing num with
  | zero =>
    have zero : num = 0 := by simpa using bound
    rw [zero]
    rfl
  | succ bytes ih =>
    have small : num / 256 < 256 ^ bytes := by
      rw [Nat.div_lt_iff_lt_mul (by decide), ← Nat.pow_succ]
      exact bound
    have last := ih small
    unfold fromBytes at last ⊢
    rw [toBytes, foldl_append, last]
    simp only [foldl_cons, foldl_nil, UInt8.toNat_ofNat']
    omega

lemma int24_length {length : ℕ} (bound : length < 2 ^ 20) :
    int24 (UInt8.ofNat (length >>> 16) &&& (0x0F : UInt8) &&& (0x0F : UInt8)) (UInt8.ofNat (length >>> 8))
      (UInt8.ofNat length) = length := by
  have masked : UInt8.ofNat (length >>> 16) &&& (0x0F : UInt8) &&& (0x0F : UInt8) =
      UInt8.ofNat (length >>> 16) := by
    apply UInt8.toNat_inj.mp
    have mask : ∀ n : ℕ, n &&& 15 = n % 16 := fun n => Nat.and_two_pow_sub_one_eq_mod n 4
    have fifteen : (0x0F : UInt8).toNat = 15 := rfl
    simp only [UInt8.toNat_and, UInt8.toNat_ofNat', fifteen, mask, Nat.shiftRight_eq_div_pow]
    omega
  rw [masked, int24_packed (by omega)]

end

def Fits (v : List UInt8) : Prop := v.length < 2 ^ 32
instance (v : List UInt8) : Decidable (Fits v) := inferInstanceAs (Decidable (v.length < 2 ^ 32))

section

lemma writeBytes_ok {v} (fits : Fits v) : ∃ written, writeBytes v = .ok written := by
  unfold writeBytes
  dsimp only
  split
  · exact ⟨_, if_pos fits⟩
  · split <;> exact ⟨_, rfl⟩

variable {dict : Dictionary}

lemma readStringOrBytes_written {v written} (wrote : writeBytes v = .ok written) (frames : ℕ) (rest : List UInt8) :
    readStringOrBytes dict (frames + 1) (written ++ rest) = .ok (.bytes v, rest) := by
  unfold writeBytes at wrote
  by_cases long : 2 ^ 20 ≤ v.length
  · rw [if_pos long] at wrote
    by_cases fits : v.length < 2 ^ 32
    · rw [if_pos fits] at wrote
      cases wrote
      have four : readBytes 4 (toBytes 4 v.length ++ (v ++ rest)) =
          .ok (toBytes 4 v.length, v ++ rest) := by
        have read := readBytes_append (toBytes 4 v.length) (v ++ rest)
        rwa [toBytes_length] at read
      have size : fromBytes (toBytes 4 v.length) = v.length := fromBytes_toBytes (by omega)
      rw [cons_append, cons_append, List.append_assoc, readStringOrBytes, reader_bind_ok (readByte_cons _ _)]
      simp only [show (254 : UInt8) ≠ 0 by decide, show (254 : UInt8) ≠ 252 by decide,
        show (254 : UInt8) ≠ 253 by decide, if_false, if_true]
      rw [reader_bind_ok four, size, reader_bind_ok (readBytes_append v rest), reader_pure]
    · rw [if_neg fits] at wrote
      cases wrote
  · rw [if_neg long] at wrote
    by_cases medium : 256 ≤ v.length
    · rw [if_pos medium] at wrote
      cases wrote
      have size := @int24_length v.length (by omega)
      simp only [cons_append, nil_append]
      rw [readStringOrBytes, reader_bind_ok (readByte_cons _ _)]
      simp only [show (253 : UInt8) ≠ 0 by decide, show (253 : UInt8) ≠ 252 by decide, if_false,
        if_true]
      have three : readInt20 ((UInt8.ofNat (v.length >>> 16) &&& (0x0F : UInt8)) ::
          UInt8.ofNat (v.length >>> 8) :: UInt8.ofNat v.length :: (v ++ rest)) =
          .ok (v.length, v ++ rest) := by
        rw [readInt20, reader_bind_ok (readByte_cons _ _), reader_bind_ok (readByte_cons _ _),
          reader_bind_ok (readByte_cons _ _), size, reader_pure]
      rw [reader_bind_ok three, reader_bind_ok (readBytes_append v rest), reader_pure]
    · rw [if_neg medium] at wrote
      cases wrote
      have size : (UInt8.ofNat v.length).toNat = v.length := by
        rw [UInt8.toNat_ofNat']
        omega
      simp only [cons_append, nil_append]
      rw [readStringOrBytes, reader_bind_ok (readByte_cons _ _)]
      simp only [show (252 : UInt8) ≠ 0 by decide, if_false, if_true]
      rw [reader_bind_ok (readByte_cons _ _), size, reader_bind_ok (readBytes_append v rest), reader_pure]

variable {written : List UInt8}

lemma readString_written {v} (wrote : writeStringRaw v = .ok written)
    (frames : ℕ) (rest : List UInt8) : readString dict (frames + 2) (written ++ rest) = .ok (v, rest) := by
  rw [readString, reader_bind_ok (readStringOrBytes_written wrote frames rest)]
  simp only [Text.decode, decodeUtf8_utf8, ofOption, reader_pure]

lemma writeListStart_ok {size : ℕ} (bound : size < 2 ^ 16) : ∃ written, writeListStart size = .ok written := by
  unfold writeListStart
  split
  · exact ⟨_, rfl⟩
  · split <;> exact ⟨_, rfl⟩

lemma readListSize_written {size : ℕ} (wrote : writeListStart size = .ok written) (rest : List UInt8) :
    readListSize (written ++ rest) = .ok (size, rest) := by
  unfold writeListStart at wrote
  by_cases empty : size = 0
  · rw [if_pos empty] at wrote
    cases wrote
    rw [cons_append, readListSize, reader_bind_ok (readByte_cons _ _), if_pos rfl, empty]
    rfl
  · rw [if_neg empty] at wrote
    by_cases short : size < 256
    · rw [if_pos short] at wrote
      cases wrote
      have same : (UInt8.ofNat size).toNat = size := by
        rw [UInt8.toNat_ofNat']
        omega
      simp only [cons_append, nil_append]
      rw [readListSize, reader_bind_ok (readByte_cons _ _)]
      simp only [show (248 : UInt8) ≠ 0 by decide, if_false, if_true]
      rw [reader_bind_ok (readByte_cons _ _), same]
      rfl
    · rw [if_neg short] at wrote
      by_cases bound : size < 2 ^ 16
      · rw [if_pos bound] at wrote
        cases wrote
        have two : readBytes 2 (toBytes 2 size ++ rest) = .ok (toBytes 2 size, rest) := by
          have read := readBytes_append (toBytes 2 size) rest
          rwa [toBytes_length] at read
        rw [cons_append, readListSize, reader_bind_ok (readByte_cons _ _)]
        simp only [show (249 : UInt8) ≠ 0 by decide, show (249 : UInt8) ≠ 248 by decide, if_false,
          if_true]
        rw [reader_bind_ok two, fromBytes_toBytes (by omega)]
        rfl
      · rw [if_neg bound] at wrote
        cases wrote

lemma writeListStart_head {size : ℕ} (wrote : writeListStart size = .ok written) :
    ∃ tag tail, written = tag :: tail ∧ (tag = 0 ∨ tag = 248 ∨ tag = 249) := by
  unfold writeListStart at wrote
  split at wrote
  · cases wrote
    exact ⟨0, [], rfl, .inl rfl⟩
  · split at wrote
    · cases wrote
      exact ⟨248, _, rfl, .inr (.inl rfl)⟩
    · split at wrote
      · cases wrote
        exact ⟨249, _, rfl, .inr (.inr rfl)⟩
      · cases wrote

lemma writeBytes_head {v} (wrote : writeBytes v = .ok written) :
    ∃ tag tail, written = tag :: tail ∧ ¬(tag = 0 ∨ tag = 248 ∨ tag = 249) := by
  unfold writeBytes at wrote
  dsimp only at wrote
  split at wrote
  · split at wrote
    · cases wrote
      exact ⟨254, _, rfl, by decide⟩
    · cases wrote
  · split at wrote
    · cases wrote
      exact ⟨253, _, rfl, by decide⟩
    · cases wrote
      exact ⟨252, _, rfl, by decide⟩

end

section

lemma setAttr_new {attrs : List (String × String)} {key v}
    (new : key ∉ attrs.map Prod.fst) : setAttr attrs key v = attrs ++ [(key, v)] :=
  if_neg new

variable {dict : Dictionary}

lemma readAttrs_written {attrs written}
    (wrote : writeEach writeAttr attrs = .ok written) (frames spare : ℕ) (less : spare < 2)
    (rest : List UInt8) (pre : List (String × String)) (distinct : ((pre ++ attrs).map Prod.fst).Nodup) :
    readAttrs dict (frames + 2) (2 * attrs.length + spare) pre (written ++ rest) =
      .ok ((pre ++ attrs, spare), rest) := by
  induction attrs generalizing pre written with
  | nil =>
    cases wrote
    rw [List.append_nil]
    match spare, less with
    | 0, _ => rfl
    | 1, _ => rfl
  | cons attr attrs ih =>
    obtain ⟨key, v⟩ := attr
    have new : key ∉ pre.map Prod.fst := by
      rw [map_append, nodup_append] at distinct
      intro mem
      exact distinct.2.2 key mem key (mem_cons_self) rfl
    simp only [writeEach, writeAttr] at wrote
    cases wroteKey : writeStringRaw key with
    | error e =>
      rw [wroteKey] at wrote
      cases wrote
    | ok keyBytes =>
      cases wroteValue : writeStringRaw v with
      | error e =>
        rw [wroteKey, wroteValue] at wrote
        cases wrote
      | ok valueBytes =>
        cases wroteRest : writeEach writeAttr attrs with
        | error e =>
          rw [wroteKey, wroteValue, wroteRest] at wrote
          cases wrote
        | ok restBytes =>
          rw [wroteKey, wroteValue, wroteRest] at wrote
          cases wrote
          have two : 2 * ((key, v) :: attrs).length + spare = 2 * attrs.length + spare + 2 := by
            rw [length_cons]
            omega
          rw [two, readAttrs, List.append_assoc, List.append_assoc,
            reader_bind_ok (readString_written wroteKey frames _),
            reader_bind_ok (readString_written wroteValue frames _), setAttr_new new]
          have later := ih wroteRest (pre ++ [(key, v)]) (by simpa using distinct)
          rw [later, List.append_assoc]
          rfl

lemma writeEach_ok {α : Type} {write : α → Except Raised (List UInt8)} {items}
    (each : ∀ item ∈ items, ∃ written, write item = .ok written) :
    ∃ written, writeEach write items = .ok written := by
  induction items with
  | nil => exact ⟨[], rfl⟩
  | cons item items ih =>
    obtain ⟨first, wroteFirst⟩ := each item mem_cons_self
    obtain ⟨rest, wroteRest⟩ := ih fun alt mem => each alt (mem_cons_of_mem _ mem)
    exact ⟨first ++ rest, by rw [writeEach, wroteFirst, wroteRest]; rfl⟩

lemma readMany_written {α β : Type} {write : α → Except Raised (List UInt8)} {read}
    {image : α → β} {items written} (wrote : writeEach write items = .ok written)
    (each : ∀ item ∈ items, ∀ bytes rest, write item = .ok bytes →
      read (bytes ++ rest) = .ok (image item, rest)) (rest : List UInt8) :
    readMany read items.length (written ++ rest) = .ok (items.map image, rest) := by
  induction items generalizing written with
  | nil =>
    cases wrote
    rfl
  | cons item items ih =>
    simp only [writeEach] at wrote
    cases wroteFirst : write item with
    | error e =>
      rw [wroteFirst] at wrote
      cases wrote
    | ok first =>
      cases wroteRest : writeEach write items with
      | error e =>
        rw [wroteFirst, wroteRest] at wrote
        cases wrote
      | ok others =>
        rw [wroteFirst, wroteRest] at wrote
        cases wrote
        have later := ih wroteRest fun alt mem => each alt (mem_cons_of_mem _ mem)
        rw [length_cons, readMany, List.append_assoc,
          reader_bind_ok (each item mem_cons_self first _ wroteFirst), reader_bind_ok later]
        rfl

end

section

mutual

def BinaryNode.height : BinaryNode → ℕ
  | .node _ _ content => contentHeight content + 1

def contentHeight : Content BinaryNode → ℕ
  | .nodes children => childrenHeight children
  | _ => 0

def childrenHeight : List BinaryNode → ℕ
  | [] => 0
  | child :: children => max child.height (childrenHeight children)

end

mutual

def BinaryNode.Encodable : BinaryNode → Prop
  | .node tag attrs content =>
    Fits (utf8 tag) ∧ (∀ attr ∈ attrs, Fits (utf8 attr.1) ∧ Fits (utf8 attr.2)) ∧
      (attrs.map Prod.fst).Nodup ∧ listSize attrs content < 2 ^ 16 ∧ ContentEncodable content

def ContentEncodable : Content BinaryNode → Prop
  | .absent => True
  | .text v => Fits (utf8 v)
  | .bytes v => Fits v
  | .nodes children => children.length < 2 ^ 16 ∧ ChildrenEncodable children

def ChildrenEncodable : List BinaryNode → Prop
  | [] => True
  | child :: children => child.Encodable ∧ ChildrenEncodable children

end

mutual

def BinaryNode.received : BinaryNode → BinaryNode
  | .node tag attrs content => .node tag attrs (contentReceived content)

def contentReceived : Content BinaryNode → Content BinaryNode
  | .absent => .absent
  | .text v => .bytes (utf8 v)
  | .bytes v => .bytes v
  | .nodes children => .nodes (childrenReceived children)

def childrenReceived : List BinaryNode → List BinaryNode
  | [] => []
  | child :: children => child.received :: childrenReceived children

end

lemma childrenReceived_eq (children : List BinaryNode) :
    childrenReceived children = children.map BinaryNode.received := by
  induction children with
  | nil => rfl
  | cons child children ih => rw [childrenReceived, ih, map_cons]

variable {child : BinaryNode}

lemma ChildrenEncodable.of_mem {children} (all : ChildrenEncodable children)
    (mem : child ∈ children) : child.Encodable := by
  induction children with
  | nil => cases mem
  | cons first children ih =>
    rcases mem_cons.mp mem with rfl | later
    · exact all.1
    · exact ih all.2 later

lemma height_le_of_mem {children} (mem : child ∈ children) : child.height ≤ childrenHeight children := by
  induction children with
  | nil => cases mem
  | cons first children ih =>
    rcases mem_cons.mp mem with rfl | later
    · exact Nat.le_max_left _ _
    · exact Nat.le_trans (ih later) (Nat.le_max_right _ _)

lemma writeAttrs_ok {attrs} (fit : ∀ attr ∈ attrs, Fits (utf8 attr.1) ∧ Fits (utf8 attr.2)) :
    ∃ written, writeEach writeAttr attrs = .ok written := by
  apply writeEach_ok
  intro attr mem
  obtain ⟨key, wroteKey⟩ := writeBytes_ok (fit attr mem).1
  obtain ⟨v, wroteValue⟩ := writeBytes_ok (fit attr mem).2
  refine ⟨key ++ v, ?_⟩
  rw [writeAttr, writeStringRaw, writeStringRaw, wroteKey, wroteValue]
  rfl

variable {dict : Dictionary}

lemma readNode_written {tag attrs} {content start tagBytes attrBytes}
    (wroteStart : writeListStart (listSize attrs content) = .ok start)
    (wroteTag : writeStringRaw tag = .ok tagBytes) (wroteAttrs : writeEach writeAttr attrs = .ok attrBytes)
    (distinct : (attrs.map Prod.fst).Nodup) (frames : ℕ) (rest : List UInt8) :
    readNode dict (frames + 3) (start ++ tagBytes ++ attrBytes ++ rest) = if content.count = 1 then
        (do return BinaryNode.node tag attrs (← readContent dict (frames + 2))) rest
      else .ok (.node tag attrs .absent, rest) := by
  have positive : listSize attrs content ≠ 0 := by
    unfold listSize
    omega
  have left : listSize attrs content - 1 = 2 * attrs.length + content.count := by
    unfold listSize
    omega
  have less : content.count < 2 := by cases content <;> simp [Content.count]
  have pairs := @readAttrs_written dict _ _ wroteAttrs frames content.count less rest [] (by simpa using distinct)
  rw [readNode, List.append_assoc, List.append_assoc,
    reader_bind_ok (readListSize_written wroteStart _), if_neg positive,
    reader_bind_ok (readString_written wroteTag frames _), left, reader_bind_ok pairs]
  dsimp only [nil_append]
  by_cases follows : content.count = 1
  · rw [if_pos follows, if_pos follows]
  · rw [if_neg follows, if_neg follows, reader_pure]

lemma readContent_string {v written} (wrote : writeBytes v = .ok written) (frames : ℕ) (rest : List UInt8) :
    readContent dict (frames + 2) (written ++ rest) = .ok (.bytes v, rest) := by
  obtain ⟨tag, tail, whole, apart⟩ := writeBytes_head wrote
  have read := @readStringOrBytes_written dict _ _ wrote frames rest
  subst whole
  have peeked : peekByte (tag :: tail ++ rest) = .ok (tag, tag :: tail ++ rest) := rfl
  rw [readContent, reader_bind_ok peeked, if_neg apart, reader_bind_ok read]
  rfl

lemma node_round_trip (frames : ℕ) {node : BinaryNode} (encodable : node.Encodable)
    (enough : node.height ≤ frames) : ∃ written, writeBinaryNode frames node = .ok written ∧
      ∀ stack, 2 * node.height + 1 ≤ stack → ∀ rest,
        readNode dict stack (written ++ rest) = .ok (node.received, rest) := by
  induction frames generalizing node with
  | zero =>
    cases node
    simp [BinaryNode.height] at enough
  | succ frames ih =>
    obtain ⟨tag, attrs, content⟩ := node
    obtain ⟨tagFits, attrsFit, distinct, size, contentFits⟩ := encodable
    rw [BinaryNode.height] at enough ⊢
    obtain ⟨start, wroteStart⟩ := writeListStart_ok size
    obtain ⟨tagBytes, wroteTag⟩ := writeBytes_ok tagFits
    obtain ⟨attrBytes, wroteAttrs⟩ := writeAttrs_ok attrsFit
    have front := @readNode_written dict _ _ _ _ _ _ wroteStart wroteTag wroteAttrs distinct
    cases content with
    | absent =>
      refine ⟨start ++ tagBytes ++ attrBytes ++ [], ?_, ?_⟩
      · rw [writeBinaryNode, wroteStart, writeStringRaw, wroteTag, wroteAttrs]
        rfl
      · intro stack room rest
        obtain ⟨spare, rfl⟩ := Nat.exists_eq_add_of_le' (show 3 ≤ stack by omega)
        rw [List.append_nil, front spare rest]
        rfl
    | text v =>
      obtain ⟨valueBytes, wroteValue⟩ := writeBytes_ok contentFits
      refine ⟨start ++ tagBytes ++ attrBytes ++ valueBytes, ?_, ?_⟩
      · rw [writeBinaryNode, wroteStart, writeStringRaw, wroteTag, wroteAttrs]
        simp only [writeStringRaw, wroteValue]
        rfl
      · intro stack room rest
        have follows : (Content.text v : Content BinaryNode).count = 1 := rfl
        obtain ⟨spare, rfl⟩ := Nat.exists_eq_add_of_le' (show 3 ≤ stack by omega)
        rw [List.append_assoc _ valueBytes, front spare (valueBytes ++ rest)]
        rw [if_pos follows, reader_bind_ok (readContent_string wroteValue spare rest)]
        rfl
    | bytes v =>
      obtain ⟨valueBytes, wroteValue⟩ := writeBytes_ok contentFits
      refine ⟨start ++ tagBytes ++ attrBytes ++ valueBytes, ?_, ?_⟩
      · rw [writeBinaryNode, wroteStart, writeStringRaw, wroteTag, wroteAttrs]
        simp only [wroteValue]
        rfl
      · intro stack room rest
        have follows : (Content.bytes v : Content BinaryNode).count = 1 := rfl
        obtain ⟨spare, rfl⟩ := Nat.exists_eq_add_of_le' (show 3 ≤ stack by omega)
        rw [List.append_assoc _ valueBytes, front spare (valueBytes ++ rest)]
        rw [if_pos follows, reader_bind_ok (readContent_string wroteValue spare rest)]
        rfl
    | nodes children =>
      rw [contentHeight] at enough ⊢
      obtain ⟨countBytes, wroteCount⟩ := writeListStart_ok contentFits.1
      have each : ∀ child ∈ children, ∃ written, writeBinaryNode frames child = .ok written ∧
          ∀ stack, 2 * child.height + 1 ≤ stack → ∀ rest,
            readNode dict stack (written ++ rest) = .ok (child.received, rest) := by
        intro child mem
        have lower := height_le_of_mem mem
        exact ih (contentFits.2.of_mem mem) (by omega)
      obtain ⟨childBytes, wroteChildren⟩ := writeEach_ok fun child mem =>
        (each child mem).imp fun _ both => both.1
      refine ⟨start ++ tagBytes ++ attrBytes ++ (countBytes ++ childBytes), ?_, ?_⟩
      · rw [writeBinaryNode, wroteStart, writeStringRaw, wroteTag, wroteAttrs]
        simp only [wroteCount, wroteChildren]
        rfl
      · intro stack room rest
        have follows : (Content.nodes children : Content BinaryNode).count = 1 := rfl
        obtain ⟨spare, rfl⟩ := Nat.exists_eq_add_of_le' (show 3 ≤ stack by omega)
        have many : readMany (readNode dict (spare + 1)) children.length (childBytes ++ rest) =
            .ok (children.map BinaryNode.received, rest) := by
          apply readMany_written wroteChildren
          intro child mem bytes rest wrote
          obtain ⟨written, wroteChild, reads⟩ := each child mem
          rw [wroteChild] at wrote
          cases wrote
          have lower := height_le_of_mem mem
          exact reads (spare + 1) (by omega) rest
        have list : readContent dict (spare + 2) (countBytes ++ (childBytes ++ rest)) =
            .ok (.nodes (children.map BinaryNode.received), rest) := by
          obtain ⟨tag, tail, whole, isList⟩ := writeListStart_head wroteCount
          have count := readListSize_written wroteCount (childBytes ++ rest)
          subst whole
          have peeked : peekByte (tag :: tail ++ (childBytes ++ rest)) =
              .ok (tag, tag :: tail ++ (childBytes ++ rest)) := rfl
          rw [readContent, reader_bind_ok peeked, if_pos isList, reader_bind_ok count, reader_bind_ok many]
          rfl
        rw [List.append_assoc _ (countBytes ++ childBytes), List.append_assoc countBytes,
          front spare (countBytes ++ (childBytes ++ rest))]
        rw [if_pos follows, reader_bind_ok list, BinaryNode.received, contentReceived, childrenReceived_eq]
        rfl

/-- A stack with room for the levels of a tree encodes it and decodes it. -/
theorem binary_node_round_trip (dict : Dictionary) (node : BinaryNode)
    (encodable : node.Encodable) (frames stack : ℕ) (writes : node.height ≤ frames)
    (reads : 2 * node.height + 1 ≤ stack) : ∃ data, encodeBinaryNodeMinimal frames node = .ok data ∧
        decodeBinaryNodeMinimal dict stack data = .ok (node.received, []) := by
  obtain ⟨written, wrote, read⟩ := @node_round_trip dict frames node encodable writes
  refine ⟨0 :: written, ?_, ?_⟩
  · rw [encodeBinaryNodeMinimal, wrote]
    rfl
  · have whole := read stack reads []
    rw [List.append_nil] at whole
    exact whole

theorem binary_node_round_trip_list : ∃ data,
    encodeBinaryNodeMinimal 2 (.node "iq" [("id", "7")] (.nodes [.node "ping" [] (.text "")])) = .ok data ∧
      decodeBinaryNodeMinimal ⟨fun _ => none, fun _ _ => none⟩ 5 data =
        .ok (.node "iq" [("id", "7")] (.nodes [.node "ping" [] (.bytes [])]), []) :=
  binary_node_round_trip _ (.node "iq" [("id", "7")] (.nodes [.node "ping" [] (.text "")]))
    ⟨by decide, by decide, by decide, by decide, by decide,
    ⟨by decide, by decide, by decide, by decide, show Fits (utf8 "") by decide⟩, trivial⟩ 2 5
    (by decide) (by decide)

def manyAttrs : List (String × String) := (List.range 32767).map fun i => (String.ofList (List.replicate i 'a'), "")

/-- With content besides, the list is too long. -/
theorem many_attrs_overflow : manyAttrs.length = 32767 ∧ (manyAttrs.map Prod.fst).Nodup ∧
    ∀ frames data, encodeBinaryNodeMinimal frames (.node "iq" manyAttrs (.text "")) ≠ .ok data := by
  have many : manyAttrs.length = 32767 := by simp [manyAttrs]
  refine ⟨many, ?_, ?_⟩
  · have keys : manyAttrs.map Prod.fst =
        (List.range 32767).map fun i => String.ofList (List.replicate i 'a') := by
      simp [manyAttrs, Function.comp_def]
    rw [keys]
    apply List.Nodup.map _ nodup_range
    intro i j same
    have lengths := congrArg (fun key : String => key.toList.length) same
    simpa using lengths
  · intro frames data
    cases frames with
    | zero => simp [encodeBinaryNodeMinimal, writeBinaryNode]
    | succ frames =>
      have size : writeListStart (listSize manyAttrs (.text "")) = .error .overflowError := by
        rw [listSize, many]
        rfl
      simp [encodeBinaryNodeMinimal, writeBinaryNode, size, bind, Except.bind]

end
end Clawdi.Noise
