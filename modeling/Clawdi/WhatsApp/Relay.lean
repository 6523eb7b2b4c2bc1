import Clawdi.Noise.BinaryNode

namespace Clawdi.WhatsApp
open Noise List

inductive RelayDropReason
  | tagNotAllowlisted | noToAttr | unboundJid | receiptIdUnknown | receiptParticipantMismatch
  | receiptMalformed | nodeTooDeep | nodeTooWide

inductive RelayDecision
  | relay (node : BinaryNode)
  | drop (reason : RelayDropReason)

def RELAY_TAG_ALLOWLIST : List String := ["presence", "chatstate", "receipt"]
def MAX_NODE_DEPTH : ℕ := 32
def MAX_NODE_COUNT : ℕ := 1024

section

def tagOf : BinaryNode → String
  | .node tag _ _ => tag

def attrsOf : BinaryNode → List (String × String)
  | .node _ attrs _ => attrs

def contentOf : BinaryNode → Content BinaryNode
  | .node _ _ content => content

def attr (node : BinaryNode) (key : String) : Option String := (attrsOf node).lookup key
def given (node : BinaryNode) (key : String) : Option String := (attr node key).filter (· ≠ "")

def children (node : BinaryNode) : List BinaryNode :=
  match contentOf node with
  | .nodes children => children
  | _ => []

mutual

def nodesFrom (depth : ℕ) : BinaryNode → List (BinaryNode × ℕ)
  | .node tag attrs content => (.node tag attrs content, depth) :: nodesIn (depth + 1) content

def nodesIn (depth : ℕ) : Content BinaryNode → List (BinaryNode × ℕ)
  | .nodes children => nodesBelow depth children
  | _ => []

def nodesBelow (depth : ℕ) : List BinaryNode → List (BinaryNode × ℕ)
  | [] => []
  | child :: children => nodesFrom depth child ++ nodesBelow depth children

end
end

inductive Bounds
  | ok | tooDeep | tooWide
  deriving DecidableEq

section
variable (maxDepth maxCount : ℕ)

def pushChildren (visited depth : ℕ) : List BinaryNode → List (BinaryNode × ℕ) → Option (List (BinaryNode × ℕ))
  | [], stack => some stack
  | child :: children, stack =>
    if maxCount ≤ visited + stack.length then none
    else pushChildren visited depth children ((child, depth + 1) :: stack)

def checkStack : ℕ → ℕ → List (BinaryNode × ℕ) → Bounds
  | _, _, [] => .ok
  | 0, _, _ :: _ => .tooWide
  | fuel + 1, visited, (node, depth) :: stack =>
    if maxDepth < depth then .tooDeep
    else
      match pushChildren maxCount (visited + 1) depth (children node) stack with
      | none => .tooWide
      | some stack => checkStack fuel (visited + 1) stack

def checkBounds (root : BinaryNode) : Bounds := checkStack maxDepth maxCount (nodesFrom 0 root).length 0 [(root, 0)]

end

def validReceiptItem (item : BinaryNode) : Bool :=
  tagOf item = "item" && (given item "id").isSome &&
    match contentOf item with
    | .absent => true
    | _ => false

def validReceiptShape (node : BinaryNode) : Bool :=
  match contentOf node with
  | .absent => true
  | .nodes [] => true
  | .nodes [listNode] =>
    tagOf listNode = "list" &&
      match contentOf listNode with
      | .nodes items => items.all validReceiptItem
      | _ => false
  | _ => false

def collectReceiptIds (node : BinaryNode) : List String :=
  (given node "id").toList ++ ((children node).filter (tagOf · = "list")).flatMap fun listNode =>
    ((children listNode).filter (tagOf · = "item")).filterMap (given · "id")

mutual

def scrubSpoofAttrs : BinaryNode → BinaryNode
  | .node tag attrs content =>
    .node tag (attrs.filter fun attr => attr.1 ≠ "from" ∧ attr.1 ≠ "name") (scrubContent content)

def scrubContent : Content BinaryNode → Content BinaryNode
  | .nodes children => .nodes (scrubAll children)
  | content => content

def scrubAll : List BinaryNode → List BinaryNode
  | [] => []
  | child :: children => scrubSpoofAttrs child :: scrubAll children

end

def withRelayAddresses (node : BinaryNode) (toJid : String) (recipientJid : Option String) : BinaryNode :=
  let scrubbed := scrubSpoofAttrs node
  let attrs := setAttr (attrsOf scrubbed) "to" toJid
  let attrs :=
    match recipientJid.filter (· ≠ "") with
    | some jid => setAttr attrs "recipient" jid
    | none => attrs
  .node (tagOf scrubbed) attrs (contentOf scrubbed)

def isGroupJid (jid : String) : Bool := "@g.us".toList.isSuffixOf jid.toList

section
variable (resolveJid lookupInboundSender : String → Option String)

def checkReceiptIds (participant : String) : List String → Option RelayDropReason
  | [] => none
  | messageId :: rest =>
    match lookupInboundSender messageId with
    | none => some .receiptIdUnknown
    | some knownSender =>
      if knownSender ≠ participant then some .receiptParticipantMismatch
      else checkReceiptIds participant rest

def checkGroupReceipt (node : BinaryNode) : Option RelayDropReason :=
  match given node "id", given node "participant" with
  | some _, some participant =>
    if validReceiptShape node then checkReceiptIds lookupInboundSender participant (collectReceiptIds node)
    else some .receiptMalformed
  | _, _ => some .receiptMalformed

def isGroupReceipt (node : BinaryNode) (toJid : String) : Bool :=
  tagOf node = "receipt" && (isGroupJid toJid || isGroupJid ((attr node "recipient").getD ""))

def decideWhatsappRelay (node : BinaryNode) : RelayDecision :=
  if tagOf node ∉ RELAY_TAG_ALLOWLIST then .drop .tagNotAllowlisted
  else
    match given node "to" with
    | none => .drop .noToAttr
    | some toJid =>
      match resolveJid toJid, (given node "recipient").map resolveJid with
      | none, _ => .drop .unboundJid
      | _, some none => .drop .unboundJid
      | some relayToJid, relayRecipientJid =>
        match checkBounds MAX_NODE_DEPTH MAX_NODE_COUNT node with
        | .tooDeep => .drop .nodeTooDeep
        | .tooWide => .drop .nodeTooWide
        | .ok =>
          match if isGroupReceipt node toJid then checkGroupReceipt lookupInboundSender node else none with
          | some reason => .drop reason
          | none => .relay (withRelayAddresses node relayToJid relayRecipientJid.join)

example : decideWhatsappRelay (fun jid => some ("g" ++ jid)) (fun _ => none)
    (.node "presence" [("to", "1"), ("from", "2")] .absent) =
      .relay (.node "presence" [("to", "g1")] .absent) := rfl

end

section
variable {node : BinaryNode} {depth : ℕ}

lemma nodesBelow_eq (depth : ℕ) (children : List BinaryNode) :
    nodesBelow depth children = children.flatMap (nodesFrom depth) := by
  induction children with
  | nil => rfl
  | cons child children ih => rw [nodesBelow, ih, List.flatMap_cons]

lemma nodesFrom_eq (depth : ℕ) (node : BinaryNode) :
    nodesFrom depth node = (node, depth) :: (children node).flatMap (nodesFrom (depth + 1)) := by
  obtain ⟨tag, attrs, content⟩ := node
  cases content with
  | nodes below => rw [nodesFrom, nodesIn, nodesBelow_eq]; rfl
  | _ => rfl

mutual

lemma nodesFrom_scrub (depth : ℕ) : ∀ node, nodesFrom depth (scrubSpoofAttrs node) =
    (nodesFrom depth node).map fun place => (scrubSpoofAttrs place.1, place.2)
  | .node tag attrs content => by
    rw [nodesFrom, map_cons, ← nodesIn_scrub (depth + 1) content, scrubSpoofAttrs, nodesFrom]

lemma nodesIn_scrub (depth : ℕ) : ∀ content, nodesIn depth (scrubContent content) =
    (nodesIn depth content).map fun place => (scrubSpoofAttrs place.1, place.2)
  | .nodes children => by rw [nodesIn, ← nodesBelow_scrub depth children, scrubContent, nodesIn]
  | .absent => rfl
  | .text _ => rfl
  | .bytes _ => rfl

lemma nodesBelow_scrub (depth : ℕ) : ∀ children, nodesBelow depth (scrubAll children) =
    (nodesBelow depth children).map fun place => (scrubSpoofAttrs place.1, place.2)
  | [] => rfl
  | child :: children => by
    rw [nodesBelow, map_append, ← nodesFrom_scrub depth child, ← nodesBelow_scrub depth children,
      scrubAll, nodesBelow]

end

lemma lookup_filter {attrs : List (String × String)} {keeps : String → Bool} (key : String) :
    (attrs.filter fun attr => keeps attr.1).lookup key = if keeps key then attrs.lookup key else none := by
  induction attrs with
  | nil => simp
  | cons attr attrs ih => grind

lemma lookup_setAttr (attrs : List (String × String)) (key v alt : String) :
    (setAttr attrs key v).lookup alt = if alt = key then some v else attrs.lookup alt := by
  unfold setAttr
  split
  · rename_i there
    induction attrs with
    | nil => simp at there
    | cons attr attrs ih =>
      by_cases within : key ∈ attrs.map Prod.fst
      · grind
      · have untouched : attrs.map (fun attr => if attr.1 = key then (key, v) else attr) = attrs := by
          conv_rhs => rw [← map_id attrs]
          refine map_congr_left fun alt mem => if_neg fun same => within ?_
          exact mem_map.mpr ⟨alt, mem, same⟩
        have own : attr.1 = key := by
          rcases mem_cons.mp there with same | later
          · exact same.symm
          · exact absurd later within
        rw [map_cons, untouched, if_pos own, lookup_cons, lookup_cons, own]
        by_cases same : alt = key
        · simp [same]
        · rw [beq_eq_false_iff_ne.mpr same, if_neg same]
  · grind

lemma attr_scrub (node : BinaryNode) (key : String) :
    attr (scrubSpoofAttrs node) key = if key = "from" ∨ key = "name" then none else attr node key := by
  obtain ⟨tag, attrs, content⟩ := node
  have scrubbed := @lookup_filter attrs (fun name => name ≠ "from" ∧ name ≠ "name") key
  simp only [attr, attrsOf, scrubSpoofAttrs, scrubbed]
  grind

end

section
variable {maxDepth maxCount visited depth fuel : ℕ} {stack : List (BinaryNode × ℕ)}

lemma pushChildren_eq (children : List BinaryNode) (room : visited + stack.length ≤ maxCount) :
    pushChildren maxCount visited depth children stack = if visited + (children.length + stack.length) ≤ maxCount then
        some ((children.map (·, depth + 1)).reverse ++ stack) else none := by
  induction children generalizing stack with
  | nil => simp [pushChildren, room]
  | cons child children ih =>
    unfold pushChildren
    split
    · rw [if_neg]
      simp only [List.length_cons]
      omega
    · rw [ih (by simp only [List.length_cons]; omega)]
      simp only [List.length_cons, map_cons, reverse_cons, append_assoc, singleton_append]
      congr 1
      rw [eq_iff_iff]
      omega

def waiting (stack : List (BinaryNode × ℕ)) : List (BinaryNode × ℕ) :=
  stack.flatMap fun place => nodesFrom place.2 place.1

lemma length_le_waiting (stack : List (BinaryNode × ℕ)) : stack.length ≤ (waiting stack).length := by
  induction stack with
  | nil => exact Nat.le_refl 0
  | cons place stack ih =>
    rw [waiting, List.flatMap_cons, nodesFrom_eq, List.length_append, List.length_cons, List.length_cons]
    rw [waiting] at ih
    omega

lemma checkStack_ok (room : visited + stack.length ≤ maxCount) (enough : (waiting stack).length ≤ fuel) :
    checkStack maxDepth maxCount fuel visited stack = .ok ↔
      visited + (waiting stack).length ≤ maxCount ∧ ∀ place ∈ waiting stack, place.2 ≤ maxDepth := by
  induction fuel generalizing visited stack with
  | zero =>
    have least := length_le_waiting stack
    obtain rfl : stack = [] := eq_nil_of_length_eq_zero (by omega)
    simpa [checkStack, waiting] using room
  | succ fuel ih =>
    cases stack with
    | nil => simpa [checkStack, waiting] using room
    | cons top stack =>
      obtain ⟨node, depth⟩ := top
      let later := ((children node).map (·, depth + 1)).reverse ++ stack
      have after : (waiting ((node, depth) :: stack)).Perm ((node, depth) :: waiting later) := by
        rw [waiting, List.flatMap_cons, nodesFrom_eq]
        refine List.Perm.cons _ ?_
        show List.Perm _ (List.flatMap _ _)
        rw [flatMap_append]
        refine List.Perm.append_right _ ?_
        have turned := ((children node).map (·, depth + 1)).reverse_perm.symm.flatMap_right
          (fun place => nodesFrom place.2 place.1)
        rwa [flatMap_map] at turned
      have count := after.length_eq
      have least := length_le_waiting later
      simp only [List.length_cons] at room count
      unfold checkStack
      split
      · rename_i deep
        have isIn : (node, depth) ∈ waiting ((node, depth) :: stack) := after.mem_iff.mpr mem_cons_self
        simp only [reduceCtorEq, false_iff, not_and]
        exact fun _ within => absurd (within _ isIn) (by simpa using deep)
      · rename_i shallow
        have laterLength : later.length = (children node).length + stack.length := by simp [later]
        rw [pushChildren_eq _ (by omega)]
        by_cases fits : visited + 1 + ((children node).length + stack.length) ≤ maxCount
        · have shallow : depth ≤ maxDepth := Nat.le_of_not_lt shallow
          have whole : visited + 1 + (waiting later).length =
              visited + (waiting ((node, depth) :: stack)).length := by omega
          rw [if_pos fits]
          show checkStack maxDepth maxCount fuel (visited + 1) later = .ok ↔ _
          rw [ih (by omega) (by omega), whole]
          simp [after.mem_iff, shallow]
        · rw [if_neg fits]
          simp only [reduceCtorEq, false_iff, not_and]
          omega

end

section

def Acknowledges (node : BinaryNode) (id : String) : Prop :=
  given node "id" = some id ∨
    ∃ listNode ∈ children node, ∃ item ∈ children listNode, given item "id" = some id

def ToGroup (sent forwarded : BinaryNode) : Prop :=
  ∃ node ∈ [sent, forwarded], ∃ key ∈ ["to", "recipient"], ∃ jid, attr node key = some jid ∧ isGroupJid jid = true

def Verified (lookupInboundSender : String → Option String) (node : BinaryNode) : Prop :=
  ∃ participant, attr node "participant" = some participant ∧
    ∀ id, Acknowledges node id → lookupInboundSender id = some participant

structure Sanitised (resolveJid lookupInboundSender : String → Option String) (sent forwarded : BinaryNode) :
    Prop where
  tag : tagOf forwarded ∈ RELAY_TAG_ALLOWLIST ∧ tagOf forwarded = tagOf sent
  addressed : ∃ asked chat, attr sent "to" = some asked ∧ resolveJid asked = some chat ∧
    attr forwarded "to" = some chat
  recipient : ∀ recipient, attr forwarded "recipient" = some recipient → recipient ≠ "" →
    ∃ asked chat, attr sent "recipient" = some asked ∧ resolveJid asked = some chat ∧
      recipient = if chat = "" then asked else chat
  unspoofed : ∀ place ∈ nodesFrom 0 forwarded, attr place.1 "from" = none ∧ attr place.1 "name" = none
  bounded : (nodesFrom 0 forwarded).length ≤ MAX_NODE_COUNT ∧
    ∀ place ∈ nodesFrom 0 forwarded, place.2 ≤ MAX_NODE_DEPTH
  receipt : tagOf forwarded = "receipt" → ToGroup sent forwarded → Verified lookupInboundSender forwarded

/-- A receipt for no group as the agent addressed it, which the resolver sends to one. -/
def Redirected (resolveJid : String → Option String) (sent : BinaryNode) : Prop :=
  ∃ asked chat recipient, tagOf sent = "receipt" ∧ given sent "to" = some asked ∧ resolveJid asked = some chat ∧
    (given sent "recipient").map resolveJid = recipient ∧ recipient ≠ some none ∧
    checkBounds MAX_NODE_DEPTH MAX_NODE_COUNT sent = .ok ∧ isGroupReceipt sent asked = false ∧
    (isGroupJid chat = true ∨ isGroupJid (recipient.join.getD "") = true)

variable {resolveJid lookupInboundSender : String → Option String} {node : BinaryNode}
  {toJid participant : String} {recipientJid : Option String}

lemma children_scrub (node : BinaryNode) :
    children (scrubSpoofAttrs node) = (children node).map scrubSpoofAttrs := by
  obtain ⟨tag, attrs, content⟩ := node
  have all (below : List BinaryNode) : scrubAll below = below.map scrubSpoofAttrs := by
    induction below with
    | nil => rfl
    | cons child below ih => rw [scrubAll, ih, map_cons]
  cases content with
  | nodes below => exact all below
  | _ => rfl

lemma attr_forwarded (key : String) : attr (withRelayAddresses node toJid recipientJid) key =
    if key = "to" then some toJid else if key = "recipient" ∧ (recipientJid.filter (· ≠ "")).isSome then recipientJid
    else attr (scrubSpoofAttrs node) key := by
  show (match recipientJid.filter (· ≠ "") with
    | some jid => setAttr (setAttr _ "to" toJid) "recipient" jid
    | none => setAttr _ "to" toJid).lookup key = _
  cases recipientJid with
  | none => simp [lookup_setAttr, attr]
  | some jid =>
    by_cases empty : jid = ""
    · simp [Option.filter, empty, lookup_setAttr, attr]
    · by_cases same : key = "recipient"
      · simp [Option.filter, same, empty, lookup_setAttr]
      · simp [Option.filter, same, empty, lookup_setAttr, attr]

lemma given_forwarded {key} (kept : key = "id" ∨ key = "participant") :
    given (scrubSpoofAttrs node) key = given node key ∧
      given (withRelayAddresses node toJid recipientJid) key = given node key := by
  rcases kept with rfl | rfl <;> simp [given, attr_forwarded, attr_scrub]

lemma nodesFrom_forwarded : nodesFrom 0 (withRelayAddresses node toJid recipientJid) =
    (withRelayAddresses node toJid recipientJid, 0) ::
      ((children node).flatMap (nodesFrom 1)).map fun place => (scrubSpoofAttrs place.1, place.2) := by
  rw [nodesFrom_eq]
  show _ :: (children (scrubSpoofAttrs node)).flatMap _ = _
  rw [children_scrub, flatMap_map, map_flatMap]
  simp only [nodesFrom_scrub]

lemma checkReceiptIds_none (ids : List String) : checkReceiptIds lookupInboundSender participant ids = none ↔
      ∀ id ∈ ids, lookupInboundSender id = some participant := by
  induction ids with
  | nil => simp [checkReceiptIds]
  | cons id ids ih =>
    cases known : lookupInboundSender id with
    | none => simp [checkReceiptIds, known]
    | some sender =>
      by_cases same : sender = participant
      · simp [checkReceiptIds, known, same, ih]
      · simp [checkReceiptIds, known, same]

lemma acknowledged_collected (valid : validReceiptShape node = true) {id}
    (acknowledges : Acknowledges node id) : id ∈ collectReceiptIds node := by
  unfold collectReceiptIds
  rw [mem_append]
  rcases acknowledges with own | ⟨listNode, below, item, isIn, named⟩
  · left
    simp [own]
  · right
    obtain ⟨tag, attrs, content⟩ := node
    match content with
    | .nodes [only] =>
      obtain rfl := mem_singleton.mp below
      obtain ⟨listTag, listAttrs, listContent⟩ := listNode
      cases listContent with
      | nodes items =>
        simp only [validReceiptShape, contentOf, Bool.and_eq_true, decide_eq_true_eq] at valid
        have valid' := all_eq_true.mp valid.2 item isIn
        simp only [validReceiptItem, Bool.and_eq_true, decide_eq_true_eq] at valid'
        refine mem_flatMap.mpr ⟨_, mem_filter.mpr ⟨below, by simpa using valid.1⟩, ?_⟩
        exact mem_filterMap.mpr ⟨item, mem_filter.mpr ⟨isIn, by simpa using valid'.1.1⟩, named⟩
      | _ => cases isIn
    | .nodes (_ :: _ :: _) => cases valid
    | .nodes [] => cases below
    | .absent | .text _ | .bytes _ => cases below

lemma acknowledges_forwarded {id} :
    Acknowledges (withRelayAddresses node toJid recipientJid) id ↔ Acknowledges node id := by
  have below : children (withRelayAddresses node toJid recipientJid) = (children node).map scrubSpoofAttrs :=
    children_scrub node
  unfold Acknowledges
  rw [below, (given_forwarded (.inl rfl)).2]
  have same (item : BinaryNode) : given (scrubSpoofAttrs item) "id" = given item "id" :=
    (@given_forwarded item "" none "id" (.inl rfl)).1
  simp [children_scrub, same]

lemma checkGroupReceipt_none (checked : checkGroupReceipt lookupInboundSender node = none) :
    ∃ participant, given node "participant" = some participant ∧
      ∀ id, Acknowledges node id → lookupInboundSender id = some participant := by
  unfold checkGroupReceipt at checked
  split at checked
  · rename_i participant _ isParticipant
    split at checked
    · rename_i valid
      exact ⟨participant, isParticipant, fun id acknowledges =>
        (checkReceiptIds_none _).mp checked id (acknowledged_collected valid acknowledges)⟩
    · cases checked
  · cases checked

lemma given_eq_some {key v} : given node key = some v ↔ attr node key = some v ∧ v ≠ "" := by
  simp [given, Option.filter_eq_some_iff]

lemma decideWhatsappRelay_relay {forwarded} :
    decideWhatsappRelay resolveJid lookupInboundSender node = .relay forwarded ↔
    ∃ asked chat recipient, tagOf node ∈ RELAY_TAG_ALLOWLIST ∧ given node "to" = some asked ∧
      resolveJid asked = some chat ∧ (given node "recipient").map resolveJid = recipient ∧ recipient ≠ some none ∧
      checkBounds MAX_NODE_DEPTH MAX_NODE_COUNT node = .ok ∧
      (isGroupReceipt node asked = true → checkGroupReceipt lookupInboundSender node = none) ∧
      forwarded = withRelayAddresses node chat recipient.join := by
  constructor
  · intro relays
    unfold decideWhatsappRelay at relays
    split at relays
    · cases relays
    rename_i listed
    split at relays
    · cases relays
    rename_i asked isAsked
    split at relays
    · cases relays
    · cases relays
    rename_i chat isChat told
    split at relays
    · cases relays
    · cases relays
    rename_i fits
    split at relays
    · cases relays
    rename_i checked
    refine ⟨asked, chat, _, not_not.mp listed, isAsked, isChat, rfl, told, fits, fun group => ?_, ?_⟩
    · rwa [if_pos group] at checked
    · cases relays
      rfl
  · rintro ⟨asked, chat, recipient, listed, isAsked, isChat, rfl, told, fits, group, rfl⟩
    have checked : (if isGroupReceipt node asked then checkGroupReceipt lookupInboundSender node else none) = none := by
      split
      · exact group ‹_›
      · rfl
    unfold decideWhatsappRelay
    cases isRecipient : (given node "recipient").map resolveJid with
    | none => simp [listed, isAsked, isChat, fits, checked]
    | some resolved =>
      cases resolved with
      | none => exact absurd isRecipient told
      | some group => simp [listed, isAsked, isChat, fits, checked]

lemma recipient_forwarded : (recipientJid = none ∨ recipientJid = some "") ∧
      attr (withRelayAddresses node toJid recipientJid) "recipient" = attr node "recipient" ∨
    attr (withRelayAddresses node toJid recipientJid) "recipient" = recipientJid := by
  cases recipientJid with
  | none => simp [attr_forwarded, attr_scrub]
  | some jid => by_cases empty : jid = "" <;> simp [attr_forwarded, attr_scrub, Option.filter, empty]

lemma toGroup_iff {asked} (isReceipt : tagOf node = "receipt") (isAsked : attr node "to" = some asked) :
    ToGroup node (withRelayAddresses node toJid recipientJid) ↔
      isGroupReceipt node asked = true ∨ isGroupJid toJid = true ∨ isGroupJid (recipientJid.getD "") = true := by
  have own : isGroupReceipt node asked = true ↔
      isGroupJid asked = true ∨ isGroupJid ((attr node "recipient").getD "") = true := by
    simp [isGroupReceipt, isReceipt]
  have named {recipient : Option String} {jid} (isJid : recipient = some jid) (isGroup : isGroupJid jid = true) :
      isGroupJid (recipient.getD "") = true := by rwa [isJid]
  have namedBy {recipient : Option String} (isGroup : isGroupJid (recipient.getD "") = true) :
      ∃ jid, recipient = some jid ∧ isGroupJid jid = true := by
    cases recipient with
    | none => exact absurd isGroup (by decide)
    | some jid => exact ⟨jid, rfl, isGroup⟩
  have toForwarded : attr (withRelayAddresses node toJid recipientJid) "to" = some toJid := by simp [attr_forwarded]
  have atMost := @recipient_forwarded node toJid recipientJid
  rw [own]
  constructor
  · rintro ⟨place, isPlace, key, isKey, jid, isJid, isGroup⟩
    simp only [mem_cons, not_mem_nil, or_false] at isPlace isKey
    rcases isPlace with rfl | rfl <;> rcases isKey with rfl | rfl
    · obtain rfl := Option.some.inj (isAsked.symm.trans isJid)
      exact .inl (.inl isGroup)
    · exact .inl (.inr (named isJid isGroup))
    · obtain rfl := Option.some.inj (toForwarded.symm.trans isJid)
      exact .inr (.inl isGroup)
    · rcases atMost with ⟨_, kept⟩ | told
      · exact .inl (.inr (named (kept.symm.trans isJid) isGroup))
      · exact .inr (.inr (named (told.symm.trans isJid) isGroup))
  · rintro ((isGroup | isGroup) | isGroup | isGroup)
    · exact ⟨node, by simp, "to", by simp, asked, isAsked, isGroup⟩
    · obtain ⟨jid, isJid, isGroup⟩ := namedBy isGroup
      exact ⟨node, by simp, "recipient", by simp, jid, isJid, isGroup⟩
    · exact ⟨_, mem_cons_of_mem _ mem_cons_self, "to", by simp, toJid, toForwarded, isGroup⟩
    · obtain ⟨jid, rfl, isGroup⟩ := namedBy isGroup
      rcases atMost with ⟨absent | empty, _⟩ | told
      · cases absent
      · obtain rfl := Option.some.inj empty
        exact absurd isGroup (by decide)
      · exact ⟨_, mem_cons_of_mem _ mem_cons_self, "recipient", by simp, jid, told, isGroup⟩

lemma verified_forwarded : Verified lookupInboundSender (withRelayAddresses node toJid recipientJid) ↔
    Verified lookupInboundSender node := by
  simp [Verified, acknowledges_forwarded, attr_forwarded, attr_scrub]

lemma not_redirected (keeps : ∀ asked chat, resolveJid asked = some chat → isGroupJid chat = true →
    isGroupJid asked = true) : ¬ Redirected resolveJid node := by
  rintro ⟨asked, chat, recipient, isReceipt, _, isChat, isRecipient, _, _, group, toChat | toRecipient⟩
  · simp [isGroupReceipt, isReceipt, keeps asked chat isChat toChat] at group
  · subst isRecipient
    cases isGiven : given node "recipient" with
    | none => simp [isGiven, isGroupJid] at toRecipient
    | some own =>
      cases resolved : resolveJid own with
      | none => simp [isGiven, resolved, isGroupJid] at toRecipient
      | some other =>
        have toOwn := keeps own other resolved (by simpa [isGiven, resolved] using toRecipient)
        simp [isGroupReceipt, isReceipt, (given_eq_some.mp isGiven).1, toOwn] at group

theorem relay_sanitised (resolveJid lookupInboundSender : String → Option String) (sent : BinaryNode) :
    (∀ forwarded, decideWhatsappRelay resolveJid lookupInboundSender sent = .relay forwarded →
      Sanitised resolveJid lookupInboundSender sent forwarded) ↔
    (Redirected resolveJid sent → Verified lookupInboundSender sent) := by
  constructor
  · rintro sanitised ⟨asked, chat, recipient, isReceipt, isAsked, isChat, isRecipient, told, fits, group, toGroup⟩
    have listed : tagOf sent ∈ RELAY_TAG_ALLOWLIST := by simp [isReceipt, RELAY_TAG_ALLOWLIST]
    have relays := (@decideWhatsappRelay_relay resolveJid lookupInboundSender sent _).mpr ⟨asked, chat, recipient, listed, isAsked, isChat, isRecipient, told,
      fits, by simp [group], rfl⟩
    have tag : tagOf (withRelayAddresses sent chat recipient.join) = "receipt" := by
      rw [← isReceipt]
      cases sent
      rfl
    exact verified_forwarded.mp ((sanitised _ relays).receipt tag
      ((toGroup_iff isReceipt (given_eq_some.mp isAsked).1).mpr (.inr toGroup)))
  intro verified forwarded relays
  obtain ⟨asked, chat, recipient, listed, isAsked, isChat, isRecipient, told, fits, group, rfl⟩ :=
    decideWhatsappRelay_relay.mp relays
  have isTo := (given_eq_some.mp isAsked).1
  have tag : tagOf (withRelayAddresses sent chat recipient.join) = tagOf sent := by cases sent; rfl
  have bounded := (checkStack_ok (by simp [MAX_NODE_COUNT]) (by simp [waiting])).mp fits
  simp only [waiting, List.flatMap_singleton, Nat.zero_add, nodesFrom_eq 0 sent] at bounded
  constructor
  · exact ⟨tag ▸ listed, tag⟩
  · exact ⟨asked, chat, isTo, isChat, by simp [attr_forwarded]⟩
  · intro address isAddress some_address
    simp only [attr_forwarded, attr_scrub] at isAddress
    cases isGiven : given sent "recipient" with
    | none =>
      rw [isGiven] at isRecipient
      subst isRecipient
      have sentOne : attr sent "recipient" = some address := by simpa using isAddress
      rw [given_eq_some.mpr ⟨sentOne, some_address⟩] at isGiven
      cases isGiven
    | some own =>
      rw [isGiven] at isRecipient
      subst isRecipient
      have isOwn := (given_eq_some.mp isGiven).1
      cases resolved : resolveJid own with
      | none => simp [resolved] at told
      | some group =>
        refine ⟨own, group, isOwn, resolved, ?_⟩
        by_cases empty : group = ""
        · simp [resolved, empty, isOwn, Option.filter] at isAddress
          simp [empty, isAddress]
        · simp [resolved, empty, Option.filter] at isAddress
          simp [isAddress, some_address]
  · rw [nodesFrom_forwarded]
    refine forall_mem_cons.mpr ⟨by simp [attr_forwarded, attr_scrub], ?_⟩
    exact forall_mem_map.mpr fun place _ => by simp [attr_scrub]
  · rw [nodesFrom_forwarded]
    refine ⟨by simpa using bounded.1, forall_mem_cons.mpr ⟨Nat.zero_le _, ?_⟩⟩
    exact forall_mem_map.mpr fun place mem => bounded.2 place (mem_cons_of_mem _ mem)
  · intro isReceipt toGroup
    rw [tag] at isReceipt
    rw [verified_forwarded]
    cases checks : isGroupReceipt sent asked with
    | true =>
      obtain ⟨participant, isParticipant, known⟩ := checkGroupReceipt_none (group checks)
      exact ⟨participant, (given_eq_some.mp isParticipant).1, known⟩
    | false =>
      have toGroup := (toGroup_iff isReceipt isTo).mp toGroup
      rw [checks] at toGroup
      exact verified ⟨asked, chat, recipient, isReceipt, isAsked, isChat, isRecipient, told, fits, checks,
        toGroup.resolve_left Bool.false_ne_true⟩

/-- A group's other jid, remembered as an alias of it. -/
def groupAlias (jid : String) : Option String := if jid = "7@lid" then some "987654@g.us" else none

def aliasReceipt : BinaryNode :=
  .node "receipt" [("to", "7@lid"), ("id", "MSG-A"), ("participant", "5550999@s.whatsapp.net")] .absent

theorem redirected_receipt_unchecked :
    ∃ forwarded, decideWhatsappRelay groupAlias (fun _ => none) aliasReceipt = .relay forwarded ∧
      attr forwarded "to" = some "987654@g.us" ∧ ¬ Sanitised groupAlias (fun _ => none) aliasReceipt forwarded := by
  refine ⟨withRelayAddresses aliasReceipt "987654@g.us" none, rfl, rfl, fun sanitised => ?_⟩
  have toGroup : ToGroup aliasReceipt (withRelayAddresses aliasReceipt "987654@g.us" none) :=
    ⟨_, mem_cons_of_mem _ mem_cons_self, "to", mem_cons_self, "987654@g.us", rfl, rfl⟩
  obtain ⟨participant, _, known⟩ := sanitised.receipt rfl toGroup
  cases known "MSG-A" (.inl rfl)

end
end Clawdi.WhatsApp
