import Mathlib

namespace Clawdi.Signal.Codec
open List
open Function (update)

abbrev Bytes := List UInt8

inductive Failure
  | valueError (text : String)
  | indexError
  /-- The loop is not at its end. -/
  | running

def protoVarint (v : ℕ) : Bytes :=
  if v ≥ 0x80 then UInt8.ofNat ((v &&& 0x7F) ||| 0x80) :: protoVarint (v >>> 7) else [UInt8.ofNat v]
termination_by v
decreasing_by
  rw [Nat.shiftRight_eq_div_pow]
  omega

variable (fields : Fields) (msg : WhisperMessage) (fieldNumber : ℕ) {v : ℕ} (field : ℕ) (name : String)

def protoKey (wireType : ℕ) : Bytes := protoVarint ((fieldNumber <<< 3) ||| wireType)
def protoBytesField (payload : Bytes) : Bytes := protoKey fieldNumber 2 ++ protoVarint payload.length ++ payload

structure WhisperMessage where
  ephemeralKey : Bytes
  counter : ℕ
  previousCounter : ℕ
  ciphertext : Bytes

structure PreKeyMessage where
  preKeyId : Option ℕ
  baseKey : Bytes
  identityKey : Bytes
  message : Bytes
  registrationId : ℕ
  signedPreKeyId : ℕ

def encodeWhisperMessage : Bytes :=
  [protoBytesField 1 msg.ephemeralKey, protoKey 2 0 ++ protoVarint msg.counter,
    protoKey 3 0 ++ protoVarint msg.previousCounter, protoBytesField 4 msg.ciphertext].flatten

def encodePreKeyMessage (msg : PreKeyMessage) : Bytes :=
  ((msg.preKeyId.map fun id => protoKey 1 0 ++ protoVarint id).toList ++
    [protoBytesField 2 msg.baseKey, protoBytesField 3 msg.identityKey, protoBytesField 4 msg.message,
      protoKey 5 0 ++ protoVarint msg.registrationId, protoKey 6 0 ++ protoVarint msg.signedPreKeyId]).flatten

def readProtoVarint (data : Bytes) (pos shift v : ℕ) : Except Failure (ℕ × ℕ) :=
  if pos < data.length then
    match data[pos]? with
    | none => .error .indexError
    | some byte =>
      let v := v ||| ((byte.toNat &&& 0x7F) <<< shift)
      if byte.toNat &&& 0x80 = 0 then .ok (v, pos + 1)
      else if shift + 7 > 63 then .error (.valueError "signal: varint too long")
      else readProtoVarint data (pos + 1) (shift + 7) v
  else .error (.valueError "signal: truncated varint")
termination_by data.length - pos

inductive Value
  | int (v : ℕ)
  | bytes (v : Bytes)

abbrev Fields := ℕ → Option Value

/-- The loop with a bound on its rounds. -/
def decodeFieldsFrom (data : Bytes) : ℕ → ℕ → Fields → Except Failure Fields
  | 0, pos, out => if pos < data.length then .error .running else .ok out
  | rounds + 1, pos, out =>
    if pos < data.length then do
      let (key, pos) ← readProtoVarint data pos 0 0
      let fieldNumber := key >>> 3
      if key &&& 0x07 = 0 then
        let (v, pos) ← readProtoVarint data pos 0 0
        decodeFieldsFrom data rounds pos (update out fieldNumber (some (.int v)))
      else if key &&& 0x07 = 2 then
        let (length, pos) ← readProtoVarint data pos 0 0
        if pos + length > data.length then throw (.valueError "signal: protobuf length out of range")
        decodeFieldsFrom data rounds (pos + length)
          (update out fieldNumber (some (.bytes ((data.drop pos).take length))))
      else throw (.valueError ("signal: unsupported protobuf wire type " ++ toString (key &&& 0x07)))
    else .ok out

def decodeProtobufFields (data : Bytes) : Except Failure Fields := decodeFieldsFrom data data.length 0 fun _ => none

def requiredBytesField : Except Failure Bytes :=
  match fields field with
  | some (.bytes v) => .ok v
  | _ => .error (.valueError ("signal: missing " ++ name))

def requiredIntField : Except Failure ℕ :=
  match fields field with
  | some (.int v) => .ok v
  | _ => .error (.valueError ("signal: missing " ++ name))

def optionalIntField : Option ℕ :=
  match fields field with
  | some (.int v) => some v
  | _ => none

def decodeWhisperMessage (data : Bytes) : Except Failure WhisperMessage := do
  let fields ← decodeProtobufFields data
  return {
    ephemeralKey := ← requiredBytesField fields 1 "ephemeralKey"
    counter := ← requiredIntField fields 2 "counter"
    previousCounter := ← requiredIntField fields 3 "previousCounter"
    ciphertext := ← requiredBytesField fields 4 "ciphertext" }

def decodePreKeyMessage (data : Bytes) : Except Failure PreKeyMessage := do
  let fields ← decodeProtobufFields data
  return {
    preKeyId := optionalIntField fields 1
    baseKey := ← requiredBytesField fields 2 "baseKey"
    identityKey := ← requiredBytesField fields 3 "identityKey"
    message := ← requiredBytesField fields 4 "message"
    registrationId := ← requiredIntField fields 5 "registrationId"
    signedPreKeyId := ← requiredIntField fields 6 "signedPreKeyId" }

lemma protoVarint_small (small : v < 128) : protoVarint v = [UInt8.ofNat v] := by
  rw [protoVarint, if_neg (by omega)]

lemma protoVarint_large (large : 128 ≤ v) :
    protoVarint v = UInt8.ofNat (v % 128 + 128) :: protoVarint (v / 128) := by
  have bits : (v &&& 0x7F) ||| 0x80 = v % 128 + 128 := by
    rw [show 0x7F = 2 ^ 7 - 1 from rfl, Nat.and_two_pow_sub_one_eq_mod, Nat.or_comm]
    exact (Nat.two_pow_add_eq_or_of_lt (i := 7) (Nat.mod_lt _ (by decide)) 1).symm.trans (Nat.add_comm _ _)
  rw [protoVarint, if_pos large, bits, Nat.shiftRight_eq_div_pow]

variable {data rest : Bytes} {pos : ℕ}

lemma getElem_of_drop {byte} (unread : data.drop pos = byte :: rest) :
    pos < data.length ∧ data[pos]? = some byte ∧ data.drop (pos + 1) = rest := by
  have inside : pos < data.length := by
    by_contra past
    rw [drop_eq_nil_of_le (by omega)] at unread
    cases unread
  rw [drop_eq_getElem_cons inside] at unread
  obtain ⟨here, after⟩ := cons.inj unread
  exact ⟨inside, by rw [getElem?_eq_getElem inside, here], after⟩

lemma add_bits {shift : ℕ} (fits : v < 2 ^ shift) (bits : ℕ) : v ||| (bits <<< shift) = v + bits * 2 ^ shift := by
  rw [Nat.or_comm, ← Nat.shiftLeft_add_eq_or_of_lt fits, Nat.shiftLeft_eq, Nat.add_comm]

lemma low_bits (v : ℕ) : v &&& 0x7F = v % 128 := Nat.and_two_pow_sub_one_eq_mod v 7
lemma high_bit : ∀ v < 256, v &&& 0x80 = 0 ↔ v < 128 := by decide +kernel

lemma read_varint {v groups acc : ℕ} (fits : acc < 2 ^ (7 * groups)) (within : groups ≤ 9)
    (bounded : v < 2 ^ (70 - 7 * groups)) (unread : data.drop pos = protoVarint v ++ rest) :
    ∃ next, readProtoVarint data pos (7 * groups) acc = .ok (acc + v * 2 ^ (7 * groups), next) ∧ data.drop next =
      rest := by
  induction v using Nat.strongRecOn generalizing pos groups acc with
  | ind v ih =>
    by_cases small : v < 128
    · rw [protoVarint_small small] at unread
      obtain ⟨inside, here, after⟩ := getElem_of_drop unread
      have byte : (UInt8.ofNat v).toNat = v := by
        rw [UInt8.toNat_ofNat']
        omega
      refine ⟨pos + 1, ?_, after⟩
      rw [readProtoVarint, if_pos inside, here]
      simp only [byte, low_bits, Nat.mod_eq_of_lt small, (high_bit v (by omega)).mpr small, add_bits fits, if_true]
    · rw [protoVarint_large (Nat.not_lt.mp small)] at unread
      obtain ⟨inside, here, after⟩ := getElem_of_drop unread
      have byte : (UInt8.ofNat (v % 128 + 128)).toNat = v % 128 + 128 := by
        rw [UInt8.toNat_ofNat']
        omega
      have more : groups + 1 ≤ 9 := by
        by_contra late
        have tight : groups = 9 := by omega
        subst tight
        omega
      have split : (2 : ℕ) ^ (70 - 7 * groups) = 2 ^ (70 - 7 * (groups + 1)) * 128 := by
        rw [show 70 - 7 * groups = 70 - 7 * (groups + 1) + 7 by omega, Nat.pow_add]
      have grown : (2 : ℕ) ^ (7 * (groups + 1)) = 2 ^ (7 * groups) * 128 := Nat.pow_add 2 (7 * groups) 7
      have low := Nat.mul_le_mul_right (2 ^ (7 * groups)) (show v % 128 ≤ 127 by omega)
      obtain ⟨next, read, left⟩ := @ih (v / 128) (by omega) _ _ (acc + v % 128 * 2 ^ (7 * groups)) (by omega) more
        (by omega) after
      refine ⟨next, ?_, left⟩
      have goes : ¬(v % 128 + 128 &&& 0x80 = 0) := fun zero => absurd ((high_bit _ (by omega)).mp zero) (by omega)
      rw [readProtoVarint, if_pos inside, here]
      simp only [byte, low_bits, goes, if_false, if_neg (show ¬7 * groups + 7 > 63 by omega), add_bits fits,
        Nat.add_mod_right, Nat.mod_mod]
      rw [show 7 * groups + 7 = 7 * (groups + 1) from rfl, read, grown]
      congr 2
      have parts := congrArg (· * 2 ^ (7 * groups)) (Nat.mod_add_div v 128)
      simp only [Nat.add_mul] at parts
      rw [← parts, Nat.mul_comm (2 ^ (7 * groups)), Nat.add_assoc, ← Nat.mul_assoc, Nat.mul_comm 128]

lemma read_spec (data : Bytes) (pos shift v : ℕ) :
    (∃ read next, readProtoVarint data pos shift v = .ok (read, next) ∧ pos < next ∧ next ≤ data.length) ∨
      ∃ text, readProtoVarint data pos shift v = .error (.valueError text) := by
  fun_induction readProtoVarint data pos shift v with
  | case1 pos shift v inside past =>
    rw [getElem?_eq_getElem inside] at past
    cases past
  | case2 pos shift v inside => exact .inl ⟨_, _, rfl, Nat.lt_succ_self pos, inside⟩
  | case3 | case5 => exact .inr ⟨_, rfl⟩
  | case4 pos shift v inside byte here bits more short ih =>
    obtain ⟨read, next, is, after, within⟩ | failed := ih
    · exact .inl ⟨read, next, is, Nat.lt_of_succ_lt after, within⟩
    · exact .inr failed

lemma read_bounds {shift read next : ℕ} (is : readProtoVarint data pos shift v = .ok (read, next)) :
    pos < next ∧ next ≤ data.length := by
  obtain ⟨_, _, alt, bounds⟩ | ⟨_, failed⟩ := read_spec data pos shift v
  · cases is.symm.trans alt
    exact bounds
  · cases is.symm.trans failed

lemma read_value (bounded : v < 2 ^ 70) (unread : data.drop pos = protoVarint v ++ rest) :
    ∃ next, readProtoVarint data pos 0 0 = .ok (v, next) ∧ data.drop next = rest := by
  obtain ⟨next, read, left⟩ := @read_varint data rest pos v 0 0 (by decide) (by decide) bounded unread
  exact ⟨next, by simpa using read, left⟩

lemma protoVarint_ne_nil (v : ℕ) : protoVarint v ≠ [] := by
  rw [protoVarint]
  split <;> exact nofun

def encodeField : ℕ × Value → Bytes
  | (fieldNumber, .int v) => protoKey fieldNumber 0 ++ protoVarint v
  | (fieldNumber, .bytes payload) => protoBytesField fieldNumber payload

/-- The number of a field and the integer or length that follows it. -/
def Fits : ℕ × Value → Prop
  | (fieldNumber, .int v) => fieldNumber < 8 ∧ v < 2 ^ 63
  | (fieldNumber, .bytes payload) => fieldNumber < 8 ∧ payload.length < 2 ^ 63

lemma key_bits {fieldNumber wireType : ℕ} (small : fieldNumber < 8) (wire : wireType < 8) :
    (fieldNumber <<< 3 ||| wireType) < 2 ^ 70 ∧ (fieldNumber <<< 3 ||| wireType) >>> 3 = fieldNumber ∧
      (fieldNumber <<< 3 ||| wireType) &&& 0x07 = wireType := by
  rw [← Nat.shiftLeft_add_eq_or_of_lt (show wireType < 2 ^ 3 from wire), Nat.shiftLeft_eq, Nat.shiftRight_eq_div_pow,
    show 0x07 = 2 ^ 3 - 1 from rfl, Nat.and_two_pow_sub_one_eq_mod]
  omega

lemma inside_of_drop {part} (nonempty : part ≠ []) (unread : data.drop pos = part ++ rest) : pos < data.length := by
  by_contra past
  rw [drop_eq_nil_of_le (Nat.not_lt.mp past)] at unread
  exact nonempty (append_eq_nil_iff.mp unread.symm).1

lemma decode_field {field : ℕ × Value} (fits : Fits field) (rounds : ℕ) (out : Fields)
    (unread : data.drop pos = encodeField field ++ rest) : ∃ next, decodeFieldsFrom data (rounds + 1) pos out =
        decodeFieldsFrom data rounds next (update out field.1 (some field.2)) ∧ data.drop next = rest := by
  obtain ⟨fieldNumber, v | payload⟩ := field
  · obtain ⟨small, bounded⟩ := fits
    obtain ⟨keyBound, num, wire⟩ := key_bits small (show 0 < 8 by decide)
    rw [encodeField, protoKey, append_assoc] at unread
    have inside := inside_of_drop (protoVarint_ne_nil _) unread
    obtain ⟨middle, readKey, unread⟩ := read_value keyBound unread
    obtain ⟨next, read, left⟩ := read_value (by omega) unread
    refine ⟨next, ?_, left⟩
    rw [decodeFieldsFrom, if_pos inside]
    simp only [readKey, read, bind, Except.bind, wire, num, if_true]
  · obtain ⟨small, bounded⟩ := fits
    obtain ⟨keyBound, num, wire⟩ := key_bits small (show 2 < 8 by decide)
    rw [encodeField, protoBytesField, protoKey, append_assoc, append_assoc] at unread
    have inside := inside_of_drop (protoVarint_ne_nil _) unread
    obtain ⟨middle, readKey, unread⟩ := read_value keyBound unread
    obtain ⟨next, read, left⟩ := read_value (by omega) unread
    have room : ¬next + payload.length > data.length := by
      have length := congrArg length left
      simp only [length_drop, length_append] at length
      have ends := (read_bounds read).2
      omega
    refine ⟨next + payload.length, ?_, ?_⟩
    · rw [decodeFieldsFrom, if_pos inside]
      simp only [readKey, read, bind, Except.bind, wire, num, if_neg room, left, take_left]
      rfl
    · rw [← drop_drop, left, drop_left]

lemma decode_fields {fields : List (ℕ × Value)} (fits : ∀ field ∈ fields, Fits field) {rounds : ℕ}
    (enough : fields.length ≤ rounds) (out : Fields) (unread : data.drop pos = fields.flatMap encodeField) :
    decodeFieldsFrom data rounds pos out =
      .ok (fields.foldl (fun out field => update out field.1 (some field.2)) out) := by
  induction fields generalizing pos rounds out with
  | nil =>
    have past : ¬pos < data.length := by
      intro inside
      rw [drop_eq_getElem_cons inside] at unread
      cases unread
    cases rounds <;> rw [decodeFieldsFrom, if_neg past] <;> rfl
  | cons field fields ih =>
    cases rounds with
    | zero => cases enough
    | succ rounds =>
      obtain ⟨next, is, left⟩ := decode_field (fits field mem_cons_self) rounds out unread
      rw [is, ih (fun field mem => fits field (mem_cons_of_mem _ mem)) (Nat.le_of_succ_le_succ enough) _ left]
      rfl

lemma decode_encoded {fields : List (ℕ × Value)} (fits : ∀ field ∈ fields, Fits field) :
    decodeProtobufFields (fields.flatMap encodeField) =
      .ok (fields.foldl (fun out field => update out field.1 (some field.2)) fun _ => none) := by
  refine decode_fields fits ?_ _ rfl
  clear fits
  induction fields with
  | nil => exact Nat.zero_le _
  | cons field fields ih =>
    have nonempty : 0 < (encodeField field).length := by
      obtain ⟨fieldNumber, v | payload⟩ := field
      all_goals
        refine length_pos_iff.mpr fun empty => ?_
        simp only [encodeField, protoBytesField, protoKey, append_eq_nil_iff] at empty
      · exact protoVarint_ne_nil _ empty.1
      · exact protoVarint_ne_nil _ empty.1.1
    rw [flatMap_cons, length_append, length_cons]
    omega

/-- A run that ends with a value or with a `ValueError`. -/
def Answers {α : Type} (res : Except Failure α) : Prop := ∀ err, res = .error err → ∃ text, err = .valueError text

lemma Answers.bind {α β : Type} {res} {next : α → Except Failure β} (first : Answers res)
    (rest : ∀ a, res = .ok a → Answers (next a)) : Answers (res >>= next) := by
  cases res with
  | error err =>
    rintro _ ⟨⟩
    exact first err rfl
  | ok a => exact rest a rfl

lemma answers_read (data : Bytes) (pos : ℕ) : Answers (readProtoVarint data pos 0 0) := by
  intro err failed
  obtain ⟨_, _, is, _⟩ | ⟨text, is⟩ := read_spec data pos 0 0
  · cases failed.symm.trans is
  · cases failed.symm.trans is
    exact ⟨text, rfl⟩

lemma answers_throw {α : Type} (text : String) : Answers (.error (.valueError text) : Except Failure α) := by
  rintro _ ⟨⟩
  exact ⟨text, rfl⟩

lemma answers_decode (data : Bytes) (rounds pos : ℕ) (out : Fields) (left : data.length ≤ rounds + pos) :
    Answers (decodeFieldsFrom data rounds pos out) := by
  induction rounds generalizing pos out with
  | zero =>
    rw [decodeFieldsFrom, if_neg (by omega)]
    exact nofun
  | succ rounds ih =>
    rw [decodeFieldsFrom]
    split
    · refine (answers_read data pos).bind fun (key, middle) readKey => ?_
      have first := read_bounds readKey
      dsimp only
      split
      · refine (answers_read data middle).bind fun (v, next) read => ?_
        have snd := read_bounds read
        exact ih _ _ (by omega)
      split
      · refine (answers_read data middle).bind fun (length, next) read => ?_
        have snd := read_bounds read
        dsimp only
        split
        · exact answers_throw _
        · exact ih _ _ (by omega)
      · exact answers_throw _
    · exact nofun

lemma answers_bytes : Answers (requiredBytesField fields field name) := by
  rw [requiredBytesField]
  split
  · exact nofun
  · exact answers_throw _

lemma answers_int : Answers (requiredIntField fields field name) := by
  rw [requiredIntField]
  split
  · exact nofun
  · exact answers_throw _

lemma answers_fields (data : Bytes) : Answers (decodeProtobufFields data) :=
  answers_decode data _ 0 _ (Nat.le_refl _)

lemma answers_whisper (data : Bytes) : Answers (decodeWhisperMessage data) := by
  refine (answers_fields data).bind fun fields _ => ?_
  refine (answers_bytes fields 1 _).bind fun _ _ => (answers_int fields 2 _).bind fun _ _ =>
    (answers_int fields 3 _).bind fun _ _ => (answers_bytes fields 4 _).bind fun _ _ => nofun

lemma answers_preKey (data : Bytes) : Answers (decodePreKeyMessage data) := by
  refine (answers_fields data).bind fun fields _ => ?_
  refine (answers_bytes fields 2 _).bind fun _ _ => (answers_bytes fields 3 _).bind fun _ _ =>
    (answers_bytes fields 4 _).bind fun _ _ => (answers_int fields 5 _).bind fun _ _ =>
      (answers_int fields 6 _).bind fun _ _ => nofun

/-- A bytes object holds fewer than 2 ^ 63 bytes. -/
def Sized (data : Bytes) : Prop := data.length < 2 ^ 63

def whisperFields : List (ℕ × Value) :=
  [(1, .bytes msg.ephemeralKey), (2, .int msg.counter), (3, .int msg.previousCounter), (4, .bytes msg.ciphertext)]

lemma whisper_round_trip {msg} (sized : Sized (encodeWhisperMessage msg))
    (counter : msg.counter < 2 ^ 63) (prev : msg.previousCounter < 2 ^ 63) :
    decodeWhisperMessage (encodeWhisperMessage msg) = .ok msg := by
  have parts : encodeWhisperMessage msg = (whisperFields msg).flatMap encodeField := rfl
  have fits : ∀ field ∈ whisperFields msg, Fits field := by
    simp only [Sized, encodeWhisperMessage, protoBytesField, length_flatten, map_cons, length_append,
      sum_cons] at sized
    simp only [whisperFields, forall_mem_cons, Fits]
    refine ⟨⟨by decide, by omega⟩, ⟨by decide, counter⟩, ⟨by decide, prev⟩, ⟨by decide, by omega⟩, nofun⟩
  rw [decodeWhisperMessage, parts, decode_encoded fits]
  rfl

def preKeyFields (msg : PreKeyMessage) : List (ℕ × Value) :=
  (msg.preKeyId.map fun id => (1, .int id)).toList ++
    [(2, .bytes msg.baseKey), (3, .bytes msg.identityKey), (4, .bytes msg.message), (5, .int msg.registrationId),
      (6, .int msg.signedPreKeyId)]

lemma preKey_round_trip {msg} (sized : Sized (encodePreKeyMessage msg))
    (preKeyId : ∀ id ∈ msg.preKeyId, id < 2 ^ 63) (registrationId : msg.registrationId < 2 ^ 63)
    (signedPreKeyId : msg.signedPreKeyId < 2 ^ 63) : decodePreKeyMessage (encodePreKeyMessage msg) = .ok msg := by
  have parts : encodePreKeyMessage msg = (preKeyFields msg).flatMap encodeField := by
    rw [encodePreKeyMessage, preKeyFields]
    cases msg.preKeyId <;> rfl
  have fits : ∀ field ∈ preKeyFields msg, Fits field := by
    simp only [Sized, encodePreKeyMessage, protoBytesField, length_flatten, map_cons, length_append,
      map_append, sum_append, sum_cons] at sized
    rw [preKeyFields, forall_mem_append]
    constructor
    · intro field mem
      obtain ⟨id, is, rfl⟩ := Option.map_eq_some_iff.mp (Option.mem_toList.mp mem)
      exact ⟨by decide, preKeyId id is⟩
    · simp only [forall_mem_cons, Fits]
      refine ⟨⟨by decide, by omega⟩, ⟨by decide, by omega⟩, ⟨by decide, by omega⟩, ⟨by decide, registrationId⟩,
        ⟨by decide, signedPreKeyId⟩, nofun⟩
  rw [decodePreKeyMessage, parts, decode_encoded fits]
  obtain ⟨_ | id⟩ := msg <;> rfl

/-- Both codecs give a message back, and their decoders answer or raise `ValueError` on any bytes. -/
theorem signal_codec :
    (∀ msg, Sized (encodeWhisperMessage msg) → msg.counter < 2 ^ 63 → msg.previousCounter < 2 ^ 63 →
      decodeWhisperMessage (encodeWhisperMessage msg) = .ok msg) ∧
    (∀ msg, Sized (encodePreKeyMessage msg) → (∀ id ∈ msg.preKeyId, id < 2 ^ 63) → msg.registrationId < 2 ^ 63 →
      msg.signedPreKeyId < 2 ^ 63 → decodePreKeyMessage (encodePreKeyMessage msg) = .ok msg) ∧
    ∀ data, Answers (decodeWhisperMessage data) ∧ Answers (decodePreKeyMessage data) :=
  ⟨fun _ => whisper_round_trip, fun _ => preKey_round_trip, fun data => ⟨answers_whisper data, answers_preKey data⟩⟩

theorem signal_codec_sample :
    decodeWhisperMessage (encodeWhisperMessage ⟨[5], 300, 70000, replicate 200 7⟩) =
        .ok ⟨[5], 300, 70000, replicate 200 7⟩ ∧
      decodePreKeyMessage (encodePreKeyMessage ⟨some 16384, replicate 130 1, [], [2], 4294967295, 20⟩) =
        .ok ⟨some 16384, replicate 130 1, [], [2], 4294967295, 20⟩ :=
  ⟨signal_codec.1 _
    (by simp (disch := decide) [Sized, encodeWhisperMessage, protoBytesField, protoKey, protoVarint_small,
      protoVarint_large, -reduceReplicate])
      (by decide) (by decide),
    signal_codec.2.1 _
      (by simp (disch := decide) [Sized, encodePreKeyMessage, protoBytesField, protoKey, protoVarint_small,
        protoVarint_large, -reduceReplicate])
      (by simp) (by decide) (by decide)⟩

end Clawdi.Signal.Codec
