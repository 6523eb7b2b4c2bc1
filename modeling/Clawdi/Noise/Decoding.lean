import Clawdi.Noise.RoundTrip

namespace Clawdi.Noise
open List Nat
variable {α β : Type}
section

def Crashes (out : Except Raised (α × List UInt8)) : Prop := ∃ e, out = .error e ∧ e ≠ .valueError

lemma not_crashes_ok (res : α × List UInt8) : ¬Crashes (.ok res) := by
  rintro ⟨e, same, _⟩
  cases same

variable {data : List UInt8} {x : Reader α} {f : α → Reader β}

lemma crashes_bind : Crashes ((x >>= f) data) ↔
      Crashes (x data) ∨ ∃ a rest, x data = .ok (a, rest) ∧ Crashes (f a rest) := by
  cases first : x data with
  | error e =>
    rw [reader_bind_error first]
    constructor
    · rintro ⟨e', same, alt⟩
      cases same
      exact .inl ⟨e, rfl, alt⟩
    · rintro (⟨e', same, alt⟩ | ⟨a, rest, same, _⟩)
      · cases same
        exact ⟨e, rfl, alt⟩
      · cases same
  | ok res =>
    obtain ⟨a, rest⟩ := res
    rw [reader_bind_ok first]
    constructor
    · exact fun crashes => .inr ⟨a, rest, rfl, crashes⟩
    · rintro (⟨e, same, _⟩ | ⟨a', rest', same, crashes⟩)
      · cases same
      · cases same
        exact crashes

/-- A reader that raises nothing but `ValueError`. -/
def Sound (x : Reader α) : Prop := ∀ data, ¬Crashes (x data)

lemma Sound.bind (first : Sound x) (next : ∀ a, Sound (f a)) : Sound (x >>= f) := by
  intro data crashes
  rcases crashes_bind.mp crashes with here | ⟨a, rest, _, later⟩
  · exact first data here
  · exact next a rest later

lemma sound_pure (a : α) : Sound (pure a : Reader α) := fun _ => not_crashes_ok _

lemma sound_raise : Sound (raise .valueError : Reader α) := by
  rintro data ⟨e, same, alt⟩
  cases same
  exact alt rfl

lemma sound_ofOption (a : Option α) : Sound (ofOption a) := by
  cases a with
  | none => exact sound_raise
  | some a => exact sound_pure a

lemma sound_readByte : Sound readByte := by
  rintro (_ | ⟨b, rest⟩)
  · exact sound_raise (α := UInt8) []
  · exact not_crashes_ok _

lemma sound_readBytes (length : ℕ) : Sound (readBytes length) := by
  intro data
  unfold readBytes
  split
  · exact sound_raise (α := List UInt8) []
  · exact not_crashes_ok _

lemma sound_readListSize : Sound readListSize := by
  refine sound_readByte.bind fun tag => ?_
  split
  · exact sound_pure _
  · split
    · exact sound_readByte.bind fun _ => sound_pure _
    · split
      · exact (sound_readBytes 2).bind fun _ => sound_pure _
      · exact sound_raise

lemma sound_readInt20 : Sound readInt20 :=
  sound_readByte.bind fun _ => sound_readByte.bind fun _ => sound_readByte.bind fun _ => sound_pure _

lemma sound_readDictionary (dict : Dictionary) (tag : UInt8) : Sound (readDictionary dict tag) := by
  unfold readDictionary
  split
  · exact sound_readByte.bind fun _ => (sound_ofOption _).bind fun _ => sound_pure _
  · split
    · exact (sound_ofOption _).bind fun _ => sound_pure _
    · exact sound_raise

lemma sound_decode (v : Text) : Sound v.decode := by
  cases v with
  | text v => exact sound_pure v
  | bytes v => exact sound_ofOption _

lemma sound_jidPair (user server : String) : Sound (jidPair user server) := by
  unfold jidPair
  split
  · exact sound_raise
  · exact sound_pure _

lemma Sound.crashes_bind (inv : Sound x) :
    Crashes ((x >>= f) data) ↔ ∃ a rest, x data = .ok (a, rest) ∧ Crashes (f a rest) := by
  rw [Noise.crashes_bind]
  exact or_iff_right (inv data)

lemma crashes_bind_sound (inv : ∀ a, Sound (f a)) : Crashes ((x >>= f) data) ↔ Crashes (x data) := by
  rw [crashes_bind]
  apply or_iff_left
  rintro ⟨a, rest, _, crashes⟩
  exact inv a rest crashes

lemma crashes_readMany {count : ℕ} : Crashes (readMany x count data) ↔
      ∃ i < count, ∃ vs rest, readMany x i data = .ok (vs, rest) ∧ Crashes (x rest) := by
  induction count generalizing data with
  | zero =>
    constructor
    · intro crashes
      exact absurd crashes (not_crashes_ok _)
    · rintro ⟨i, less, _⟩
      exact absurd less (not_lt_zero i)
  | succ count ih =>
    rw [readMany, crashes_bind]
    constructor
    · rintro (crashes | ⟨a, rest, first, later⟩)
      · exact ⟨0, succ_pos _, [], data, rfl, crashes⟩
      · rw [crashes_bind_sound fun _ => sound_pure _] at later
        obtain ⟨i, less, vs, rest', read, crashes⟩ := ih.mp later
        refine ⟨i + 1, succ_lt_succ less, a :: vs, rest', ?_, crashes⟩
        rw [readMany, reader_bind_ok first, reader_bind_ok read]
        rfl
    · rintro ⟨i, less, vs, rest, read, crashes⟩
      cases i with
      | zero =>
        cases read
        exact .inl crashes
      | succ i =>
        rw [readMany] at read
        cases first : x data with
        | error e =>
          rw [reader_bind_error first] at read
          cases read
        | ok res =>
          obtain ⟨a, middle⟩ := res
          right
          refine ⟨a, middle, rfl, ?_⟩
          rw [crashes_bind_sound fun _ => sound_pure _]
          rw [reader_bind_ok first] at read
          cases others : readMany x i middle with
          | error e =>
            rw [reader_bind_error others] at read
            cases read
          | ok res =>
            rw [reader_bind_ok others] at read
            cases read
            exact ih.mpr ⟨i, lt_of_succ_lt_succ less, _, _, others, crashes⟩

end

section

lemma sound_readNibbles (tag : UInt8) : Sound (readNibbles tag) :=
  sound_readByte.bind fun _ => (sound_ofOption _).bind fun _ => (sound_ofOption _).bind fun _ =>
    sound_pure _

variable {data : List UInt8} {tag : UInt8}

lemma readNibbles_length {rest chars} (read : readNibbles tag data = .ok (chars, rest)) : chars.length = 2 := by
  cases data with
  | nil => cases read
  | cons b tail =>
    rw [readNibbles, reader_bind_ok (readByte_cons b tail)] at read
    cases high : unpackPackedNibble tag (b.toNat / 16) with
    | none =>
      rw [high] at read
      cases read
    | some first =>
      cases low : unpackPackedNibble tag (b.toNat % 16) with
      | none =>
        rw [high, low] at read
        cases read
      | some snd =>
        rw [high, low] at read
        cases read
        rfl

lemma readMany_nibbles {count : ℕ} {rest chars}
    (read : readMany (readNibbles tag) count data = .ok (chars, rest)) : chars.flatten.length = 2 * count := by
  induction count generalizing data chars with
  | zero =>
    cases read
    rfl
  | succ count ih =>
    rw [readMany] at read
    cases first : readNibbles tag data with
    | error e =>
      rw [reader_bind_error first] at read
      cases read
    | ok res =>
      rw [reader_bind_ok first] at read
      cases others : readMany (readNibbles tag) count res.2 with
      | error e =>
        rw [reader_bind_error others] at read
        cases read
      | ok later =>
        rw [reader_bind_ok others] at read
        cases read
        have two := readNibbles_length first
        have rest := ih others
        rw [flatten_cons, length_append]
        omega

lemma crashes_readPacked8 : Crashes (readPacked8 tag data) ↔ ∃ rest, data = 0x80 :: rest := by
  rw [readPacked8, sound_readByte.crashes_bind]
  cases data with
  | nil =>
    constructor
    · rintro ⟨a, rest, read, _⟩
      cases read
    · rintro ⟨rest, same⟩
      cases same
  | cons start rest =>
    have loop : ¬Crashes (readMany (readNibbles tag) (start.toNat % 128) rest) := by
      rw [crashes_readMany]
      rintro ⟨_, _, _, middle, _, crashes⟩
      exact sound_readNibbles tag middle crashes
    constructor
    · rintro ⟨a, rest', read, crashes⟩
      cases read
      rw [crashes_bind] at crashes
      rcases crashes with here | ⟨chars, middle, chosen, later⟩
      · exact absurd here loop
      · by_cases odd : 128 ≤ start.toNat
        · rw [if_pos odd, crashes_bind_sound fun _ => sound_pure _] at later
          have size := readMany_nibbles chosen
          cases flat : chars.flatten with
          | nil =>
            rw [flat, length_nil] at size
            have bound := start.toNat_lt
            have same : start = 0x80 := by
              apply UInt8.toNat_inj.mp
              show start.toNat = 128
              omega
            exact ⟨rest, by rw [same]⟩
          | cons c cs =>
            rw [flat] at later
            exact absurd later (not_crashes_ok _)
        · rw [if_neg odd] at later
          exact absurd later (not_crashes_ok _)
    · rintro ⟨rest', same⟩
      cases same
      exact ⟨0x80, rest, rfl, .indexError, rfl, by decide⟩

end

section

def CutShort (x y : Reader α) : Prop := ∀ data, x data = y data ∨ x data = .error .recursionError
lemma CutShort.refl (x : Reader α) : CutShort x x := fun _ => .inl rfl

lemma CutShort.bind {x y} {f g : α → Reader β} (first : CutShort x y)
    (next : ∀ a, CutShort (f a) (g a)) : CutShort (x >>= f) (y >>= g) := by
  intro data
  rcases first data with same | short
  · cases read : y data with
    | error e =>
      rw [reader_bind_error (same.trans read), reader_bind_error read]
      exact .inl rfl
    | ok res =>
      rw [reader_bind_ok (same.trans read), reader_bind_ok read]
      exact next res.1 res.2
  · exact .inr (reader_bind_error short)

lemma CutShort.readMany {x y : Reader α} (short : CutShort x y) (count : ℕ) :
    CutShort (readMany x count) (Noise.readMany y count) := by
  induction count with
  | zero => exact CutShort.refl _
  | succ count ih => exact short.bind fun _ => ih.bind fun _ => CutShort.refl _

lemma CutShort.ite {x y x' y' : Reader α} {condition : Prop} [Decidable condition]
    (first : CutShort x y) (snd : CutShort x' y') :
    CutShort (if condition then x else x') (if condition then y else y') := by
  by_cases holds : condition
  · rw [if_pos holds, if_pos holds]
    exact first
  · rw [if_neg holds, if_neg holds]
    exact snd

variable {dict : Dictionary}

lemma cutShort_strings {frames more : ℕ} (less : frames ≤ more) :
    CutShort (readString dict frames) (readString dict more) ∧
      CutShort (readStringOrBytes dict frames) (readStringOrBytes dict more) ∧
      CutShort (readJidPair dict frames) (readJidPair dict more) ∧
      CutShort (readAdJid dict frames) (readAdJid dict more) := by
  induction frames generalizing more with
  | zero => exact ⟨fun _ => .inr rfl, fun _ => .inr rfl, fun _ => .inr rfl, fun _ => .inr rfl⟩
  | succ frames ih =>
    cases more with
    | zero => omega
    | succ more =>
      obtain ⟨string, stringOrBytes, pair, ad⟩ := ih (le_of_succ_le_succ less)
      refine ⟨?_, ?_, ?_, ?_⟩
      · exact stringOrBytes.bind fun _ => CutShort.refl _
      · refine (CutShort.refl _).bind fun tag => ?_
        refine (CutShort.refl _).ite ((CutShort.refl _).ite ((CutShort.refl _).ite ((CutShort.refl _).ite ?_)))
        refine (pair.bind fun _ => CutShort.refl _).ite ?_
        exact (ad.bind fun _ => CutShort.refl _).ite (CutShort.refl _)
      · exact string.bind fun _ => string.bind fun _ => CutShort.refl _
      · exact (CutShort.refl _).bind fun _ => (CutShort.refl _).bind fun _ => string.bind fun _ =>
          CutShort.refl _

lemma read_or_crashes {read : ℕ → Reader α} (cut : ∀ {n m}, n ≤ m → CutShort (read n) (read m))
    {frames : ℕ} {data res} (done : read frames data = .ok res) (alt : ℕ) :
    read alt data = .ok res ∨ Crashes (read alt data) := by
  rcases le_total alt frames with less | more
  · rcases cut less data with same | short
    · exact .inl (same.trans done)
    · exact .inr ⟨.recursionError, short, by decide⟩
  · rcases cut more data with same | short
    · exact .inl (same.symm.trans done)
    · rw [done] at short
      cases short

end

section

inductive Call where
  | node
  | content
  | string
  | stringOrBytes
  | jidPair
  | adJid

variable {dict : Dictionary}

/-- `count` strings are read off `data`, with some room on the stack. -/
def ReadsStrings (dict : Dictionary) (count : ℕ) (data rest : List UInt8) : Prop :=
  ∃ frames vs, readMany (readString dict frames) count data = .ok (vs, rest)

def ReadsNodes (dict : Dictionary) (count : ℕ) (data rest : List UInt8) : Prop :=
  ∃ frames vs, readMany (readNode dict frames) count data = .ok (vs, rest)

def stringCount (size : ℕ) : ℕ := 1 + 2 * ((size - 1) / 2)

/-- `Enters call data call' data' depth`: the method `call`, with `data` to be read, comes to call
`call'` with `data'` to be read, `depth` calls further down. -/
inductive Enters (dict : Dictionary) : Call → List UInt8 → Call → List UInt8 → ℕ → Prop
  | self (call data) : Enters dict call data call data 0
  | string {data call data' depth} (enters : Enters dict .stringOrBytes data call data' depth) :
      Enters dict .string data call data' (depth + 1)
  | jidPair {data call data' depth} (enters : Enters dict .jidPair data call data' depth) :
      Enters dict .stringOrBytes (250 :: data) call data' (depth + 1)
  | adJid {data call data' depth} (enters : Enters dict .adJid data call data' depth) :
      Enters dict .stringOrBytes (247 :: data) call data' (depth + 1)
  | part {i data rest call data' depth} (less : i < 2) (read : ReadsStrings dict i data rest)
      (enters : Enters dict .string rest call data' depth) :
      Enters dict .jidPair data call data' (depth + 1)
  | user {domainType device data call data' depth}
      (enters : Enters dict .string data call data' depth) :
      Enters dict .adJid (domainType :: device :: data) call data' (depth + 1)
  | item {data size list i rest call data' depth} (start : readListSize data = .ok (size, list))
      (some : size ≠ 0) (less : i < stringCount size) (read : ReadsStrings dict i list rest)
      (enters : Enters dict .string rest call data' depth) :
      Enters dict .node data call data' (depth + 1)
  | content {data size list rest call data' depth} (start : readListSize data = .ok (size, list))
      (some : size ≠ 0) (follows : (size - 1) % 2 = 1)
      (read : ReadsStrings dict (stringCount size) list rest)
      (enters : Enters dict .content rest call data' depth) :
      Enters dict .node data call data' (depth + 1)
  | child {tag tail count list i rest call data' depth} (isList : tag = 0 ∨ tag = 248 ∨ tag = 249)
      (start : readListSize (tag :: tail) = .ok (count, list)) (less : i < count)
      (read : ReadsNodes dict i list rest)
      (enters : Enters dict .node rest call data' depth) :
      Enters dict .content (tag :: tail) call data' (depth + 1)
  | raw {tag tail call data' depth} (notList : ¬(tag = 0 ∨ tag = 248 ∨ tag = 249))
      (enters : Enters dict .stringOrBytes (tag :: tail) call data' depth) :
      Enters dict .content (tag :: tail) call data' (depth + 1)

def OddEmpty (call : Call) (data : List UInt8) : Prop :=
  call = .stringOrBytes ∧ ∃ tag rest, data = tag :: 0x80 :: rest ∧ (tag = 251 ∨ tag = 255)

def Fatal (frames : ℕ) (call : Call) (data : List UInt8) (depth : ℕ) : Prop := frames ≤ depth ∨ OddEmpty call data

def EntersFatal (dict : Dictionary) (frames : ℕ) (call : Call) (data : List UInt8) : Prop :=
  ∃ call' data' depth, Enters dict call data call' data' depth ∧ Fatal frames call' data' depth

variable {call : Call} {data : List UInt8} {frames : ℕ}

lemma EntersFatal.below {call' data'} (fatal : EntersFatal dict frames call' data')
    (enters : ∀ {call'' data'' depth}, Enters dict call' data' call'' data'' depth →
      Enters dict call data call'' data'' (depth + 1)) : EntersFatal dict (frames + 1) call data := by
  obtain ⟨call'', data'', depth, below, short | odd⟩ := fatal
  · exact ⟨call'', data'', depth + 1, enters below, .inl (succ_le_succ short)⟩
  · exact ⟨call'', data'', depth + 1, enters below, .inr odd⟩

lemma fatal_pred {depth : ℕ} (fatal : Fatal (frames + 1) call data (depth + 1)) : Fatal frames call data depth :=
  fatal.imp le_of_succ_le_succ id

lemma fatal_self (fatal : Fatal (frames + 1) call data 0) : OddEmpty call data :=
  fatal.resolve_left (not_succ_le_zero frames)

end

section
variable {dict : Dictionary}

structure StringsCrash (dict : Dictionary) (frames : ℕ) : Prop where
  string : ∀ data, Crashes (readString dict frames data) ↔ EntersFatal dict frames .string data
  stringOrBytes : ∀ data, Crashes (readStringOrBytes dict frames data) ↔ EntersFatal dict frames .stringOrBytes data
  jidPair : ∀ data, Crashes (readJidPair dict frames data) ↔ EntersFatal dict frames .jidPair data
  adJid : ∀ data, Crashes (readAdJid dict frames data) ↔ EntersFatal dict frames .adJid data

lemma enters_fatal_zero (call : Call) (data : List UInt8) :
    EntersFatal dict 0 call data := ⟨call, data, 0, .self call data, .inl (le_refl 0)⟩

lemma crashes_recursion (data : List UInt8) : Crashes (raise (α := α) .recursionError data) :=
  ⟨.recursionError, rfl, by decide⟩

lemma crashes_many {read : ℕ → Reader α} (cut : ∀ {n m}, n ≤ m → CutShort (read n) (read m)) {frames : ℕ}
    {fatal : List UInt8 → Prop} (each : ∀ data, Crashes (read frames data) ↔ fatal data) (count : ℕ)
    (data : List UInt8) : Crashes (readMany (read frames) count data) ↔ ∃ i < count, ∃ rest,
      (∃ alt vs, readMany (read alt) i data = .ok (vs, rest)) ∧ fatal rest := by
  rw [crashes_readMany]
  constructor
  · rintro ⟨i, less, vs, rest, read, crashes⟩
    exact ⟨i, less, rest, ⟨frames, vs, read⟩, (each rest).mp crashes⟩
  · rintro ⟨i, less, rest, ⟨alt, vs, read⟩, isFatal⟩
    rcases read_or_crashes (fun less => (cut less).readMany i) read frames with same | crashes
    · exact ⟨i, less, vs, rest, same, (each rest).mpr isFatal⟩
    · obtain ⟨j, earlier, values', rest', read', crashes'⟩ := crashes_readMany.mp crashes
      exact ⟨j, lt_trans earlier less, values', rest', read', crashes'⟩

lemma crashes_strings {frames : ℕ} (strings : StringsCrash dict frames) (count : ℕ)
    (data : List UInt8) : Crashes (readMany (readString dict frames) count data) ↔
      ∃ i < count, ∃ rest, ReadsStrings dict i data rest ∧ EntersFatal dict frames .string rest :=
  crashes_many (fun less => (cutShort_strings less).1) strings.string count data

lemma readJidPair_eq (frames : ℕ) : readJidPair dict (frames + 1) = (do
    let parts ← readMany (readString dict frames) 2
    jidPair (parts.getD 0 "") (parts.getD 1 "")) := by
  simp only [readMany, bind_assoc, pure_bind]
  rfl

lemma strings_crash (frames : ℕ) : StringsCrash dict frames := by
  induction frames with
  | zero =>
    constructor <;>
    · intro data
      exact ⟨fun _ => enters_fatal_zero _ data, fun _ => crashes_recursion data⟩
  | succ frames ih =>
    constructor
    · intro data
      rw [readString, crashes_bind_sound sound_decode, ih.stringOrBytes]
      constructor
      · exact fun fatal => fatal.below .string
      · rintro ⟨call, data', depth, enters, fatal⟩
        cases enters with
        | self =>
          obtain ⟨is, _⟩ := fatal_self fatal
          cases is
        | string enters => exact ⟨call, data', _, enters, fatal_pred fatal⟩
    · intro data
      rw [readStringOrBytes, sound_readByte.crashes_bind]
      constructor
      · rintro ⟨tag, rest, read, crashes⟩
        cases data with
        | nil => cases read
        | cons tag' rest' =>
          cases read
          split at crashes
          · exact absurd crashes (not_crashes_ok _)
          split at crashes
          · exact absurd crashes (((sound_readByte.bind fun _ => (sound_readBytes _).bind fun _ =>
              sound_pure _)) rest)
          split at crashes
          · exact absurd crashes (((sound_readInt20.bind fun _ => (sound_readBytes _).bind fun _ =>
              sound_pure _)) rest)
          split at crashes
          · exact absurd crashes ((((sound_readBytes 4).bind fun _ => (sound_readBytes _).bind fun _ =>
              sound_pure _)) rest)
          split at crashes
          · rename_i is
            rw [crashes_bind_sound fun _ => sound_pure _, ih.jidPair] at crashes
            subst is
            exact crashes.below .jidPair
          split at crashes
          · rename_i is
            rw [crashes_bind_sound fun _ => sound_pure _, ih.adJid] at crashes
            subst is
            exact crashes.below .adJid
          split at crashes
          · rename_i packed
            rw [crashes_bind_sound fun _ => sound_pure _, crashes_readPacked8] at crashes
            obtain ⟨rest', rfl⟩ := crashes
            exact ⟨_, _, 0, .self _ _, .inr ⟨rfl, tag, rest', rfl, packed⟩⟩
          · exact absurd crashes (sound_readDictionary dict tag rest)
      · rintro ⟨call, data', depth, enters, fatal⟩
        cases enters with
        | self =>
          obtain ⟨_, tag, rest, rfl, packed⟩ := fatal_self fatal
          refine ⟨tag, 0x80 :: rest, rfl, ?_⟩
          have crash : Crashes (readPacked8 tag (0x80 :: rest)) := crashes_readPacked8.mpr ⟨rest, rfl⟩
          rcases packed with rfl | rfl <;> exact (crashes_bind_sound fun _ => sound_pure _).mpr crash
        | @jidPair rest _ _ depth enters =>
          refine ⟨250, rest, rfl, ?_⟩
          have crash := (ih.jidPair rest).mpr ⟨call, data', depth, enters, fatal_pred fatal⟩
          exact (crashes_bind_sound fun _ => sound_pure _).mpr crash
        | @adJid rest _ _ depth enters =>
          refine ⟨247, rest, rfl, ?_⟩
          have crash := (ih.adJid rest).mpr ⟨call, data', depth, enters, fatal_pred fatal⟩
          exact (crashes_bind_sound fun _ => sound_pure _).mpr crash
    · intro data
      rw [readJidPair_eq, crashes_bind_sound fun parts => sound_jidPair _ _, crashes_strings ih]
      constructor
      · rintro ⟨i, less, rest, read, fatal⟩
        exact fatal.below (.part less read)
      · rintro ⟨call, data', depth, enters, fatal⟩
        cases enters with
        | self =>
          obtain ⟨is, _⟩ := fatal_self fatal
          cases is
        | @part i _ rest _ _ depth less read enters =>
          exact ⟨i, less, rest, read, call, data', depth, enters, fatal_pred fatal⟩
    · intro data
      rw [readAdJid, sound_readByte.crashes_bind]
      constructor
      · rintro ⟨domainType, rest, read, crashes⟩
        rw [sound_readByte.crashes_bind] at crashes
        obtain ⟨device, rest', read', crashes⟩ := crashes
        rw [crashes_bind_sound fun _ => sound_pure _, ih.string] at crashes
        cases data with
        | nil => cases read
        | cons _ _ =>
          cases read
          cases rest with
          | nil => cases read'
          | cons _ _ =>
            cases read'
            exact crashes.below .user
      · rintro ⟨call, data', depth, enters, fatal⟩
        cases enters with
        | self =>
          obtain ⟨is, _⟩ := fatal_self fatal
          cases is
        | @user domainType device rest _ _ depth enters =>
          refine ⟨domainType, device :: rest, rfl, sound_readByte.crashes_bind.mpr ?_⟩
          refine ⟨device, rest, rfl, (crashes_bind_sound fun _ => sound_pure _).mpr ?_⟩
          exact (ih.string rest).mpr ⟨call, data', depth, enters, fatal_pred fatal⟩

end

section
variable {dict : Dictionary}

def setAttrs : List (String × String) → List String → List (String × String)
  | attrs, key :: v :: strings => setAttrs (setAttr attrs key v) strings
  | attrs, _ => attrs

lemma readAttrs_eq (frames left : ℕ) (attrs : List (String × String)) :
    readAttrs dict frames left attrs = (do
      let strings ← readMany (readString dict frames) (2 * (left / 2))
      return (setAttrs attrs strings, left % 2)) := by
  induction left using Nat.twoStepInduction generalizing attrs with
  | zero | one => rfl
  | more left ih _ =>
    have rounds : 2 * ((left + 2) / 2) = 2 * (left / 2) + 1 + 1 := by omega
    have parity : (left + 2) % 2 = left % 2 := by omega
    rw [rounds, parity, readAttrs]
    simp only [readMany, bind_assoc, pure_bind, ih]
    rfl

/-- The node that a list of `size` members with these strings starts. -/
def readRest (dict : Dictionary) (frames size : ℕ) (strings : List String) : Reader BinaryNode :=
  let tag := strings.headD ""
  let attrs := setAttrs [] strings.tail
  if (size - 1) % 2 = 1 then do return .node tag attrs (← readContent dict frames)
  else return .node tag attrs .absent

lemma readNode_eq (frames : ℕ) : readNode dict (frames + 1) = (do
    let size ← readListSize
    if size = 0 then raise .valueError
    else
      let strings ← readMany (readString dict frames) (stringCount size)
      readRest dict frames size strings) := by
  rw [readNode]
  congr 1
  funext size
  by_cases empty : size = 0
  · rw [if_pos empty, if_pos empty]
  · rw [if_neg empty, if_neg empty, stringCount, Nat.add_comm 1]
    simp only [readMany, bind_assoc, pure_bind, readAttrs_eq]
    rfl

variable {frames : ℕ}

lemma crashes_readRest {size : ℕ} {strings data} : Crashes (readRest dict frames size strings data) ↔
      (size - 1) % 2 = 1 ∧ Crashes (readContent dict frames data) := by
  unfold readRest
  by_cases follows : (size - 1) % 2 = 1
  · simp only [follows, true_and]
    exact crashes_bind_sound fun _ => sound_pure _
  · simp only [if_neg follows]
    constructor
    · exact fun crashes => absurd crashes (not_crashes_ok _)
    · exact fun both => absurd both.1 follows

lemma cutShort_nodes {more : ℕ} (less : frames ≤ more) : CutShort (readNode dict frames) (readNode dict more) ∧
      CutShort (readContent dict frames) (readContent dict more) := by
  induction frames generalizing more with
  | zero => exact ⟨fun _ => .inr rfl, fun _ => .inr rfl⟩
  | succ frames ih =>
    cases more with
    | zero => omega
    | succ more =>
      have fewer := le_of_succ_le_succ less
      obtain ⟨node, content⟩ := ih fewer
      obtain ⟨string, stringOrBytes, _⟩ := @cutShort_strings dict _ _ fewer
      constructor
      · rw [readNode_eq, readNode_eq]
        refine (CutShort.refl _).bind fun size => (CutShort.refl _).ite ?_
        refine (string.readMany _).bind fun strings => ?_
        exact (content.bind fun _ => CutShort.refl _).ite (CutShort.refl _)
      · refine (CutShort.refl _).bind fun tag => ?_
        refine ((CutShort.refl _).bind fun count => ?_).ite (stringOrBytes.bind fun _ => CutShort.refl _)
        exact (node.readMany count).bind fun _ => CutShort.refl _

structure NodesCrash (dict : Dictionary) (frames : ℕ) : Prop where
  node : ∀ data, Crashes (readNode dict frames data) ↔ EntersFatal dict frames .node data
  content : ∀ data, Crashes (readContent dict frames data) ↔ EntersFatal dict frames .content data

lemma crashes_children (nodes : NodesCrash dict frames) (count : ℕ) (data : List UInt8) :
    Crashes (readMany (readNode dict frames) count data) ↔
      ∃ i < count, ∃ rest, ReadsNodes dict i data rest ∧ EntersFatal dict frames .node rest :=
  crashes_many (fun less => (cutShort_nodes less).1) nodes.node count data

lemma nodes_crash (frames : ℕ) : NodesCrash dict frames := by
  induction frames with
  | zero =>
    constructor <;>
    · intro data
      exact ⟨fun _ => enters_fatal_zero _ data, fun _ => crashes_recursion data⟩
  | succ frames ih =>
    have strings := @strings_crash dict frames
    constructor
    · intro data
      rw [readNode_eq, sound_readListSize.crashes_bind]
      constructor
      · rintro ⟨size, list, start, crashes⟩
        by_cases empty : size = 0
        · rw [if_pos empty] at crashes
          exact absurd crashes (sound_raise list)
        · rw [if_neg empty, crashes_bind, crashes_strings strings] at crashes
          rcases crashes with ⟨i, less, rest, read, fatal⟩ | ⟨vs, rest, read, crashes⟩
          · exact fatal.below (.item start empty less read)
          · obtain ⟨follows, crashes⟩ := crashes_readRest.mp crashes
            exact ((ih.content rest).mp crashes).below (.content start empty follows ⟨frames, vs, read⟩)
      · rintro ⟨call, data', depth, enters, fatal⟩
        cases enters with
        | self =>
          obtain ⟨is, _⟩ := fatal_self fatal
          cases is
        | @item _ size list i rest _ _ depth start some less read enters =>
          refine ⟨size, list, start, ?_⟩
          rw [if_neg some, crashes_bind, crashes_strings strings]
          exact .inl ⟨i, less, rest, read, call, data', depth, enters, fatal_pred fatal⟩
        | @content _ size list rest _ _ depth start some follows read enters =>
          refine ⟨size, list, start, ?_⟩
          rw [if_neg some, crashes_bind]
          obtain ⟨alt, vs, read⟩ := read
          have cut : ∀ {n m}, n ≤ m → CutShort (readMany (readString dict n) (stringCount size))
                (readMany (readString dict m) (stringCount size)) :=
            fun less => (cutShort_strings less).1.readMany _
          rcases read_or_crashes cut read frames with same | crashes
          · refine Or.inr ⟨vs, rest, same, crashes_readRest.mpr ⟨follows, ?_⟩⟩
            exact (ih.content rest).mpr ⟨call, data', depth, enters, fatal_pred fatal⟩
          · exact .inl crashes
    · intro data
      have peek : Sound peekByte := by
        rintro (_ | ⟨b, rest⟩)
        · exact sound_raise (α := UInt8) []
        · exact not_crashes_ok _
      rw [readContent, peek.crashes_bind]
      constructor
      · rintro ⟨tag, rest, read, crashes⟩
        cases data with
        | nil => cases read
        | cons tag' tail =>
          cases read
          by_cases isList : tag = 0 ∨ tag = 248 ∨ tag = 249
          · rw [if_pos isList, sound_readListSize.crashes_bind] at crashes
            obtain ⟨count, list, start, crashes⟩ := crashes
            rw [crashes_bind_sound fun _ => sound_pure _, crashes_children ih] at crashes
            obtain ⟨i, less, rest, read, fatal⟩ := crashes
            exact fatal.below (.child isList start less read)
          · rw [if_neg isList, crashes_bind_sound fun _ => sound_pure _, strings.stringOrBytes] at crashes
            exact crashes.below (.raw isList)
      · rintro ⟨call, data', depth, enters, fatal⟩
        cases enters with
        | self =>
          obtain ⟨is, _⟩ := fatal_self fatal
          cases is
        | @child tag tail count list i rest _ _ depth isList start less read enters =>
          refine ⟨tag, tag :: tail, rfl, ?_⟩
          rw [if_pos isList, sound_readListSize.crashes_bind]
          refine ⟨count, list, start, ?_⟩
          rw [crashes_bind_sound fun _ => sound_pure _, crashes_children ih]
          exact ⟨i, less, rest, read, call, data', depth, enters, fatal_pred fatal⟩
        | @raw tag tail _ _ depth notList enters =>
          refine ⟨tag, tag :: tail, rfl, ?_⟩
          rw [if_neg notList, crashes_bind_sound fun _ => sound_pure _, strings.stringOrBytes]
          exact ⟨call, data', depth, enters, fatal_pred fatal⟩

end

section

def Reads (x : Reader α) : Prop := ∀ data a rest, x data = .ok (a, rest) → rest <:+ data

lemma Reads.bind {x} {f : α → Reader β} (first : Reads x) (next : ∀ a, Reads (f a)) : Reads (x >>= f) := by
  intro data b rest read
  cases done : x data with
  | error e =>
    rw [reader_bind_error done] at read
    cases read
  | ok res =>
    rw [reader_bind_ok done] at read
    exact (next res.1 res.2 b rest read).trans (first data res.1 res.2 done)

lemma reads_pure (a : α) : Reads (pure a : Reader α) := by
  intro data b rest read
  cases read
  exact suffix_refl data

lemma reads_raise (e : Raised) : Reads (raise e : Reader α) := by
  intro data b rest read
  cases read

lemma reads_ofOption (a : Option α) : Reads (ofOption a) := by
  cases a with
  | none => exact reads_raise _
  | some a => exact reads_pure a

lemma reads_readByte : Reads readByte := by
  rintro (_ | ⟨b, tail⟩) a rest read
  · cases read
  · cases read
    exact suffix_cons _ _

lemma reads_peekByte : Reads peekByte := by
  rintro (_ | ⟨b, tail⟩) a rest read
  · cases read
  · cases read
    exact suffix_refl _

lemma reads_readBytes (length : ℕ) : Reads (readBytes length) := by
  intro data a rest read
  unfold readBytes at read
  split at read
  · cases read
  · cases read
    exact drop_suffix length data

lemma reads_readMany {x : Reader α} (reads : Reads x) (count : ℕ) : Reads (readMany x count) := by
  induction count with
  | zero => exact reads_pure _
  | succ count ih => exact reads.bind fun _ => ih.bind fun _ => reads_pure _

lemma Reads.ite {x y : Reader α} {condition : Prop} [Decidable condition] (first : Reads x)
    (snd : Reads y) : Reads (if condition then x else y) := by
  split
  · exact first
  · exact snd

lemma reads_readListSize : Reads readListSize := by
  refine reads_readByte.bind fun tag => (reads_pure _).ite ?_
  refine (reads_readByte.bind fun _ => reads_pure _).ite ?_
  exact ((reads_readBytes 2).bind fun _ => reads_pure _).ite (reads_raise _)

lemma reads_readInt20 : Reads readInt20 :=
  reads_readByte.bind fun _ => reads_readByte.bind fun _ => reads_readByte.bind fun _ => reads_pure _

lemma reads_pop (chars : List Char) : Reads (pop chars) := by
  cases chars with
  | nil => exact reads_raise _
  | cons c cs => exact reads_pure _

lemma reads_readPacked8 (tag : UInt8) : Reads (readPacked8 tag) := by
  have nibbles : Reads (readNibbles tag) := reads_readByte.bind fun _ =>
    (reads_ofOption _).bind fun _ => (reads_ofOption _).bind fun _ => reads_pure _
  refine reads_readByte.bind fun start => (reads_readMany nibbles _).bind fun chars => ?_
  exact ((reads_pop _).bind fun _ => reads_pure _).ite (reads_pure _)

lemma reads_readDictionary (dict : Dictionary) (tag : UInt8) : Reads (readDictionary dict tag) := by
  refine Reads.ite (reads_readByte.bind fun _ => (reads_ofOption _).bind fun _ => reads_pure _) ?_
  exact ((reads_ofOption _).bind fun _ => reads_pure _).ite (reads_raise _)

variable {dict : Dictionary}

lemma reads_strings (frames : ℕ) : Reads (readString dict frames) ∧
    Reads (readStringOrBytes dict frames) ∧ Reads (readJidPair dict frames) ∧ Reads (readAdJid dict frames) := by
  induction frames with
  | zero => exact ⟨reads_raise _, reads_raise _, reads_raise _, reads_raise _⟩
  | succ frames ih =>
    obtain ⟨string, stringOrBytes, pair, ad⟩ := ih
    refine ⟨?_, ?_, ?_, ?_⟩
    · refine stringOrBytes.bind fun v => ?_
      cases v with
      | text v => exact reads_pure _
      | bytes v => exact reads_ofOption _
    · refine reads_readByte.bind fun tag => (reads_pure _).ite ?_
      refine (reads_readByte.bind fun _ => (reads_readBytes _).bind fun _ => reads_pure _).ite ?_
      refine (reads_readInt20.bind fun _ => (reads_readBytes _).bind fun _ => reads_pure _).ite ?_
      refine ((reads_readBytes 4).bind fun _ => (reads_readBytes _).bind fun _ =>
        reads_pure _).ite ?_
      refine (pair.bind fun _ => reads_pure _).ite ((ad.bind fun _ => reads_pure _).ite ?_)
      exact ((reads_readPacked8 _).bind fun _ => reads_pure _).ite (reads_readDictionary _ _)
    · refine string.bind fun _ => string.bind fun _ => ?_
      exact Reads.ite (reads_raise _) (reads_pure _)
    · exact reads_readByte.bind fun _ => reads_readByte.bind fun _ => string.bind fun _ => reads_pure _

lemma reads_nodes (frames : ℕ) : Reads (readNode dict frames) ∧ Reads (readContent dict frames) := by
  induction frames with
  | zero => exact ⟨reads_raise _, reads_raise _⟩
  | succ frames ih =>
    obtain ⟨node, content⟩ := ih
    obtain ⟨string, stringOrBytes, _⟩ := @reads_strings dict frames
    constructor
    · rw [readNode_eq]
      refine reads_readListSize.bind fun size => (reads_raise _).ite ?_
      refine (reads_readMany string _).bind fun strings => ?_
      exact (content.bind fun _ => reads_pure _).ite (reads_pure _)
    · refine reads_peekByte.bind fun tag => ?_
      refine (reads_readListSize.bind fun count => (reads_readMany node count).bind fun _ =>
        reads_pure _).ite ?_
      exact stringOrBytes.bind fun _ => reads_pure _

end

/-- The decoder returns a node or raises `ValueError`, unless it comes to an empty odd packed string or
its calls run deeper than the interpreter's stack. -/
theorem decode_node_or_value_error (dict : Dictionary) (stack : ℕ) (data : List UInt8) :
    ((∃ node rest, decodeBinaryNodeMinimal dict stack data = .ok (node, rest) ∧
        rest <:+ data) ∨ decodeBinaryNodeMinimal dict stack data = .error .valueError) ↔
      ∀ body call rest depth, data = 0 :: body → Enters dict .node body call rest depth →
        depth < stack ∧ ¬OddEmpty call rest := by
  have crash : Crashes (decodeBinaryNodeMinimal dict stack data) ↔
      ∃ body, data = 0 :: body ∧ EntersFatal dict stack .node body := by
    rw [decodeBinaryNodeMinimal, sound_readByte.crashes_bind]
    constructor
    · rintro ⟨tag, body, read, crashes⟩
      cases data with
      | nil => cases read
      | cons tag' body' =>
        cases read
        by_cases plain : tag = 0
        · subst plain
          rw [if_neg (by decide), (nodes_crash stack).node] at crashes
          exact ⟨body, rfl, crashes⟩
        · rw [if_pos plain] at crashes
          exact absurd crashes (sound_raise body)
    · rintro ⟨body, rfl, fatal⟩
      refine ⟨0, body, rfl, ?_⟩
      exact ((nodes_crash stack).node body).mpr fatal
  have reads : Reads (decodeBinaryNodeMinimal dict stack) :=
    reads_readByte.bind fun _ => (reads_raise _).ite (reads_nodes stack).1
  constructor
  · intro out body call rest depth same enters
    have survives : ¬Fatal stack call rest depth := by
      intro fatal
      obtain ⟨e, raised, alt⟩ := crash.mpr ⟨body, same, call, rest, depth, enters, fatal⟩
      rcases out with ⟨node, rest', done, _⟩ | v
      · rw [done] at raised
        cases raised
      · rw [v] at raised
        cases raised
        exact alt rfl
    obtain ⟨shallow, inv⟩ := not_or.mp survives
    exact ⟨Nat.lt_of_not_le shallow, inv⟩
  · intro survives
    cases out : decodeBinaryNodeMinimal dict stack data with
    | ok res => exact .inl ⟨res.1, res.2, rfl, reads data _ _ out⟩
    | error e =>
      right
      by_cases v : e = .valueError
      · rw [v]
      · obtain ⟨body, same, call, rest, depth, enters, fatal⟩ := crash.mp ⟨e, out, v⟩
        obtain ⟨shallow, inv⟩ := survives body call rest depth same enters
        rcases fatal with deep | odd
        · exact absurd shallow (Nat.not_lt_of_le deep)
        · exact absurd odd inv

/-- A tag of no packed characters with the odd flag raises `IndexError`. -/
theorem odd_empty_index_error : ¬∀ (dict : Dictionary) (stack : ℕ) (data : List UInt8),
    (∃ node rest, decodeBinaryNodeMinimal dict stack data = .ok (node, rest)) ∨
      decodeBinaryNodeMinimal dict stack data = .error .valueError := by
  intro total
  rcases total ⟨fun _ => none, fun _ _ => none⟩ 1000 [0, 248, 1, 255, 128] with
    ⟨node, rest, done⟩ | v
  · cases done
  · cases v

end Clawdi.Noise
