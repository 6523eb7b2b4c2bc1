import Clawdi.Serve.RetryQueue

namespace Clawdi.References
open List
open Serve (alphanumeric)

abbrev Text := List Char

local instance lawfulText : LawfulBEq Text := inferInstance

def lowerOrDigit (c : Char) : Bool := ('a' ≤ c && c ≤ 'z') || ('0' ≤ c && c ≤ '9')

/-- `VAULT_SLUG_RE` -/
def vaultSlug : Text → Bool
  | [] => false
  | first :: rest => lowerOrDigit first && rest.all (fun c => lowerOrDigit c || c = '-') && rest.length ≤ 199 &&
    rest.getLast?.all lowerOrDigit

def itemChar (c : Char) : Bool := alphanumeric c || c = '_' || c = '.' || c = '-'

/-- What `clean_vault_segment` leaves of a name that is not empty. -/
def vaultItemSegment (text : Text) : Bool := text ≠ [] && text.length ≤ 200 && text.all itemChar

def uuid (text : Text) : Bool :=
  (text.splitOn '-').map List.length = [8, 4, 4, 4, 12] &&
    text.all fun c => ('0' ≤ c && c ≤ '9') || ('a' ≤ c && c ≤ 'f') || c = '-'

section

def hexDigit (v : ℕ) : Char := Char.ofNat (if v < 10 then 0x30 + v else 0x37 + v)

def percentEncode (safe : Char → Bool) (text : Text) : Text :=
  text.flatMap fun c => if safe c then [c] else (String.utf8EncodeChar c).flatMap fun byte =>
    ['%', hexDigit (byte.toNat / 16), hexDigit (byte.toNat % 16)]

def encodeURIComponent : Text → Text := percentEncode fun c => itemChar c || c ∈ ['!', '~', '*', '\'', '(', ')']

/-- `quote` without further safe characters. -/
def quote : Text → Text := percentEncode fun c => itemChar c || c = '~'
abbrev scheme : Text := "clawdi://".toList

def join : List Text → Text
  | [] => []
  | part :: parts => part ++ parts.flatMap ('/' :: ·)

def referencePath (project vault sect field : Text) : List Text :=
  project :: "vault".toList :: vault ::
    ((if sect = [] then [] else ["section".toList, sect]) ++ ["field".toList, field])

def referenceParts (project vault sect field : Text) : List Text :=
  "project".toList :: referencePath project vault sect field

def buildExactClawdiReference (project vault sect field : Text) : Text :=
  scheme ++ join ((referenceParts project vault sect field).map encodeURIComponent)

def exactVaultReference (pid slug sect field : Text) : Text :=
  scheme ++ join ((referenceParts pid slug sect field).map quote)

end

section

structure Url where
  protocol : Text
  hostname : Text
  pathname : Text

structure ClawdiReference where
  raw : Text
  project : Option Text
  vault : Text
  sectionName : Text
  field : Text
  isExact : Bool
  deriving DecidableEq

def hexValue (c : Char) : Option ℕ :=
  if '0' ≤ c ∧ c ≤ '9' then some (c.toNat - 0x30)
  else if 'A' ≤ c ∧ c ≤ 'F' then some (c.toNat - 0x37)
  else if 'a' ≤ c ∧ c ≤ 'f' then some (c.toNat - 0x57)
  else none

def percentDecode : Text → Option (List UInt8)
  | [] => some []
  | '%' :: high :: low :: rest => do
    let byte := 16 * (← hexValue high) + (← hexValue low)
    return UInt8.ofNat byte :: (← percentDecode rest)
  | c :: rest => do
    guard (c ≠ '%')
    return String.utf8EncodeChar c ++ (← percentDecode rest)

def decodeURIComponent (text : Text) : Except String Text :=
  if '%' ∈ text then
    match (percentDecode text).bind fun bytes => String.fromUTF8? ⟨bytes.toArray⟩ with
    | some dec => .ok dec.toList
    | none => .error "URI malformed"
  else .ok text

def parseProjectReference (input : Text) (parts : List Text) : Except String ClawdiReference :=
  let invalid :=
    Except.error "Expected clawdi://project/<project>/vault/<vault>/field/<field> or clawdi://project/<project>/vault/<vault>/section/<section>/field/<field>."
  match parts with
  | [project, vaultKeyword, vault, fieldKeyword, field] =>
    if project = [] ∨ vaultKeyword ≠ "vault".toList ∨ vault = [] ∨ fieldKeyword ≠ "field".toList ∨ field = [] then
      invalid
    else .ok ⟨input, some project, vault, [], field, true⟩
  | [project, vaultKeyword, vault, sectionKeyword, sect, fieldKeyword, field] =>
    if project = [] ∨ vaultKeyword ≠ "vault".toList ∨ vault = [] ∨ sectionKeyword ≠ "section".toList ∨
        sect = [] ∨ fieldKeyword ≠ "field".toList ∨ field = [] then invalid
    else .ok ⟨input, some project, vault, sect, field, true⟩
  | _ => invalid

def parseRelativeReference (input vault : Text) (parts : List Text) : Except String ClawdiReference :=
  let exp :=
    Except.error "Expected clawdi://<vault>/<field>, clawdi://<vault>/<section>/<field>, or clawdi://project/<project>/vault/<vault>/field/<field>."
  if vault = [] then exp
  else match parts with
    | [field] => .ok ⟨input, none, vault, [], field, false⟩
    | [sect, field] => .ok ⟨input, none, vault, sect, field, false⟩
    | _ => exp

variable (newUrl : Text → Option Url)

def parseClawdiReference (input : Text) : Except String ClawdiReference := do
  match newUrl input with
  | none => .error ("Invalid Clawdi reference: " ++ String.ofList input)
  | some url =>
    if url.protocol ≠ "clawdi:".toList then
      .error ("Expected a clawdi:// reference, got: " ++ String.ofList input)
    else
      let host ← decodeURIComponent url.hostname
      let parts ← ((url.pathname.splitOn '/').filter (· ≠ [])).mapM decodeURIComponent
      if host = "project".toList ∧ parts[1]? = some "vault".toList then parseProjectReference input parts
      else parseRelativeReference input host parts

def referenceChar (c : Char) : Bool := itemChar c || c = '~' || c = '%'

/-- How far segments and their slashes go on behind the first character of a host. -/
def pathRun : Text → Text
  | '/' :: c :: rest => if referenceChar c then '/' :: c :: pathRun rest else []
  | c :: rest => if referenceChar c then c :: pathRun rest else []
  | [] => []

/-- The match of `CLAWDI_REF_RE` at the head of a text. -/
def matchReference (text : Text) : Option Text :=
  if scheme.isPrefixOf text then
    match text.drop 9 with
    | [] => none
    | c :: rest => if referenceChar c && '/' ∈ pathRun rest then some (scheme ++ c :: pathRun rest) else none
  else none

/-- The matches of a text behind the characters that the last one took. -/
def matchAll : ℕ → Text → List Text
  | _, [] => []
  | taken + 1, _ :: rest => matchAll taken rest
  | 0, c :: rest => match matchReference (c :: rest) with
    | some raw => raw :: matchAll (raw.length - 1) rest
    | none => matchAll 0 rest

def scanClawdiReferences (input : Text) : Except String (List ClawdiReference) :=
  (matchAll 0 input).eraseDups.mapM (parseClawdiReference newUrl)

end

section

def singleDot : List Text := [".", "%2e", "%2E"].map String.toList

def doubleDot : List Text :=
  ["..", ".%2e", ".%2E", "%2e.", "%2E.", "%2e%2e", "%2e%2E", "%2E%2e", "%2E%2E"].map String.toList

/-- The path state of a URL parser: it drops single dots and shortens the path at double dots. -/
def pathState (path : List Text) : List Text → List Text
  | [] => path
  | segment :: later =>
    let ends := if later = [] then [[]] else []
    pathState (if segment ∈ doubleDot then path.dropLast ++ ends
      else if segment ∈ singleDot then path ++ ends else path ++ [segment]) later

def ReferenceText (text : Text) : Prop := text ≠ [] ∧ text.all referenceChar = true

/-- What the parser of the URL standard makes of the texts that `CLAWDI_REF_RE` matches. -/
structure Standard (newUrl : Text → Option Url) : Prop where
  hierarchical : ∀ host segs, ReferenceText host → (∀ segment ∈ segs, ReferenceText segment) →
    newUrl (scheme ++ join (host :: segs)) =
      some ⟨"clawdi:".toList, host, (pathState [] segs).flatMap ('/' :: ·)⟩

end

section

def Name (text : Text) : Prop := text ≠ [] ∧ text.all itemChar = true
def Dotted (text : Text) : Prop := text = ['.'] ∨ text = ['.', '.']
instance (text : Text) : Decidable (Dotted text) := inferInstanceAs (Decidable (_ ∨ _))

variable {text : Text}

lemma Name.mem (name : Name text) {c} (mem : c ∈ text) : itemChar c = true := all_eq_true.mp name.2 c mem

lemma Name.not_mem (name : Name text) {c} (alt : itemChar c = false) : c ∉ text := by
  intro mem
  rw [name.mem mem] at alt
  cases alt

lemma Name.reference (name : Name text) : ReferenceText text := by
  refine ⟨name.1, all_eq_true.mpr fun c mem => ?_⟩
  simp [referenceChar, name.mem mem]

lemma name_of_vaultItemSegment (valid : vaultItemSegment text = true) : Name text := by
  simp only [vaultItemSegment, Bool.and_eq_true, decide_eq_true_eq] at valid
  exact ⟨valid.1.1, valid.2⟩

lemma itemChar_of_lowerOrDigit {c} (valid : lowerOrDigit c = true) : itemChar c = true := by
  simp only [lowerOrDigit, itemChar, alphanumeric, Bool.or_eq_true] at valid ⊢
  tauto

lemma name_of_vaultSlug (valid : vaultSlug text = true) : Name text ∧ ¬Dotted text := by
  cases text with
  | nil => cases valid
  | cons first rest =>
    simp only [vaultSlug, Bool.and_eq_true, all_eq_true] at valid
    obtain ⟨⟨⟨starts, rest_valid⟩, _⟩, _⟩ := valid
    refine ⟨⟨cons_ne_nil _ _, ?_⟩, ?_⟩
    · refine all_eq_true.mpr fun c mem => ?_
      obtain rfl | mem := mem_cons.mp mem
      · exact itemChar_of_lowerOrDigit starts
      · obtain plain | dash := Bool.or_eq_true _ _ ▸ rest_valid c mem
        · exact itemChar_of_lowerOrDigit plain
        · simp [itemChar, of_decide_eq_true dash]
    · rintro (dot | dots)
      · rw [(List.cons.inj dot).1] at starts
        exact absurd starts (by decide)
      · rw [(List.cons.inj dots).1] at starts
        exact absurd starts (by decide)

lemma name_of_uuid (valid : uuid text = true) : Name text ∧ ¬Dotted text := by
  have letters := all_eq_true.mp (Bool.and_eq_true _ _ ▸ valid).2
  refine ⟨⟨?_, ?_⟩, ?_⟩
  · rintro rfl
    exact absurd valid (by decide)
  · refine all_eq_true.mpr fun c mem => ?_
    have letter := letters c mem
    simp only [itemChar, alphanumeric, Bool.or_eq_true, Bool.and_eq_true, decide_eq_true_eq] at letter ⊢
    have below (h : c ≤ 'f') : c ≤ 'z' := Char.le_trans h (by decide)
    tauto
  · rintro (rfl | rfl) <;> exact absurd valid (by decide)

lemma percentEncode_name {safe : Char → Bool} (name : Name text)
    (keeps : ∀ c, itemChar c = true → safe c = true) : percentEncode safe text = text := by
  have each : ∀ c ∈ text, safe c = true := fun c mem => keeps c (name.mem mem)
  clear name
  induction text with
  | nil => rfl
  | cons first rest ih =>
    rw [percentEncode, flatMap_cons, if_pos (each first mem_cons_self)]
    exact congrArg (first :: ·) (ih fun c mem => each c (mem_cons_of_mem _ mem))

lemma decodeURIComponent_name (name : Name text) : decodeURIComponent text = .ok text :=
  if_neg (name.not_mem (by decide))

lemma mapM_decodeURIComponent {parts : List Text} (names : ∀ part ∈ parts, Name part) :
    parts.mapM decodeURIComponent = .ok parts := by
  induction parts with
  | nil => rfl
  | cons first later ih =>
    rw [mapM_cons, decodeURIComponent_name (names first mem_cons_self),
      ih fun part mem => names part (mem_cons_of_mem _ mem)]
    rfl

lemma Name.dot_segment (name : Name text) : (text ∈ singleDot ∨ text ∈ doubleDot) ↔ Dotted text := by
  have plain : '%' ∉ text := name.not_mem (by decide)
  constructor
  · intro dot
    simp only [singleDot, doubleDot, map_cons, map_nil, mem_cons, not_mem_nil, or_false] at dot
    rcases dot with (rfl | rfl | rfl) | rfl | rfl | rfl | rfl | rfl | rfl | rfl | rfl | rfl <;>
      first | exact .inl rfl | exact .inr rfl | exact absurd (by decide) plain
  · rintro (rfl | rfl) <;> decide

end

section
variable {path segs : List Text} {segment : Text}

lemma pathState_plain (plain : ∀ segment ∈ segs, segment ∉ singleDot ∧ segment ∉ doubleDot) :
    pathState path segs = path ++ segs := by
  induction segs generalizing path with
  | nil => simp [pathState]
  | cons first later ih =>
    obtain ⟨notSingle, notDouble⟩ := plain first mem_cons_self
    simp only [pathState, if_neg notDouble, if_neg notSingle]
    rw [ih fun segment mem => plain segment (mem_cons_of_mem _ mem), append_assoc]
    rfl

lemma mem_pathState (mem : segment ∈ pathState path segs) :
    segment ∈ path ∨ segment = [] ∨ (segment ∈ segs ∧ segment ∉ singleDot ∧ segment ∉ doubleDot) := by
  induction segs generalizing path with
  | nil => exact .inl mem
  | cons first later ih =>
    have ends : segment ∈ (if later = [] then [[]] else [] : List Text) → segment = [] := by split <;> simp
    obtain hit | empty | ⟨hit, plain⟩ := ih mem
    · split at hit
      · obtain old | last := mem_append.mp hit
        · exact .inl (dropLast_subset _ old)
        · exact .inr (.inl (ends last))
      · rename_i notDouble
        split at hit
        · obtain old | last := mem_append.mp hit
          · exact .inl old
          · exact .inr (.inl (ends last))
        · rename_i notSingle
          obtain old | last := mem_append.mp hit
          · exact .inl old
          · obtain rfl := mem_singleton.mp last
            exact .inr (.inr ⟨mem_cons_self, notSingle, notDouble⟩)
    · exact .inr (.inl empty)
    · exact .inr (.inr ⟨mem_cons_of_mem _ hit, plain⟩)

lemma join_eq_intercalate (head : Text) (path : List Text) :
    join (head :: path) = ['/'].intercalate (head :: path) := by
  induction path generalizing head with
  | nil => simp [join, List.intercalate]
  | cons first later ih =>
    simp only [join, List.intercalate, flatMap_cons] at ih ⊢
    rw [intersperse_cons_cons, flatten_cons, flatten_cons, ← ih]
    rfl

lemma splitOn_path (whole : ∀ segment ∈ path, '/' ∉ segment) :
    (path.flatMap ('/' :: ·)).splitOn '/' = [] :: path := by
  have joined : path.flatMap ('/' :: ·) = ['/'].intercalate ([] :: path) := join_eq_intercalate [] path
  rw [joined]
  refine splitOn_intercalate _ (fun segment mem => ?_) (cons_ne_nil _ _)
  obtain rfl | mem := mem_cons.mp mem
  · exact not_mem_nil
  · exact whole segment mem

end

section

def delimiter (c : Char) : Bool := !referenceChar c && c ≠ '/' && c ≠ ':'
def Bounded (after : Text) : Prop := ∀ c ∈ after.head?, delimiter c = true

variable {pre after text rest : Text} {c : Char}

lemma Bounded.head (bounded : Bounded (c :: rest)) : referenceChar c = false ∧ c ≠ '/' ∧ c ≠ ':' := by
  have delimits := bounded c rfl
  simp only [delimiter, Bool.and_eq_true, Bool.not_eq_true', decide_eq_true_eq] at delimits
  exact ⟨delimits.1.1, delimits.1.2, delimits.2⟩

lemma pathRun_cons (isReference : referenceChar c = true) : pathRun (c :: rest) = c :: pathRun rest := by
  have notSlash : c ≠ '/' := by
    rintro rfl
    exact absurd isReference (by decide)
  cases rest <;> simp [pathRun, isReference, notSlash]

lemma pathRun_stops (stops : referenceChar c = false) (notSlash : c ≠ '/') : pathRun (c :: rest) = [] := by
  cases rest <;> simp [pathRun, stops, notSlash]

lemma pathRun_append (bounded : Bounded after) (text : Text) : pathRun (text ++ after) = pathRun text := by
  have empty : pathRun after = [] := by
    cases after with
    | nil => rfl
    | cons d more => exact pathRun_stops bounded.head.1 bounded.head.2.1
  fun_induction pathRun text with
  | case1 c rest isReference ih => simp [pathRun, isReference, ih]
  | case2 c rest stops => simp [pathRun, stops]
  | case3 c rest notPair isReference ih => rw [cons_append, pathRun_cons isReference, ih]
  | case4 c rest notPair stops =>
    by_cases slash : c = '/'
    · subst slash
      cases rest with
      | cons d more => exact absurd rfl (notPair d more rfl)
      | nil =>
        cases after with
        | nil => rfl
        | cons d more => simp [pathRun, bounded.head.1]
    · exact pathRun_stops (Bool.eq_false_iff.mpr stops) slash
  | case5 => exact empty

lemma isPrefixOf_append (bounded : Bounded after) {word : Text}
    (inside : ∀ c ∈ word, delimiter c = false) (text : Text) : word.isPrefixOf (text ++ after) =
      word.isPrefixOf text := by
  induction word generalizing text with
  | nil => simp [List.isPrefixOf]
  | cons first later ih =>
    cases text with
    | nil =>
      cases after with
      | nil => rfl
      | cons d more =>
        have differ : first ≠ d := by
          rintro rfl
          have delimits := bounded first rfl
          rw [inside first mem_cons_self] at delimits
          cases delimits
        simp [List.isPrefixOf, differ]
    | cons c rest =>
      simp only [cons_append, List.isPrefixOf]
      rw [ih fun c mem => inside c (mem_cons_of_mem _ mem)]

lemma matchReference_append (bounded : Bounded after) (text : Text) :
    matchReference (text ++ after) = matchReference text := by
  unfold matchReference
  rw [isPrefixOf_append bounded (by simp [scheme, delimiter]; decide)]
  by_cases starts : scheme.isPrefixOf text = true
  · have long : 9 ≤ text.length := (List.isPrefixOf_iff_prefix.mp starts).length_le
    rw [if_pos starts, if_pos starts, drop_append_of_le_length long]
    cases text.drop 9 with
    | nil =>
      cases after with
      | nil => rfl
      | cons d more => simp [bounded.head.1]
    | cons c rest => simp only [cons_append, pathRun_append bounded]
  · rw [if_neg starts, if_neg starts]

lemma length_pathRun (text : Text) : (pathRun text).length ≤ text.length := by fun_induction pathRun text <;> grind

lemma length_matchReference {raw} (hit : matchReference text = some raw) : raw.length ≤ text.length := by
  unfold matchReference at hit
  split at hit
  · have dropped : (text.drop 9).length = text.length - 9 := length_drop
    split at hit
    · cases hit
    · rename_i c rest behind
      have run := length_pathRun rest
      rw [behind, length_cons] at dropped
      split at hit
      · obtain rfl := Option.some.inj hit
        have start : (scheme).length = 9 := rfl
        rw [length_append, length_cons, start]
        omega
      · cases hit
  · cases hit

lemma matchAll_append (bounded : Bounded after) {taken : ℕ} (within : taken ≤ text.length) :
    matchAll taken (text ++ after) = matchAll taken text ++ matchAll 0 after := by
  induction text generalizing taken with
  | nil =>
    obtain rfl : taken = 0 := Nat.le_zero.mp within
    simp [matchAll]
  | cons c rest ih =>
    cases taken with
    | succ taken => exact ih (Nat.succ_le_succ_iff.mp within)
    | zero =>
      have same := matchReference_append bounded (c :: rest)
      rw [cons_append] at same
      rw [cons_append, matchAll, matchAll, same]
      cases hit : matchReference (c :: rest) with
      | none => exact ih (Nat.zero_le _)
      | some raw =>
        have short := length_matchReference hit
        rw [length_cons] at short
        exact congrArg (raw :: ·) (ih (by omega))

lemma matchAll_taken (text rest : Text) : matchAll text.length (text ++ rest) = matchAll 0 rest := by
  induction text with
  | nil => rfl
  | cons c text ih => exact ih

lemma matchAll_delimiter (delimits : delimiter c = true) (rest : Text) :
    matchAll 0 (c :: rest) = matchAll 0 rest := by
  have none_here : matchReference (c :: rest) = none := by
    have differ : 'c' ≠ c := by
      rintro rfl
      exact absurd delimits (by decide)
    simp [matchReference, scheme, List.isPrefixOf, differ]
  rw [matchAll, none_here]

lemma pathRun_text {text} (isReference : ∀ c ∈ text, referenceChar c = true) (rest : Text) :
    pathRun (text ++ rest) = text ++ pathRun rest := by
  induction text with
  | nil => rfl
  | cons c text ih =>
    rw [cons_append, pathRun_cons (isReference c mem_cons_self),
      ih fun c mem => isReference c (mem_cons_of_mem _ mem)]
    rfl

lemma pathRun_path {segs : List Text} (texts : ∀ segment ∈ segs, ReferenceText segment) :
    pathRun (segs.flatMap ('/' :: ·)) = segs.flatMap ('/' :: ·) := by
  induction segs with
  | nil => rfl
  | cons first later ih =>
    obtain ⟨named, letters⟩ := texts first mem_cons_self
    obtain ⟨c, rest, rfl⟩ := exists_cons_of_ne_nil named
    rw [all_eq_true] at letters
    rw [flatMap_cons, cons_append, cons_append, pathRun, if_pos (letters c mem_cons_self),
      pathRun_text fun c mem => letters c (mem_cons_of_mem _ mem),
      ih fun segment mem => texts segment (mem_cons_of_mem _ mem)]

lemma matchReference_path {host segs} (isHost : ReferenceText host) (some_path : segs ≠ [])
    (texts : ∀ segment ∈ segs, ReferenceText segment) : matchReference (scheme ++ join (host :: segs)) =
      some (scheme ++ join (host :: segs)) := by
  obtain ⟨named, letters⟩ := isHost
  obtain ⟨c, rest, rfl⟩ := exists_cons_of_ne_nil named
  rw [all_eq_true] at letters
  have run : pathRun (rest ++ segs.flatMap ('/' :: ·)) = rest ++ segs.flatMap ('/' :: ·) := by
    rw [pathRun_text fun c mem => letters c (mem_cons_of_mem _ mem), pathRun_path texts]
  have slash : '/' ∈ segs.flatMap ('/' :: ·) := by
    obtain ⟨first, later, rfl⟩ := exists_cons_of_ne_nil some_path
    exact mem_append_left _ mem_cons_self
  have starts : scheme.isPrefixOf (scheme ++ join ((c :: rest) :: segs)) = true :=
    List.isPrefixOf_iff_prefix.mpr (prefix_append _ _)
  have behind : (scheme ++ join ((c :: rest) :: segs)).drop 9 = c :: (rest ++ segs.flatMap ('/' :: ·)) := rfl
  rw [matchReference, if_pos starts, behind]
  simp only [run, letters c mem_cons_self, mem_append, slash, or_true, decide_true, Bool.and_self, if_true]
  rfl

end

section
variable {newUrl : Text → Option Url} {project slug sect field : Text}

def exactReference (project slug sect field : Text) : ClawdiReference :=
  ⟨buildExactClawdiReference project slug sect field, some project, slug, sect, field, true⟩

/-- The reference is read as what it was built for, wherever it stands by itself in a text. -/
structure RoundTrip (newUrl : Text → Option Url) (project slug sect field : Text) : Prop where
  built : exactVaultReference project slug sect field = buildExactClawdiReference project slug sect field
  parsed : parseClawdiReference newUrl (buildExactClawdiReference project slug sect field) =
    .ok (exactReference project slug sect field)
  found : ∀ pre after, Bounded pre.reverse → Bounded after →
    matchAll 0 (pre ++ buildExactClawdiReference project slug sect field ++ after) =
      matchAll 0 pre ++ buildExactClawdiReference project slug sect field :: matchAll 0 after
  scanned : ∀ pre after, Bounded pre.reverse → Bounded after → matchAll 0 pre = [] → matchAll 0 after = [] →
    scanClawdiReferences newUrl (pre ++ buildExactClawdiReference project slug sect field ++ after) =
      .ok [exactReference project slug sect field]

lemma matchAll_within {ref pre after : Text} (whole : matchReference ref = some ref)
    (starts : Bounded pre.reverse) (ends : Bounded after) :
    matchAll 0 (pre ++ ref ++ after) = matchAll 0 pre ++ ref :: matchAll 0 after := by
  have here : matchAll 0 (ref ++ after) = ref :: matchAll 0 after := by
    have same := matchReference_append ends ref
    cases ref with
    | nil => cases whole
    | cons c rest =>
      rw [cons_append] at same ⊢
      rw [matchAll, same, whole]
      exact congrArg _ (matchAll_taken rest after)
  rw [append_assoc]
  obtain rfl | ⟨front, d, rfl⟩ := eq_nil_or_concat pre
  · exact here
  · have delimits : delimiter d = true := starts d (by simp)
    have bounded (rest : Text) : Bounded (d :: rest) := fun c head => by
      obtain rfl : d = c := Option.some.inj head
      exact delimits
    rw [concat_eq_append, append_assoc, singleton_append,
      matchAll_append (bounded (ref ++ after)) (Nat.zero_le _), matchAll_append (bounded []) (Nat.zero_le _),
      matchAll_delimiter delimits, matchAll_delimiter delimits, here, matchAll, append_nil]

lemma referenceParts_names (projectName : Name project) (slugName : Name slug)
    (sectionValid : sect = [] ∨ Name sect) (fieldName : Name field) :
    ∀ part ∈ referenceParts project slug sect field, Name part := by
  have keywords : ∀ keyword ∈ ["project", "vault", "section", "field"], Name keyword.toList := by
    unfold Name
    decide
  intro part mem
  simp only [referenceParts, referencePath, mem_append, mem_cons, not_mem_nil, or_false] at mem
  rcases mem with rfl | rfl | rfl | rfl | inSection | rfl | rfl
  · exact keywords _ (by simp)
  · exact projectName
  · exact keywords _ (by simp)
  · exact slugName
  · split at inSection
    · cases inSection
    · rename_i given
      rcases mem_cons.mp inSection with rfl | inSection
      · exact keywords _ (by simp)
      · obtain rfl := mem_singleton.mp inSection
        exact sectionValid.resolve_left given
  · exact keywords _ (by simp)
  · exact fieldName

variable {parts : List Text} {ref : ClawdiReference}

lemma encoded {safe : Char → Bool} (names : ∀ part ∈ parts, Name part)
    (keeps : ∀ c, itemChar c = true → safe c = true) : parts.map (percentEncode safe) = parts := by
  refine (map_congr_left fun part mem => ?_).trans parts.map_id
  exact percentEncode_name (names part mem) keeps

lemma not_dotted_of_mem {segs segment} (isName : Name segment)
    (mem : segment ∈ pathState [] segs) : ¬Dotted segment := by
  intro dotted
  obtain never | empty | ⟨_, notSingle, notDouble⟩ := mem_pathState mem
  · cases never
  · exact isName.1 empty
  · exact (isName.dot_segment.mpr dotted).elim notSingle notDouble

lemma pathState_names {segs} (names : ∀ segment ∈ segs, Name segment) :
    ∀ segment ∈ (pathState [] segs).filter (· ≠ []), Name segment := by
  intro segment mem
  obtain ⟨mem, named⟩ := mem_filter.mp mem
  obtain never | empty | ⟨hit, _⟩ := mem_pathState mem
  · cases never
  · simp [empty] at named
  · exact names segment hit

lemma parseClawdiReference_eq (standard : Standard newUrl) {segs}
    (names : ∀ segment ∈ segs, Name segment) : let input := scheme ++ join ("project".toList :: segs)
    let parts := (pathState [] segs).filter (· ≠ [])
    parseClawdiReference newUrl input =
      if parts[1]? = some "vault".toList then parseProjectReference input parts
      else parseRelativeReference input "project".toList parts := by
  intro input parts
  have host : Name "project".toList := by
    unfold Name
    decide
  have read := standard.hierarchical _ _ host.reference fun segment mem => (names segment mem).reference
  have whole : ∀ segment ∈ pathState [] segs, '/' ∉ segment := by
    intro segment mem
    obtain never | rfl | ⟨hit, _⟩ := mem_pathState mem
    · cases never
    · exact not_mem_nil
    · exact (names segment hit).not_mem (by decide)
  have dec := mapM_decodeURIComponent (pathState_names names)
  rw [parseClawdiReference, read]
  simp only [ne_eq, not_true_eq_false, if_false, decodeURIComponent_name host, splitOn_path whole]
  rw [filter_cons_of_neg (by simp)]
  simp only [dec, bind, Except.bind, true_and]
  rfl

variable {input : Text}

lemma parseProjectReference_ok (parsed : parseProjectReference input parts = .ok ref) :
    ref.field ∈ parts ∧ (ref.sectionName = [] ∨ ref.sectionName ∈ parts) := by
  unfold parseProjectReference at parsed
  split at parsed
  · split at parsed
    · cases parsed
    · simp [← Except.ok.inj parsed]
  · split at parsed
    · cases parsed
    · simp [← Except.ok.inj parsed]
  · cases parsed

lemma parseRelativeReference_ok {vault}
    (parsed : parseRelativeReference input vault parts = .ok ref) : ref.isExact = false := by
  unfold parseRelativeReference at parsed
  split at parsed
  · cases parsed
  · split at parsed
    · exact congrArg ClawdiReference.isExact (Except.ok.inj parsed).symm
    · exact congrArg ClawdiReference.isExact (Except.ok.inj parsed).symm
    · cases parsed

lemma mapM_single (parsed : parseClawdiReference newUrl input = .ok ref) :
    ([] ++ [input]).eraseDups.mapM (parseClawdiReference newUrl) = .ok [ref] := by
  have single : ([] ++ [input]).eraseDups = [input] := by simp [eraseDups_cons]
  rw [single, mapM_cons, parsed]
  rfl

/-- A reference is read as the secret it names exactly if neither its section nor its field is a dot segment. -/
theorem reference_round_trip_iff (standard : Standard newUrl) (projectValid : uuid project = true)
    (slugValid : vaultSlug slug = true) (sectionValid : sect = [] ∨ vaultItemSegment sect = true)
    (fieldValid : vaultItemSegment field = true) :
    RoundTrip newUrl project slug sect field ↔ ¬Dotted sect ∧ ¬Dotted field := by
  obtain ⟨projectName, projectPlain⟩ := name_of_uuid projectValid
  obtain ⟨slugName, slugPlain⟩ := name_of_vaultSlug slugValid
  have fieldName := name_of_vaultItemSegment fieldValid
  have sectionGiven := sectionValid.imp_right name_of_vaultItemSegment
  have names := referenceParts_names projectName slugName sectionGiven fieldName
  have byClient : (referenceParts project slug sect field).map encodeURIComponent = _ :=
    encoded names fun c safe => by simp [safe]
  have byServer : (referenceParts project slug sect field).map quote = _ :=
    encoded names fun c safe => by simp [safe]
  have parts : referenceParts project slug sect field =
    "project".toList :: referencePath project slug sect field := rfl
  obtain ⟨segs, path⟩ : ∃ segs, segs = referencePath project slug sect field := ⟨_, rfl⟩
  rw [← path] at parts
  have built : buildExactClawdiReference project slug sect field =
      scheme ++ join ("project".toList :: segs) :=
    congrArg (fun parts => scheme ++ join parts) (byClient.trans parts)
  have segmentNames : ∀ segment ∈ segs, Name segment := fun segment mem =>
    names segment (parts ▸ mem_cons_of_mem _ mem)
  have parsing := parseClawdiReference_eq standard segmentNames
  rw [← built] at parsing
  constructor
  · intro round
    have parsed := parsing.symm.trans round.parsed
    split at parsed
    · obtain ⟨fieldRead, sectionRead⟩ := parseProjectReference_ok parsed
      refine ⟨?_, not_dotted_of_mem fieldName (mem_filter.mp fieldRead).1⟩
      obtain none_given | sectionRead := sectionRead
      · obtain rfl : sect = [] := none_given
        decide
      · have isName := sectionGiven.resolve_left fun empty => by simp [exactReference, empty] at sectionRead
        exact not_dotted_of_mem isName (mem_filter.mp sectionRead).1
    · cases parseRelativeReference_ok parsed
  · rintro ⟨sectionPlain, fieldPlain⟩
    have plain : ∀ segment ∈ segs, segment ∉ singleDot ∧ segment ∉ doubleDot := by
      intro segment mem
      rw [← not_or, (segmentNames segment mem).dot_segment]
      have keywords : ∀ keyword ∈ ["vault", "section", "field"], ¬Dotted keyword.toList := by decide
      simp only [path, referencePath, mem_cons, mem_append, not_mem_nil, or_false] at mem
      rcases mem with rfl | rfl | rfl | inSection | rfl | rfl
      · exact projectPlain
      · exact keywords _ (by simp)
      · exact slugPlain
      · split at inSection
        · cases inSection
        · rcases mem_cons.mp inSection with rfl | inSection
          · exact keywords _ (by simp)
          · exact mem_singleton.mp inSection ▸ sectionPlain
      · exact keywords _ (by simp)
      · exact fieldPlain
    have kept : segs.filter (· ≠ []) = segs :=
      filter_eq_self.mpr fun segment mem => decide_eq_true (segmentNames segment mem).1
    rw [pathState_plain plain, nil_append, kept, path, referencePath] at parsing
    have parsed : parseClawdiReference newUrl (buildExactClawdiReference project slug sect field) =
        .ok (exactReference project slug sect field) := by
      rw [parsing]
      by_cases empty : sect = [] <;>
        simp [empty, exactReference, parseProjectReference, projectName.1, slugName.1, fieldName.1]
    have whole : matchReference (buildExactClawdiReference project slug sect field) =
        some (buildExactClawdiReference project slug sect field) := by
      have host := (names "project".toList (parts ▸ mem_cons_self)).reference
      rw [built]
      exact matchReference_path host (path ▸ cons_ne_nil _ _) fun segment mem =>
        (segmentNames segment mem).reference
    refine ⟨congrArg (fun parts => scheme ++ join parts) (byServer.trans byClient.symm), parsed, ?_, ?_⟩
    · exact fun pre after starts ends => matchAll_within whole starts ends
    · intro pre after starts ends nothingBefore nothingAfter
      rw [scanClawdiReferences, matchAll_within whole starts ends, nothingBefore, nothingAfter]
      exact mapM_single parsed

end

section

/-- The parser on the texts of references. -/
def hierarchicalUrl (input : Text) : Option Url :=
  if scheme.isPrefixOf input then
    match (input.drop 9).splitOn '/' with
    | host :: segs => some ⟨"clawdi:".toList, host, (pathState [] segs).flatMap ('/' :: ·)⟩
    | [] => none
  else none

lemma standard_hierarchicalUrl : Standard hierarchicalUrl where
  hierarchical host segs isHost texts := by
    have whole (text : Text) (isText : ReferenceText text) : '/' ∉ text := by
      intro mem
      exact absurd (all_eq_true.mp isText.2 _ mem) (by decide)
    have starts : scheme.isPrefixOf (scheme ++ join (host :: segs)) = true :=
      List.isPrefixOf_iff_prefix.mpr (prefix_append _ _)
    have behind : (scheme ++ join (host :: segs)).drop 9 = join (host :: segs) := rfl
    have split : (join (host :: segs)).splitOn '/' = host :: segs := by
      rw [join_eq_intercalate]
      refine splitOn_intercalate _ (fun segment mem => ?_) (cons_ne_nil _ _)
      obtain rfl | mem := mem_cons.mp mem
      · exact whole _ isHost
      · exact whole _ (texts segment mem)
    rw [hierarchicalUrl, if_pos starts, behind, split]

def sampleProject : Text := "00000000-0000-0000-0000-000000000123".toList

theorem reference_round_trip_iff_sample :
    RoundTrip hierarchicalUrl sampleProject "prod".toList "openai".toList "api_key".toList :=
  (reference_round_trip_iff standard_hierarchicalUrl (by decide +kernel) (by decide +kernel)
    (.inr (by decide +kernel)) (by decide +kernel)).mpr ⟨by decide +kernel, by decide +kernel⟩

/-- The section `..` takes the word before it away, and the reference to one secret is read as that to another. -/
theorem dotted_section_misread : Standard hierarchicalUrl ∧ uuid sampleProject = true ∧
    vaultSlug "prod".toList = true ∧ vaultItemSegment "..".toList = true ∧ vaultItemSegment "api_key".toList = true ∧
    (parseClawdiReference hierarchicalUrl
      (buildExactClawdiReference sampleProject "prod".toList "..".toList "api_key".toList)).toOption =
      some ⟨buildExactClawdiReference sampleProject "prod".toList "..".toList "api_key".toList,
        some sampleProject, "prod".toList, [], "api_key".toList, true⟩ :=
  ⟨standard_hierarchicalUrl, by decide +kernel, by decide +kernel, by decide +kernel, by decide +kernel,
    by decide +kernel⟩

end
end Clawdi.References
