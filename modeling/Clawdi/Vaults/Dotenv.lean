import Mathlib.Data.List.DropRight

namespace Clawdi.Dotenv
open List

/-- The code units of a string. -/
abbrev Text := List Nat
def newline : Nat := 0x0A
def carriageReturn : Nat := 0x0D
def doubleQuote : Nat := 0x22
def singleQuote : Nat := 0x27
def equals : Nat := 0x3D
def backslash : Nat := 0x5C
def letterN : Nat := 0x6E

variable (unit : Nat) (text : Text) {first : Nat} (content pre : Text) {snd by' : Nat} {rest : Text}

/-- The units that `.` does not match. -/
def isLineTerminator : Bool := unit = newline || unit = carriageReturn || unit = 0x2028 || unit = 0x2029

def isSpace : Bool :=
  (0x09 ≤ unit && unit ≤ 0x0D) || unit = 0x20 || unit = 0xA0 || unit = 0x1680 || (0x2000 ≤ unit && unit ≤ 0x200A) ||
    isLineTerminator unit || unit = 0x202F || unit = 0x205F || unit = 0x3000 || unit = 0xFEFF

def trimEnd : Text := text.rdropWhile isSpace
def trim : Text := trimEnd (text.dropWhile isSpace)

/-- `split(/\r?\n/)`. -/
def splitLines : Text → List Text
  | [] => [[]]
  | unit :: rest =>
    if unit = newline then [] :: splitLines rest
    else if unit = carriageReturn ∧ rest.head? = some newline then splitLines rest
    else (splitLines rest).modifyHead (unit :: ·)

def isLetter : Bool := (0x41 ≤ unit && unit ≤ 0x5A) || (0x61 ≤ unit && unit ≤ 0x7A) || unit = 0x5F
def isDigit : Bool := 0x30 ≤ unit && unit ≤ 0x39

/-- `DOTENV_IDENTIFIER_RE`. -/
def isIdentifier : Text → Bool
  | [] => false
  | first :: rest => isLetter first && rest.all fun unit => isLetter unit || isDigit unit

def isNameUnit : Bool := unit ≠ equals && !isSpace unit

/-- `([^=\s]+)\s*=\s*(.*)$`. -/
def matchAssignment : Option (Text × Text) :=
  let name := text.takeWhile isNameUnit
  match (text.dropWhile isNameUnit).dropWhile isSpace with
  | [] => none
  | unit :: rest =>
    let v := rest.dropWhile isSpace
    if name ≠ [] ∧ unit = equals ∧ ¬v.any isLineTerminator then some (name, v) else none

def exportWord : Text := [0x65, 0x78, 0x70, 0x6F, 0x72, 0x74]

/-- `^(?:export\s+)?`, which the rest of the expression may force back to nothing. -/
def matchLine : Option (Text × Text) :=
  let rest := text.drop exportWord.length
  if exportWord.isPrefixOf text && rest.head?.any isSpace then
    matchAssignment (rest.dropWhile isSpace) <|> matchAssignment text
  else matchAssignment text

/-- Whether an odd number of backslashes ends the text before a unit, given in reverse. -/
def isEscaped : Bool := (pre.takeWhile (· = backslash)).length % 2 = 1

def closingQuoteIndex (quote : Nat) (pre : Text) (idx : ℕ) : Text → Option ℕ
  | [] => none
  | unit :: rest =>
    if unit ≠ quote ∨ (quote = doubleQuote ∧ isEscaped pre) then
      closingQuoteIndex quote (unit :: pre) (idx + 1) rest
    else some idx

/-- `replace` of each occurrence of two units. -/
def replacePair (first snd by' : Nat) : Text → Text
  | one :: alt :: rest =>
    if one = first ∧ alt = snd then by' :: replacePair first snd by' rest
    else one :: replacePair first snd by' (alt :: rest)
  | rest => rest

def unescape : Text :=
  replacePair backslash backslash backslash
    (replacePair backslash doubleQuote doubleQuote (replacePair backslash letterN newline text))

def closing (quote : Nat) (v : Text) : Option ℕ :=
  if v.head? = some quote then closingQuoteIndex quote [quote] 1 v.tail else none

def parseDotenvValue (v : Text) : Text :=
  match closing doubleQuote v with
  | some stop => unescape ((v.take stop).drop 1)
  | none =>
    match closing singleQuote v with
    | some stop => (v.take stop).drop 1
    | none =>
      match (range v.length).find? fun idx => [0x20, 0x23].isPrefixOf (v.drop idx) with
      | none => v
      | some hashIndex => trimEnd (v.take hashIndex)

structure ParsedDotenv where
  entries : List (Text × Text)
  skippedInvalidIdentifiers : List Text

def parseLine (parsed : ParsedDotenv) (line : Text) : ParsedDotenv :=
  let trimmed := trim line
  if trimmed = [] ∨ trimmed.head? = some 0x23 then parsed
  else
    match matchLine trimmed with
    | none => parsed
    | some (name, v) =>
      if isIdentifier name then
        { parsed with entries := parsed.entries ++ [(name, parseDotenvValue (trim v))] }
      else { parsed with skippedInvalidIdentifiers := parsed.skippedInvalidIdentifiers ++ [name] }

def parseDotenvDetailed : ParsedDotenv := (splitLines content).foldl parseLine ⟨[], []⟩

/-- The value with each backslash, double quote and newline escaped. -/
def escape (v : Text) : Text :=
  v.flatMap fun unit =>
    if unit = backslash then [backslash, backslash]
    else if unit = doubleQuote then [backslash, doubleQuote]
    else if unit = newline then [backslash, letterN]
    else [unit]

def entryLine (name v : Text) : Text := name ++ equals :: doubleQuote :: (escape v ++ [doubleQuote])

def slip : Text → Text
  | one :: alt :: rest =>
    if one = backslash ∧ alt = letterN then backslash :: newline :: slip rest else one :: slip (alt :: rest)
  | rest => rest

/-- The value with its backslashes, double quotes, newlines and its n after a backslash put as the given texts. -/
def render (slash quote line pair : Text) : Text → Text
  | one :: alt :: rest =>
    if one = backslash ∧ alt = letterN then pair ++ render slash quote line pair rest
    else token one ++ render slash quote line pair (alt :: rest)
  | [one] => token one
  | [] => []
where token (unit : Nat) : Text :=
  if unit = backslash then slash else if unit = doubleQuote then quote else if unit = newline then line else [unit]

lemma replacePair_cons {one : Nat} (apart : one ≠ first ∨ rest.head? ≠ some snd) :
    replacePair first snd by' (one :: rest) = one :: replacePair first snd by' rest := by
  cases rest with
  | nil => rfl
  | cons alt rest =>
    rw [replacePair, if_neg]
    rintro ⟨rfl, rfl⟩
    exact apart.elim (· rfl) (· rfl)

lemma replacePair_two {one alt : Nat} (apart : alt ≠ snd) :
    replacePair first snd by' (one :: alt :: rest) = one :: replacePair first snd by' (alt :: rest) :=
  replacePair_cons (.inr (by simpa using apart))

lemma escape_eq_render (v : Text) :
    escape v = render [backslash, backslash] [backslash, doubleQuote] [backslash, letterN]
      [backslash, backslash, letterN] v := by
  induction v using slip.induct with
  | case1 one alt rest pair ih =>
    obtain ⟨rfl, rfl⟩ := pair
    rw [render, if_pos ⟨rfl, rfl⟩, ← ih]
    rfl
  | case2 one alt rest apart ih =>
    rw [render, if_neg apart, ← ih]
    rfl
  | case3 rest short =>
    match rest, short with
    | [], _ => rfl
    | [one], _ => exact append_nil _
    | one :: alt :: rest, short => exact absurd rfl (short one alt rest)

variable {slash quote line pair : Text}

lemma head_render (slashes : slash.head? = some backslash) (quotes : quote.head? = some backslash)
    (pairs : pair.head? = some backslash) {start : Nat} (lines : line.head? = some start)
    {head : Nat} (hit : (render slash quote line pair (first :: rest)).head? = some head) :
    head = backslash ∨ head = start ∨ (head = first ∧ first ≠ doubleQuote) := by
  have token : ∀ rest : Text, (render.token slash quote line first ++ rest).head? = some head →
      head = backslash ∨ head = start ∨ (head = first ∧ first ≠ doubleQuote) := by
    intro rest hit
    unfold render.token at hit
    split at hit
    · simp [slashes] at hit
      exact .inl hit.symm
    split at hit
    · simp [quotes] at hit
      exact .inl hit.symm
    split at hit
    · simp [lines] at hit
      exact .inr (.inl hit.symm)
    · rename_i alt _
      simp at hit
      exact .inr (.inr ⟨hit.symm, alt⟩)
  cases rest with
  | nil =>
    rw [render] at hit
    exact token [] (by simpa using hit)
  | cons alt rest =>
    rw [render] at hit
    split at hit
    · simp [pairs] at hit
      exact .inl hit.symm
    · exact token _ hit

lemma replacePair_render {slash' quote' line' pair'} (follows : Text → Prop) (nothing : follows [])
    (starts : ∀ alt rest, alt ≠ letterN → follows (render slash quote line pair (alt :: rest)))
    (toks : ∀ one rest, (one = backslash → follows rest) →
      replacePair first snd by' (render.token slash quote line one ++ rest) =
        render.token slash' quote' line' one ++ replacePair first snd by' rest)
    (pairs : ∀ rest, replacePair first snd by' (pair ++ rest) = pair' ++ replacePair first snd by' rest) (v : Text) :
    replacePair first snd by' (render slash quote line pair v) = render slash' quote' line' pair' v := by
  induction v using slip.induct with
  | case1 one alt rest isPair ih => rw [render, if_pos isPair, pairs, ih, render, if_pos isPair]
  | case2 one alt rest apart ih =>
    rw [render, if_neg apart, toks, ih, render, if_neg apart]
    intro is
    exact starts alt rest fun letter => apart ⟨is, letter⟩
  | case3 rest short =>
    match rest, short with
    | [], _ => rfl
    | [one], _ => simpa [replacePair, render] using toks one [] fun _ => nothing
    | one :: alt :: rest, short => exact absurd rfl (short one alt rest)

lemma slip_eq_render (v : Text) : slip v = render [backslash] [doubleQuote] [newline] [backslash, newline] v := by
  have token : ∀ one, render.token [backslash] [doubleQuote] [newline] one = [one] := by
    intro one
    unfold render.token
    split
    · simp [*]
    split
    · simp [*]
    split <;> simp [*]
  induction v using slip.induct with
  | case1 one alt rest pair ih =>
    rw [render, if_pos pair, slip, if_pos pair, ih]
    rfl
  | case2 one alt rest apart ih =>
    rw [render, if_neg apart, slip, if_neg apart, ih, token]
    rfl
  | case3 rest short =>
    match rest, short with
    | [], _ => rfl
    | [one], _ => rw [render, token, slip]; exact nofun
    | one :: alt :: rest, short => exact absurd rfl (short one alt rest)

lemma replace_newlines (v : Text) : replacePair backslash letterN newline (escape v) =
      render [backslash, backslash] [backslash, doubleQuote] [newline] [backslash, newline] v := by
  rw [escape_eq_render]
  refine replacePair_render (fun rest => rest.head? ≠ some letterN) nofun ?_ ?_ (fun _ => rfl) v
  · intro alt rest different head
    obtain is | is | ⟨is, _⟩ := head_render rfl rfl rfl rfl head
    · cases is
    · cases is
    · exact different is.symm
  · intro one rest apart
    unfold render.token
    split
    · rename_i is
      rw [cons_append, singleton_append, replacePair_two (by decide), replacePair_cons (.inr (apart is))]
      rfl
    split
    · rw [cons_append, singleton_append, replacePair_two (by decide), replacePair_cons (.inl (by decide))]
      rfl
    split
    · rfl
    · rename_i alt _ _
      exact replacePair_cons (.inl alt)

lemma replace_quotes (v : Text) : replacePair backslash doubleQuote doubleQuote
      (render [backslash, backslash] [backslash, doubleQuote] [newline] [backslash, newline] v) =
      render [backslash, backslash] [doubleQuote] [newline] [backslash, newline] v := by
  refine replacePair_render (fun rest => rest.head? ≠ some doubleQuote) nofun ?_ ?_ ?_ v
  · intro alt rest _ head
    obtain is | is | ⟨is, different⟩ := head_render rfl rfl rfl rfl head
    · cases is
    · cases is
    · exact different is.symm
  · intro one rest apart
    unfold render.token
    split
    · rename_i is
      rw [cons_append, singleton_append, replacePair_two (by decide), replacePair_cons (.inr (apart is))]
      rfl
    split
    · rfl
    split
    · exact replacePair_cons (.inl (by decide))
    · rename_i alt _ _
      exact replacePair_cons (.inl alt)
  · intro rest
    rw [cons_append, singleton_append, replacePair_two (by decide), replacePair_cons (.inl (by decide))]
    rfl

lemma replace_slashes (v : Text) : replacePair backslash backslash backslash
      (render [backslash, backslash] [doubleQuote] [newline] [backslash, newline] v) = slip v := by
  rw [slip_eq_render]
  refine replacePair_render (fun _ => True) trivial (fun _ _ _ => trivial) ?_ ?_ v
  · intro one rest _
    unfold render.token
    split
    · rfl
    split
    · exact replacePair_cons (.inl (by decide))
    split
    · exact replacePair_cons (.inl (by decide))
    · rename_i alt _ _
      exact replacePair_cons (.inl alt)
  · intro rest
    rw [cons_append, singleton_append, replacePair_two (by decide), replacePair_cons (.inl (by decide))]
    rfl

lemma unescape_escape (v : Text) : unescape (escape v) = slip v := by
  rw [unescape, replace_newlines, replace_quotes, replace_slashes]

lemma slip_eq_iff (v : Text) : slip v = v ↔ ¬[backslash, letterN] <:+: v := by
  induction v using slip.induct with
  | case1 one alt rest pair ih =>
    obtain ⟨rfl, rfl⟩ := pair
    rw [slip, if_pos ⟨rfl, rfl⟩]
    refine ⟨fun same => ?_, fun free => absurd ⟨[], rest, rfl⟩ free⟩
    cases (cons.inj (cons.inj same).2).1
  | case2 one alt rest apart ih =>
    have begins : ¬[backslash, letterN] <+: one :: alt :: rest := by
      rintro ⟨after, is⟩
      cases is
      exact apart ⟨rfl, rfl⟩
    rw [slip, if_neg apart, cons_inj_right, ih, @infix_cons_iff _ _ one, or_iff_right begins]
  | case3 rest short =>
    match rest, short with
    | [], _ => simp [slip]
    | [one], _ => simp [slip, infix_cons_iff]
    | one :: alt :: rest, short => exact absurd rfl (short one alt rest)

lemma isEscaped_slash : isEscaped (backslash :: pre) = !isEscaped pre := by
  simp only [isEscaped, takeWhile_cons, decide_true, if_true, length_cons]
  rcases Nat.mod_two_eq_zero_or_one (pre.takeWhile (· = backslash)).length with even | odd
  · simp [even, Nat.add_mod]
  · simp [odd, Nat.add_mod]

lemma isEscaped_other {unit : Nat} (alt : unit ≠ backslash) (pre : Text) : isEscaped (unit :: pre) = false := by
  simp [isEscaped, alt]

lemma closing_escape {pre} (free : isEscaped pre = false) (v : Text) {idx stop : ℕ}
    (is : idx + (escape v).length = stop) :
    closingQuoteIndex doubleQuote pre idx (escape v ++ [doubleQuote]) = some stop := by
  have apart : backslash ≠ doubleQuote ∧ doubleQuote ≠ backslash ∧ newline ≠ backslash ∧ newline ≠ doubleQuote ∧
      letterN ≠ doubleQuote ∧ letterN ≠ backslash := by decide
  induction v generalizing pre idx with
  | nil => simpa [escape, closingQuoteIndex, free] using is
  | cons unit v ih =>
    rw [escape, flatMap_cons, ← escape] at is ⊢
    by_cases slash : unit = backslash
    · have twice : isEscaped (backslash :: backslash :: pre) = false := by simp [isEscaped_slash, free]
      simpa [slash, closingQuoteIndex, apart] using ih twice (by simp [slash] at is; omega)
    by_cases quote : unit = doubleQuote
    · have after := isEscaped_other apart.2.1 (backslash :: pre)
      simpa [quote, closingQuoteIndex, apart, isEscaped_slash, free] using ih after
        (by simp [quote, apart] at is; omega)
    by_cases line : unit = newline
    · have after := isEscaped_other apart.2.2.2.2.2 (backslash :: pre)
      simpa [line, closingQuoteIndex, apart] using ih after (by simp [line, apart] at is; omega)
    · have after := isEscaped_other slash pre
      simpa [slash, quote, line, closingQuoteIndex] using ih after (by simp [slash, quote, line] at is; omega)

lemma parseDotenvValue_escape (v : Text) :
    parseDotenvValue (doubleQuote :: (escape v ++ [doubleQuote])) = slip v := by
  have ends := closing_escape (isEscaped_other (show doubleQuote ≠ backslash by decide) []) v (Nat.add_comm 1 _)
  simp [parseDotenvValue, closing, ends, unescape_escape]

lemma isNameUnit_of_word {unit : Nat} (word : (isLetter unit || isDigit unit) = true) : isNameUnit unit = true := by
  simp [isLetter, isDigit] at word
  have apart : unit ≠ 61 ∧ unit ≠ 10 ∧ unit ≠ 13 := by omega
  simp [isNameUnit, isSpace, isLineTerminator, equals, newline, carriageReturn, apart]
  omega

lemma name_units {name} (valid : isIdentifier name = true) : name ≠ [] ∧ ∀ unit ∈ name, isNameUnit unit = true := by
  cases name with
  | nil => cases valid
  | cons first rest =>
    obtain ⟨letter, words⟩ := Bool.and_eq_true_iff.mp valid
    refine ⟨nofun, fun unit mem => isNameUnit_of_word ?_⟩
    obtain rfl | mem := mem_cons.mp mem
    · rw [letter, Bool.true_or]
    · exact all_eq_true.mp words unit mem

/-- A unit that ends the match of a line it stands in, unless it is escaped. -/
def isBreak : Bool := unit ≠ newline && isLineTerminator unit

lemma any_escape (v : Text) : (escape v).any isLineTerminator = v.any isBreak := by
  induction v with
  | nil => rfl
  | cons unit v ih =>
    rw [escape, flatMap_cons, ← escape, any_append, ih, any_cons]
    congr 1
    split
    · rename_i is
      subst is
      rfl
    split
    · rename_i is
      subst is
      rfl
    split
    · rename_i is
      subst is
      rfl
    · rename_i alt
      simp [isBreak, alt]

variable {name v : Text}

lemma matchLine_entryLine (valid : isIdentifier name = true) : matchLine (entryLine name v) =
    if v.any isBreak then none
    else some (name, doubleQuote :: (escape v ++ [doubleQuote])) := by
  obtain ⟨nonempty, units⟩ := name_units valid
  have word : (entryLine name v).takeWhile isNameUnit = name := by
    rw [entryLine, takeWhile_append_of_pos units]
    exact append_nil name
  have rest : (entryLine name v).dropWhile isNameUnit = equals :: doubleQuote :: (escape v ++ [doubleQuote]) := by
    rw [entryLine, dropWhile_append_of_pos units]
    rfl
  rw [matchLine, if_neg]
  · rw [matchAssignment, word, rest]
    show (if name ≠ [] ∧ equals = equals ∧ ¬(doubleQuote :: (escape v ++ [doubleQuote])).any isLineTerminator = true
      then _ else _) = _
    rw [any_cons, any_append, any_escape]
    cases v.any isBreak <;> simp [nonempty, show isLineTerminator doubleQuote = false from rfl]
    rfl
  · intro exported
    obtain ⟨starts, space⟩ := Bool.and_eq_true_iff.mp exported
    obtain ⟨after, is⟩ := isPrefixOf_iff_prefix.mp starts
    rw [← is, drop_left] at space
    rw [← is, dropWhile_append_of_pos (by decide)] at rest
    obtain ⟨first, hit, isFirst⟩ := (Option.any_eq_true _ _).mp space
    obtain ⟨tail, rfl⟩ := head?_eq_some_iff.mp hit
    rw [dropWhile_cons_of_neg (by simp [isNameUnit, isFirst])] at rest
    cases rest
    exact absurd isFirst (by decide)

/-- The entries that a line adds. -/
def entriesOf (line : Text) : List (Text × Text) := (parseLine ⟨[], []⟩ line).entries

lemma parse_entries : (parseDotenvDetailed content).entries = (splitLines content).flatMap entriesOf := by
  have adds : ∀ parsed line, (parseLine parsed line).entries = parsed.entries ++ entriesOf line := by
    intro parsed line
    unfold entriesOf parseLine
    dsimp only
    split
    · exact (append_nil _).symm
    split
    · exact (append_nil _).symm
    split <;> simp
  have folds : ∀ lines parsed, (foldl parseLine parsed lines).entries =
    parsed.entries ++ lines.flatMap entriesOf := by
    intro lines
    induction lines with
    | nil => simp
    | cons line lines ih =>
      intro parsed
      rw [foldl_cons, ih, adds, flatMap_cons, append_assoc]
  exact folds _ _

lemma trim_quoted {start : Nat} {text} (bare : isSpace start = false) :
    trim (start :: text ++ [doubleQuote]) = start :: text ++ [doubleQuote] := by
  rw [trim, cons_append, dropWhile_cons_of_neg (by simp [bare]), ← cons_append]
  exact rdropWhile_concat_neg _ _ _ (by decide)

lemma entriesOf_entryLine (valid : isIdentifier name = true) :
    entriesOf (entryLine name v) = if v.any isBreak then [] else [(name, slip v)] := by
  obtain ⟨nonempty, units⟩ := name_units valid
  have trimmed : trim (entryLine name v) = entryLine name v ∧ entryLine name v ≠ [] ∧
      (entryLine name v).head? ≠ some 0x23 := by
    cases name with
    | nil => exact absurd rfl nonempty
    | cons start name =>
      have bare : isNameUnit start = true := units start mem_cons_self
      refine ⟨?_, nofun, ?_⟩
      · have quoted := @trim_quoted start (name ++ equals :: doubleQuote :: escape v)
          (by simpa [isNameUnit] using (Bool.and_eq_true_iff.mp bare).2)
        simpa [entryLine] using quoted
      · intro is
        cases is
        cases valid
  have quoted := @trim_quoted doubleQuote (escape v) (by decide)
  rw [entriesOf, parseLine, trimmed.1, if_neg (by simp [trimmed.2]), matchLine_entryLine valid]
  cases v.any isBreak with
  | true => rfl
  | false =>
    rw [cons_append] at quoted
    simp [valid, quoted, parseDotenvValue_escape]

lemma splitLines_append {line rest : Text} (plain : newline ∉ line) (next : rest.head? ≠ some newline) :
    splitLines (line ++ rest) = (splitLines rest).modifyHead (line ++ ·) := by
  induction line with
  | nil => exact (congrFun modifyHead_id _).symm
  | cons unit line ih =>
    have alt : unit ≠ newline := fun is => plain (is ▸ mem_cons_self)
    have plain : newline ∉ line := fun mem => plain (mem_cons_of_mem _ mem)
    have here : (line ++ rest).head? ≠ some newline := by
      cases line with
      | nil => exact next
      | cons snd line => exact fun is => plain (by cases is; exact mem_cons_self)
    rw [cons_append, splitLines, if_neg alt, if_neg fun both => here both.2, ih plain, modifyHead_modifyHead]
    rfl

lemma splitLines_before (line : Text) : ∃ first lines, splitLines (line ++ [newline]) = first :: lines ++ [[]] ∧
    ∀ rest, splitLines (line ++ newline :: rest) = first :: lines ++ splitLines rest := by
  induction line with
  | nil => exact ⟨[], [], rfl, fun _ => rfl⟩
  | cons unit line ih =>
    obtain ⟨first, lines, whole, parts⟩ := ih
    have head : ∀ rest, (line ++ newline :: rest).head? = (line ++ [newline]).head? := by
      intro rest
      cases line <;> rfl
    by_cases breaks : unit = newline
    · refine ⟨[], first :: lines, ?_, fun rest => ?_⟩
      · rw [cons_append, splitLines, if_pos breaks, whole]
        rfl
      · rw [cons_append, splitLines, if_pos breaks, parts]
        rfl
    by_cases returns : unit = carriageReturn ∧ (line ++ [newline]).head? = some newline
    · refine ⟨first, lines, ?_, fun rest => ?_⟩
      · rw [cons_append, splitLines, if_neg breaks, if_pos returns, whole]
      · rw [cons_append, splitLines, if_neg breaks, if_pos (by rwa [head]), parts]
    · refine ⟨unit :: first, lines, ?_, fun rest => ?_⟩
      · rw [cons_append, splitLines, if_neg breaks, if_neg returns, whole]
        rfl
      · rw [cons_append, splitLines, if_neg breaks, if_neg (by rwa [head]), parts]
        rfl

lemma newline_not_mem (valid : isIdentifier name = true) : newline ∉ name ++ equals :: doubleQuote :: escape v := by
  intro mem
  obtain mem | mem := mem_append.mp mem
  · exact absurd ((name_units valid).2 newline mem) (by decide)
  · obtain is | mem := mem_cons.mp mem
    · cases is
    obtain is | mem := mem_cons.mp mem
    · cases is
    obtain ⟨unit, _, mem⟩ := mem_flatMap.mp mem
    split at mem
    · simp [newline, backslash] at mem
    split at mem
    · simp [newline, backslash, doubleQuote] at mem
    split at mem
    · simp [newline, backslash, letterN] at mem
    · rename_i alt
      exact alt (mem_singleton.mp mem).symm

/-- An entry's line adds its name and value, unless the value holds `\n`, a return or a separator. -/
theorem dotenv_keeps_iff (name v pre after : Text) (valid : isIdentifier name = true)
    (ends : pre = [] ∨ pre.getLast? = some newline)
    (starts : after = [] ∨ [newline] <+: after ∨ [carriageReturn, newline] <+: after) :
    (parseDotenvDetailed (pre ++ entryLine name v ++ after)).entries =
        (parseDotenvDetailed pre).entries ++ (name, v) :: (parseDotenvDetailed after).entries ↔
      ¬[backslash, letterN] <:+: v ∧ ∀ unit ∈ v, unit ≠ carriageReturn ∧ unit ≠ 0x2028 ∧ unit ≠ 0x2029 := by
  have blank : entriesOf [] = [] := rfl
  have next : ∃ rest, splitLines after = [] :: rest := by
    rcases starts with rfl | ⟨rest, rfl⟩ | ⟨rest, rfl⟩
    · exact ⟨[], rfl⟩
    · exact ⟨_, rfl⟩
    · exact ⟨_, rfl⟩
  obtain ⟨rest, next⟩ := next
  have line : splitLines (entryLine name v ++ after) = entryLine name v :: rest := by
    have quote : splitLines (doubleQuote :: after) = [doubleQuote] :: rest := by
      rw [splitLines, if_neg (by decide), if_neg fun both => absurd both.1 (by decide), next]
      rfl
    have parts := @splitLines_append _ (doubleQuote :: after) (@newline_not_mem _ v valid) nofun
    rw [quote] at parts
    simpa [entryLine] using parts
  have sides : ∃ lines, (splitLines pre).flatMap entriesOf = lines.flatMap entriesOf ∧
      splitLines (pre ++ (entryLine name v ++ after)) = lines ++ splitLines (entryLine name v ++ after) := by
    obtain rfl | ends := ends
    · exact ⟨[], rfl, rfl⟩
    · obtain ⟨start, rfl⟩ := getLast?_eq_some_iff.mp ends
      obtain ⟨first, lines, whole, parts⟩ := splitLines_before start
      refine ⟨first :: lines, ?_, ?_⟩
      · rw [whole, flatMap_append, flatMap_singleton, blank, append_nil]
      · rw [append_assoc]
        exact parts _
  obtain ⟨lines, first, whole⟩ := sides
  rw [parse_entries, parse_entries, parse_entries, append_assoc, whole, first, line, next, flatMap_append,
    flatMap_cons,
    flatMap_cons, blank, nil_append, append_cancel_left_eq, entriesOf_entryLine valid]
  cases breaks : v.any isBreak with
  | true =>
    obtain ⟨unit, mem, isBreak⟩ := any_eq_true.mp breaks
    refine ⟨fun same => absurd (congrArg length same) (by simp), fun holds => ?_⟩
    simp [Dotenv.isBreak, isLineTerminator, holds.2 unit mem] at isBreak
  | false =>
    rw [any_eq_false] at breaks
    rw [if_neg nofun, singleton_append, cons.injEq, Prod.mk.injEq, slip_eq_iff, and_iff_left rfl]
    refine ⟨fun same => ⟨same.2, fun unit mem => ?_⟩, fun holds => ⟨rfl, holds.1⟩⟩
    have plain := breaks unit mem
    refine ⟨?_, ?_, ?_⟩ <;>
    · rintro rfl
      exact plain rfl

theorem dotenv_keeps_iff_sample :
    (parseDotenvDetailed ([0x23, newline] ++ entryLine [0x41] [backslash, 0x62, newline] ++ [newline])).entries =
      [([0x41], [backslash, 0x62, newline])] :=
  (dotenv_keeps_iff [0x41] [backslash, 0x62, newline] [0x23, newline] [newline] rfl (.inr rfl)
    (.inr (.inl ⟨[], rfl⟩))).mpr (by decide)

/-- The value `\n`, a backslash and an n, comes back as a backslash and a newline. -/
theorem slashed_letter_altered : ¬∀ name v pre after : Text, isIdentifier name = true →
    (pre = [] ∨ pre.getLast? = some newline) →
    (after = [] ∨ [newline] <+: after ∨ [carriageReturn, newline] <+: after) →
    (parseDotenvDetailed (pre ++ entryLine name v ++ after)).entries =
      (parseDotenvDetailed pre).entries ++ (name, v) :: (parseDotenvDetailed after).entries := by
  intro claimed
  exact absurd (claimed [0x41] [backslash, letterN] [] [] rfl (.inl rfl) (.inl rfl)) (by decide)

end Clawdi.Dotenv
