import Clawdi.Lib.Transition
import Mathlib.Order.Fin.Basic

namespace Clawdi.UserActivity
open Transition (run Always)

/-- The engine's dates over its valid times `τ`: a text that is no date parses to none. -/
structure Dates (τ : Type) where
  parse : String → Option τ
  toISOString : τ → String
  parse_toISOString : ∀ time, parse (toISOString time) = some time
  parse_empty : parse "" = none

inductive SupportedRuntime
  | hermes
  | openclaw
  deriving DecidableEq

inductive Classification
  | knownLastUserInput
  | knownNoUserInput
  | unknown
  deriving DecidableEq

structure RuntimeUserActivityState where
  schemaVersion : String
  agentType : SupportedRuntime
  classifierVersion : ℕ
  classification : Classification
  lastUserInputAt : Option String
  observedAt : String
  completeAt : Option String
  error : Option String

abbrev File := Option RuntimeUserActivityState
def schemaVersion : String := "clawdi.runtimeUserActivity.v1"
def RUNTIME_USER_ACTIVITY_CLASSIFIER_VERSION : ℕ := 1

variable {τ : Type} [LinearOrder τ] (dates : Dates τ)
namespace Dates

/-- A comparison with an invalid date is false. -/
def compare (holds : τ → τ → Bool) (first snd : String) : Bool :=
  match dates.parse first, dates.parse snd with
  | some first, some snd => holds first snd
  | _, _ => false

def isIsoTimestamp (v : String) : Bool := (dates.parse v).isSome

def latest (best : Option τ) (v : Option String) : Option τ :=
  match v.bind dates.parse, best with
  | none, best => best
  | some timestamp, none => some timestamp
  | some timestamp, some best => if timestamp > best then some timestamp else some best

def maxTimestamp (vs : List (Option String)) : Option String := (vs.foldl dates.latest none).map dates.toISOString

end Dates

def readRuntimeUserActivityState (row : RuntimeUserActivityState) : Option RuntimeUserActivityState :=
  if row.schemaVersion ≠ schemaVersion ∨ row.classifierVersion ≠ RUNTIME_USER_ACTIVITY_CLASSIFIER_VERSION ∨
      ¬dates.isIsoTimestamp row.observedAt ∨ ¬row.completeAt.all dates.isIsoTimestamp ∨
      ¬row.lastUserInputAt.all dates.isIsoTimestamp then none
  else if row.classification = .knownLastUserInput ∧ row.lastUserInputAt = none then none
  else if row.classification = .knownNoUserInput ∧ row.lastUserInputAt ≠ none then none
  else if row.classification ≠ .unknown ∧ row.completeAt = none then none
  else if row.classification = .unknown ∧ (row.error = none ∨ row.error = some "") then none
  else if row.classification ≠ .unknown ∧ row.error ≠ none then none
  else if row.completeAt.any (dates.compare (· > ·) · row.observedAt) then none
  else if row.lastUserInputAt.any (dates.compare (· > ·) · row.observedAt) then none
  else some row

inductive Call (τ : Type)
  | recordScan (lastUserInputAt : Option String) (activityComplete complete : Bool) (observedAt : τ)
  | markUnknown (error : String) (now : τ)

def stored (agentType : SupportedRuntime) (file : File) : Option RuntimeUserActivityState :=
  (file.bind (readRuntimeUserActivityState dates)).filter (·.agentType = agentType)

def recordRuntimeUserActivityScan (agentType : SupportedRuntime) (file : File)
    (lastUserInputAt : Option String) (activityComplete complete : Bool) (now : τ) : RuntimeUserActivityState :=
  let prev := stored dates agentType file
  let observedAt := (dates.maxTimestamp [prev.map (·.observedAt), some (dates.toISOString now)]).getD ""
  let latest := dates.maxTimestamp [prev.bind (·.lastUserInputAt), lastUserInputAt]
  let priorBaselineKnown := prev.any fun st => st.classification ≠ .unknown && st.completeAt.isSome
  let known := activityComplete && (complete || priorBaselineKnown)
  let timestampIsValid := latest.all (dates.compare (· ≤ ·) · observedAt)
  { schemaVersion
    agentType
    classifierVersion := RUNTIME_USER_ACTIVITY_CLASSIFIER_VERSION
    classification :=
      if known && timestampIsValid then
        if latest.any (· ≠ "") then .knownLastUserInput else .knownNoUserInput
      else .unknown
    lastUserInputAt := if timestampIsValid then latest else prev.bind (·.lastUserInputAt)
    observedAt
    completeAt := if known && timestampIsValid then some observedAt else prev.bind (·.completeAt)
    error :=
      if known && timestampIsValid then none
      else some (if timestampIsValid then "activity_scan_incomplete" else "activity_timestamp_in_future") }

def markRuntimeUserActivityUnknown (agentType : SupportedRuntime) (file : File)
    (error : String) (now : τ) : RuntimeUserActivityState :=
  let prev := stored dates agentType file
  { schemaVersion
    agentType
    classifierVersion := RUNTIME_USER_ACTIVITY_CLASSIFIER_VERSION
    classification := .unknown
    lastUserInputAt := prev.bind (·.lastUserInputAt)
    observedAt := dates.toISOString now
    completeAt := prev.bind (·.completeAt)
    error := some error }

/-- Each call replaces the file. -/
def step (agentType : SupportedRuntime) (file : File) : Call τ → File
  | .recordScan lastUserInputAt activityComplete complete now =>
    some (recordRuntimeUserActivityScan dates agentType file lastUserInputAt activityComplete complete now)
  | .markUnknown error now => some (markRuntimeUserActivityUnknown dates agentType file error now)

def Accepted (file : File) : Prop := ∀ st ∈ file, readRuntimeUserActivityState dates st = some st

/-- The second text names a time that is not before that of the first. -/
def NotBefore (first snd : Option String) : Prop :=
  ∀ text ∈ first, ∀ time ∈ dates.parse text, ∃ later ∈ snd, ∃ stamp ∈ dates.parse later, time ≤ stamp

variable {dates} {agentType : SupportedRuntime} {file : File}
  {row st : RuntimeUserActivityState}

def Dated (dates : Dates τ) (row : RuntimeUserActivityState) : Prop :=
  ∃ obs, dates.parse row.observedAt = some obs ∧
    ∀ text, text ∈ row.completeAt ∨ text ∈ row.lastUserInputAt → ∃ time, dates.parse text = some time ∧ time ≤ obs

omit [LinearOrder τ] in
lemma compare_eq {first snd a b} (holds : τ → τ → Bool) (one : dates.parse first = some a)
    (two : dates.parse snd = some b) : dates.compare holds first snd = holds a b := by
  simp only [Dates.compare, one, two]

lemma read_eq_some (hit : readRuntimeUserActivityState dates row = some st) : st = row ∧ Dated dates row := by
  simp only [readRuntimeUserActivityState, Option.ite_none_left_eq_some, Option.some.injEq] at hit
  obtain ⟨typed, _, _, _, _, _, complete, input, rfl⟩ := hit
  simp only [Dates.isIsoTimestamp, not_or, not_not] at typed
  obtain ⟨_, _, observes, completes, inputs⟩ := typed
  obtain ⟨obs, parsed⟩ := Option.isSome_iff_exists.mp observes
  have early : ∀ v : Option String, v.all (fun text => (dates.parse text).isSome) = true →
      ¬v.any (dates.compare (· > ·) · row.observedAt) = true →
      ∀ text ∈ v, ∃ time, dates.parse text = some time ∧ time ≤ obs := by
    rintro _ typed pre text rfl
    obtain ⟨time, named⟩ := Option.isSome_iff_exists.mp typed
    rw [Option.any_some, compare_eq _ named parsed, decide_eq_true_eq, not_lt] at pre
    exact ⟨time, named, pre⟩
  refine ⟨rfl, obs, parsed, ?_⟩
  rintro text (mem | mem)
  · exact early _ completes complete text mem
  · exact early _ inputs input text mem

lemma stored_eq_some (hit : stored dates agentType file = some st) : file = some st ∧ Dated dates st := by
  obtain ⟨read, _⟩ := Option.filter_eq_some_iff.mp hit
  obtain ⟨row, is, read⟩ := Option.bind_eq_some_iff.mp read
  obtain ⟨rfl, dated⟩ := read_eq_some read
  exact ⟨is, dated⟩

structure Agrees (agentType : SupportedRuntime) (row : RuntimeUserActivityState) : Prop where
  schema : row.schemaVersion = schemaVersion
  version : row.classifierVersion = RUNTIME_USER_ACTIVITY_CLASSIFIER_VERSION
  type : row.agentType = agentType
  known : row.classification = .knownLastUserInput → row.lastUserInputAt ≠ none
  unset : row.classification = .knownNoUserInput → row.lastUserInputAt = none
  complete : row.classification ≠ .unknown → row.completeAt ≠ none ∧ row.error = none
  unknown : row.classification = .unknown → row.error ≠ none ∧ row.error ≠ some ""

lemma stored_of_agrees (agrees : Agrees agentType row) (dated : Dated dates row) :
    stored dates agentType (some row) = some row := by
  obtain ⟨obs, parsed, bounded⟩ := dated
  have typed : ∀ v, v = row.completeAt ∨ v = row.lastUserInputAt →
      v.all dates.isIsoTimestamp = true ∧ v.any (dates.compare (· > ·) · row.observedAt) = false := by
    intro v is
    cases v with
    | none => exact ⟨rfl, rfl⟩
    | some text =>
      obtain ⟨time, named, early⟩ := bounded text (is.imp Eq.symm Eq.symm)
      refine ⟨by simp [Dates.isIsoTimestamp, named], ?_⟩
      rw [Option.any_some, compare_eq _ named parsed]
      simpa using early
  have complete := typed _ (.inl rfl)
  have input := typed _ (.inr rfl)
  have read : readRuntimeUserActivityState dates row = some row := by
    simp only [readRuntimeUserActivityState, Option.ite_none_left_eq_some]
    refine ⟨?_, fun bad => agrees.known bad.1 bad.2, fun bad => bad.2 (agrees.unset bad.1),
      fun bad => (agrees.complete bad.1).1 bad.2, fun bad => ?_, fun bad => bad.2 (agrees.complete bad.1).2,
      ?_, ?_, trivial⟩
    · simp [agrees.schema, agrees.version, complete.1, input.1, Dates.isIsoTimestamp, parsed]
    · obtain ⟨named, nonempty⟩ := agrees.unknown bad.1
      exact bad.2.elim named nonempty
    · simp [complete.2]
    · simp [input.2]
  simp [stored, read, agrees.type]

lemma maxTimestamp_pair (dates : Dates τ) (first snd : Option String) :
    ∃ best, dates.maxTimestamp [first, snd] = best.map dates.toISOString ∧
      ∀ time, time ∈ first.bind dates.parse ∨ time ∈ snd.bind dates.parse → ∃ stamp, best = some stamp ∧
        time ≤ stamp := by
  refine ⟨_, rfl, ?_⟩
  simp only [List.foldl_cons, List.foldl_nil, Dates.latest]
  cases first.bind dates.parse with
  | none => cases snd.bind dates.parse <;> simp
  | some one =>
    cases snd.bind dates.parse with
    | none => simp
    | some two =>
      rintro time (is | is)
      · obtain rfl := Option.some.inj is
        by_cases above : two > one
        · exact ⟨two, by simp [above], above.le⟩
        · exact ⟨_, by simp [above], le_rfl⟩
      · obtain rfl := Option.some.inj is
        by_cases above : two > one
        · exact ⟨_, by simp [above], le_rfl⟩
        · exact ⟨one, by simp [above], not_lt.mp above⟩

lemma NotBefore.refl (text : Option String) : NotBefore dates text text :=
  fun text mem time named => ⟨text, mem, time, named, le_rfl⟩

def Keeps (dates : Dates τ) (agentType : SupportedRuntime) (file : File) (next : RuntimeUserActivityState) : Prop :=
  Agrees agentType next ∧ Dated dates next ∧ ∀ st, stored dates agentType file = some st →
    NotBefore dates st.lastUserInputAt next.lastUserInputAt ∧ NotBefore dates st.completeAt next.completeAt

lemma recordScan_keeps (lastUserInputAt : Option String) (activityComplete complete : Bool) (now : τ) :
    Keeps dates agentType file
      (recordRuntimeUserActivityScan dates agentType file lastUserInputAt activityComplete complete now) := by
  obtain ⟨best, isBest, bounds⟩ := maxTimestamp_pair dates ((stored dates agentType file).map (·.observedAt))
    (some (dates.toISOString now))
  obtain ⟨obs, rfl, _⟩ := bounds now (.inr (dates.parse_toISOString now))
  obtain ⟨latest, isLatest, above⟩ := maxTimestamp_pair dates
    ((stored dates agentType file).bind (·.lastUserInputAt)) lastUserInputAt
  have early : ∀ st, stored dates agentType file = some st → ∀ text,
      text ∈ st.completeAt ∨ text ∈ st.lastUserInputAt →
        ∃ time, dates.parse text = some time ∧ time ≤ obs := by
    intro st hit text mem
    obtain ⟨_, pre, parsed, dated⟩ := stored_eq_some hit
    obtain ⟨time, named, le⟩ := dated text mem
    obtain ⟨_, is, later⟩ := bounds pre (.inl (by simpa [hit] using parsed))
    cases is
    exact ⟨time, named, le.trans later⟩
  have valid : (latest.map dates.toISOString).all (dates.compare (· ≤ ·) · (dates.toISOString obs)) =
      latest.all (· ≤ obs) := by
    cases latest with
    | none => rfl
    | some last => exact compare_eq _ (dates.parse_toISOString last) (dates.parse_toISOString obs)
  have follows : ∀ st, stored dates agentType file = some st →
      NotBefore dates st.lastUserInputAt (latest.map dates.toISOString) := by
    intro st hit text mem time named
    obtain ⟨stamp, rfl, le⟩ := above time (.inl (by simpa [hit, Option.mem_def.mp mem] using named))
    exact ⟨_, rfl, stamp, dates.parse_toISOString stamp, le⟩
  have wrote : ∀ time, dates.toISOString time ≠ "" := by
    intro time empty
    have parsed := dates.parse_toISOString time
    rw [empty, dates.parse_empty] at parsed
    cases parsed
  simp only [recordRuntimeUserActivityScan, isBest, isLatest, valid, Option.map_some, Option.getD_some]
  generalize (activityComplete && _) = known
  refine ⟨⟨rfl, rfl, rfl, ?_, ?_, ?_, ?_⟩, ⟨obs, dates.parse_toISOString obs, ?_⟩, ?_⟩
  · by_cases inPast : latest.all (· ≤ obs) = true
    · cases latest <;> cases known <;> simp [inPast]
    · simp [inPast]
  · by_cases inPast : latest.all (· ≤ obs) = true
    · cases latest <;> cases known <;> simp [inPast, wrote]
    · simp [inPast]
  · cases (known && latest.all (· ≤ obs)) <;> simp
  · cases (known && latest.all (· ≤ obs)) with
    | true => cases latest <;> simp [wrote]
    | false => cases latest.all (· ≤ obs) <;> simp
  · rintro text (mem | mem)
    · simp only at mem
      split at mem
      · cases mem
        exact ⟨obs, dates.parse_toISOString obs, le_rfl⟩
      · obtain ⟨st, hit, mem⟩ := Option.bind_eq_some_iff.mp mem
        exact early st hit text (.inl mem)
    · simp only at mem
      split at mem
      · rename_i inPast
        obtain ⟨last, rfl, rfl⟩ := Option.map_eq_some_iff.mp mem
        exact ⟨last, dates.parse_toISOString last, by simpa using inPast⟩
      · obtain ⟨st, hit, mem⟩ := Option.bind_eq_some_iff.mp mem
        exact early st hit text (.inr mem)
  · intro st hit
    constructor
    · simp only
      split
      · exact follows st hit
      · simpa [hit] using NotBefore.refl _
    · simp only
      split
      · intro text mem time named
        obtain ⟨_, is, le⟩ := early st hit text (.inl mem)
        cases is.symm.trans named
        exact ⟨_, rfl, obs, dates.parse_toISOString obs, le⟩
      · simpa [hit] using NotBefore.refl _

def Timely (dates : Dates τ) (file : File) : Call τ → Prop
  | .recordScan .. => True
  | .markUnknown error now => error ≠ "" ∧ ∀ st ∈ file, ∀ text ∈ st.completeAt.toList ++ st.lastUserInputAt.toList,
      ∀ time ∈ dates.parse text, time ≤ now

lemma step_keeps {call} (timely : Timely dates file call) :
    ∃ next, step dates agentType file call = some next ∧ Keeps dates agentType file next := by
  cases call with
  | recordScan lastUserInputAt activityComplete complete now => exact ⟨_, rfl, recordScan_keeps ..⟩
  | markUnknown error now =>
    obtain ⟨named, behind⟩ := timely
    refine ⟨_, rfl,
      ⟨rfl, rfl, rfl, nofun, nofun, (absurd rfl ·), fun _ =>
        ⟨nofun, by simpa [markRuntimeUserActivityUnknown] using named⟩⟩,
      ⟨now, dates.parse_toISOString now, ?_⟩, ?_⟩
    · intro text mem
      have part : ∃ st, stored dates agentType file = some st ∧
        (text ∈ st.completeAt ∨ text ∈ st.lastUserInputAt) := by
        obtain mem | mem := mem
        · obtain ⟨st, hit, mem⟩ := Option.bind_eq_some_iff.mp mem
          exact ⟨st, hit, .inl mem⟩
        · obtain ⟨st, hit, mem⟩ := Option.bind_eq_some_iff.mp mem
          exact ⟨st, hit, .inr mem⟩
      obtain ⟨st, hit, mem⟩ := part
      obtain ⟨is, _, _, dated⟩ := stored_eq_some hit
      obtain ⟨time, parsed, _⟩ := dated text mem
      exact ⟨time, parsed, behind st is text (by simpa using mem) time parsed⟩
    · intro st hit
      simpa [markRuntimeUserActivityUnknown, hit] using ⟨NotBefore.refl _, NotBefore.refl _⟩

lemma NotBefore.trans {first snd third} (one : NotBefore dates first snd)
    (two : NotBefore dates snd third) : NotBefore dates first third := by
  intro text mem time named
  obtain ⟨later, mem, stamp, named, le⟩ := one text mem time named
  obtain ⟨last, mem, final, named, le'⟩ := two later mem stamp named
  exact ⟨last, mem, final, named, le.trans le'⟩

def Since (dates : Dates τ) (agentType : SupportedRuntime) (input complete : Option String) (file : File) : Prop :=
  (∀ st ∈ file, stored dates agentType file = some st) ∧
    NotBefore dates input (file.bind (·.lastUserInputAt)) ∧ NotBefore dates complete (file.bind (·.completeAt))

lemma Since.step {input complete} (since : Since dates agentType input complete file) {call}
    (timely : Timely dates file call) : Since dates agentType input complete (step dates agentType file call) := by
  obtain ⟨next, is, agrees, dated, kept⟩ := step_keeps timely
  rw [is]
  refine ⟨?_, ?_⟩
  · intro st mem
    cases mem
    exact stored_of_agrees agrees dated
  · obtain ⟨whole, inputs, completes⟩ := since
    cases file with
    | none =>
      constructor
      · intro text mem time named
        obtain ⟨_, ⟨⟩, _⟩ := inputs text mem time named
      · intro text mem time named
        obtain ⟨_, ⟨⟩, _⟩ := completes text mem time named
    | some st =>
      obtain ⟨input, complete⟩ := kept st (whole st rfl)
      exact ⟨inputs.trans input, completes.trans complete⟩

/-- In a run whose marks are timely each file written is read back, and no later file loses the last input
or the completed scan of an earlier one. -/
theorem activity_baseline_kept (dates : Dates τ) (agentType : SupportedRuntime) (pre after : List (Call τ))
    (timely : Always (step dates agentType) (Timely dates) none (pre ++ after)) :
    let wrote := fun calls => run (step dates agentType) none calls
    Accepted dates (wrote pre) ∧ NotBefore dates ((wrote pre).bind (·.lastUserInputAt))
        ((wrote (pre ++ after)).bind (·.lastUserInputAt)) ∧
      NotBefore dates ((wrote pre).bind (·.completeAt)) ((wrote (pre ++ after)).bind (·.completeAt)) := by
  obtain ⟨first, snd⟩ := Always.append.mp timely
  have keeps : ∀ input complete file call, Since dates agentType input complete file → Timely dates file call →
      Since dates agentType input complete (step dates agentType file call) := fun _ _ _ _ since timely =>
        since.step timely
  obtain ⟨whole, _⟩ := Always.invariant (keeps none none)
    ⟨fun _ mem => (by cases mem), fun _ mem => (by cases mem), fun _ mem => (by cases mem)⟩ first
  refine ⟨fun st is => ?_, ?_⟩
  · obtain ⟨read, _⟩ := Option.filter_eq_some_iff.mp (whole st is)
    obtain ⟨row, same, read⟩ := Option.bind_eq_some_iff.mp read
    cases is.symm.trans same
    exact read
  · simp only [Transition.run_append]
    exact (Always.invariant (keeps _ _) ⟨whole, NotBefore.refl _, NotBefore.refl _⟩ snd).2

instance (file : File) : ∀ call, Decidable (Timely dates file call)
  | .recordScan .. => .isTrue trivial
  | .markUnknown error now => inferInstanceAs (Decidable (error ≠ "" ∧ ∀ st ∈ file,
      ∀ text ∈ st.completeAt.toList ++ st.lastUserInputAt.toList, ∀ time ∈ dates.parse text, time ≤ now))

/-- The first three milliseconds. -/
def epoch : Dates (Fin 3) where
  parse text :=
    if text = "1970-01-01T00:00:00.000Z" then some 0
    else if text = "1970-01-01T00:00:00.001Z" then some 1
    else if text = "1970-01-01T00:00:00.002Z" then some 2
    else none
  toISOString time :=
    if time = 0 then "1970-01-01T00:00:00.000Z"
    else if time = 1 then "1970-01-01T00:00:00.001Z"
    else "1970-01-01T00:00:00.002Z"
  parse_toISOString := by decide +kernel
  parse_empty := by decide +kernel

def scanned : List (Call (Fin 3)) := [.recordScan (some "1970-01-01T00:00:00.000Z") true true 2]

theorem activity_baseline_kept_scanned : Accepted epoch (run (step epoch .hermes) none scanned) :=
  (activity_baseline_kept epoch .hermes scanned [.markUnknown "activity_scan_failed" 2] (by decide +kernel)).1

/-- After a scan a mark reads a clock that was set back. -/
theorem marked_with_clock_behind : ¬∀ calls, Accepted epoch (run (step epoch .hermes) none calls) := by
  intro claimed
  have read := claimed (scanned ++ [.markUnknown "activity_scan_failed" 1]) _ rfl
  exact absurd (congrArg Option.isSome read) (by decide +kernel)

end Clawdi.UserActivity
