import Exemplar.Proofs.PlainNames
import Mathlib.Data.List.Induction

/-
Runs of separators. A text is divided into its maximal runs of separators and the characters between
them. In a run the second, fourth and all further even separators stay, and the others are deleted.
After an odd number of separators the next character is capitalized, but at the end of the text and
before a line feed the last separator stays instead. Words that are joined by single separators
are therefore capitalized and concatenated.
-/

namespace Exemplar

namespace Naming

/-- A segment of a text is a run of separators and the characters up to the next run. -/
structure Segment where
  run : List Char
  plain : List Char

namespace Segment

def text (segment : Segment) : List Char :=
  segment.run ++ segment.plain

/-- Nothing can be capitalized at the end of the text and at a line feed. -/
def EndsLine (segment : Segment) : Prop :=
  segment.plain.head? = none ∨ segment.plain.head? = some '\n'

instance (segment : Segment) : Decidable segment.EndsLine :=
  inferInstanceAs (Decidable (_ ∨ _))

/-- The separators of a run are counted from one. Those of an even number stay, and so does the last
one of an odd run that ends the line. -/
def Stays (segment : Segment) (number : Nat) : Prop :=
  number % 2 = 0 ∨ number = segment.run.length ∧ segment.run.length % 2 = 1 ∧ segment.EndsLine

instance (segment : Segment) (number : Nat) : Decidable (segment.Stays number) :=
  inferInstanceAs (Decidable (_ ∨ _))

/-- This function returns the separators of a run that stay. -/
def kept (segment : Segment) : List Char :=
  ((segment.run.zipIdx 1).filter fun separator => segment.Stays separator.2).map Prod.fst

/-- The character after an odd run is capitalized unless it is a line feed. -/
def continued (segment : Segment) : List Char :=
  match segment.plain with
  | [] => []
  | next :: rest =>
      if segment.run.length % 2 = 1 ∧ next ≠ '\n' then Unicode.upperForm next ++ rest
      else next :: rest

/-- This function collapses the separators of a segment. -/
def collapsed (segment : Segment) : List Char :=
  segment.kept ++ segment.continued

end Segment

/-- A text is divided into the characters before the first run and one segment for each maximal run
of separators. Only the last run may be at the end of the text. -/
structure Divides (start : List Char) (segments : List Segment) (text : List Char) : Prop where
  text : text = start ++ segments.flatMap Segment.text
  start : ∀ character ∈ start, isSeparator character = false
  started : ∀ segment ∈ segments, segment.run ≠ []
  runs : ∀ segment ∈ segments, ∀ character ∈ segment.run, isSeparator character = true
  plain : ∀ segment ∈ segments, ∀ character ∈ segment.plain, isSeparator character = false
  bounded : ∀ segment ∈ segments.dropLast, segment.plain ≠ []

theorem collapseSeparators_cons {character : Char} (plain : isSeparator character = false)
    (rest : List Char) :
    collapseSeparators (character :: rest) = character :: collapseSeparators rest := by
  cases rest with
  | nil => rfl
  | cons next later => rw [collapseSeparators, plain, Bool.false_and, if_neg Bool.false_ne_true]

/-- Characters that are no separators stay. -/
theorem collapseSeparators_append {start : List Char}
    (plain : ∀ character ∈ start, isSeparator character = false) (rest : List Char) :
    collapseSeparators (start ++ rest) = start ++ collapseSeparators rest := by
  induction start with
  | nil => rfl
  | cons first later inductionHypothesis =>
      obtain ⟨firstPlain, laterPlain⟩ := List.forall_mem_cons.mp plain
      rw [List.cons_append, collapseSeparators_cons firstPlain, inductionHypothesis laterPlain]
      rfl

theorem collapseSeparators_separator {separator next : Char}
    (separates : isSeparator separator = true) (continues : next ≠ '\n') (rest : List Char) :
    collapseSeparators (separator :: next :: rest) =
      Unicode.upperForm next ++ collapseSeparators rest := by
  rw [collapseSeparators, separates, Bool.true_and, if_pos (bne_iff_ne.mpr continues)]

theorem collapseSeparators_lineFeed (separator : Char) (rest : List Char) :
    collapseSeparators (separator :: '\n' :: rest) =
      separator :: collapseSeparators ('\n' :: rest) := by
  rw [collapseSeparators, bne_self_eq_false, Bool.and_false, if_neg Bool.false_ne_true]

/-- A separator is no line feed, and it is its own capital. -/
theorem upperForm_of_isSeparator {separator : Char} (separates : isSeparator separator = true) :
    separator ≠ '\n' ∧ Unicode.upperForm separator = [separator] := by
  rcases Bool.or_eq_true_iff.mp separates with lowLine | hyphen
  · rw [eq_of_beq lowLine]
    decide +kernel
  · rw [eq_of_beq hyphen]
    decide +kernel

namespace Segment

/-- Two separators more keep the second of them and change nothing else. -/
theorem kept_cons_cons (first second : Char) (rest plain : List Char) :
    (Segment.mk (first :: second :: rest) plain).kept = second :: (Segment.mk rest plain).kept := by
  have shifted (number : Nat) : (Segment.mk (first :: second :: rest) plain).Stays (number + 2) ↔
      (Segment.mk rest plain).Stays number := by
    have even : (number + 2) % 2 = 0 ↔ number % 2 = 0 := by omega
    have last : number + 2 = rest.length + 1 + 1 ↔ number = rest.length := by omega
    have odd : (rest.length + 1 + 1) % 2 = 1 ↔ rest.length % 2 = 1 := by omega
    simp only [Stays, List.length_cons, even, last, odd]
    rfl
  have firstDeleted : ¬ (Segment.mk (first :: second :: rest) plain).Stays 1 := by
    rintro (even | ⟨last, _⟩)
    · exact absurd even (by decide)
    · simp at last
  have secondStays : (Segment.mk (first :: second :: rest) plain).Stays 2 := .inl rfl
  have numbered : rest.zipIdx (1 + 1 + 1) = (rest.zipIdx 1).map (Prod.map id (· + 2)) :=
    (List.map_snd_add_zipIdx_eq_zipIdx (n := 2)).symm
  simp only [kept, List.zipIdx_cons, List.filter_cons, firstDeleted, secondStays, decide_false,
    decide_true, if_true, if_false, Bool.false_eq_true, List.map_cons, numbered, List.filter_map,
    List.map_map]
  simp [Function.comp_def, shifted]

/-- A run with two more separators capitalizes the next character if it did before. -/
theorem continued_cons_cons (first second : Char) (rest plain : List Char) :
    (Segment.mk (first :: second :: rest) plain).continued = (Segment.mk rest plain).continued := by
  have parity : (rest.length + 1 + 1) % 2 = rest.length % 2 := by omega
  simp only [continued, List.length_cons, parity]

theorem collapsed_singleton (separator : Char) {next : Char} (continues : next ≠ '\n')
    (rest : List Char) :
    (Segment.mk [separator] (next :: rest)).collapsed = Unicode.upperForm next ++ rest := by
  simp [collapsed, kept, continued, Stays, EndsLine, continues]

/-- A single separator before a line feed stays. -/
theorem collapsed_singleton_lineFeed (separator : Char) (rest : List Char) :
    (Segment.mk [separator] ('\n' :: rest)).collapsed = separator :: '\n' :: rest := by
  simp [collapsed, kept, continued, Stays, EndsLine]

end Segment

/-- The separators of a segment collapse whatever follows the segment. -/
theorem collapseSeparators_segment {run plain later : List Char}
    (separates : ∀ character ∈ run, isSeparator character = true)
    (isPlain : ∀ character ∈ plain, isSeparator character = false)
    (bounded : plain = [] → later = []) :
    collapseSeparators (run ++ (plain ++ later)) =
      (Segment.mk run plain).collapsed ++ collapseSeparators later := by
  induction run using List.twoStepInduction with
  | nil =>
      have continued : (Segment.mk [] plain).collapsed = plain := by cases plain <;> rfl
      rw [continued]
      exact collapseSeparators_append isPlain later
  | singleton separator =>
      have isSeparator := separates separator List.mem_cons_self
      cases plain with
      | nil =>
          rw [bounded rfl]
          rfl
      | cons next rest =>
          obtain ⟨_, restPlain⟩ := List.forall_mem_cons.mp isPlain
          by_cases lineFeed : next = '\n'
          · subst lineFeed
            rw [Segment.collapsed_singleton_lineFeed, List.singleton_append, List.cons_append,
              collapseSeparators_lineFeed, ← List.cons_append, collapseSeparators_append isPlain]
            rfl
          · rw [Segment.collapsed_singleton separator lineFeed, List.singleton_append,
              List.cons_append, collapseSeparators_separator isSeparator lineFeed,
              collapseSeparators_append restPlain, List.append_assoc]
  | cons_cons first second rest inductionHypothesis =>
      obtain ⟨isFirst, tail⟩ := List.forall_mem_cons.mp separates
      obtain ⟨isSecond, restSeparates⟩ := List.forall_mem_cons.mp tail
      obtain ⟨continues, capital⟩ := upperForm_of_isSeparator isSecond
      rw [List.cons_append, List.cons_append, collapseSeparators_separator isFirst continues,
        capital, inductionHypothesis restSeparates]
      simp only [Segment.collapsed, Segment.kept_cons_cons, Segment.continued_cons_cons]
      rfl

/-- The segments of a text collapse one by one. -/
theorem collapseSeparators_flatMap {segments : List Segment}
    (separates : ∀ segment ∈ segments, ∀ character ∈ segment.run, isSeparator character = true)
    (plain : ∀ segment ∈ segments, ∀ character ∈ segment.plain, isSeparator character = false)
    (bounded : ∀ segment ∈ segments.dropLast, segment.plain ≠ []) :
    collapseSeparators (segments.flatMap Segment.text) = segments.flatMap Segment.collapsed := by
  induction segments with
  | nil => rfl
  | cons first later inductionHypothesis =>
      obtain ⟨firstSeparates, laterSeparates⟩ := List.forall_mem_cons.mp separates
      obtain ⟨firstPlain, laterPlain⟩ := List.forall_mem_cons.mp plain
      have ends : first.plain = [] → later.flatMap Segment.text = [] := by
        intro empty
        cases later with
        | nil => rfl
        | cons next rest => exact absurd empty (bounded first List.mem_cons_self)
      have laterBounded : ∀ segment ∈ later.dropLast, segment.plain ≠ [] := by
        cases later with
        | nil => simp
        | cons next rest => exact (List.forall_mem_cons.mp bounded).2
      rw [List.flatMap_cons, List.flatMap_cons, Segment.text, List.append_assoc,
        collapseSeparators_segment firstSeparates firstPlain ends,
        inductionHypothesis laterSeparates laterPlain laterBounded]

namespace Divides

variable {start : List Char} {segments : List Segment} {text : List Char}

/-- A divided text collapses segment by segment. -/
theorem collapseSeparators_eq (divides : Divides start segments text) :
    collapseSeparators text = start ++ segments.flatMap Segment.collapsed := by
  rw [divides.text, collapseSeparators_append divides.start,
    collapseSeparators_flatMap divides.runs divides.plain divides.bounded]

/-- A character that is no separator belongs to the characters before the first run. -/
theorem cons_plain (divides : Divides start segments text) {first : Char}
    (plain : isSeparator first = false) : Divides (first :: start) segments (first :: text) where
  text := congrArg (List.cons first) divides.text
  start := List.forall_mem_cons.mpr ⟨plain, divides.start⟩
  started := divides.started
  runs := divides.runs
  plain := divides.plain
  bounded := divides.bounded

/-- A separator before other characters, or at the end of the text, is a run of its own. -/
theorem cons_separator (divides : Divides start segments text) {first : Char}
    (separates : isSeparator first = true) (ends : start = [] → segments = []) :
    Divides [] (⟨[first], start⟩ :: segments) (first :: text) where
  text := congrArg (List.cons first) divides.text
  start := by simp
  started := List.forall_mem_cons.mpr ⟨List.cons_ne_nil _ _, divides.started⟩
  runs := List.forall_mem_cons.mpr ⟨List.forall_mem_singleton.mpr separates, divides.runs⟩
  plain := List.forall_mem_cons.mpr ⟨divides.start, divides.plain⟩
  bounded := by
    cases segments with
    | nil => simp
    | cons next later =>
        exact List.forall_mem_cons.mpr ⟨mt ends (List.cons_ne_nil _ _), divides.bounded⟩

/-- A separator before a run belongs to the run. -/
theorem cons_run {segment : Segment} (divides : Divides [] (segment :: segments) text)
    {first : Char} (separates : isSeparator first = true) :
    Divides [] (⟨first :: segment.run, segment.plain⟩ :: segments) (first :: text) where
  text := congrArg (List.cons first) divides.text
  start := by simp
  started := List.forall_mem_cons.mpr
    ⟨List.cons_ne_nil _ _, (List.forall_mem_cons.mp divides.started).2⟩
  runs := by
    obtain ⟨segmentRun, laterRuns⟩ := List.forall_mem_cons.mp divides.runs
    exact List.forall_mem_cons.mpr ⟨List.forall_mem_cons.mpr ⟨separates, segmentRun⟩, laterRuns⟩
  plain := List.forall_mem_cons.mpr (List.forall_mem_cons.mp divides.plain)
  bounded := by
    cases segments with
    | nil => simp
    | cons next later => exact List.forall_mem_cons.mpr (List.forall_mem_cons.mp divides.bounded)

end Divides

/-- Every text is divided. -/
theorem exists_divides (text : List Char) : ∃ start segments, Divides start segments text := by
  induction text with
  | nil => exact ⟨[], [], rfl, by simp, by simp, by simp, by simp, by simp⟩
  | cons first rest inductionHypothesis =>
      obtain ⟨start, segments, divides⟩ := inductionHypothesis
      cases separates : isSeparator first with
      | false => exact ⟨_, _, divides.cons_plain separates⟩
      | true =>
          -- The separator starts a run unless the rest of the text starts with one.
          match start, segments, divides with
          | [], segment :: later, divides => exact ⟨_, _, divides.cons_run separates⟩
          | [], [], divides => exact ⟨_, _, divides.cons_separator separates fun _ => rfl⟩
          | _ :: _, _, divides => exact ⟨_, _, divides.cons_separator separates nofun⟩

/-- A word is not empty and has only ASCII letters and digits. -/
def IsWord (word : List Char) : Prop :=
  word ≠ [] ∧ ∀ character ∈ word, character.isAlphanum = true

instance : DecidablePred IsWord := fun _ => inferInstanceAs (Decidable (_ ∧ _))

/-- ASCII letters and digits have one capital and one small form, and they separate nothing. -/
theorem forms_of_isAlphanum {character : Char} (alphanumeric : character.isAlphanum = true) :
    Unicode.upperForm character = [character.toUpper] ∧
      Unicode.lowerForm character = [character.toLower] ∧
      isSeparator character = false ∧ character ≠ '\n' := by
  have word : isWordCharacter character = true := by simp [isWordCharacter, alphanumeric]
  obtain ⟨code, isAscii, rfl⟩ := exists_ascii_of_isWordCharacter word
  revert code
  decide +kernel

def capitalized (word : List Char) : List Char :=
  word.modifyHead Char.toUpper

/-- A single separator before a word capitalizes the word. -/
theorem Segment.collapsed_word (separator : Char) {word : List Char} (isWord : IsWord word) :
    (Segment.mk [separator] word).collapsed = capitalized word := by
  obtain ⟨started, alphanumeric⟩ := isWord
  obtain ⟨first, rest, rfl⟩ := List.exists_cons_of_ne_nil started
  obtain ⟨upper, _, _, noLineFeed⟩ := forms_of_isAlphanum (alphanumeric first List.mem_cons_self)
  rw [collapsed_singleton separator noLineFeed, upper]
  rfl

/-- Words that follow single separators are divided at the separators. -/
theorem divides_words {start : List Char} {later : List (Char × List Char)}
    (alphanumeric : ∀ character ∈ start, character.isAlphanum = true)
    (joined : ∀ part ∈ later, isSeparator part.1 = true ∧ IsWord part.2) :
    Divides start (later.map fun part => ⟨[part.1], part.2⟩)
      (start ++ later.flatMap fun part => part.1 :: part.2) where
  text := by simp [List.flatMap_map, Segment.text]
  start character member := (forms_of_isAlphanum (alphanumeric character member)).2.2.1
  started := List.forall_mem_map.mpr fun _ _ => List.cons_ne_nil _ _
  runs := List.forall_mem_map.mpr fun part member =>
    List.forall_mem_singleton.mpr (joined part member).1
  plain := List.forall_mem_map.mpr fun part member character within =>
    (forms_of_isAlphanum ((joined part member).2.2 character within)).2.2.1
  bounded := by
    rw [← List.map_dropLast]
    exact List.forall_mem_map.mpr fun part member =>
      (joined part (List.dropLast_subset _ member)).2.1

/-- Words that follow single separators are capitalized. -/
theorem collapseSeparators_words {start : List Char} {later : List (Char × List Char)}
    (alphanumeric : ∀ character ∈ start, character.isAlphanum = true)
    (joined : ∀ part ∈ later, isSeparator part.1 = true ∧ IsWord part.2) :
    collapseSeparators (start ++ later.flatMap fun part => part.1 :: part.2) =
      start ++ later.flatMap fun part => capitalized part.2 := by
  rw [(divides_words alphanumeric joined).collapseSeparators_eq, List.flatMap_map]
  congr 1
  exact List.flatMap_congr fun part member => Segment.collapsed_word part.1 (joined part member).2

/-- The names of a key collapse its separators when their characters after the first one are those
of the key with its runs of separators collapsed. In particular, words that are joined by single
separators are capitalized and concatenated, all of them in PascalCase and all but the first one in
camelCase. -/
structure CollapsesRuns (first : Char) (rest : List Char) : Prop where
  divided : ∃ start segments, Divides start segments rest
  pascal : ∀ start segments, Divides start segments rest →
    pascalCase (String.ofList (first :: rest)) =
      String.ofList (Unicode.upperForm first ++ (start ++ segments.flatMap Segment.collapsed))
  camel : ∀ start segments, Divides start segments rest →
    camelCase (String.ofList (first :: rest)) =
      String.ofList (Unicode.lowerForm first ++ (start ++ segments.flatMap Segment.collapsed))
  words : ∀ word (later : List (Char × List Char)), IsWord word →
    (∀ part ∈ later, isSeparator part.1 = true ∧ IsWord part.2) →
    first :: rest = word ++ later.flatMap (fun part => part.1 :: part.2) →
    pascalCase (String.ofList (first :: rest)) =
        String.ofList (capitalized word ++ later.flatMap fun part => capitalized part.2) ∧
      camelCase (String.ofList (first :: rest)) =
        String.ofList (word.modifyHead Char.toLower ++
          later.flatMap fun part => capitalized part.2)

/-- The names of every key collapse its separators run by run. -/
theorem collapses_runs (first : Char) (rest : List Char) : CollapsesRuns first rest where
  divided := exists_divides rest
  pascal start segments divides := by
    rw [pascalCase, String.toList_ofList, Naming.pascal, divides.collapseSeparators_eq]
  camel start segments divides := by
    rw [camelCase, String.toList_ofList, Naming.camel, divides.collapseSeparators_eq]
  words word later isWord joined same := by
    obtain ⟨started, alphanumeric⟩ := isWord
    obtain ⟨letter, tail, rfl⟩ := List.exists_cons_of_ne_nil started
    rw [List.cons_append] at same
    obtain ⟨rfl, rfl⟩ := List.cons.inj same
    obtain ⟨isLetter, tailAlphanumeric⟩ := List.forall_mem_cons.mp alphanumeric
    obtain ⟨upper, lower, _, _⟩ := forms_of_isAlphanum isLetter
    rw [pascalCase, camelCase, String.toList_ofList, Naming.pascal, Naming.camel, upper, lower,
      collapseSeparators_words tailAlphanumeric joined]
    exact ⟨rfl, rfl⟩

/-- Of two separators the second one stays, after three the next character is capitalized as well,
and a single one at the end stays. -/
example : pascalCase "a__b--_c_" = "A_b-C_" := by decide +kernel

end Naming

end Exemplar
