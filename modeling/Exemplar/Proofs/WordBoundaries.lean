import Exemplar.Proofs.DirectoryTargets

/-
Word boundaries. The words of a text hold its alphanumeric characters in their order. A word ends
between two of them exactly when other characters stand between them, when a capital follows a
character that is none, or when only one of the two is a digit.
-/

namespace Exemplar

namespace Naming

/-- Words are parted behind a text when some of them join to it and the others to the rest. -/
def PartsAt (words : List (List Char)) (before after : List Char) : Prop :=
  ∃ earlier later, words = earlier ++ later ∧ earlier.flatten = before ∧ later.flatten = after

/-- Two characters that follow a text belong to one word when a word holds them side by side. -/
def JoinsAt (words : List (List Char)) (before : List Char) (previous next : Char)
    (after : List Char) : Prop :=
  ∃ earlier front back later,
    words = earlier ++ (front ++ previous :: next :: back) :: later ∧
      earlier.flatten ++ front = before ∧ back ++ later.flatten = after

/-- A word ends between two characters when others stand between them, when only the next one is a
capital, or when only one of them is a digit. -/
def EndsWord (previous : Char) (between : List Char) (next : Char) : Prop :=
  between ≠ [] ∨
    (Unicode.isUppercase next = true ∧ Unicode.isUppercase previous = false) ∨
    Unicode.isDigit previous ≠ Unicode.isDigit next

section Groups

variable {groups : List (List Char)} {before after : List Char} {previous next : Char}

theorem PartsAt.cons (group : List Char) (parted : PartsAt groups before after) :
    PartsAt (group :: groups) (group ++ before) after := by
  obtain ⟨earlier, later, rfl, rfl, rfl⟩ := parted
  exact ⟨group :: earlier, later, rfl, rfl, rfl⟩

theorem JoinsAt.cons (group : List Char) (joined : JoinsAt groups before previous next after) :
    JoinsAt (group :: groups) (group ++ before) previous next after := by
  obtain ⟨earlier, front, back, later, rfl, rfl, rfl⟩ := joined
  exact ⟨group :: earlier, front, back, later, rfl, List.append_assoc .., rfl⟩

/-- Two characters in joined groups are parted or belong to one group. -/
theorem partsAt_or_joinsAt (joined : groups.flatten = before ++ previous :: next :: after) :
    PartsAt groups (before ++ [previous]) (next :: after) ∨
      JoinsAt groups before previous next after := by
  induction groups generalizing before with
  | nil => simp at joined
  | cons group later inductionHypothesis =>
      rw [List.flatten_cons, List.append_eq_append_iff] at joined
      rcases joined with ⟨more, rfl, behind⟩ | ⟨more, rfl, rest⟩
      · rw [List.append_assoc]
        exact (inductionHypothesis behind).imp (PartsAt.cons group) (JoinsAt.cons group)
      · -- The group ends before, between or behind the two characters.
        match more, rest with
        | [], rest =>
            have behind : later.flatten = [] ++ previous :: next :: after := rest.symm
            have found := inductionHypothesis behind
            simpa using found.imp (PartsAt.cons before) (JoinsAt.cons before)
        | [_], rest =>
            obtain ⟨rfl, behind⟩ := List.cons.inj rest
            exact .inl ⟨[before ++ [previous]], later, rfl, by simp, behind.symm⟩
        | _ :: _ :: back, rest =>
            obtain ⟨rfl, tail⟩ := List.cons.inj rest
            obtain ⟨rfl, behind⟩ := List.cons.inj tail
            exact .inr ⟨[], before, back, later, rfl, rfl, behind.symm⟩

/-- Two characters that are parted belong to no group together. -/
theorem not_joinsAt_of_partsAt (parted : PartsAt groups (before ++ [previous]) (next :: after)) :
    ¬ JoinsAt groups before previous next after := by
  rintro ⟨start, front, back, others, same, joined, _⟩
  obtain ⟨earlier, later, rfl, ends, _⟩ := parted
  have endsAt := congrArg List.length ends
  have joinsAt := congrArg List.length joined
  rw [List.append_eq_append_iff] at same
  -- The place between the two characters cannot be inside a group and between groups.
  rcases same with ⟨more, rfl, _⟩ | ⟨more, rfl, rest⟩
  · simp only [List.flatten_append, List.length_append, List.length_singleton] at endsAt joinsAt
    omega
  · cases more with
    | nil =>
        simp only [List.append_nil, List.length_append, List.length_singleton] at endsAt joinsAt
        omega
    | cons group more =>
        obtain ⟨rfl, _⟩ := List.cons.inj rest
        simp only [List.flatten_append, List.flatten_cons, List.length_append, List.length_cons,
          List.length_nil] at endsAt joinsAt
        omega

end Groups

/-- Different words end and start at a boundary. -/
theorem sameWord_of_partsAt {text before after : List Char} {previous next : Char}
    (parted : PartsAt (text.splitBy sameWord) (before ++ [previous]) (next :: after)) :
    sameWord previous next = false := by
  obtain ⟨earlier, later, divided, ends, starts⟩ := parted
  have chain := List.isChain_getLast_head_splitBy sameWord text
  have earlierStarted : earlier ≠ [] := by
    rintro rfl
    simp at ends
  have laterStarted : later ≠ [] := by
    rintro rfl
    simp at starts
  rw [divided, List.isChain_append] at chain
  obtain ⟨_, _, bounded⟩ := chain
  obtain ⟨lastStarted, firstStarted, apart⟩ :=
    bounded _ (List.getLast_mem_getLast? earlierStarted) _ (List.head_mem_head? laterStarted)
  have isPrevious : (earlier.getLast earlierStarted).getLast lastStarted = previous := by
    simp [List.getLast_getLast_eq_getLast_flatten, ends]
  have isNext : (later.head laterStarted).head firstStarted = next := by
    simp [List.head_head_eq_head_flatten, starts]
  rw [isPrevious, isNext] at apart
  exact apart

/-- Texts are divided into words one after the other when no word goes on from one into the next. -/
theorem words_append {before after : List Char}
    (apart : ∀ previous ∈ before.getLast?, ∀ next ∈ after.head?, sameWord previous next = false) :
    words (before ++ after) = words before ++ words after := by
  rw [words, List.splitBy_append apart, List.filter_append]
  rfl

/-- The groups that hold words join to the alphanumeric characters of all groups. -/
theorem flatten_filter_any {groups : List (List Char)}
    (joined : ∀ group ∈ groups, group.IsChain fun previous next => sameWord previous next = true) :
    (groups.filter fun group => group.any Unicode.isAlphanumeric).flatten =
      groups.flatten.filter Unicode.isAlphanumeric := by
  induction groups with
  | nil => rfl
  | cons group later inductionHypothesis =>
      obtain ⟨groupJoined, laterJoined⟩ := List.forall_mem_cons.mp joined
      rw [List.flatten_cons, List.filter_append, ← inductionHypothesis laterJoined,
        List.filter_cons]
      cases holdsOne : group.any Unicode.isAlphanumeric with
      | true =>
          have all := all_isAlphanumeric_of_isChain groupJoined holdsOne
          rw [if_pos rfl, List.flatten_cons, List.filter_eq_self.mpr (List.all_eq_true.mp all)]
      | false =>
          rw [if_neg Bool.false_ne_true, List.filter_eq_nil_iff.mpr (List.any_eq_false.mp holdsOne),
            List.nil_append]

theorem flatten_words (text : List Char) :
    (words text).flatten = text.filter Unicode.isAlphanumeric := by
  rw [words, flatten_filter_any fun _ => List.isChain_of_mem_splitBy, List.flatten_splitBy]

theorem ne_nil_of_mem_words {text word : List Char} (listed : word ∈ words text) : word ≠ [] :=
  List.ne_nil_of_mem_splitBy (List.mem_filter.mp listed).1

/-- Two alphanumeric characters side by side belong to one word unless one ends between them. -/
theorem sameWord_iff {previous next : Char} (isPrevious : Unicode.isAlphanumeric previous = true)
    (isNext : Unicode.isAlphanumeric next = true) :
    sameWord previous next = true ↔ ¬ EndsWord previous [] next := by
  simp only [sameWord, EndsWord, isPrevious, isNext]
  cases Unicode.isUppercase previous <;> cases Unicode.isUppercase next <;>
    cases Unicode.isDigit previous <;> cases Unicode.isDigit next <;> decide

/-- The words of a text are parted where a word ends. -/
theorem partsAt_words (before after : List Char) {between : List Char} {previous next : Char}
    (isPrevious : Unicode.isAlphanumeric previous = true)
    (isNext : Unicode.isAlphanumeric next = true)
    (removed : ∀ character ∈ between, Unicode.isAlphanumeric character = false)
    (ends : EndsWord previous between next) :
    PartsAt (words (before ++ previous :: (between ++ next :: after)))
      (before.filter Unicode.isAlphanumeric ++ [previous])
      (next :: after.filter Unicode.isAlphanumeric) := by
  have apart : ∀ last ∈ (before ++ [previous]).getLast?,
      ∀ first ∈ (between ++ next :: after).head?, sameWord last first = false := by
    intro last isLast first isFirst
    rw [List.getLast?_concat, Option.mem_some_iff] at isLast
    subst isLast
    cases between with
    | nil =>
        rw [List.nil_append, List.head?_cons, Option.mem_some_iff] at isFirst
        subst isFirst
        rw [← Bool.not_eq_true, sameWord_iff isPrevious isNext, not_not]
        exact ends
    | cons other later =>
        rw [List.cons_append, List.head?_cons, Option.mem_some_iff] at isFirst
        subst isFirst
        simp [sameWord, removed other List.mem_cons_self]
  refine ⟨words (before ++ [previous]), words (between ++ next :: after), ?_, ?_, ?_⟩
  · rw [← words_append apart, List.append_assoc, List.singleton_append]
  · rw [flatten_words, List.filter_append, List.filter_singleton, isPrevious]
    rfl
  · have none : between.filter Unicode.isAlphanumeric = [] :=
      List.filter_eq_nil_iff.mpr fun character member =>
        Bool.not_eq_true _ ▸ removed character member
    rw [flatten_words, List.filter_append, List.filter_cons_of_pos isNext, none, List.nil_append]

/-- The words of a text hold two characters side by side when no word ends between them. -/
theorem joinsAt_words (before after : List Char) {previous next : Char}
    (isPrevious : Unicode.isAlphanumeric previous = true)
    (same : sameWord previous next = true) :
    JoinsAt (words (before ++ previous :: next :: after))
      (before.filter Unicode.isAlphanumeric) previous next
      (after.filter Unicode.isAlphanumeric) := by
  have joined := List.flatten_splitBy sameWord (before ++ previous :: next :: after)
  rcases partsAt_or_joinsAt joined with parted | ⟨earlier, front, back, later, divided, start, rest⟩
  · rw [sameWord_of_partsAt parted] at same
    cases same
  · have chains : ∀ group ∈ earlier ++ (front ++ previous :: next :: back) :: later,
        group.IsChain fun previous next => sameWord previous next = true :=
      fun group listed => List.isChain_of_mem_splitBy (divided ▸ listed)
    obtain ⟨earlierChains, others⟩ := List.forall_mem_append.mp chains
    obtain ⟨groupChain, laterChains⟩ := List.forall_mem_cons.mp others
    have holdsOne : (front ++ previous :: next :: back).any Unicode.isAlphanumeric = true := by
      simp [isPrevious]
    have all := all_isAlphanumeric_of_isChain groupChain holdsOne
    simp only [List.all_append, List.all_cons, Bool.and_eq_true] at all
    obtain ⟨frontAll, _, _, backAll⟩ := all
    refine ⟨earlier.filter fun group => group.any Unicode.isAlphanumeric, front, back,
      later.filter fun group => group.any Unicode.isAlphanumeric, ?_, ?_, ?_⟩
    · rw [words, divided, List.filter_append, List.filter_cons, if_pos holdsOne]
    · rw [flatten_filter_any earlierChains, ← start, List.filter_append,
        List.filter_eq_self.mpr (List.all_eq_true.mp frontAll)]
    · rw [flatten_filter_any laterChains, ← rest, List.filter_append,
        List.filter_eq_self.mpr (List.all_eq_true.mp backAll)]

/-- The words of a text part and join its alphanumeric characters as the boundaries between them
ask for, and snake_case joins the words in lower case. -/
structure SegmentsWords (text : List Char) : Prop where
  started : ∀ word ∈ words text, word ≠ []
  joined : (words text).flatten = text.filter Unicode.isAlphanumeric
  bounded : ∀ before previous between next after,
    text = before ++ previous :: (between ++ next :: after) →
    Unicode.isAlphanumeric previous = true → Unicode.isAlphanumeric next = true →
    (∀ character ∈ between, Unicode.isAlphanumeric character = false) →
      (PartsAt (words text) (before.filter Unicode.isAlphanumeric ++ [previous])
          (next :: after.filter Unicode.isAlphanumeric) ↔ EndsWord previous between next) ∧
        (JoinsAt (words text) (before.filter Unicode.isAlphanumeric) previous next
          (after.filter Unicode.isAlphanumeric) ↔ ¬ EndsWord previous between next)
  written : snakeCase (String.ofList text) =
    if words text = [] then String.ofList (Unicode.lower text)
    else "_".intercalate ((words text).map fun word => String.ofList (Unicode.lower word))

/-- Every text is segmented into words. -/
theorem segments_words (text : List Char) : SegmentsWords text where
  started _ := ne_nil_of_mem_words
  joined := flatten_words text
  bounded := by
    rintro before previous between next after rfl isPrevious isNext removed
    by_cases ends : EndsWord previous between next
    · have parted := partsAt_words before after isPrevious isNext removed ends
      exact ⟨iff_of_true parted ends,
        iff_of_false (not_joinsAt_of_partsAt parted) (not_not.mpr ends)⟩
    · obtain rfl : between = [] := not_not.mp fun other => ends (.inl other)
      have joined := joinsAt_words before after isPrevious
        ((sameWord_iff isPrevious isNext).mpr ends)
      exact ⟨iff_of_false (fun parted => not_joinsAt_of_partsAt parted joined) ends,
        iff_of_true joined ends⟩
  written := by
    rw [snakeCase, String.toList_ofList, snake]
    by_cases wordless : words text = []
    · rw [if_pos wordless, if_pos (List.isEmpty_iff.mpr wordless)]
    · rw [if_neg wordless, if_neg (mt List.isEmpty_iff.mp wordless), ← String.toList_inj,
        String.toList_intercalate, String.toList_ofList, List.map_map]
      simp [Function.comp_def]

/-- A word may start with several capitals, and a digit is a word of its own among letters. -/
example : words "userHTTPId2x-y".toList =
    ["user".toList, "HTTPId".toList, ['2'], ['x'], ['y']] := by
  decide +kernel

end Naming

end Exemplar
