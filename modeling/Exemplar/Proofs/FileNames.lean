import Exemplar.Proofs.WordBoundaries

namespace Exemplar

namespace Naming

/-- An ASCII text has only characters with code points below 128. -/
def IsAscii (text : List Char) : Prop :=
  text.all (fun character => character.toNat < 0x80) = true

instance (text : List Char) : Decidable (IsAscii text) :=
  inferInstanceAs (Decidable (_ = true))

/-- A group has characters, and these are all small ASCII letters or all ASCII digits. -/
structure IsGroup (group : List Char) : Prop where
  started : group ≠ []
  uniform : (∀ character ∈ group, character.isLower = true) ∨
    ∀ character ∈ group, character.isDigit = true

theorem isAscii_iff {text : List Char} :
    IsAscii text ↔ ∀ character ∈ text, character.toNat < 0x80 := by
  simp [IsAscii]

/-- The small form of an ASCII character is a single one. That of a digit is a digit, that of any
other alphanumeric character is a small letter, and that of the remaining ones is themselves. -/
theorem forms_of_ascii {character : Char} (ascii : character.toNat < 0x80) :
    Unicode.lowerForm character = [character.toLower] ∧
      if Unicode.isAlphanumeric character = true then
        (if Unicode.isDigit character = true then character.toLower.isDigit = true
          else character.toLower.isLower = true)
      else character.isAlphanum = false ∧ character.toLower = character := by
  obtain ⟨code, isAscii, rfl⟩ : ∃ code < 0x80, Char.ofNat code = character :=
    ⟨_, ascii, Char.ofNat_toNat character⟩
  clear ascii
  revert code
  decide +kernel

/-- The characters of groups are alphanumeric ASCII characters, no capitals and their own small
forms. They are either small letters or digits, and they do not separate anything. -/
structure GroupCharacter (character : Char) : Prop where
  kept : Unicode.isAlphanumeric character = true
  uncapital : Unicode.isUppercase character = false
  digit : Unicode.isDigit character = character.isDigit
  letter : character.isLower = !character.isDigit
  lowered : character.toLower = character
  ascii : character.toNat < 0x80
  unlined : character ≠ '_'
  unslashed : ¬ (character = '/' ∨ character = '\\')

/-- Small letters and digits are characters of groups. -/
theorem groupCharacter {character : Char} (kind : character.isLower = true ∨
    character.isDigit = true) : GroupCharacter character := by
  have word : isWordCharacter character = true := by
    rcases kind with small | digit
    · exact isWordCharacter_of_isAlpha (Bool.or_eq_true_iff.mpr (.inr small))
    · exact Bool.or_eq_true_iff.mpr (.inl (Bool.or_eq_true_iff.mpr (.inr digit)))
  have kinds : Unicode.isAlphanumeric character = true ∧ Unicode.isUppercase character = false ∧
      Unicode.isDigit character = character.isDigit ∧ character.isLower = (!character.isDigit) ∧
      character.toLower = character ∧ character.toNat < 0x80 ∧
      character ≠ '_' ∧ ¬ (character = '/' ∨ character = '\\') := by
    obtain ⟨code, isAscii, rfl⟩ := exists_ascii_of_isWordCharacter word
    clear word
    revert code
    decide +kernel
  obtain ⟨kept, uncapital, digit, letter, lowered, ascii, unlined, unslashed⟩ := kinds
  exact ⟨kept, uncapital, digit, letter, lowered, ascii, unlined, unslashed⟩

/-- An ASCII text is written in lower case character by character. -/
theorem lower_eq_map {text : List Char} (ascii : IsAscii text) :
    Unicode.lower text = text.map Char.toLower := by
  suffices lowered : ∀ before, Unicode.lowerAfter before text = text.map Char.toLower from
    lowered []
  rw [isAscii_iff] at ascii
  induction text with
  | nil => exact fun _ => rfl
  | cons first rest inductionHypothesis =>
      obtain ⟨firstAscii, restAscii⟩ := List.forall_mem_cons.mp ascii
      have notSigma : first ≠ 'Σ' := by
        rintro rfl
        exact absurd firstAscii (by decide)
      intro before
      rw [Unicode.lowerAfter, (forms_of_ascii firstAscii).1, inductionHypothesis restAscii]
      simp [notSigma]

/-- The characters of a word are alphanumeric ones of its text. -/
theorem mem_of_mem_words {text word : List Char} (listed : word ∈ words text) :
    ∀ character ∈ word, character ∈ text ∧ Unicode.isAlphanumeric character = true := by
  intro character within
  have member : character ∈ (words text).flatten := List.mem_flatten.mpr ⟨word, listed, within⟩
  rw [flatten_words] at member
  exact List.mem_filter.mp member

/-- The characters of one word are all digits or none of them is. -/
theorem isDigit_eq_of_isChain {first : Char} {rest : List Char}
    (joined : (first :: rest).IsChain fun previous next => sameWord previous next = true) :
    ∀ character ∈ first :: rest, Unicode.isDigit character = Unicode.isDigit first := by
  induction rest generalizing first with
  | nil => simp
  | cons next later inductionHypothesis =>
      obtain ⟨same, joinedLater⟩ := List.isChain_cons_cons.mp joined
      have alike : Unicode.isDigit next = Unicode.isDigit first := by
        simp only [sameWord, Bool.and_eq_true, beq_iff_eq] at same
        exact same.2
      refine List.forall_mem_cons.mpr ⟨rfl, fun character member => ?_⟩
      rw [inductionHypothesis joinedLater character member, alike]

/-- A word of an ASCII text is a group in lower case. -/
theorem isGroup_lower {text word : List Char} (ascii : IsAscii text) (listed : word ∈ words text) :
    IsGroup (Unicode.lower word) := by
  have kept := mem_of_mem_words listed
  have joined := List.isChain_of_mem_splitBy (List.mem_filter.mp listed).1
  have asciiWord : ∀ character ∈ word, character.toNat < 0x80 :=
    fun character member => isAscii_iff.mp ascii character (kept character member).1
  cases word with
  | nil => exact absurd rfl (ne_nil_of_mem_words listed)
  | cons first rest =>
      have forms : ∀ character ∈ first :: rest, if Unicode.isDigit first = true then
          character.toLower.isDigit = true else character.toLower.isLower = true := by
        intro character member
        have form := (forms_of_ascii (asciiWord character member)).2
        rwa [if_pos (kept character member).2, isDigit_eq_of_isChain joined character member]
          at form
      rw [lower_eq_map (isAscii_iff.mpr asciiWord)]
      refine ⟨List.cons_ne_nil _ _, ?_⟩
      simp only [List.forall_mem_map]
      by_cases isDigit : Unicode.isDigit first = true
      · simp only [if_pos isDigit] at forms
        exact .inr forms
      · simp only [if_neg isDigit] at forms
        exact .inl forms

/-- A character that is not alphanumeric divides the words of a text. -/
theorem words_append_cons {other : Char} (removed : Unicode.isAlphanumeric other = false)
    (before after : List Char) :
    words (before ++ other :: after) = words before ++ words after := by
  have wordless : words [other] = [] := by
    simp [words, List.splitBy, List.splitBy.loop, removed]
  have divided : words ([other] ++ after) = words [other] ++ words after :=
    words_append (by simp [sameWord, removed])
  rw [words_append (by simp [sameWord, removed]), ← List.singleton_append, divided, wordless,
    List.nil_append]

/-- A text is spaced when it starts and ends without a low line and has no two in a row. -/
structure Spaced (text : List Char) : Prop where
  started : text.head? ≠ some '_'
  ended : text.getLast? ≠ some '_'
  single : text.IsChain fun previous next => previous = '_' → next ≠ '_'

/-- A text without low lines is spaced. -/
theorem spaced_of_notMem {text : List Char} (unlined : '_' ∉ text) : Spaced text where
  started isFirst := unlined (List.mem_of_mem_head? isFirst)
  ended isLast := unlined (List.mem_of_mem_getLast? isLast)
  single := by
    have apart : text.Pairwise fun previous next => previous = '_' → next ≠ '_' :=
      List.pairwise_of_forall_mem_list fun previous isPrevious next _ isLine =>
        absurd (isLine ▸ isPrevious) unlined
    exact apart.isChain

/-- A low line between two spaced texts leaves them spaced. -/
theorem Spaced.append {before after : List Char} (isSpaced : Spaced before)
    (goesOn : Spaced after) (leading : before ≠ []) (following : after ≠ []) :
    Spaced (before ++ '_' :: after) where
  started := by
    rw [List.head?_append_of_ne_nil _ leading]
    exact isSpaced.started
  ended := by
    rw [← List.singleton_append, ← List.append_assoc, List.getLast?_append_of_ne_nil _ following]
    exact goesOn.ended
  single := by
    refine List.isChain_append.mpr ⟨isSpaced.single, ?_, ?_⟩
    · exact List.isChain_cons.mpr ⟨fun next isNext _ isLine => goesOn.started (isLine ▸ isNext),
        goesOn.single⟩
    · intro previous isPrevious next _ isLine
      exact absurd (isLine ▸ isPrevious) isSpaced.ended

section Groups

variable {group : List Char} {groups : List (List Char)}

theorem IsGroup.character (isGroup : IsGroup group) :
    ∀ character ∈ group, GroupCharacter character := fun character member =>
  groupCharacter (isGroup.uniform.imp (fun letters => letters character member)
    (fun digits => digits character member))

/-- A group goes on from each of its characters to each other one. -/
theorem IsGroup.sameWord (isGroup : IsGroup group) :
    ∀ previous ∈ group, ∀ next ∈ group, sameWord previous next = true := by
  intro previous isPrevious next isNext
  have previousKind := isGroup.character previous isPrevious
  have nextKind := isGroup.character next isNext
  have alike : next.isDigit = previous.isDigit := by
    rcases isGroup.uniform with letters | digits
    · rw [← Bool.not_inj_iff, ← nextKind.letter, ← previousKind.letter, letters next isNext,
        letters previous isPrevious]
    · rw [digits next isNext, digits previous isPrevious]
  simp [Naming.sameWord, previousKind.kept, nextKind.kept, nextKind.uncapital, previousKind.digit,
    nextKind.digit, alike]

/-- A group is a word of its own. -/
theorem words_of_isGroup (isGroup : IsGroup group) : words group = [group] := by
  have joined : group.IsChain fun previous next => sameWord previous next = true :=
    (List.pairwise_of_forall_mem_list isGroup.sameWord).isChain
  obtain ⟨first, isFirst⟩ := List.exists_mem_of_ne_nil group isGroup.started
  have holdsOne : group.any Unicode.isAlphanumeric = true :=
    List.any_eq_true.mpr ⟨first, isFirst, (isGroup.character first isFirst).kept⟩
  rw [words, List.splitBy_of_isChain isGroup.started joined, List.filter_singleton, holdsOne]
  rfl

/-- A group is in lower case already. -/
theorem lower_of_isGroup (isGroup : IsGroup group) : Unicode.lower group = group := by
  have ascii : IsAscii group :=
    isAscii_iff.mpr fun character member => (isGroup.character character member).ascii
  have lowered : group.map Char.toLower = group.map id :=
    List.map_congr_left fun character member => (isGroup.character character member).lowered
  rw [lower_eq_map ascii, lowered, List.map_id]

/-- Groups that are joined by low lines are the words of the text. -/
theorem words_intercalate (areGroups : ∀ group ∈ groups, IsGroup group) :
    words (['_'].intercalate groups) = groups := by
  induction groups with
  | nil => rfl
  | cons group later inductionHypothesis =>
      obtain ⟨isGroup, areLater⟩ := List.forall_mem_cons.mp areGroups
      cases later with
      | nil => rw [List.intercalate_singleton, words_of_isGroup isGroup]
      | cons next rest =>
          have removed : Unicode.isAlphanumeric '_' = false := by decide +kernel
          rw [List.intercalate_cons_cons, List.append_assoc, List.singleton_append,
            words_append_cons removed, words_of_isGroup isGroup, inductionHypothesis areLater]
          rfl

/-- Groups that are joined by low lines stay as they are in snake_case. -/
theorem snake_intercalate (listed : groups ≠ []) (areGroups : ∀ group ∈ groups, IsGroup group) :
    snake (['_'].intercalate groups) = ['_'].intercalate groups := by
  have written : groups.map Unicode.lower = groups.map id :=
    List.map_congr_left fun group member => lower_of_isGroup (areGroups group member)
  rw [snake, words_intercalate areGroups, if_neg (mt List.isEmpty_iff.mp listed), written,
    List.map_id]

/-- Groups that are joined by low lines are spaced by them. -/
theorem spaced_intercalate (areGroups : ∀ group ∈ groups, IsGroup group) :
    Spaced (['_'].intercalate groups) := by
  induction groups with
  | nil => exact spaced_of_notMem List.not_mem_nil
  | cons group later inductionHypothesis =>
      obtain ⟨isGroup, areLater⟩ := List.forall_mem_cons.mp areGroups
      have spaced : Spaced group := spaced_of_notMem fun member =>
        (isGroup.character '_' member).unlined rfl
      cases later with
      | nil =>
          rw [List.intercalate_singleton]
          exact spaced
      | cons next rest =>
          have following : ['_'].intercalate (next :: rest) ≠ [] := by
            intro empty
            have found : words [] = next :: rest := empty ▸ words_intercalate areLater
            exact List.cons_ne_nil _ _ found.symm
          rw [List.intercalate_cons_cons, List.append_assoc, List.singleton_append]
          exact spaced.append (inductionHypothesis areLater) isGroup.started following

/-- No slash is in groups that are joined by low lines. -/
theorem slash_notMem_intercalate (areGroups : ∀ group ∈ groups, IsGroup group) {slash : Char}
    (isSlash : slash = '/' ∨ slash = '\\') : slash ∉ ['_'].intercalate groups := by
  intro member
  rcases mem_of_mem_intercalate member with line | ⟨group, listed, within⟩
  · rcases isSlash with rfl | rfl <;> exact absurd line (by decide)
  · exact ((areGroups group listed).character slash within).unslashed isSlash

end Groups

/-- A file name is a sequence of groups that are joined by single low lines, which neither start nor
end it, and has no separator of paths. -/
structure IsFileName (text : List Char) : Prop where
  grouped : ∃ groups, groups ≠ [] ∧ (∀ group ∈ groups, IsGroup group) ∧
    text = ['_'].intercalate groups
  spaced : Spaced text
  pathless : '/' ∉ text ∧ '\\' ∉ text

/-- Joined groups are a file name. -/
theorem isFileName_intercalate {groups : List (List Char)} (listed : groups ≠ [])
    (areGroups : ∀ group ∈ groups, IsGroup group) : IsFileName (['_'].intercalate groups) where
  grouped := ⟨groups, listed, areGroups, rfl⟩
  spaced := spaced_intercalate areGroups
  pathless := ⟨slash_notMem_intercalate areGroups (.inl rfl),
    slash_notMem_intercalate areGroups (.inr rfl)⟩

theorem IsFileName.snake_eq {text : List Char} (isFileName : IsFileName text) :
    snake text = text := by
  obtain ⟨groups, listed, areGroups, rfl⟩ := isFileName.grouped
  exact snake_intercalate listed areGroups

/-- An ASCII text with words is a file name in snake_case. -/
theorem isFileName_snake {text : List Char} (ascii : IsAscii text) (listed : words text ≠ []) :
    IsFileName (snake text) := by
  have areGroups : ∀ group ∈ (words text).map Unicode.lower, IsGroup group :=
    List.forall_mem_map.mpr fun word member => isGroup_lower ascii member
  rw [snake, if_neg (mt List.isEmpty_iff.mp listed)]
  exact isFileName_intercalate (mt List.map_eq_nil_iff.mp listed) areGroups

/-- A text has words exactly when it has alphanumeric characters. -/
theorem words_eq_nil_iff {text : List Char} :
    words text = [] ↔ ∀ character ∈ text, Unicode.isAlphanumeric character = false := by
  constructor
  · intro wordless
    have none := flatten_words text
    rw [wordless, List.flatten_nil, eq_comm, List.filter_eq_nil_iff] at none
    exact fun character member => Bool.not_eq_true _ ▸ none character member
  · intro removed
    refine List.eq_nil_iff_forall_not_mem.mpr fun word listed => ?_
    obtain ⟨first, isFirst⟩ := List.exists_mem_of_ne_nil word (ne_nil_of_mem_words listed)
    obtain ⟨member, kept⟩ := mem_of_mem_words listed first isFirst
    rw [removed first member] at kept
    cases kept

/-- An ASCII text without words stays as it is in snake_case. -/
theorem snake_of_wordless {text : List Char} (ascii : IsAscii text) (wordless : words text = []) :
    snake text = text := by
  have lowered : text.map Char.toLower = text.map id := by
    refine List.map_congr_left fun character member => ?_
    have form := (forms_of_ascii (isAscii_iff.mp ascii character member)).2
    rw [words_eq_nil_iff.mp wordless character member, if_neg Bool.false_ne_true] at form
    exact form.2
  rw [snake, wordless, List.isEmpty_nil, if_pos rfl, lower_eq_map ascii, lowered, List.map_id]

/-- The file name of an ASCII name stays as it is when it is written in snake_case once more. With
at least one letter or digit in the name, it is well formed. -/
theorem snakeCase_ascii (name : String) (ascii : IsAscii name.toList) :
    snakeCase (snakeCase name) = snakeCase name ∧
      ((∃ character ∈ name.toList, character.isAlphanum = true) →
        IsFileName (snakeCase name).toList) := by
  have formed : words name.toList ≠ [] → IsFileName (snake name.toList) :=
    isFileName_snake ascii
  simp only [snakeCase, String.toList_ofList]
  constructor
  · by_cases wordless : words name.toList = []
    · rw [snake_of_wordless ascii wordless, snake_of_wordless ascii wordless]
    · rw [(formed wordless).snake_eq]
  · rintro ⟨character, member, alphanumeric⟩
    refine formed fun wordless => ?_
    have removed := words_eq_nil_iff.mp wordless character member
    have form := (forms_of_ascii (isAscii_iff.mp ascii character member)).2
    rw [removed, if_neg Bool.false_ne_true, alphanumeric] at form
    cases form.1

/-- Capitals, a doubled hyphen, a digit and a low line at the end give a file name. -/
theorem snakeCase_dividedName :
    snakeCase "HTTP--User2x_" = "http_user_2_x" ∧
      snakeCase "http_user_2_x" = "http_user_2_x" ∧ IsFileName "http_user_2_x".toList := by
  have written : snakeCase "HTTP--User2x_" = "http_user_2_x" := by decide +kernel
  have named : ∃ character ∈ "HTTP--User2x_".toList, character.isAlphanum = true :=
    ⟨'H', by decide, by decide⟩
  obtain ⟨stable, formed⟩ := snakeCase_ascii "HTTP--User2x_" (by decide)
  rw [written] at stable formed
  exact ⟨written, stable, formed named⟩

end Naming

end Exemplar
