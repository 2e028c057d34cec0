import Exemplar.Proofs.ExtractedModels

namespace Exemplar

namespace Unicode

/-- The small Latin letters are those from a to z. -/
def IsSmallLatin (character : Char) : Prop :=
  0x61 ≤ character.toNat ∧ character.toNat ≤ 0x7A

instance (character : Char) : Decidable (IsSmallLatin character) :=
  inferInstanceAs (Decidable (_ ∧ _))

/-- A code point that is no small Latin letter gives a character that is none. -/
theorem not_isSmallLatin_ofNat {code : Nat} (capital : ¬ (0x61 ≤ code ∧ code ≤ 0x7A)) :
    ¬ IsSmallLatin (Char.ofNat code) := by
  by_cases valid : code.isValidChar
  · rw [Char.ofNat, dif_pos valid]
    exact capital
  · rw [Char.ofNat, dif_neg valid]
    decide

/-- An expansion that is found is listed. -/
theorem CaseMapping.mem_of_findExpansion? {expansions : List (Nat × List Nat)} {code : Nat}
    {form : List Nat} (found : findExpansion? expansions code = some form) :
    (code, form) ∈ expansions := by
  induction expansions with
  | nil => cases found
  | cons first later inductionHypothesis =>
      obtain ⟨source, expansion⟩ := first
      rw [findExpansion?] at found
      split at found
      · exact List.mem_cons_of_mem _ (inductionHypothesis found)
      · split at found
        next same =>
          obtain rfl := Option.some.inj found
          exact same ▸ List.mem_cons_self
        · cases found

/-- A code point is found in a listed run that holds it, and it moves by the distance of the run. -/
theorem CaseRun.exists_source_of_find? {runs : List CaseRun} {code target : Nat}
    (found : find? runs code = some target) :
    ∃ run ∈ runs, run.first ≤ code ∧ code ≤ run.last ∧
      target = run.target + (code - run.first) := by
  induction runs with
  | nil => cases found
  | cons first later inductionHypothesis =>
      rw [find?] at found
      split at found
      · obtain ⟨run, member, moved⟩ := inductionHypothesis found
        exact ⟨run, List.mem_cons_of_mem _ member, moved⟩
      next within =>
        split at found
        next held =>
          obtain rfl := Option.some.inj found
          exact ⟨first, List.mem_cons_self, held.1, Nat.not_lt.mp within, rfl⟩
        · cases found

/-- The form of a character is a listed expansion, the character moved by the distance of a run that
holds it, or the character itself. -/
theorem CaseMapping.form_cases (mapping : CaseMapping) (character : Char) :
    (∃ expansion ∈ mapping.expansions, mapping.form character = expansion.2.map Char.ofNat) ∨
      (∃ run ∈ mapping.runs, run.first ≤ character.toNat ∧ character.toNat ≤ run.last ∧
        mapping.form character = [Char.ofNat (run.target + (character.toNat - run.first))]) ∨
      CaseRun.find? mapping.runs character.toNat = none ∧
        mapping.form character = [character] := by
  unfold form
  split
  next form found => exact .inl ⟨_, mem_of_findExpansion? found, rfl⟩
  next =>
    split
    next target found =>
      obtain ⟨run, listed, low, high, rfl⟩ := CaseRun.exists_source_of_find? found
      exact .inr (.inl ⟨run, listed, low, high, rfl⟩)
    next missing => exact .inr (.inr ⟨missing, rfl⟩)

/-- A code point that gives a character other than the null character is that of the character. -/
theorem eq_of_ofNat_eq {code : Nat} {character : Char} (notNull : character ≠ '\x00')
    (same : Char.ofNat code = character) : code = character.toNat := by
  by_cases valid : code.isValidChar
  · rw [Char.ofNat, dif_pos valid] at same
    exact congrArg Char.toNat same
  · rw [Char.ofNat, dif_neg valid] at same
    exact absurd same.symm notNull

/-- A mapping avoids a sign when no expansion and no run gives the sign. -/
structure CaseMapping.Avoids (mapping : CaseMapping) (sign : Char) : Prop where
  notNull : sign ≠ '\x00'
  expansions : ∀ expansion ∈ mapping.expansions, sign.toNat ∉ expansion.2
  runs : ∀ run ∈ mapping.runs,
    run.target + (run.last - run.first) < sign.toNat ∨ sign.toNat < run.target

instance (mapping : CaseMapping) (sign : Char) : Decidable (mapping.Avoids sign) :=
  decidable_of_iff (_ ∧ _ ∧ _)
    ⟨fun parts => ⟨parts.1, parts.2.1, parts.2.2⟩,
      fun avoids => ⟨avoids.notNull, avoids.expansions, avoids.runs⟩⟩

/-- Only an avoided sign itself has the sign in its form. -/
theorem CaseMapping.Avoids.eq_of_mem_form {mapping : CaseMapping} {sign : Char}
    (avoids : mapping.Avoids sign) {character : Char} (member : sign ∈ mapping.form character) :
    character = sign := by
  rcases mapping.form_cases character with
    ⟨expansion, listed, form⟩ | ⟨run, listed, low, high, form⟩ | ⟨_, form⟩
  · rw [form] at member
    obtain ⟨code, within, same⟩ := List.mem_map.mp member
    exact absurd (eq_of_ofNat_eq avoids.notNull same ▸ within) (avoids.expansions _ listed)
  · rw [form] at member
    have moved := eq_of_ofNat_eq avoids.notNull (List.mem_singleton.mp member).symm
    rcases avoids.runs run listed with below | above <;> omega
  · rw [form] at member
    exact (List.mem_singleton.mp member).symm

/-- No expansion to upper case is empty or has a small Latin letter. -/
theorem expansions_capital :
    ∀ expansion ∈ upperMapping.expansions,
      expansion.2 ≠ [] ∧ ∀ code ∈ expansion.2, ¬ (0x61 ≤ code ∧ code ≤ 0x7A) := by
  decide +kernel

theorem runs_capital :
    ∀ run ∈ upperMapping.runs,
      run.target + (run.last - run.first) < 0x61 ∨ 0x7A < run.target := by
  decide +kernel

/-- Every small Latin letter has an upper-case form of its own. -/
theorem find?_of_isSmallLatin {character : Char} (small : IsSmallLatin character) :
    ∃ target, CaseRun.find? upperMapping.runs character.toNat = some target := by
  refine ⟨0x41 + (character.toNat - 0x61), ?_⟩
  have within : ¬ 0x7A < character.toNat := Nat.not_lt.mpr small.2
  have started : 0x61 ≤ character.toNat ∧ (character.toNat - 0x61) % 1 = 0 :=
    ⟨small.1, Nat.mod_one _⟩
  rw [upperMapping, CaseRun.find?, if_neg within, if_pos started]

/-- The upper-case form of a character has characters, and none of them is a small Latin letter. -/
theorem upperForm_capital (character : Char) :
    upperForm character ≠ [] ∧ ∀ form ∈ upperForm character, ¬ IsSmallLatin form := by
  rw [upperForm]
  rcases upperMapping.form_cases character with
    ⟨expansion, listed, form⟩ | ⟨run, listed, low, high, form⟩ | ⟨missing, form⟩
  · obtain ⟨started, capital⟩ := expansions_capital expansion listed
    rw [form]
    refine ⟨by simpa using started, List.forall_mem_map.mpr fun code within => ?_⟩
    exact not_isSmallLatin_ofNat (capital code within)
  · rw [form]
    refine ⟨List.cons_ne_nil _ _, List.forall_mem_singleton.mpr (not_isSmallLatin_ofNat ?_)⟩
    rcases runs_capital run listed with below | above <;> omega
  · rw [form]
    refine ⟨List.cons_ne_nil _ _, List.forall_mem_singleton.mpr fun small => ?_⟩
    obtain ⟨target, found⟩ := find?_of_isSmallLatin small
    rw [missing] at found
    cases found

end Unicode

namespace Naming

/-- A name starts small when its first character is a small Latin letter. -/
def StartsSmall (name : String) : Prop :=
  ∃ first ∈ name.toList.head?, Unicode.IsSmallLatin first

instance (name : String) : Decidable (StartsSmall name) :=
  decidable_of_iff (name.toList.head?.any fun first => decide (Unicode.IsSmallLatin first))
    (by simp [StartsSmall, Option.any_eq_true])

/-- A name in PascalCase does not start with a small letter. -/
theorem not_startsSmall_pascalCase (key : String) : ¬ StartsSmall (pascalCase key) := by
  rintro ⟨first, isFirst, small⟩
  rw [pascalCase, String.toList_ofList] at isFirst
  cases characters : key.toList with
  | nil => simp [characters, pascal] at isFirst
  | cons character rest =>
      obtain ⟨started, capital⟩ := Unicode.upperForm_capital character
      obtain ⟨form, later, written⟩ := List.exists_cons_of_ne_nil started
      rw [characters, pascal, written, List.cons_append, List.head?_cons,
        Option.mem_some_iff] at isFirst
      rw [written] at capital
      exact capital form List.mem_cons_self (isFirst ▸ small)

end Naming

/-- The model of an object does not start with a small letter. -/
theorem Shape.not_startsSmall_referenceName (members : List (String × Json)) :
    ¬ Naming.StartsSmall (referenceName members) := by
  rcases referenceName_cases members with unnamed | ⟨member, _, _, ofKey⟩
  · rw [unnamed]
    decide
  · rw [ofKey]
    exact Naming.not_startsSmall_pascalCase member.1

namespace Extraction

/-- The root model does not start with a small letter. -/
theorem not_startsSmall_rootName (given : String) : ¬ Naming.StartsSmall (rootName given) := by
  rcases rootName_cases given with unnamed | ⟨_, ofGiven⟩
  · rw [unnamed]
    decide
  · rw [ofGiven]
    exact Naming.not_startsSmall_pascalCase given

/-- No extracted model starts with a small letter. -/
theorem not_startsSmall_of_mem_names {nullSafety : Bool} {given known : String}
    {members : List (String × Json)}
    (member : known ∈ (ofMembers nullSafety (rootName given) members).models.names) :
    ¬ Naming.StartsSmall known := by
  have capital : ∀ model ∈ (ofMembers nullSafety (rootName given) members).models.models,
      ¬ Naming.StartsSmall model.name :=
    invariant_ofMembers (fun _ _ earlier _ => earlier) (not_startsSmall_rootName given)
      fun sample _ => Shape.not_startsSmall_referenceName sample.members
  rw [ModelSet.names, NameSet.mem_ofList] at member
  obtain ⟨model, listed, rfl⟩ := List.mem_map.mp member
  exact capital model listed

end Extraction

end Exemplar
