import Exemplar.Proofs.CapitalNames
import Exemplar.Proofs.SeparatorRuns

namespace Exemplar

theorem Unicode.avoids_upperMapping :
    upperMapping.Avoids '_' ∧ upperMapping.Avoids '-' ∧ upperMapping.Avoids '\n' := by
  decide +kernel

namespace Naming

/-- A text is settled when its separators stand only at its end and before line feeds. -/
def Settled (text : List Char) : Prop :=
  text.IsChain fun separator next => isSeparator separator = true → next = '\n'

/-- A text doubles separators when two of them in a row stand before a character other than a line
feed. -/
def DoublesSeparators (text : List Char) : Prop :=
  ∃ first second next, [first, second, next] <:+: text ∧
    isSeparator first = true ∧ isSeparator second = true ∧ next ≠ '\n'

theorem isSeparator_lineFeed : isSeparator '\n' = false := by
  decide

/-- Only a separator has a separator in its upper-case form. -/
theorem isSeparator_of_mem_upperForm {character separator : Char}
    (member : separator ∈ Unicode.upperForm character) (separates : isSeparator separator = true) :
    isSeparator character = true := by
  have avoids : Unicode.upperMapping.Avoids separator := by
    rcases Bool.or_eq_true_iff.mp separates with lowLine | hyphen
    · exact eq_of_beq lowLine ▸ Unicode.avoids_upperMapping.1
    · exact eq_of_beq hyphen ▸ Unicode.avoids_upperMapping.2.1
  rw [avoids.eq_of_mem_form member]
  exact separates

theorem forall_mem_upperForm {character : Char} (plain : isSeparator character = false) :
    ∀ form ∈ Unicode.upperForm character, isSeparator form = false := by
  intro form member
  rw [← Bool.not_eq_true] at plain ⊢
  exact mt (isSeparator_of_mem_upperForm member) plain

/-- The upper-case form of a separator has one separator, and any other form has none. -/
theorem countP_upperForm (character : Char) :
    (Unicode.upperForm character).countP isSeparator =
      if isSeparator character = true then 1 else 0 := by
  cases separates : isSeparator character with
  | true =>
      rw [(upperForm_of_isSeparator separates).2, List.countP_singleton, separates]
  | false =>
      rw [if_neg Bool.false_ne_true, List.countP_eq_zero]
      exact fun form member => Bool.not_eq_true _ ▸ forall_mem_upperForm separates form member

/-- Separators are only ever deleted. -/
theorem countP_collapseSeparators_le (text : List Char) :
    (collapseSeparators text).countP isSeparator ≤ text.countP isSeparator := by
  induction text using collapseSeparators.induct with
  | case1 separator next rest deleted inductionHypothesis =>
      rw [collapseSeparators, if_pos deleted, List.countP_append, countP_upperForm,
        List.countP_cons, List.countP_cons]
      omega
  | case2 separator next rest kept inductionHypothesis =>
      rw [collapseSeparators, if_neg kept, List.countP_cons, List.countP_cons]
      omega
  | case3 last => exact Nat.le_refl _
  | case4 => exact Nat.le_refl _

theorem lineFeed_of_kept {separator next : Char}
    (kept : ¬ (isSeparator separator && next != '\n') = true) :
    isSeparator separator = true → next = '\n' := by
  intro separates
  simpa [separates] using kept

/-- A text is settled exactly when it stays as it is when its separators are collapsed. -/
theorem collapseSeparators_eq_self_iff {text : List Char} :
    collapseSeparators text = text ↔ Settled text := by
  induction text using collapseSeparators.induct with
  | case1 separator next rest deleted inductionHypothesis =>
      obtain ⟨separates, continues⟩ := Bool.and_eq_true_iff.mp deleted
      constructor
      · intro same
        -- The deleted separator is missing from the collapsed text.
        have fewer := countP_collapseSeparators_le rest
        have counts := congrArg (List.countP isSeparator) same
        rw [collapseSeparators, if_pos deleted, List.countP_append, countP_upperForm,
          List.countP_cons, List.countP_cons, if_pos separates] at counts
        omega
      · intro settled
        exact absurd ((List.isChain_cons_cons.mp settled).1 separates) (bne_iff_ne.mp continues)
  | case2 separator next rest kept inductionHypothesis =>
      rw [collapseSeparators, if_neg kept, List.cons_inj_right, inductionHypothesis]
      exact (List.isChain_cons_cons.trans (and_iff_right (lineFeed_of_kept kept))).symm
  | case3 last => exact iff_of_true rfl (List.isChain_singleton last)
  | case4 => exact iff_of_true rfl List.isChain_nil

/-- A character that is no separator settles nothing. -/
theorem settled_cons_plain {character : Char} (plain : isSeparator character = false)
    (rest : List Char) : Settled (character :: rest) ↔ Settled rest := by
  rw [Settled, List.isChain_cons]
  refine and_iff_right fun next _ separates => ?_
  rw [plain] at separates
  cases separates

/-- Characters that are no separators settle nothing. -/
theorem settled_append_plain {start : List Char}
    (plain : ∀ character ∈ start, isSeparator character = false) (rest : List Char) :
    Settled (start ++ rest) ↔ Settled rest := by
  induction start with
  | nil => rfl
  | cons first later inductionHypothesis =>
      obtain ⟨firstPlain, laterPlain⟩ := List.forall_mem_cons.mp plain
      rw [List.cons_append, settled_cons_plain firstPlain, inductionHypothesis laterPlain]

theorem settled_cons_separator {separator : Char} (separates : isSeparator separator = true)
    (rest : List Char) :
    Settled (separator :: rest) ↔ (∀ next ∈ rest.head?, next = '\n') ∧ Settled rest := by
  rw [Settled, List.isChain_cons]
  simp only [separates, forall_const]
  rfl

/-- A text starts with a line feed, or is empty, exactly when it does so with its separators
collapsed. -/
theorem head?_collapseSeparators_iff (text : List Char) :
    (∀ next ∈ (collapseSeparators text).head?, next = '\n') ↔ ∀ next ∈ text.head?, next = '\n' := by
  cases text using collapseSeparators.induct with
  | case1 separator next rest deleted =>
      obtain ⟨separates, continues⟩ := Bool.and_eq_true_iff.mp deleted
      obtain ⟨form, later, written⟩ :=
        List.exists_cons_of_ne_nil (Unicode.upperForm_capital next).1
      have formContinues : form ≠ '\n' := by
        rintro rfl
        have member : '\n' ∈ Unicode.upperForm next := written ▸ List.mem_cons_self
        have same := Unicode.avoids_upperMapping.2.2.eq_of_mem_form member
        exact bne_iff_ne.mp continues same
      rw [collapseSeparators, if_pos deleted, written]
      simp [formContinues, (upperForm_of_isSeparator separates).1]
  | case2 separator next rest kept => rw [collapseSeparators, if_neg kept]; rfl
  | case3 last => rfl
  | case4 => rfl

theorem not_doublesSeparators_nil : ¬ DoublesSeparators [] := by
  simp [DoublesSeparators]

/-- A text doubles separators at its start or after its first character. -/
theorem doublesSeparators_cons {first : Char} {rest : List Char} :
    DoublesSeparators (first :: rest) ↔
      (isSeparator first = true ∧ ∃ second next later, rest = second :: next :: later ∧
        isSeparator second = true ∧ next ≠ '\n') ∨ DoublesSeparators rest := by
  simp only [DoublesSeparators, List.infix_cons_iff, List.cons_prefix_cons, or_and_right,
    exists_or]
  refine or_congr_left ?_
  constructor
  · rintro ⟨_, second, next, ⟨rfl, later, rfl⟩, separates, doubled⟩
    exact ⟨separates, second, next, later, rfl, doubled⟩
  · rintro ⟨separates, second, next, later, rfl, doubled⟩
    exact ⟨first, second, next, ⟨rfl, later, rfl⟩, separates, doubled⟩

/-- The separators that are left of a text are settled exactly when it doubles none. -/
theorem settled_collapseSeparators_iff {text : List Char} :
    Settled (collapseSeparators text) ↔ ¬ DoublesSeparators text := by
  induction text using collapseSeparators.induct with
  | case1 separator next rest deleted inductionHypothesis =>
      obtain ⟨separates, continues⟩ := Bool.and_eq_true_iff.mp deleted
      rw [collapseSeparators, if_pos deleted, doublesSeparators_cons, doublesSeparators_cons]
      cases nextSeparates : isSeparator next with
      | false =>
          rw [settled_append_plain (forall_mem_upperForm nextSeparates), inductionHypothesis]
          simp [nextSeparates]
      | true =>
          -- The second separator is left, and it is settled when the line ends behind it.
          rw [(upperForm_of_isSeparator nextSeparates).2, List.singleton_append,
            settled_cons_separator nextSeparates, head?_collapseSeparators_iff,
            inductionHypothesis]
          cases rest with
          | nil => simp
          | cons third later =>
              by_cases lineFeed : third = '\n'
              · subst lineFeed
                simp [isSeparator_lineFeed]
              · simp [lineFeed, nextSeparates, separates]
  | case2 separator next rest kept inductionHypothesis =>
      rw [collapseSeparators, if_neg kept, doublesSeparators_cons]
      cases separates : isSeparator separator with
      | false => simp [settled_cons_plain separates, inductionHypothesis]
      | true =>
          obtain rfl := lineFeed_of_kept kept separates
          rw [settled_cons_separator separates, head?_collapseSeparators_iff, inductionHypothesis]
          simp [isSeparator_lineFeed]
  | case3 last =>
      rw [doublesSeparators_cons]
      exact iff_of_true (List.isChain_singleton last) (by simp [not_doublesSeparators_nil])
  | case4 => exact iff_of_true List.isChain_nil not_doublesSeparators_nil

/-- A name in PascalCase that is written in camelCase gets a small first character, and its
separators are collapsed once more. Its other characters stay as they are exactly when the key
doubles no separators behind its own first character. -/
theorem camelCase_pascalCase (first : Char) (rest : List Char) :
    ∃ head tail, pascalCase (String.ofList (first :: rest)) = String.ofList (head :: tail) ∧
      camelCase (pascalCase (String.ofList (first :: rest))) =
        String.ofList (Unicode.lowerForm head ++ collapseSeparators tail) ∧
      (camelCase (pascalCase (String.ofList (first :: rest))) =
          String.ofList (Unicode.lowerForm head ++ tail) ↔
        ¬ DoublesSeparators rest) := by
  obtain ⟨head, later, written⟩ := List.exists_cons_of_ne_nil (Unicode.upperForm_capital first).1
  have pascal : pascalCase (String.ofList (first :: rest)) =
      String.ofList (head :: (later ++ collapseSeparators rest)) := by
    rw [pascalCase, String.toList_ofList, Naming.pascal, written, List.cons_append]
  have camel : camelCase (pascalCase (String.ofList (first :: rest))) =
      String.ofList (Unicode.lowerForm head ++
        collapseSeparators (later ++ collapseSeparators rest)) := by
    rw [pascal, camelCase, String.toList_ofList, Naming.camel]
  have laterPlain : ∀ character ∈ later, isSeparator character = false := by
    cases separates : isSeparator first with
    | true =>
        -- A separator is its own capital, so nothing follows it.
        rw [(upperForm_of_isSeparator separates).2] at written
        obtain ⟨_, rfl⟩ := List.cons.inj written
        exact List.forall_mem_nil _
    | false =>
        have formPlain := forall_mem_upperForm separates
        rw [written] at formPlain
        exact (List.forall_mem_cons.mp formPlain).2
  refine ⟨head, later ++ collapseSeparators rest, pascal, camel, ?_⟩
  rw [camel, String.ofList_inj, List.append_cancel_left_eq, collapseSeparators_eq_self_iff,
    settled_append_plain laterPlain, settled_collapseSeparators_iff]

/-- Two separators in a row leave one that is collapsed in its turn. -/
theorem doubledLowLine_collapsed_twice :
    ¬ ∀ (key : String) (head : Char) (tail : List Char),
      pascalCase key = String.ofList (head :: tail) →
        camelCase (pascalCase key) = String.ofList (Unicode.lowerForm head ++ tail) := by
  intro unchanged
  have written : pascalCase "a__b" = String.ofList ['A', '_', 'b'] := by decide +kernel
  have collapsed : camelCase (pascalCase "a__b") = "aB" := by decide +kernel
  have kept := unchanged "a__b" 'A' ['_', 'b'] written
  rw [collapsed] at kept
  exact absurd kept (by decide +kernel)

end Naming

end Exemplar
