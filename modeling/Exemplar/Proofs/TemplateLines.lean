import Exemplar.Proofs.CollectedNames
import Exemplar.Proofs.RenderingSteps
import Mathlib.Data.List.TakeWhile

namespace Exemplar

theorem ok_bind {α β : Type} (value : α) (next : α → Except Error β) :
    (Except.ok value >>= next) = next value := rfl

@[simp] theorem Lookup.found_some {α : Type} (lookup : Lookup) (value : α) :
    lookup.found (some value) = .ok value := rfl

namespace Json

@[simp] theorem items?_array (items : List Json) : (array items).items? = some items := rfl

@[simp] theorem members?_object (members : List (String × Json)) :
    (object members).members? = some members := rfl

@[simp] theorem plainText_string (text : String) : (string text).plainText = text := rfl

@[simp] theorem truthy_string (text : String) : (string text).truthy = (text != "") := rfl

@[simp] theorem truthy_array (items : List Json) : (array items).truthy = !items.isEmpty := rfl

@[simp] theorem truthy_boolean (value : Bool) : (boolean value).truthy = value := rfl

end Json

-- A template is evaluated piece by piece once the records of its scope are written out.
attribute [simp] Json.member? Placeholder.value Condition.decide Piece.write Piece.writeAll
  TemplatePart.lines Template.lines ok_bind

/-- A repetition has the lines of each of its items. -/
theorem repeatFor_map {α : Type} {action : Json → Bool → Except Error (List String)}
    {record : α → Json} {lines : α → List String} {items : List α}
    (each : ∀ item ∈ items, ∀ last, action (record item) last = .ok (lines item)) :
    repeatFor action (items.map record) = .ok (items.flatMap lines) := by
  induction items with
  | nil => rfl
  | cons first rest inductionHypothesis =>
      rw [List.forall_mem_cons] at each
      cases rest with
      | nil => rw [List.map_singleton, repeatFor, each.1 true, List.flatMap_singleton]
      | cons next later =>
          rw [List.map_cons, List.map_cons, repeatFor, each.1 false, ← List.map_cons,
            inductionHypothesis each.2]
          rfl

theorem TemplatePart.lines_each {α : Type} {name : String} {placeholder : Placeholder}
    {body : Template} {scope : Scope} {record : α → Json} {lines : α → List String} {items : List α}
    (found : placeholder.value scope = .ok (.array (items.map record)))
    (written : ∀ item ∈ items, ∀ last,
      Template.lines body (scope.within name (record item) last) = .ok (lines item)) :
    (TemplatePart.each name placeholder body).lines scope = .ok (items.flatMap lines) := by
  rw [TemplatePart.lines, found]
  exact repeatFor_map written

theorem TemplatePart.lines_each_line {α : Type} {name : String} {placeholder : Placeholder}
    {body : Template} {scope : Scope} {record : α → Json} {line : α → String} {items : List α}
    (found : placeholder.value scope = .ok (.array (items.map record)))
    (written : ∀ item ∈ items, ∀ last,
      Template.lines body (scope.within name (record item) last) = .ok [line item]) :
    (TemplatePart.each name placeholder body).lines scope = .ok (items.map line) := by
  rw [lines_each found written, List.map_eq_flatMap]

namespace Unicode

theorem trimEnd_append_blanks (text : List Char) {blanks : List Char}
    (blank : blanks.all isBlank = true) : trimEnd (text ++ blanks) = trimEnd text := by
  have dropped : ∀ character ∈ blanks.reverse, isBlank character = true := fun character member =>
    List.all_eq_true.mp blank character (List.mem_reverse.mp member)
  rw [trimEnd, List.reverse_append, List.dropWhile_append_of_pos dropped, trimEnd]

/-- Only the last line loses its blanks, unless it has nothing else. -/
theorem trimEnd_append (before : List Char) {text : List Char} (shown : trimEnd text ≠ []) :
    trimEnd (before ++ text) = before ++ trimEnd text := by
  have kept : List.dropWhile isBlank text.reverse ≠ [] :=
    fun gone => shown (by simp [trimEnd, gone])
  rw [trimEnd, List.reverse_append, List.dropWhile_append, if_neg (by simpa using kept),
    List.reverse_append, List.reverse_reverse, trimEnd]

theorem trimEnd_ne_nil {character : Char} {text : List Char} (member : character ∈ text)
    (visible : isBlank character = false) : trimEnd text ≠ [] := by
  intro gone
  rw [trimEnd, List.reverse_eq_nil_iff, List.dropWhile_eq_nil_iff] at gone
  exact Bool.false_ne_true (visible.symm.trans (gone character (List.mem_reverse.mpr member)))

/-- A text that starts with a character that is not blank loses blanks at its end only. -/
theorem trim_cons {first : Char} (visible : isBlank first = false) (rest : List Char) :
    trim (first :: rest) = trimEnd (first :: rest) := by
  rw [trim, List.dropWhile_cons_of_neg (by simp [visible])]

theorem trim_append {first : Char} {before after shown : List Char}
    (visible : isBlank first = false) (trimmed : trimEnd after = shown) (remains : shown ≠ []) :
    trim (first :: before ++ after) = first :: before ++ shown := by
  rw [List.cons_append, trim_cons visible, ← List.cons_append,
    trimEnd_append _ (by rwa [trimmed]), trimmed]

end Unicode

/-- All lines above the last one end in a line feed. -/
theorem intercalate_append_singleton (earlier : List String) (last : String) :
    "\n".intercalate (earlier ++ [last]) =
      String.join (earlier.map fun line => line ++ "\n") ++ last := by
  induction earlier with
  | nil => simp
  | cons first rest inductionHypothesis =>
      rw [List.cons_append, String.intercalate_cons_of_ne_nil (by simp), inductionHypothesis]
      simp [String.append_assoc]

/-- A text without the blanks at its end has no line feed below its last line. -/
theorem trimEnd_join (earlier : List String) {last shown : String}
    (trimmed : Unicode.trimEnd last.toList = shown.toList) (visible : shown ≠ "") :
    Unicode.trimEnd (String.join ((earlier ++ [last]).map fun line => line ++ "\n")).toList =
      ("\n".intercalate (earlier ++ [shown])).toList := by
  have ended : String.join ((earlier ++ [last]).map fun line => line ++ "\n") =
      String.join (earlier.map fun line => line ++ "\n") ++ last ++ "\n" := by
    simp [String.append_assoc]
  have remains : Unicode.trimEnd last.toList ≠ [] := by
    rw [trimmed]
    exact mt String.toList_eq_nil_iff.mp visible
  rw [ended, String.toList_append, Unicode.trimEnd_append_blanks _ (by decide),
    String.toList_append, Unicode.trimEnd_append _ remains, trimmed, ← String.toList_append,
    intercalate_append_singleton]

/-- The last line loses its blanks, but not a character that is visible. -/
theorem trimEnd_join_visible (earlier : List String) {last : String} {character : Char}
    (member : character ∈ last.toList) (visible : Unicode.isBlank character = false) :
    Unicode.trimEnd (String.join ((earlier ++ [last]).map fun line => line ++ "\n")).toList =
      ("\n".intercalate (earlier ++ [String.ofList (Unicode.trimEnd last.toList)])).toList := by
  have remains : String.ofList (Unicode.trimEnd last.toList) ≠ "" := by
    simpa using Unicode.trimEnd_ne_nil member visible
  exact trimEnd_join earlier (by rw [String.toList_ofList]) remains

/-- Lines that start with a character that is not blank lose blanks at their end only. -/
theorem trim_join {line : String} (lines : List String) {first : Char} {rest : List Char}
    (starts : line.toList = first :: rest) (visible : Unicode.isBlank first = false) :
    Unicode.trim (String.join ((line :: lines).map fun line => line ++ "\n")).toList =
      Unicode.trimEnd (String.join ((line :: lines).map fun line => line ++ "\n")).toList := by
  have opened : (String.join ((line :: lines).map fun line => line ++ "\n")).toList =
      first :: (rest ++ '\n' :: (String.join (lines.map fun line => line ++ "\n")).toList) := by
    simp [starts]
  rw [opened, Unicode.trim_cons visible]

/-- Two parts of a file may be joined in advance. -/
theorem intercalate_append_cons (separator first second : String) (rest : List String) :
    separator.intercalate ((first ++ separator ++ second) :: rest) =
      separator.intercalate (first :: second :: rest) := by
  cases rest <;>
    simp only [String.intercalate_cons_cons, String.intercalate_singleton, String.append_assoc]

namespace Renderer

open Rendering

variable {renderer : Renderer} {options : Options} {memory : Memory}

/-- A class is written when the records of its fields, its variables and its lines are known. -/
theorem perform_writeClass {model : Model} {known : NameSet} {record : Field → Json}
    {added : Field → List String} {scope : Scope} {lines : List String} {text : String}
    (records : ∀ field ∈ model.fields, ∀ memory : Memory, memory.knownModels = known →
      (renderer.record options field).perform memory =
        (.ok (record field), memory.importing (added field)))
    (defined : renderer.classVariables options known model = .ok scope)
    (written : Template.lines renderer.classTemplate
      (scope ++ classScope options model (model.fields.map record)) = .ok lines)
    (trimmed : Unicode.trimEnd (String.join (lines.map fun line => line ++ "\n")).toList =
      text.toList)
    (knows : memory.knownModels = known) :
    (renderer.writeClass options model).perform memory =
      (.ok text, memory.importing (model.fields.flatMap added)) := by
  have recorded := perform_mapM records knows
  have joined : renderer.classTemplate.text
      (scope ++ classScope options model (model.fields.map record)) =
        .ok (String.join (lines.map fun line => line ++ "\n")) := by
    rw [Template.text, written]
    rfl
  simp only [writeClass, perform_bind, recorded, perform_knownModels,
    Memory.knownModels_importing, knows, defined, perform_attempt, joined, perform_pure, trimmed,
    String.ofList_toList]

/-- A file is written when its classes, its imports and its header are known. -/
theorem perform_write {set : ModelSet} {text : Model → String} {added : Model → List String}
    {prepared : List String} {imports : NameSet} {header : String}
    (classes : ∀ model ∈ set.models, ∀ memory : Memory, memory.knownModels = set.names →
      (renderer.writeClass options model).perform memory =
        (.ok (text model), memory.importing (added model)))
    (prepares : ∀ memory : Memory,
      (renderer.prepare options).perform memory = (.ok (), memory.importing prepared))
    (collected : NameSet.ofList (set.models.flatMap added ++ prepared) = imports)
    (written : renderer.headerTemplate.text
      (renderer.headerVariables options set ++ headerScope options imports) = .ok header) :
    (renderer.write options set).perform memory =
      (.ok ("\n\n".intercalate
        ((if String.ofList (Unicode.trim header.toList) = "" then []
          else [String.ofList (Unicode.trim header.toList)]) ++ set.models.map text) ++ "\n"),
        ⟨set.names, imports⟩) := by
  have rendered : perform (set.models.mapM (renderer.writeClass options)) ⟨set.names, []⟩ = _ :=
    perform_mapM classes rfl
  have left : Memory.importing ⟨set.names, []⟩ (set.models.flatMap added ++ prepared) =
      ⟨set.names, imports⟩ := by
    rw [Memory.importing, NameSet.foldl_insert, collected]
  simp only [write, writeHeader, perform_bind, perform_reset, rendered, prepares,
    Memory.importing_importing, left, perform_imports, written, perform_attempt, perform_pure]

end Renderer

end Exemplar
