import Exemplar.Proofs.ClassLines
import Exemplar.Proofs.PlainNames

/-
Outlines. The outline of a file lists its classes with the names and declared types of their fields.
It is read off the lines of the file from the last one to the first: a line names a class, declares
a field of the class above it, or tells nothing.
-/

namespace Exemplar

open Naming

/-- The outline of a field is its name, the mark of null on the name, and the declared type. -/
structure FieldOutline where
  name : String
  marked : Bool
  type : String
  deriving DecidableEq

/-- The outline of a class is its name and the outlines of its fields. -/
structure ClassOutline where
  name : String
  fields : List FieldOutline
  deriving DecidableEq

/-- This function outlines a field. Only TypeScript marks the name, and the other languages mark the
type. -/
def Field.outline (language : Language) (known : NameSet) (field : Field) : FieldOutline where
  name := field.name
  marked := language = .typeScript && field.nullable
  type := language.fieldType known field

def Model.outline (language : Language) (known : NameSet) (model : Model) : ClassOutline where
  name := model.name
  fields := model.fields.map (Field.outline language known)

def ModelSet.outline (language : Language) (set : ModelSet) : List ClassOutline :=
  set.models.map (Model.outline language set.names)

/-- A line names a class, declares a field, or tells nothing. -/
inductive Told where
  | opening (name : String)
  | field (outline : FieldOutline)
  | nothing
  deriving DecidableEq

/-- Above the lines that are read so far, there are fields whose class is not yet named, and
classes. -/
abbrev Outlined := List FieldOutline × List ClassOutline

/-- This function reads a further line above the others. -/
def Told.above : Told → Outlined → Outlined
  | .opening name, (fields, classes) => ([], ⟨name, fields⟩ :: classes)
  | .field outline, (fields, classes) => (outline :: fields, classes)
  | .nothing, below => below

def lastWord (text : List Char) : List Char :=
  ((text.reverse.dropWhile fun character => !isWordCharacter character).takeWhile
    isWordCharacter).reverse

def beforeLastWord (text : List Char) : List Char :=
  ((text.reverse.dropWhile fun character => !isWordCharacter character).dropWhile
    isWordCharacter).reverse

/-- A text is taken while a condition holds up to a character that does not meet it. -/
theorem span_append {condition : Char → Bool} {before after : List Char}
    (within : before.all condition = true)
    (stopped : after.head?.all (fun character => !condition character) = true) :
    (before ++ after).takeWhile condition = before ∧
      (before ++ after).dropWhile condition = after := by
  rw [List.all_eq_true] at within
  rw [List.takeWhile_append_of_pos within, List.dropWhile_append_of_pos within]
  cases after with
  | nil => exact ⟨List.append_nil before, rfl⟩
  | cons stop rest =>
      have notWithin : ¬ condition stop = true := by simpa using stopped
      rw [List.takeWhile_cons_of_neg notWithin, List.dropWhile_cons_of_neg notWithin,
        List.append_nil]
      exact ⟨rfl, rfl⟩

theorem unbroken_of_isPlain {name : String} (plain : IsPlain name) : '\n' ∉ name.toList := by
  intro broken
  exact absurd (List.all_eq_true.mp (all_of_isPlainText plain) _ broken) (by decide)

/-- A joined text is written on one line when its parts and what separates them are. -/
theorem unbroken_intercalate {separator : String} {parts : List String}
    (apart : '\n' ∉ separator.toList) (unbroken : ∀ part ∈ parts, '\n' ∉ part.toList) :
    '\n' ∉ (separator.intercalate parts).toList := by
  intro broken
  rw [String.toList_intercalate] at broken
  rcases mem_of_mem_intercalate broken with separated | ⟨text, listed, within⟩
  · exact apart separated
  · obtain ⟨part, member, rfl⟩ := List.mem_map.mp listed
    exact unbroken part member within

/-- A plain name is the last word when only other characters follow it. -/
theorem lastWord_append {before name after : List Char} {stop : Char}
    (stopped : isWordCharacter stop = false) (plain : isPlainText name = true)
    (closing : after.all (fun character => !isWordCharacter character) = true) :
    lastWord (before ++ stop :: (name ++ after)) = name ∧
      beforeLastWord (before ++ stop :: (name ++ after)) = before ++ [stop] := by
  have word := all_of_isPlainText plain
  have skipped : (before ++ stop :: (name ++ after)).reverse.dropWhile
      (fun character => !isWordCharacter character) = name.reverse ++ stop :: before.reverse := by
    have reversed : (before ++ stop :: (name ++ after)).reverse =
        after.reverse ++ (name.reverse ++ stop :: before.reverse) := by simp
    have skips : ∀ character ∈ after.reverse, (!isWordCharacter character) = true := by
      simpa using closing
    obtain ⟨first, rest, rfl, _⟩ := exists_cons_of_isPlainText plain
    obtain ⟨last, earlier, isLast⟩ :=
      List.exists_cons_of_ne_nil (List.reverse_ne_nil_iff.mpr (List.cons_ne_nil first rest))
    have lastWord : isWordCharacter last = true := by
      apply List.all_eq_true.mp word
      rw [← List.mem_reverse, isLast]
      exact List.mem_cons_self
    rw [reversed, List.dropWhile_append_of_pos skips, isLast, List.cons_append,
      List.dropWhile_cons_of_neg (by simp [lastWord])]
  have reversedWord : name.reverse.all isWordCharacter = true := by rwa [List.all_reverse]
  have reversedStopped : (stop :: before.reverse).head?.all
      (fun character => !isWordCharacter character) = true := by simp [stopped]
  obtain ⟨taken, dropped⟩ := span_append reversedWord reversedStopped
  rw [lastWord, beforeLastWord, skipped, taken, dropped]
  simp

/-- A class opens with one of the keywords `class`, `data` and `export`. -/
def isOpeningLetter (character : Char) : Bool :=
  character == 'c' || character == 'd' || character == 'e'

section Reading

variable (field? : List Char → Option FieldOutline)

/-- This function tells what a line says. The name of a class is the last word of its line. -/
def tell : List Char → Told
  | [] => .nothing
  | first :: rest =>
      if isOpeningLetter first then .opening (String.ofList (lastWord (first :: rest)))
      else
        match field? (first :: rest) with
        | some outline => .field outline
        | none => .nothing

/-- This function reads the lines of a text above what is read below it. -/
def readAbove (text : List Char) (below : Outlined) : Outlined :=
  (text.splitOn '\n').foldr (fun line => (tell field? line).above) below

/-- A line says what is told of it, and it is no more than one line. -/
structure LineTells (line : String) (told : Told) : Prop where
  unbroken : '\n' ∉ line.toList
  told : tell field? line.toList = told

/-- The lines of a field show its outline when its declaration tells the outline and its annotations
tell nothing. -/
structure FieldLines.Shows (lines : FieldLines) (outline : FieldOutline) : Prop where
  annotations : ∀ line ∈ lines.annotations, LineTells field? line .nothing
  declaration : LineTells field? (lines.before ++ lines.name ++ lines.after) (.field outline)

/-- The lines of a class show its outline when the line that opens it tells its name, and the lines
of its fields show theirs. -/
structure ClassLines.Shows (declared : ClassLines) (outline : ClassOutline) : Prop where
  annotations : ∀ line ∈ declared.annotations, LineTells field? line .nothing
  opening : LineTells field? declared.opening (.opening outline.name)
  fields : List.Forall₂ (FieldLines.Shows field?) declared.fields outline.fields
  below : ∀ line ∈ declared.below, LineTells field? line .nothing

/-- A separator parts two texts when the lower one is read before the upper one. -/
def Parts (separator : String) : Prop :=
  ∀ upper lower below,
    readAbove field? (upper ++ separator.toList ++ lower) below =
      readAbove field? upper (readAbove field? lower below)

variable {field?}

/-- The lines of a text have only characters of the text. -/
theorem mem_of_mem_line {text line : List Char} (listed : line ∈ text.splitOn '\n')
    {character : Char} (member : character ∈ line) : character ∈ text := by
  obtain ⟨before, after, lines⟩ := List.append_of_mem listed
  have joined : ['\n'].intercalate (text.splitOn '\n') = text := List.intercalate_splitOn '\n'
  rw [← joined, lines]
  clear joined lines listed
  induction before with
  | nil =>
      cases after with
      | nil => rwa [List.nil_append, List.intercalate_singleton]
      | cons next later =>
          rw [List.nil_append, List.intercalate_cons_cons]
          exact List.mem_append_left _ (List.mem_append_left _ member)
  | cons first rest inductionHypothesis =>
      rw [List.cons_append, List.intercalate_cons_of_ne_nil (by simp)]
      exact List.mem_append_right _ inductionHypothesis

@[simp] theorem readAbove_nil (below : Outlined) : readAbove field? [] below = below := rfl

theorem tell_indented {line : List Char} {outline : FieldOutline}
    (declared : field? (' ' :: line) = some outline) :
    tell field? (' ' :: line) = .field outline := by
  simp [tell, declared, isOpeningLetter]

/-- A line that starts with a keyword and ends in a plain name opens a class of that name. -/
theorem tells_opening {keywords name closing : String}
    (opens : keywords.toList.head?.any isOpeningLetter = true)
    (unbroken : '\n' ∉ keywords.toList) (plain : IsPlain name)
    (closes : closing.toList.all (fun character => !isWordCharacter character) = true)
    (closingUnbroken : '\n' ∉ closing.toList) :
    LineTells field? (keywords ++ " " ++ name ++ closing) (.opening name) := by
  have nameUnbroken := unbroken_of_isPlain plain
  have text : (keywords ++ " " ++ name ++ closing).toList =
      keywords.toList ++ ' ' :: (name.toList ++ closing.toList) := by simp
  obtain ⟨named, _⟩ := @lastWord_append keywords.toList _ _ ' ' (by decide) plain closes
  constructor
  · simp [text, unbroken, nameUnbroken, closingUnbroken]
  · obtain ⟨first, isFirst, letter⟩ := (Option.any_eq_true _ _).mp opens
    obtain ⟨rest, keyword⟩ := List.head?_eq_some_iff.mp isFirst
    rw [text, keyword, List.cons_append, tell, if_pos letter, ← List.cons_append, ← keyword, named,
      String.ofList_toList]

/-- A line feed parts two texts. -/
theorem parts_lineFeed : Parts field? "\n" := by
  intro upper lower below
  have separated : upper ++ "\n".toList ++ lower = upper ++ '\n' :: lower := by simp
  rw [separated, readAbove, List.splitOn_append_cons_self, List.foldr_append]
  rfl

/-- A blank line parts two texts. -/
theorem parts_blankLine : Parts field? "\n\n" := by
  intro upper lower below
  have separated : upper ++ "\n\n".toList ++ lower =
      upper ++ "\n".toList ++ ([] ++ "\n".toList ++ lower) := by simp
  rw [separated, parts_lineFeed, parts_lineFeed, readAbove_nil]

/-- Parted texts are read from the last one to the first. -/
theorem readAbove_intercalate {separator : String} (parted : Parts field? separator)
    (texts : List String) (below : Outlined) :
    readAbove field? (separator.intercalate texts).toList below =
      texts.foldr (fun text => readAbove field? text.toList) below := by
  induction texts with
  | nil => rfl
  | cons first rest inductionHypothesis =>
      cases rest with
      | nil => rw [String.intercalate_singleton, List.foldr_cons, List.foldr_nil]
      | cons next later =>
          rw [String.intercalate_cons_cons, String.toList_append, String.toList_append, parted,
            inductionHypothesis]
          rfl

/-- A text whose lines tell nothing leaves what is read below it as it is. -/
theorem readAbove_of_nothing {text : List Char}
    (nothing : ∀ line ∈ text.splitOn '\n', tell field? line = .nothing) (below : Outlined) :
    readAbove field? text below = below := by
  rw [readAbove]
  generalize text.splitOn '\n' = lines at nothing
  induction lines with
  | nil => rfl
  | cons first rest inductionHypothesis =>
      rw [List.forall_mem_cons] at nothing
      rw [List.foldr_cons, inductionHypothesis nothing.2, nothing.1]
      rfl

theorem readAbove_line {line : String} {told : Told} (tells : LineTells field? line told)
    (below : Outlined) : readAbove field? line.toList below = told.above below := by
  rw [readAbove, List.splitOn_eq_singleton tells.unbroken, List.foldr_cons, List.foldr_nil,
    tells.told]

/-- Lines that tell nothing leave what is read below them as it is. -/
theorem foldr_readAbove_of_nothing {lines : List String}
    (nothing : ∀ line ∈ lines, LineTells field? line .nothing) (below : Outlined) :
    lines.foldr (fun line => readAbove field? line.toList) below = below := by
  induction lines with
  | nil => rfl
  | cons first rest inductionHypothesis =>
      rw [List.forall_mem_cons] at nothing
      rw [List.foldr_cons, inductionHypothesis nothing.2, readAbove_line nothing.1]
      rfl

/-- The lines of fields add the outlines of the fields. -/
theorem foldr_readAbove_fields {fields : List FieldLines} {outlines : List FieldOutline}
    (shown : List.Forall₂ (FieldLines.Shows field?) fields outlines)
    (below : Outlined) :
    (fields.flatMap FieldLines.lines).foldr (fun line => readAbove field? line.toList) below =
      (outlines ++ below.1, below.2) := by
  induction shown with
  | nil => rfl
  | cons first _ inductionHypothesis =>
      rw [List.flatMap_cons, List.foldr_append, inductionHypothesis, FieldLines.lines,
        List.foldr_append, List.foldr_cons, List.foldr_nil, readAbove_line first.declaration,
        foldr_readAbove_of_nothing first.annotations]
      rfl

/-- The lines of a class add its outline. -/
theorem readAbove_classLines {declared : ClassLines} {outline : ClassOutline}
    (shown : declared.Shows field? outline) (classes : List ClassOutline) :
    readAbove field? ("\n".intercalate declared.lines).toList ([], classes) =
      ([], outline :: classes) := by
  rw [readAbove_intercalate parts_lineFeed, ClassLines.lines, List.foldr_append, List.foldr_cons,
    List.foldr_append, foldr_readAbove_of_nothing shown.below, foldr_readAbove_fields shown.fields,
    readAbove_line shown.opening, foldr_readAbove_of_nothing shown.annotations]
  simp [Told.above]

/-- The classes of a file add their outlines. -/
theorem foldr_readAbove_classes {classes : List ClassLines} {outlines : List ClassOutline}
    (shown : List.Forall₂ (ClassLines.Shows field?) classes outlines) :
    (classes.map fun declared => "\n".intercalate declared.lines).foldr
      (fun text => readAbove field? text.toList) ([], []) = ([], outlines) := by
  induction shown with
  | nil => rfl
  | cons first _ inductionHypothesis =>
      rw [List.map_cons, List.foldr_cons, inductionHypothesis, readAbove_classLines first]

/-- A file is read as the outlines of its classes when its header tells nothing. -/
theorem readAbove_fileText {header : List String} {classes : List ClassLines}
    {outlines : List ClassOutline}
    (silent : ∀ part ∈ header, ∀ below, readAbove field? part.toList below = below)
    (shown : List.Forall₂ (ClassLines.Shows field?) classes outlines) :
    readAbove field? (fileText header classes).toList ([], []) = ([], outlines) := by
  have silentHeader (below : Outlined) :
      header.foldr (fun part => readAbove field? part.toList) below = below := by
    induction header with
    | nil => rfl
    | cons first rest inductionHypothesis =>
        rw [List.forall_mem_cons] at silent
        rw [List.foldr_cons, inductionHypothesis silent.2, silent.1]
  have ended (text : String) :
      readAbove field? (text ++ "\n").toList ([], []) = readAbove field? text.toList ([], []) := by
    have parted := @parts_lineFeed field? text.toList [] ([], [])
    rw [String.toList_append]
    rwa [List.append_nil, readAbove_nil] at parted
  rw [fileText, ended, readAbove_intercalate parts_blankLine, List.foldr_append,
    foldr_readAbove_classes shown, silentHeader]

end Reading

end Exemplar
