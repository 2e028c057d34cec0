import Exemplar.Proofs.ClassLines
import Exemplar.Proofs.DistinctNames

namespace Exemplar.TypeScript

/-- This function writes the parameter of a field in one of the three ways. -/
def parameterText (known : NameSet) (field : Field) : Presence → String
  | .required => field.name ++ ": " ++ dialect.type (field.shape.resolve known)
  | .optional => field.name ++ "?: " ++ dialect.type (field.shape.resolve known)
  | .undefinable => field.name ++ ": " ++ dialect.type (field.shape.resolve known) ++ " | undefined"

/-- Texts announce fields when there is one for each field, in their order. It may be left out
exactly when the field and all later ones are nullable, it takes an undefined value exactly when the
field is nullable and some later one is not, and it is required exactly when the field is not
nullable. Hence all texts after an optional one are optional. -/
structure AnnounceFields (known : NameSet) (fields : List Field) (texts : List String) : Prop where
  count : texts.length = fields.length
  optional : ∀ (position : Nat) field, fields[position]? = some field →
    (texts[position]? = some (parameterText known field .optional) ↔
      ∀ other ∈ fields.drop position, other.nullable = true)
  undefinable : ∀ (position : Nat) field, fields[position]? = some field →
    (texts[position]? = some (parameterText known field .undefinable) ↔
      field.nullable = true ∧ ∃ other ∈ fields.drop (position + 1), other.nullable = false)
  required : ∀ (position : Nat) field, fields[position]? = some field →
    (texts[position]? = some (parameterText known field .required) ↔ field.nullable = false)
  ordered : ∀ (earlier later : Nat) field other, earlier < later → fields[earlier]? = some field →
    fields[later]? = some other →
    texts[earlier]? = some (parameterText known field .optional) →
    texts[later]? = some (parameterText known other .optional)

/-- The parameter of a field depends on whether the field and the later ones are nullable. -/
def presence (field : Field) (later : List Field) : Presence :=
  if !field.nullable then .required
  else if later.all Field.nullable then .optional
  else .undefinable

section

variable {known : NameSet} {field : Field} {later fields : List Field}

/-- The three ways to write a parameter have different lengths. -/
theorem parameterText_injective : Function.Injective (parameterText known field) := by
  have colon : ": ".length = 2 := rfl
  have question : "?: ".length = 3 := rfl
  have undefined : " | undefined".length = 12 := rfl
  intro first second same
  have lengths := congrArg String.length same
  cases first <;> cases second <;>
    simp only [parameterText, String.length_append, colon, question, undefined] at lengths ⊢ <;>
    omega

/-- A parameter may be left out when its field and all later ones are nullable. -/
theorem presence_eq_optional_iff :
    presence field later = .optional ↔ ∀ other ∈ field :: later, other.nullable = true := by
  rw [List.forall_mem_cons, ← List.all_eq_true, presence]
  cases field.nullable <;> cases later.all Field.nullable <;> decide

/-- A parameter takes an undefined value when a later field is not nullable. -/
theorem presence_eq_undefinable_iff :
    presence field later = .undefinable ↔
      field.nullable = true ∧ ∃ other ∈ later, other.nullable = false := by
  have someNot : (∃ other ∈ later, other.nullable = false) ↔ later.all Field.nullable = false := by
    simp
  rw [someNot, presence]
  cases field.nullable <;> cases later.all Field.nullable <;> decide

theorem presence_eq_required_iff :
    presence field later = .required ↔ field.nullable = false := by
  rw [presence]
  cases field.nullable <;> cases later.all Field.nullable <;> decide

/-- The parameter at a position is that of the field there. -/
theorem text_parameters {position : Nat} (present : fields[position]? = some field) :
    ((parameters known fields).map Parameter.text)[position]? =
      some (parameterText known field (presence field (fields.drop (position + 1)))) := by
  induction fields generalizing position with
  | nil => cases present
  | cons first rest inductionHypothesis =>
      cases position with
      | zero =>
          obtain rfl := Option.some.inj present
          have text (presence : Presence) :
              Parameter.text ⟨first.name, presence, first.shape.resolve known⟩ =
                parameterText known first presence := by
            cases presence <;> rfl
          exact congrArg some (text _)
      | succ position => exact inductionHypothesis present

/-- A text at a position is in exactly one of the three ways. -/
theorem text_parameters_eq_iff {position : Nat} (present : fields[position]? = some field)
    (expected : Presence) :
    ((parameters known fields).map Parameter.text)[position]? =
        some (parameterText known field expected) ↔
      presence field (fields.drop (position + 1)) = expected := by
  rw [text_parameters present, Option.some.injEq, parameterText_injective.eq_iff]

/-- The fields from a position on are the field there and the later ones. -/
theorem drop_eq_cons {position : Nat} (present : fields[position]? = some field) :
    fields.drop position = field :: fields.drop (position + 1) := by
  obtain ⟨within, rfl⟩ := List.getElem?_eq_some_iff.mp present
  exact List.drop_eq_getElem_cons within

end

/-- The parameters of a constructor announce the fields. -/
theorem announce_parameters (known : NameSet) (fields : List Field) :
    AnnounceFields known fields ((parameters known fields).map Parameter.text) := by
  have optional : ∀ (position : Nat) field, fields[position]? = some field →
      (((parameters known fields).map Parameter.text)[position]? =
          some (parameterText known field .optional) ↔
        ∀ other ∈ fields.drop position, other.nullable = true) := by
    intro position field present
    rw [text_parameters_eq_iff present, presence_eq_optional_iff, ← drop_eq_cons present]
  constructor
  case count =>
    have names := congrArg List.length (Language.name_parameters known fields)
    simpa using names
  case optional => exact optional
  case undefinable =>
    intro position field present
    rw [text_parameters_eq_iff present, presence_eq_undefinable_iff]
  case required =>
    intro position field present
    rw [text_parameters_eq_iff present, presence_eq_required_iff]
  case ordered =>
    intro earlier later field other before present otherPresent written
    have nullable := (optional earlier field present).mp written
    -- The fields from the later position on are among those from the earlier one on.
    refine (optional later other otherPresent).mpr fun third within => nullable third ?_
    exact (List.drop_sublist_drop_left fields (Nat.le_of_lt before)).subset within

/-- A pass from the last field to the first holds the parameters that it has chosen, in its own
order, and whether all fields so far are nullable. -/
structure Pass where
  chosen : List Parameter := []
  trailing : Bool := true

namespace Pass

/-- A step of the pass chooses the parameter of a field by the flag alone. -/
def step (known : NameSet) (pass : Pass) (field : Field) : Pass :=
  let type := field.shape.resolve known
  if !field.nullable then ⟨pass.chosen ++ [⟨field.name, .required, type⟩], false⟩
  else if pass.trailing then ⟨pass.chosen ++ [⟨field.name, .optional, type⟩], true⟩
  else ⟨pass.chosen ++ [⟨field.name, .undefinable, type⟩], false⟩

/-- This function passes over all fields and puts the parameters in the order of the fields. -/
def parameters (known : NameSet) (fields : List Field) : List Parameter :=
  (fields.reverse.foldl (step known) {}).chosen.reverse

/-- A pass agrees with the fields behind it when it has chosen their parameters and its flag tells
whether they are all nullable. -/
structure Agrees (known : NameSet) (behind : List Field) (pass : Pass) : Prop where
  chosen : pass.chosen.reverse = TypeScript.parameters known behind
  trailing : pass.trailing = behind.all Field.nullable

/-- A step of the pass keeps it in agreement with the fields behind it. -/
theorem Agrees.step {known : NameSet} {behind : List Field} {pass : Pass}
    (agrees : pass.Agrees known behind) (field : Field) :
    (pass.step known field).Agrees known (field :: behind) := by
  obtain ⟨chosen, trailing⟩ := agrees
  unfold Pass.step
  cases nullable : field.nullable <;> cases flag : pass.trailing <;>
    constructor <;> simp [TypeScript.parameters, chosen, nullable, ← trailing, flag]

/-- A whole pass agrees with all fields. -/
theorem agrees_foldl (known : NameSet) (fields : List Field) :
    (fields.reverse.foldl (Pass.step known) {}).Agrees known fields := by
  rw [List.foldl_reverse]
  induction fields with
  | nil => exact ⟨rfl, rfl⟩
  | cons field rest inductionHypothesis => exact inductionHypothesis.step field

/-- One pass chooses the parameters of a constructor. -/
theorem parameters_eq (known : NameSet) (fields : List Field) :
    parameters known fields = TypeScript.parameters known fields :=
  (agrees_foldl known fields).chosen

end Pass

/-- The lines of a constructor have its parameters between the parentheses and assign each field. -/
def constructorLines (fields : List Field) (parameters : List String) : List String :=
  ["", "  constructor(" ++ ", ".intercalate parameters ++ ") \x7b"] ++
    fields.map (fun field => "    this." ++ field.name ++ " = " ++ field.name ++ ";") ++ ["  \x7d"]

/-- A class with a constructor ends in the lines of the constructor. -/
theorem below_declaration {settings : Settings} (constructed : settings.constructors = true)
    (isClass : settings.style ≠ some .typeOnly) (known : NameSet) (model : Model) :
    (classLines (declaration settings known model)).below =
      constructorLines model.fields ((parameters known model.fields).map Parameter.text) ++
        ["\x7d"] := by
  have names := congrArg (List.map fun name => "    this." ++ name ++ " = " ++ name ++ ";")
    (Language.name_parameters known model.fields)
  simp only [List.map_map, Function.comp_def] at names
  rw [classLines, declaration, form, if_neg isClass, if_pos constructed, Form.lines, names]
  rfl

/-- The parameters of a constructor announce the fields of the model, one pass from the last field
to the first chooses them, and a class with a constructor is written with them. -/
theorem constructor_announces (known : NameSet) (model : Model) :
    AnnounceFields known model.fields ((parameters known model.fields).map Parameter.text) ∧
      Pass.parameters known model.fields = parameters known model.fields ∧
      ∀ settings : Settings, settings.constructors = true → settings.style ≠ some .typeOnly →
        (classLines (declaration settings known model)).below =
          constructorLines model.fields ((parameters known model.fields).map Parameter.text) ++
            ["\x7d"] :=
  ⟨announce_parameters known model.fields, Pass.parameters_eq known model.fields,
    fun _ constructed isClass => below_declaration constructed isClass known model⟩

/-- In this model a nullable field stands before one that is not, and two stand after it. -/
def visitModel : Model where
  name := "Visit"
  fields :=
    [⟨"note", "note", .dynamic, true, false, false⟩,
     ⟨"id", "id", .primitive .integer, false, false, false⟩,
     ⟨"tags", "tags", .list (.primitive .string), true, true, false⟩,
     ⟨"home", "home", .reference "Home", true, false, true⟩]

/-- These settings ask for constructors. -/
def constructorSettings : Settings where
  constructors := true
  style := some .plain
  package := Options.defaultPackage

/-- Only the parameters after the last required one may be left out. -/
theorem visitModel_constructor_announces :
    constructorSettings.constructors = true ∧ constructorSettings.style ≠ some .typeOnly ∧
      AnnounceFields ["Home"] visitModel.fields
        ["note: any | undefined", "id: number", "tags?: string[]", "home?: Home"] ∧
      (classLines (declaration constructorSettings ["Home"] visitModel)).below =
        ["", "  constructor(note: any | undefined, id: number, tags?: string[], home?: Home) \x7b",
         "    this.note = note;", "    this.id = id;", "    this.tags = tags;",
         "    this.home = home;", "  \x7d", "\x7d"] := by
  have texts : (parameters ["Home"] visitModel.fields).map Parameter.text =
      ["note: any | undefined", "id: number", "tags?: string[]", "home?: Home"] := by decide
  have isClass : constructorSettings.style ≠ some .typeOnly := by decide
  obtain ⟨announces, _, written⟩ := constructor_announces ["Home"] visitModel
  rw [texts] at announces written
  exact ⟨rfl, isClass, announces, (written constructorSettings rfl isClass).trans (by decide)⟩

end Exemplar.TypeScript
