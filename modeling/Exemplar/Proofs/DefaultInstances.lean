import Exemplar.Emission
import Exemplar.Proofs.ExtractedModels
import Mathlib.Data.Set.Finite.List
import Mathlib.Logic.Relation
import Mathlib.Order.WellFounded

/-
Default instances. Without constructors a class may start a field with a fresh instance of another
class, so making an instance of one class makes instances of others. This comes to an end exactly
when no class leads back to itself, and whether one does can be read off the document.
-/

namespace Exemplar

open Relation

/-- This function returns the model of which an initial value is a fresh instance. -/
def Initializer.freshModel? : Initializer → Option String
  | .fresh model => some model
  | _ => none

/-- This function returns the model of which an initial value in Kotlin is a fresh instance. -/
def Kotlin.InitialValue.freshModel? : InitialValue → Option String
  | .natural initializer => initializer.freshModel?
  | _ => none

namespace Language

/-- This function lists the models of which the properties of a declared class start with fresh
instances. -/
def freshModels (language : Language) (settings : Settings) (known : NameSet) (model : Model) :
    List String :=
  match language with
  | .typeScript =>
      (TypeScript.declaration settings known model).properties.filterMap fun property =>
        property.initializer.bind Initializer.freshModel?
  | .dart =>
      (Dart.declare settings known model).properties.filterMap fun property =>
        property.initializer.bind Initializer.freshModel?
  | .kotlin =>
      (Kotlin.declare settings known model).properties.filterMap fun property =>
        property.initialValue.bind Kotlin.InitialValue.freshModel?

/-- Fields are initialized in place when there are no constructors and no interfaces. -/
def InitializesInPlace (language : Language) (settings : Settings) : Prop :=
  settings.constructors = false ∧ (language = .typeScript → settings.style ≠ some .typeOnly)

/-- A field that is not nullable starts with a fresh instance of the known model of its type. -/
def freshModel? (known : NameSet) (field : Field) : Option String :=
  if field.nullable then none
  else (field.shape.resolve known).initializer?.bind Initializer.freshModel?

/-- All languages make fresh instances for the same fields. -/
theorem freshModels_eq {language : Language} {settings : Settings}
    (inPlace : language.InitializesInPlace settings) (known : NameSet) (model : Model) :
    language.freshModels settings known model = model.fields.filterMap (freshModel? known) := by
  obtain ⟨bare, notTypeOnly⟩ := inPlace
  cases language with
  | typeScript =>
      have classes : settings.style ≠ some .typeOnly := notTypeOnly rfl
      rw [freshModels, TypeScript.declaration, List.filterMap_map]
      apply List.filterMap_congr
      intro field _
      cases nullable : field.nullable <;>
        simp [TypeScript.property, bare, classes, TypeScript.initializer?, freshModel?, nullable]
  | dart =>
      rw [freshModels, Dart.declare, List.filterMap_map]
      apply List.filterMap_congr
      intro field _
      cases nullable : field.nullable <;>
        simp [Dart.property, bare, Dart.initializer?, freshModel?, nullable]
  | kotlin =>
      rw [freshModels, Kotlin.declare, List.filterMap_map]
      apply List.filterMap_congr
      intro field _
      cases nullable : field.nullable with
      | true => simp [Kotlin.property, bare, Kotlin.initialValue, Kotlin.InitialValue.freshModel?,
          freshModel?, nullable]
      | false =>
          simp only [Function.comp_apply, Kotlin.property, bare, Kotlin.initialValue, freshModel?,
            nullable, Bool.false_eq_true, false_and, if_false, Option.bind_some]
          cases (field.shape.resolve known).initializer? <;> rfl

/-- A fresh instance belongs to the known model that a field refers to. -/
theorem freshModel?_eq_some_iff {known : NameSet} {field : Field} {name : String} :
    freshModel? known field = some name ↔
      name ∈ known ∧ field.nullable = false ∧ field.shape = .reference name := by
  unfold freshModel?
  cases nullable : field.nullable with
  | true => simp
  | false =>
      cases shape : field.shape with
      | reference model =>
          by_cases declared : model ∈ known
          · have fresh : ((Shape.reference model).resolve known).initializer? =
                some (.fresh model) := by
              simp [Shape.resolve, declared, FieldType.initializer?]
            simp only [fresh, Bool.false_eq_true, if_false, Option.bind_some,
              Initializer.freshModel?, Option.some.injEq, Shape.reference.injEq, true_and]
            constructor
            · rintro rfl
              exact ⟨declared, rfl⟩
            · exact And.right
          · have generic : ((Shape.reference model).resolve known).initializer? =
                some .emptyObject := by
              simp [Shape.resolve, declared, FieldType.initializer?]
            simp only [generic, Bool.false_eq_true, if_false, Option.bind_some,
              Initializer.freshModel?, Shape.reference.injEq, true_and]
            constructor
            · exact fun impossible => nomatch impossible
            · rintro ⟨present, rfl⟩
              exact absurd present declared
      | _ => simp [Shape.resolve, FieldType.initializer?, Initializer.freshModel?]

/-- A class makes a fresh instance for each field that refers to a known model and is not
nullable. -/
theorem mem_freshModels_iff {language : Language} {settings : Settings} {known : NameSet}
    {model : Model} {name : String} (inPlace : language.InitializesInPlace settings) :
    name ∈ language.freshModels settings known model ↔
      name ∈ known ∧ ∃ field ∈ model.fields,
        field.nullable = false ∧ field.shape = .reference name := by
  simp only [freshModels_eq inPlace, List.mem_filterMap, freshModel?_eq_some_iff]
  constructor
  · rintro ⟨field, present, declared, referring⟩
    exact ⟨declared, field, present, referring⟩
  · rintro ⟨declared, field, present, referring⟩
    exact ⟨field, present, declared, referring⟩

end Language

/-- Nothing that descends only finitely often descends to itself. -/
theorem not_transGen_self_of_acc {relation : Model → Model → Prop} {model : Model}
    (accessible : Acc relation model) : ¬ TransGen relation model model := by
  have descending := accessible.transGen
  clear accessible
  induction descending with
  | intro model _ inductionHypothesis =>
      intro cycle
      exact inductionHypothesis model cycle cycle

namespace ModelSet

/-- A default instance of one model makes a fresh instance of another model. -/
def Instantiates (set : ModelSet) (language : Language) (settings : Settings)
    (whole part : Model) : Prop :=
  whole ∈ set.models ∧ part ∈ set.models ∧
    part.name ∈ language.freshModels settings set.names whole

/-- No model leads to a cycle of default instances. -/
def NoCycle (set : ModelSet) (language : Language) (settings : Settings) : Prop :=
  ∀ model ∈ set.models, ∀ reached,
    ReflTransGen (set.Instantiates language settings) model reached →
      ¬ TransGen (set.Instantiates language settings) reached reached

/-- Making a default instance comes to an end when making each of its parts does. -/
def DefaultsEnd (set : ModelSet) (language : Language) (settings : Settings) : Prop :=
  ∀ model ∈ set.models,
    Acc (fun part whole => set.Instantiates language settings whole part) model

variable {set : ModelSet} {language : Language} {settings : Settings}

/-- Every cycle can be reached, since its models belong to the set. -/
theorem noCycle_iff :
    set.NoCycle language settings ↔
      ∀ model, ¬ TransGen (set.Instantiates language settings) model model := by
  constructor
  · intro noCycle model cycle
    obtain ⟨_, ⟨member, _⟩, _⟩ := TransGen.head'_iff.mp cycle
    exact noCycle model member model .refl cycle
  · intro acyclic model _ reached _
    exact acyclic reached

/-- In a finite set without cycles every default instance comes to an end. -/
theorem defaultsEnd_of_noCycle (noCycle : set.NoCycle language settings) :
    set.DefaultsEnd language settings := by
  let edge (part whole : {model // model ∈ set.models}) : Prop :=
    set.Instantiates language settings whole part
  have irreflexive : ∀ model, ¬ TransGen edge model model := by
    intro model cycle
    have path : TransGen (set.Instantiates language settings) model.val model.val :=
      transGen_swap.mp (cycle.lift Subtype.val fun _ _ step => step)
    exact noCycle_iff.mp noCycle model.val path
  have finite : Finite {model // model ∈ set.models} := List.finite_toSet set.models
  have transitive : IsTrans {model // model ∈ set.models} (TransGen edge) :=
    ⟨fun _ _ _ => TransGen.trans⟩
  have strict : Std.Irrefl (TransGen edge) := ⟨irreflexive⟩
  have wellFounded : WellFounded edge :=
    Subrelation.wf TransGen.single (Finite.wellFounded_of_trans_of_irrefl (TransGen edge))
  have ending (model : {model // model ∈ set.models}) :
      Acc (fun part whole => set.Instantiates language settings whole part) model.val := by
    induction model using wellFounded.induction with
    | _ whole inductionHypothesis =>
        exact .intro _ fun part step => inductionHypothesis ⟨part, step.2.1⟩ step
  exact fun model member => ending ⟨model, member⟩

/-- A default instance that comes to an end lies on no cycle. -/
theorem noCycle_of_defaultsEnd (ending : set.DefaultsEnd language settings) :
    set.NoCycle language settings := by
  rw [noCycle_iff]
  intro model cycle
  obtain ⟨_, ⟨member, _⟩, _⟩ := TransGen.head'_iff.mp cycle
  exact not_transGen_self_of_acc (ending model member) (transGen_swap.mpr cycle)

end ModelSet

namespace Json

/-- The objects that a model is read off agree on holding a part when the first one holds an object
of its name directly, under a key that all later ones have. -/
def AgreeOnPart (part : String) : List (List (String × Json)) → Prop
  | [] => False
  | first :: later => ∃ key object, (key, .object object) ∈ first ∧
      Shape.referenceName object = part ∧ ∀ sample ∈ later, key ∈ keys sample

/-- One name leads to another when both name models and the objects that the first one is read off
agree on holding the other as a part. -/
def LeadsTo (rootName : String) (members : List (String × Json)) (whole part : String) : Prop :=
  ∃ wholeSources partSources, ReadOff rootName members whole wholeSources ∧
    ReadOff rootName members part partSources ∧ AgreeOnPart part wholeSources

end Json

theorem Shape.infer_eq_reference_iff {value : Json} {name : String} :
    Shape.infer value = .reference name ↔
      ∃ object, value = .object object ∧ Shape.referenceName object = name := by
  cases value with
  | array items => cases items <;> simp [infer]
  | _ => simp [infer]

/-- A merged model refers to a part in a field that is not nullable exactly when its samples agree
on holding the part. -/
theorem Model.required_reference_iff {name part : String}
    {samples : List (List (String × Json))}
    (distinct : ∀ sample ∈ samples, (Json.keys sample).Nodup) :
    (∃ field ∈ (ofSamples false name samples).fields,
        field.nullable = false ∧ field.shape = .reference part) ↔
      Json.AgreeOnPart part samples := by
  cases samples with
  | nil => simp [ofSamples, Json.AgreeOnPart]
  | cons first later =>
      have firstDistinct := distinct first List.mem_cons_self
      constructor
      · rintro ⟨field, present, required, refers⟩
        have reasons := nullable_ofSamples_iff firstDistinct present
        rw [required] at reasons
        obtain ⟨key, _, rfl⟩ := mem_fields_ofSamples.mp present
        have everywhere : ∀ sample ∈ first :: later, key ∈ Json.keys sample := by
          intro sample sampled
          by_contra lacks
          exact Bool.false_ne_true (reasons.mpr (.inr (.inl ⟨sample, sampled, lacks⟩)))
        have notNull : (key, .null) ∉ first := by
          intro null
          exact Bool.false_ne_true (reasons.mpr (.inr (.inr null)))
        obtain ⟨⟨_, value⟩, member, rfl⟩ := List.mem_map.mp (everywhere first List.mem_cons_self)
        have valueNotNull : value ≠ .null := by
          rintro rfl
          exact notNull member
        have shape : Shape.infer value = .reference part :=
          (Json.shapeOfShown_shown firstDistinct later member valueNotNull).symm.trans refers
        obtain ⟨object, rfl, named⟩ := Shape.infer_eq_reference_iff.mp shape
        exact ⟨_, object, member, named, fun sample sampled =>
          everywhere sample (List.mem_cons_of_mem _ sampled)⟩
      · rintro ⟨key, object, member, named, everywhere⟩
        have sampled : first ∈ first :: later := List.mem_cons_self
        have present := ofShown_mem_fields false name sampled member
        refine ⟨_, present, ?_, ?_⟩
        · rw [Bool.eq_false_iff, ne_eq, nullable_ofSamples_iff firstDistinct present]
          rintro (safetyOn | ⟨sample, sampled, lacks⟩ | null)
          · exact Bool.false_ne_true safetyOn
          · rcases List.mem_cons.mp sampled with rfl | isLater
            · exact lacks (List.mem_map_of_mem member)
            · exact lacks (everywhere sample isLater)
          · have found := Json.member?_of_mem firstDistinct member
            have foundNull := Json.member?_of_mem firstDistinct null
            cases foundNull.symm.trans found
        · have shape := Json.shapeOfShown_shown firstDistinct later member (by simp)
          exact shape.trans (Shape.infer_eq_reference_iff.mpr ⟨object, rfl, named⟩)

namespace Extraction

variable {name : String} {members : List (String × Json)} {language : Language}
  {settings : Settings}

/-- A model makes a fresh instance of another only when its name leads to that of the other. -/
theorem leadsTo_of_instantiates (wellFormed : (Json.object members).WellFormed)
    (inPlace : language.InitializesInPlace settings) {whole part : Model}
    (step : (ofMembers false name members).models.Instantiates language settings whole part) :
    Json.LeadsTo name members whole.name part.name := by
  obtain ⟨wholeMember, _, fresh⟩ := step
  obtain ⟨known, referring⟩ := (Language.mem_freshModels_iff inPlace).mp fresh
  obtain ⟨wholeName, wholeSources, readOff, rfl⟩ := (mem_models_ofMembers wellFormed).mp wholeMember
  obtain ⟨partSources, partReadOff⟩ := (mem_names_ofMembers wellFormed).mp known
  exact ⟨wholeSources, partSources, readOff, partReadOff,
    (Model.required_reference_iff (readOff.distinct wellFormed)).mp referring⟩

/-- When one name leads to another, a model of the first name makes fresh instances of all models of
the other. -/
theorem exists_instantiates_of_leadsTo (wellFormed : (Json.object members).WellFormed)
    (inPlace : language.InitializesInPlace settings) {whole part : String}
    (leads : Json.LeadsTo name members whole part) :
    ∃ model ∈ (ofMembers false name members).models.models, model.name = whole ∧
      ∀ target ∈ (ofMembers false name members).models.models, target.name = part →
        (ofMembers false name members).models.Instantiates language settings model target := by
  obtain ⟨wholeSources, partSources, readOff, partReadOff, agree⟩ := leads
  have member : Model.ofSamples false whole wholeSources ∈
      (ofMembers false name members).models.models :=
    (mem_models_ofMembers wellFormed).mpr ⟨whole, wholeSources, readOff, rfl⟩
  refine ⟨_, member, rfl, ?_⟩
  rintro target targetMember rfl
  refine ⟨member, targetMember, (Language.mem_freshModels_iff inPlace).mpr ⟨?_, ?_⟩⟩
  · exact (mem_names_ofMembers wellFormed).mpr ⟨partSources, partReadOff⟩
  · exact (Model.required_reference_iff (readOff.distinct wellFormed)).mpr agree

/-- A chain of names is a chain of models. -/
theorem exists_chain_of_leadsTo (wellFormed : (Json.object members).WellFormed)
    (inPlace : language.InitializesInPlace settings) {whole part : String}
    (chain : TransGen (Json.LeadsTo name members) whole part) :
    ∃ model ∈ (ofMembers false name members).models.models, model.name = whole ∧
      ∀ target ∈ (ofMembers false name members).models.models, target.name = part →
        TransGen ((ofMembers false name members).models.Instantiates language settings)
          model target := by
  induction chain using TransGen.head_induction_on with
  | single leads =>
      obtain ⟨model, member, named, steps⟩ :=
        exists_instantiates_of_leadsTo wellFormed inPlace leads
      exact ⟨model, member, named, fun target targetMember targetNamed =>
        .single (steps target targetMember targetNamed)⟩
  | head leads _ inductionHypothesis =>
      obtain ⟨model, member, named, steps⟩ :=
        exists_instantiates_of_leadsTo wellFormed inPlace leads
      obtain ⟨next, nextMember, nextNamed, later⟩ := inductionHypothesis
      exact ⟨model, member, named, fun target targetMember targetNamed =>
        .head (steps next nextMember nextNamed) (later target targetMember targetNamed)⟩

/-- The default instances of a document make no cycle exactly when no name leads back to itself. -/
theorem noCycle_ofMembers_iff (wellFormed : (Json.object members).WellFormed)
    (inPlace : language.InitializesInPlace settings) :
    (ofMembers false name members).models.NoCycle language settings ↔
      ∀ known, ¬ TransGen (Json.LeadsTo name members) known known := by
  rw [ModelSet.noCycle_iff]
  constructor
  · intro acyclic known chain
    obtain ⟨model, member, named, reached⟩ := exists_chain_of_leadsTo wellFormed inPlace chain
    exact acyclic model (reached model member named)
  · intro acyclic model cycle
    have chain : TransGen (Json.LeadsTo name members) model.name model.name :=
      cycle.lift Model.name fun _ _ => leadsTo_of_instantiates wellFormed inPlace
    exact acyclic model.name chain

/-- Without constructors and null safety, the default instances of a document are finite exactly
when no name leads back to itself. -/
theorem defaults_finite_iff {document : Json} {members : List (String × Json)}
    (wellFormed : document.WellFormed) (root : document.heldObject? = some members)
    (language : Language) (given : String) (options : Options)
    (safetyOff : options.nullSafety.truthy = false)
    (inPlace : language.InitializesInPlace options.settings) :
    ∃ extraction, ofDocument options.nullSafety.truthy given document = .ok extraction ∧
      (extraction.models.NoCycle language options.settings ↔
        ∀ known, ¬ TransGen (Json.LeadsTo (rootName given) members) known known) ∧
      (extraction.models.NoCycle language options.settings ↔
        extraction.models.DefaultsEnd language options.settings) := by
  have objectFormed := wellFormed.object_held root
  refine ⟨_, ofDocument_eq_ok_iff.mpr ⟨members, root, rfl⟩, ?_, ?_⟩
  · rw [safetyOff]
    exact noCycle_ofMembers_iff objectFormed inPlace
  · exact ⟨ModelSet.defaultsEnd_of_noCycle, ModelSet.noCycle_of_defaultsEnd⟩

/-- These options ask for classes that initialize their fields in place. -/
def bareOptions : Options where
  includeConstructor := .boolean false
  nullSafety := .boolean false

/-- In this document an object inside a sample has the name of another sample. -/
def sharedStreet : List (String × Json) :=
  [("user", .object [("name", .string "Ada"), ("address", .object [("street", .string "Main")])]),
   ("home", .object [("street", .string "Side")])]

/-- The default instances of a user, its address and the root are described by the names. -/
theorem sharedStreet_defaults_finite_iff :
    (Json.object sharedStreet).WellFormed ∧
      (Json.object sharedStreet).heldObject? = some sharedStreet ∧
      bareOptions.nullSafety.truthy = false ∧
      Language.kotlin.InitializesInPlace bareOptions.settings ∧
      ∃ extraction, ofDocument bareOptions.nullSafety.truthy "Model" (.object sharedStreet) =
          .ok extraction ∧
        (extraction.models.NoCycle .kotlin bareOptions.settings ↔
          ∀ known, ¬ TransGen (Json.LeadsTo (rootName "Model") sharedStreet) known known) ∧
        (extraction.models.NoCycle .kotlin bareOptions.settings ↔
          extraction.models.DefaultsEnd .kotlin bareOptions.settings) := by
  have wellFormed : (Json.object sharedStreet).WellFormed := by decide
  have inPlace : Language.kotlin.InitializesInPlace bareOptions.settings :=
    ⟨rfl, fun impossible => nomatch impossible⟩
  exact ⟨wellFormed, rfl, rfl, inPlace,
    defaults_finite_iff wellFormed rfl .kotlin "Model" bareOptions rfl inPlace⟩

/-- In this document an object inside a sample has the name of the sample itself. -/
def selfNamed : List (String × Json) :=
  [("a", .object [("a", .object [("a", .integer 1)])])]

/-- In every language the class of the sample makes a fresh instance of itself. -/
theorem selfNamed_defaults_infinite :
    ∃ extraction, ofDocument false "Model" (.object selfNamed) = .ok extraction ∧
      ∀ language : Language, ¬ extraction.models.NoCycle language bareOptions.settings := by
  refine ⟨ofMembers false "Model" selfNamed, rfl, ?_⟩
  intro language noCycle
  have member : ⟨"A", [⟨"a", "a", .reference "A", false, false, true⟩]⟩ ∈
      (ofMembers false "Model" selfNamed).models.models := by decide
  have fresh : "A" ∈ language.freshModels bareOptions.settings
      (ofMembers false "Model" selfNamed).models.names
      ⟨"A", [⟨"a", "a", .reference "A", false, false, true⟩]⟩ := by
    cases language <;> decide
  exact noCycle _ member _ .refl (.single ⟨member, member, fresh⟩)

end Extraction

end Exemplar
