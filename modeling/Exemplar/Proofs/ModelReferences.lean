import Exemplar.Proofs.CompleteModels
import Exemplar.Proofs.FieldDeclarations
import Exemplar.Proofs.UsedImports

namespace Exemplar

namespace FieldType

def models : FieldType → List String
  | .model name => [name]
  | .list item => item.models
  | _ => []

def base : FieldType → FieldType
  | .list item => item.base
  | type => type

theorem mem_models_of_fresh {type : FieldType} {name : String}
    (fresh : type.initializer?.bind Initializer.freshModel? = some name) : name ∈ type.models := by
  cases type with
  | model other => exact List.mem_singleton.mpr (Option.some.inj fresh).symm
  | _ => cases fresh

/-- A model that is held directly or as list items is named by the type. -/
theorem mem_models_of_heldModel? {type : FieldType} {name : String}
    (held : type.heldModel? = some name) : name ∈ type.models := by
  cases type with
  | model other => exact List.mem_singleton.mpr (Option.some.inj held).symm
  | list item =>
      cases item with
      | model other => exact List.mem_singleton.mpr (Option.some.inj held).symm
      | _ => cases held
  | _ => cases held

end FieldType

namespace Shape

/-- A field names only known models. -/
theorem mem_of_mem_models {known : NameSet} {shape : Shape} {name : String}
    (named : name ∈ (shape.resolve known).models) : name ∈ known := by
  induction shape with
  | reference model =>
      rw [resolve] at named
      split at named
      next declared => exact List.mem_singleton.mp named ▸ declared
      · exact absurd named List.not_mem_nil
  | list item inductionHypothesis => exact inductionHypothesis named
  | primitive type => exact absurd named List.not_mem_nil
  | dynamic => exact absurd named List.not_mem_nil

end Shape

namespace TypeScript

def Decorator.model? : Decorator → Option String
  | .type model => some model
  | .expose _ => none

def Property.usedModels (property : Property) : List String :=
  property.decorators.filterMap Decorator.model? ++ property.type.models ++
    (property.initializer.bind Initializer.freshModel?).toList

def Form.usedModels : Form → List String
  | .constructedClass parameters => parameters.flatMap fun parameter => parameter.type.models
  | _ => []

def File.usedModels (file : File) : List String :=
  file.declarations.flatMap fun declared =>
    declared.properties.flatMap Property.usedModels ++ declared.form.usedModels

/-- A property names only the models that its type names. -/
theorem Property.mem_usedModels {settings : Settings} {known : NameSet} {field : Field}
    {name : String} (used : name ∈ (property settings known field).usedModels) :
    name ∈ (field.shape.resolve known).models := by
  rcases List.mem_append.mp used with decoratedOrTyped | fresh
  · rcases List.mem_append.mp decoratedOrTyped with decorated | typed
    · obtain ⟨decorator, carried, names⟩ := List.mem_filterMap.mp decorated
      obtain ⟨_, ⟨model, held, _, rfl⟩ | ⟨_, rfl⟩⟩ := mem_decorators_iff.mp carried
      · exact Option.some.inj names ▸ FieldType.mem_models_of_heldModel? held
      · cases names
    · exact typed
  · have found := Option.mem_toList.mp fresh
    simp only [property, initializer?] at found
    split at found
    · cases found
    · split at found
      · cases found
      · exact FieldType.mem_models_of_fresh found

/-- The constructor of a class names only the models that the types of its fields name. -/
theorem Form.mem_usedModels {settings : Settings} {known : NameSet} {model : Model} {name : String}
    (used : name ∈ (form settings known model).usedModels) :
    ∃ field ∈ model.fields, name ∈ (field.shape.resolve known).models := by
  have ofParameters (fields : List Field)
      (named : name ∈ (parameters known fields).flatMap fun parameter => parameter.type.models) :
      ∃ field ∈ fields, name ∈ (field.shape.resolve known).models := by
    induction fields with
    | nil => cases named
    | cons first rest inductionHypothesis =>
        rw [parameters, List.flatMap_cons] at named
        rcases List.mem_append.mp named with ofFirst | ofRest
        · exact ⟨first, List.mem_cons_self, ofFirst⟩
        · obtain ⟨field, present, named⟩ := inductionHypothesis ofRest
          exact ⟨field, List.mem_cons_of_mem _ present, named⟩
  rw [form] at used
  split at used
  · cases used
  · split at used
    · exact ofParameters model.fields used
    · cases used

end TypeScript

namespace Dart

/-- This function lists the models that the reading of a field names. -/
def Read.usedModels : Read → List String
  | .model name => [name]
  | .models name => [name]
  | .cast type => type.models
  | .copy type => type.models
  | _ => []

def Property.usedModels (property : Property) : List String :=
  property.type.models ++ (property.initializer.bind Initializer.freshModel?).toList

def Routines.usedModels : Routines → List String
  | .written entries => entries.flatMap fun entry => entry.read.usedModels
  | _ => []

def File.usedModels (file : File) : List String :=
  file.classes.flatMap fun declared =>
    declared.properties.flatMap Property.usedModels ++ declared.routines.usedModels

/-- A property names only the models that its type names. -/
theorem Property.mem_usedModels {settings : Settings} {known : NameSet} {field : Field}
    {name : String} (used : name ∈ (property settings known field).usedModels) :
    name ∈ (field.shape.resolve known).models := by
  rcases List.mem_append.mp used with typed | fresh
  · exact typed
  · have found := Option.mem_toList.mp fresh
    simp only [property, initializer?] at found
    split at found
    · cases found
    · split at found
      · cases found
      · exact FieldType.mem_models_of_fresh found

/-- The reading of a field names only the models that its type names. -/
theorem mem_usedModels_read {type : FieldType} {name : String}
    (used : name ∈ (read type).usedModels) : name ∈ type.models := by
  fun_cases read type <;> simp_all [read, Read.usedModels, FieldType.models]

/-- The routines of a class name only the models that the types of its fields name. -/
theorem Routines.mem_usedModels {settings : Settings} {known : NameSet} {model : Model}
    {name : String} (used : name ∈ (routines settings known model).usedModels) :
    ∃ field ∈ model.fields, name ∈ (field.shape.resolve known).models := by
  rw [routines] at used
  split at used
  · cases used
  · split at used
    · obtain ⟨read, listed, named⟩ := List.mem_flatMap.mp used
      obtain ⟨field, present, rfl⟩ := List.mem_map.mp listed
      exact ⟨field, present, mem_usedModels_read named⟩
    · cases used

end Dart

namespace Kotlin

def Property.usedModels (property : Property) : List String :=
  property.type.models ++ (property.initialValue.bind InitialValue.freshModel?).toList

def File.usedModels (file : File) : List String :=
  file.classes.flatMap fun declared => declared.properties.flatMap Property.usedModels

/-- A property names only the models that its type names. -/
theorem Property.mem_usedModels {settings : Settings} {known : NameSet} {field : Field}
    {name : String} (used : name ∈ (property settings known field).usedModels) :
    name ∈ (field.shape.resolve known).models := by
  rcases List.mem_append.mp used with typed | fresh
  · exact typed
  · have found := Option.mem_toList.mp fresh
    simp only [property] at found
    split at found
    · cases found
    · rw [Option.bind_some, Kotlin.initialValue] at found
      split at found
      · cases found
      · split at found
        next initializer natural =>
          apply FieldType.mem_models_of_fresh
          rw [natural]
          exact found
        · cases found

end Kotlin

namespace Language

/-- This function lists the models that the file of a model set names. -/
def usedModels (language : Language) (settings : Settings) (set : ModelSet) : List String :=
  match language with
  | .typeScript => (TypeScript.file settings set).usedModels
  | .dart => (Dart.file settings set).usedModels
  | .kotlin => (Kotlin.file settings set).usedModels

/-- A file names only the models that the types of the fields name. -/
theorem mem_usedModels {language : Language} {settings : Settings} {set : ModelSet} {name : String}
    (used : name ∈ language.usedModels settings set) :
    ∃ model ∈ set.models, ∃ field ∈ model.fields,
      name ∈ (field.shape.resolve set.names).models := by
  cases language with
  | typeScript =>
      obtain ⟨_, declared, named⟩ := List.mem_flatMap.mp used
      obtain ⟨model, member, rfl⟩ := List.mem_map.mp declared
      refine ⟨model, member, ?_⟩
      rcases List.mem_append.mp named with byProperty | byConstructor
      · obtain ⟨_, listed, named⟩ := List.mem_flatMap.mp byProperty
        obtain ⟨field, present, rfl⟩ := List.mem_map.mp listed
        exact ⟨field, present, TypeScript.Property.mem_usedModels named⟩
      · exact TypeScript.Form.mem_usedModels byConstructor
  | dart =>
      obtain ⟨_, declared, named⟩ := List.mem_flatMap.mp used
      obtain ⟨model, member, rfl⟩ := List.mem_map.mp declared
      refine ⟨model, member, ?_⟩
      rcases List.mem_append.mp named with byProperty | byRoutine
      · obtain ⟨_, listed, named⟩ := List.mem_flatMap.mp byProperty
        obtain ⟨field, present, rfl⟩ := List.mem_map.mp listed
        exact ⟨field, present, Dart.Property.mem_usedModels named⟩
      · exact Dart.Routines.mem_usedModels byRoutine
  | kotlin =>
      obtain ⟨_, declared, named⟩ := List.mem_flatMap.mp used
      obtain ⟨model, member, rfl⟩ := List.mem_map.mp declared
      obtain ⟨_, listed, named⟩ := List.mem_flatMap.mp named
      obtain ⟨field, present, rfl⟩ := List.mem_map.mp listed
      exact ⟨model, member, field, present, Kotlin.Property.mem_usedModels named⟩

end Language

/-- A value shows an object below some levels of lists when following first items that many times
leads to the object. -/
def Json.objectBelow? : Nat → Json → Option (List (String × Json))
  | 0, .object members => some members
  | levels + 1, .array (first :: _) => objectBelow? levels first
  | _, _ => none

/-- A value holds an object when it shows the object below one level of lists or none. -/
theorem Json.heldObject?_of_objectBelow? {levels : Nat} {value : Json}
    {object : List (String × Json)} (shallow : levels < 2)
    (shown : value.objectBelow? levels = some object) : value.heldObject? = some object := by
  match levels, value with
  | 0, .object members => exact shown
  | 1, .array (.object members :: _) => exact shown

/-- The type of any object stands below the lists that a value shows exactly when the value shows an
object whose name is not known. -/
theorem Shape.base_resolve_infer_iff {known : NameSet} {value : Json} :
    ((infer value).resolve known).base = .object ↔
      ∃ levels object, value.objectBelow? levels = some object ∧ referenceName object ∉ known := by
  induction value using Shape.infer.induct with
  | case7 first rest inductionHypothesis =>
      rw [infer, resolve, FieldType.base, inductionHypothesis]
      constructor
      · intro shown
        obtain ⟨levels, object, below, unknown⟩ := shown
        exact ⟨levels + 1, object, below, unknown⟩
      · intro shown
        obtain ⟨levels, object, below, unknown⟩ := shown
        cases levels with
        | zero => cases below
        | succ levels => exact ⟨levels, object, below, unknown⟩
  | case8 members =>
      rw [infer, resolve]
      constructor
      · intro generic
        split at generic
        · cases generic
        next unknown => exact ⟨0, members, rfl, unknown⟩
      · intro shown
        obtain ⟨levels, object, below, unknown⟩ := shown
        cases levels with
        | zero =>
            rw [Option.some.inj below, if_neg unknown]
            rfl
        | succ levels => cases below
  | _ => simp [infer, resolve, FieldType.base, Json.objectBelow?]

namespace Language

/-- The declaration of a root field renders a member when an object is rendered by its class and a
list that starts with an object by the list type of that class, with the class before the root, and
the type of any object stands below the declared lists exactly when the value shows an object of an
unknown name below two levels of lists or more. -/
structure RendersMember (language : Language) (known : NameSet) (earlier : List ClassLines)
    (member : String × Json) (declaration : FieldDeclaration) : Prop where
  named : declaration.name = Naming.camelCase member.1
  typed : declaration.type = language.dialect.type ((Shape.infer member.2).resolve known)
  object : ∀ object, member.2 = .object object →
    declaration.type = Shape.referenceName object ∧
      ∃ declared ∈ earlier, language.DeclaresClass (Shape.referenceName object) declared
  list : ∀ object rest, member.2 = .array (.object object :: rest) →
    declaration.type = language.dialect.list (Shape.referenceName object) ∧
      ∃ declared ∈ earlier, language.DeclaresClass (Shape.referenceName object) declared
  generic : ((Shape.infer member.2).resolve known).base = .object ↔
    ∃ levels object, 2 ≤ levels ∧ member.2.objectBelow? levels = some object ∧
      Shape.referenceName object ∉ known

/-- A language declares all references of a model set when each model that the file names has a
class in it, and the last class renders the members of the root one by one. -/
structure DeclaresReferences (language : Language) (settings : Settings) (set : ModelSet)
    (members : List (String × Json)) : Prop where
  written : (language.emit settings set).code =
    fileText (language.header settings set) (language.classLines settings set)
  used : ∀ name ∈ language.usedModels settings set,
    ∃ declared ∈ language.classLines settings set, language.DeclaresClass name declared
  root : ∃ earlier rootLines, language.classLines settings set = earlier ++ [rootLines] ∧
    List.Forall₂
      (fun member lines => ∃ declaration, language.Declares declaration lines ∧
        language.RendersMember set.names earlier member declaration)
      members rootLines.fields

/-- The declaration of a root field renders its member, when every object that the members hold has
a known name and a class before the root. -/
theorem rendersMember_declaration {language : Language} {settings : Settings} {known : NameSet}
    {earlier : List ClassLines} {member : String × Json} (nullSafety : Bool)
    (held : ∀ object, member.2.heldObject? = some object →
      Shape.referenceName object ∈ known ∧
        ∃ declared ∈ earlier, language.DeclaresClass (Shape.referenceName object) declared) :
    language.RendersMember known earlier member
      (language.declaration settings known (Field.ofMember nullSafety member)) where
  named := rfl
  typed := rfl
  object object value := by
    obtain ⟨isKnown, declares⟩ := held object (by rw [value]; rfl)
    refine ⟨?_, declares⟩
    simp [declaration, Field.ofMember, value, Shape.infer, Shape.resolve, isKnown, Dialect.type]
  list object rest value := by
    obtain ⟨isKnown, declares⟩ := held object (by rw [value]; rfl)
    refine ⟨?_, declares⟩
    simp [declaration, Field.ofMember, value, Shape.infer, Shape.resolve, isKnown, Dialect.type]
  generic := by
    rw [Shape.base_resolve_infer_iff]
    constructor
    · intro shown
      obtain ⟨levels, object, below, unknown⟩ := shown
      refine ⟨levels, object, ?_, below, unknown⟩
      by_contra shallow
      have held := held object (Json.heldObject?_of_objectBelow? (Nat.lt_of_not_le shallow) below)
      exact unknown held.1
    · intro shown
      obtain ⟨levels, object, _, below, unknown⟩ := shown
      exact ⟨levels, object, below, unknown⟩

end Language

namespace Extraction

/-- Every object that the root holds has a nested model of its name. -/
theorem exists_nested_of_held (nullSafety : Bool) (name : String) {members : List (String × Json)}
    (wellFormed : (Json.object members).WellFormed) {member : String × Json}
    (present : member ∈ members) {object : List (String × Json)}
    (held : member.2.heldObject? = some object) :
    ∃ model ∈ (ofMembers nullSafety name members).models.nested,
      model.name = Shape.referenceName object := by
  have sampled : object ∈ Json.samplesNamed (Shape.referenceName object) members :=
    Json.mem_samplesNamed.mpr ⟨⟨member, present, held⟩, rfl⟩
  exact ⟨_, (mem_nested_ofMembers wellFormed).mpr ⟨_, List.ne_nil_of_mem sampled, rfl⟩,
    Model.name_ofSamples _ _ _⟩

/-- The file of a document declares all references between its models. -/
theorem references_declared {document : Json} {members : List (String × Json)}
    (wellFormed : document.WellFormed) (root : document.heldObject? = some members)
    (nullSafety : Bool) (given : String) (language : Language) (settings : Settings) :
    ∃ extraction, ofDocument nullSafety given document = .ok extraction ∧
      language.DeclaresReferences settings extraction.models members := by
  have objectFormed := wellFormed.object_held root
  refine ⟨_, ofDocument_eq_ok_iff.mpr ⟨members, root, rfl⟩, language.code_emit settings _, ?_, ?_⟩
  · intro name used
    obtain ⟨model, member, field, present, named⟩ := Language.mem_usedModels used
    obtain ⟨target, targetMember, rfl, keeps⟩ :=
      exists_keepsName member present (Shape.mem_of_mem_models named)
    rw [Language.classLines_eq_map]
    exact ⟨_, List.mem_map_of_mem targetMember, language.declaresClass_modelLines settings _ keeps⟩
  · obtain ⟨models, extracted⟩ :
        ∃ models, (ofMembers nullSafety (rootName given) members).models = models := ⟨_, rfl⟩
    have rootFields : models.root.fields = members.map (Field.ofMember nullSafety) := by
      rw [← extracted, root_ofMembers]
      rfl
    have declared := language.declares_fields settings models.names models.root
    rw [rootFields, List.forall₂_map_left_iff] at declared
    rw [extracted]
    refine ⟨models.nested.map (language.modelLines settings models.names),
      language.modelLines settings models.names models.root, ?_, ?_⟩
    · rw [Language.classLines_eq_map, ModelSet.models, List.map_append, List.map_singleton]
    · have present : ∀ member ∈ members, member ∈ members := fun _ present => present
      apply (List.forall₂_and_left _ _ |>.mpr ⟨present, declared⟩).imp
      intro member lines both
      obtain ⟨present, declares⟩ := both
      refine ⟨_, declares, Language.rendersMember_declaration nullSafety ?_⟩
      intro object held
      obtain ⟨nested, listed, named⟩ :=
        exists_nested_of_held nullSafety (rootName given) objectFormed present held
      rw [extracted] at listed
      have inModels := List.mem_append_left [models.root] listed
      have keeps := keepsName_of_mem_models (List.ne_nil_of_mem present) nested
        (extracted ▸ inModels)
      rw [← named]
      exact ⟨NameSet.mem_ofList.mpr (List.mem_map_of_mem inModels), _, List.mem_map_of_mem listed,
        language.declaresClass_modelLines settings _ keeps⟩

/-- In this document an object without keys stands beside lists of objects at three levels, and only
the deepest one has a name that no other object has. -/
def cityMaps : List (String × Json) :=
  [("city", .object [("name", .string "Oslo"), ("mayor", .object [("age", .integer 50)])]),
   ("parks", .array [.object [("trees", .integer 300)]]), ("empty", .object []),
   ("grid", .array [.array [.object [("name", .null)]]]),
   ("tiles", .array [.array [.array [.object [("height", .integer 2)]]]])]

/-- The file of the document declares all references between its models. -/
theorem cityMaps_references_declared :
    (Json.object cityMaps).WellFormed ∧
      (Json.object cityMaps).heldObject? = some cityMaps ∧
      ∃ extraction, ofDocument true "City" (.object cityMaps) = .ok extraction ∧
        Language.typeScript.DeclaresReferences ⟨true, some .classTransformer, ""⟩
          extraction.models cityMaps := by
  have wellFormed : (Json.object cityMaps).WellFormed := by decide
  exact ⟨wellFormed, rfl, references_declared wellFormed rfl true "City" .typeScript
    ⟨true, some .classTransformer, ""⟩⟩

end Extraction

end Exemplar
