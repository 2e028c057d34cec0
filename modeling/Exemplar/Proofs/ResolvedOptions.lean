import Exemplar.Proofs.CommandOutcome
import Mathlib.Data.List.Induction

namespace Exemplar

namespace OptionName

/-- A key names an option when it is the key of the option or one of its aliases. -/
def NamedBy (option : OptionName) (key : String) : Prop :=
  key = option.key ∨ key ∈ option.aliases

instance (option : OptionName) (key : String) : Decidable (option.NamedBy key) :=
  inferInstanceAs (Decidable (_ ∨ _))

/-- This function returns the value that an option has when nothing sets it. -/
def defaultValue : OptionName → Json
  | .includeConstructor => .boolean true
  | .nullSafety => .boolean true
  | .serializationStyle => .string "none"
  | .packageName => .null

/-- An option is found under exactly the keys that name it. -/
theorem ofKey?_eq_some_iff {key : String} {option : OptionName} :
    ofKey? key = some option ↔ option.NamedBy key := by
  constructor
  · intro found
    have matched := List.find?_some found
    rw [Bool.or_eq_true, beq_iff_eq, List.contains_iff_mem] at matched
    exact matched.imp_left Eq.symm
  · intro named
    cases option <;> simp only [NamedBy, OptionName.key, aliases, List.mem_cons, List.not_mem_nil,
      or_false] at named
    case serializationStyle => rcases named with rfl | rfl | rfl <;> decide
    all_goals rcases named with rfl | rfl <;> decide

theorem NamedBy.unique {option other : OptionName} {key : String} (named : option.NamedBy key)
    (otherNamed : other.NamedBy key) : option = other :=
  Option.some.inj
    ((ofKey?_eq_some_iff.mpr named).symm.trans (ofKey?_eq_some_iff.mpr otherNamed))

end OptionName

namespace Options

variable {options : Options} {members : List (String × Json)} {option : OptionName}

/-- Options are told apart by their values. -/
theorem eq_of_get {first second : Options}
    (same : ∀ option, first.get option = second.get option) : first = second := by
  obtain ⟨_, _, _, _⟩ := first
  have constructor := same .includeConstructor
  have nullSafety := same .nullSafety
  have style := same .serializationStyle
  have package := same .packageName
  simp only [get] at constructor nullSafety style package
  subst constructor nullSafety style package
  rfl

@[simp] theorem get_set (options : Options) (value : Json) (option other : OptionName) :
    (options.set value option).get other = if other = option then value else options.get other := by
  cases option <;> cases other <;> rfl

@[simp] theorem get_default (option : OptionName) :
    ({} : Options).get option = option.defaultValue := by
  cases option <;> rfl

/-- A member gives its value to the option that it names, and to no other one. -/
theorem get_assign (options : Options) (member : String × Json) (option : OptionName) :
    (options.assign member).get option =
      if option.NamedBy member.1 then member.2 else options.get option := by
  unfold assign
  cases found : OptionName.ofKey? member.1 with
  | none =>
      have unnamed : ¬ option.NamedBy member.1 := by
        rw [← OptionName.ofKey?_eq_some_iff, found]
        exact nofun
      rw [if_neg unnamed]
  | some known =>
      have named := OptionName.ofKey?_eq_some_iff.mp found
      by_cases same : option = known
      · subst same
        simp [named]
      · have unnamed : ¬ option.NamedBy member.1 := fun also => same (also.unique named)
        simp [same, unnamed]

theorem assign_of_unknown {member : String × Json}
    (unknown : ∀ option : OptionName, ¬ option.NamedBy member.1) :
    options.assign member = options := by
  apply eq_of_get
  intro option
  rw [get_assign, if_neg (unknown option)]

/-- Members that do not name an option leave its value. -/
theorem get_foldl_assign_of_unnamed (unnamed : ∀ member ∈ members, ¬ option.NamedBy member.1) :
    (members.foldl assign options).get option = options.get option := by
  induction members generalizing options with
  | nil => rfl
  | cons first rest inductionHypothesis =>
      obtain ⟨firstUnnamed, restUnnamed⟩ := List.forall_mem_cons.mp unnamed
      rw [List.foldl_cons, inductionHypothesis restUnnamed, get_assign, if_neg firstUnnamed]

/-- The last member that names an option configures it, and without one it has its default. -/
inductive Configures (members : List (String × Json)) (option : OptionName) : Json → Prop where
  | member {before after : List (String × Json)} {key : String} {value : Json}
      (split : members = before ++ (key, value) :: after) (named : option.NamedBy key)
      (last : ∀ member ∈ after, ¬ option.NamedBy member.1) : Configures members option value
  | default (unnamed : ∀ member ∈ members, ¬ option.NamedBy member.1) :
      Configures members option option.defaultValue

/-- An option has the value that configures it. -/
theorem get_of_configures {value : Json} (configured : Configures members option value) :
    (ofMembers members).get option = value := by
  cases configured with
  | member split named last =>
      rw [split, ofMembers, List.foldl_append, List.foldl_cons, get_foldl_assign_of_unnamed last,
        get_assign, if_pos named]
  | default unnamed => rw [ofMembers, get_foldl_assign_of_unnamed unnamed, get_default]

/-- Every option is configured. -/
theorem exists_configures (members : List (String × Json)) (option : OptionName) :
    ∃ value, Configures members option value := by
  induction members using List.reverseRecOn with
  | nil => exact ⟨_, .default (by simp)⟩
  | append_singleton members last inductionHypothesis =>
      by_cases named : option.NamedBy last.1
      · exact ⟨last.2, .member rfl named (by simp)⟩
      · obtain ⟨value, configured⟩ := inductionHypothesis
        have unnamed : ∀ member ∈ [last], ¬ option.NamedBy member.1 := by simpa using named
        -- A member after the one that configures the option does not name it.
        cases configured with
        | @member before after key value split isNamed isLast =>
            have extended : members ++ [last] = before ++ (key, value) :: (after ++ [last]) := by
              rw [split, List.append_assoc, List.cons_append]
            exact ⟨value, .member extended isNamed (List.forall_mem_append.mpr ⟨isLast, unnamed⟩)⟩
        | default earlier => exact ⟨_, .default (List.forall_mem_append.mpr ⟨earlier, unnamed⟩)⟩

/-- An option has exactly the value that configures it. -/
theorem get_ofMembers_eq_iff {value : Json} :
    (ofMembers members).get option = value ↔ Configures members option value := by
  constructor
  · rintro rfl
    obtain ⟨value, configured⟩ := exists_configures members option
    rw [get_of_configures configured]
    exact configured
  · exact get_of_configures

theorem ofMembers_of_unknown {before after : List (String × Json)} {member : String × Json}
    (unknown : ∀ option : OptionName, ¬ option.NamedBy member.1) :
    ofMembers (before ++ member :: after) = ofMembers (before ++ after) := by
  rw [ofMembers, ofMembers, List.foldl_append, List.foldl_cons, assign_of_unknown unknown,
    ← List.foldl_append]

theorem ofMembers_toMembers (options : Options) : ofMembers options.toMembers = options := rfl

/-- An option is set among the listed options by the member of its key. -/
theorem insertMember_toMembers (options : Options) (value : Json) (option : OptionName) :
    Json.insertMember option.key value options.toMembers =
      (options.set value option).toMembers := by
  cases option <;> rfl

end Options

def Json.update (members further : List (String × Json)) : List (String × Json) :=
  further.foldl (fun merged member => insertMember member.1 member.2 merged) members

namespace Arguments

/-- This function returns the value that the command line gives for an option. -/
def flag? (given : Arguments) : OptionName → Option Json
  | .includeConstructor => given.constructor.map Json.boolean
  | .nullSafety => given.nullSafety.map Json.boolean
  | .serializationStyle => given.serialization.map Json.string
  | .packageName => given.package.map Json.string

def flags (given : Arguments) : List (OptionName × Json) :=
  [OptionName.serializationStyle, .includeConstructor, .nullSafety, .packageName].filterMap
    fun option => (given.flag? option).map fun value => (option, value)

/-- This function lists the values that the command line gives under the keys of the options. -/
def flagMembers (given : Arguments) : List (String × Json) :=
  given.flags.map fun flag => (flag.1.key, flag.2)

end Arguments

namespace CommandLine

/-- A flag decides the value of its option, and without one the configuration does. -/
inductive Resolves (given : Arguments) (members : List (String × Json)) (option : OptionName) :
    Json → Prop where
  | flag {value : Json} (flagged : given.flag? option = some value) :
      Resolves given members option value
  | configuration {value : Json} (unflagged : given.flag? option = none)
      (configured : Options.Configures members option value) : Resolves given members option value

variable {given : Arguments} {members : List (String × Json)}

theorem get_override (given : Arguments) (options : Options) (option : OptionName) :
    (override given options).get option = (given.flag? option).getD (options.get option) := by
  cases option <;> rfl

/-- The options that a command line resolves have exactly the values that are resolved. -/
theorem get_override_eq_iff {option : OptionName} {value : Json} :
    (override given (Options.ofMembers members)).get option = value ↔
      Resolves given members option value := by
  rw [get_override]
  cases flagged : given.flag? option with
  | some decided =>
      constructor
      · rintro rfl
        exact .flag flagged
      · intro resolves
        cases resolves with
        | flag other => exact Option.some.inj (flagged.symm.trans other)
        | configuration unflagged => cases flagged.symm.trans unflagged
  | none =>
      rw [Option.getD_none, Options.get_ofMembers_eq_iff]
      constructor
      · exact .configuration flagged
      · intro resolves
        cases resolves with
        | flag other => cases flagged.symm.trans other
        | configuration _ configured => exact configured

/-- To override options is to set those that are given one by one. -/
theorem override_eq_foldl (given : Arguments) (options : Options) :
    override given options =
      given.flags.foldl (fun changed flag => changed.set flag.2 flag.1) options := by
  obtain ⟨_, _, _, _, serialization, package, constructor, nullSafety, _, _, _⟩ := given
  cases serialization <;> cases package <;> cases constructor <;> cases nullSafety <;> rfl

/-- The listed options with the flags among them are the overridden options. -/
theorem update_toMembers (given : Arguments) (options : Options) :
    Json.update options.toMembers given.flagMembers = (override given options).toMembers := by
  rw [override_eq_foldl, Json.update, Arguments.flagMembers, List.foldl_map]
  generalize given.flags = flags
  induction flags generalizing options with
  | nil => rfl
  | cons first rest inductionHypothesis =>
      rw [List.foldl_cons, List.foldl_cons, ← inductionHypothesis, Options.insertMember_toMembers]

/-- A command resolves its options when each of them has the value of its flag, else of the last
member that names it, else its default. Members that name no option change nothing, options that
are listed and read again are the same, with the flags among them or without, and a command
generates with the resolved options. -/
structure ResolvesOptions (given : Arguments) (members : List (String × Json)) : Prop where
  resolved : ∀ option value,
    (override given (Options.ofMembers members)).get option = value ↔
      Resolves given members option value
  ignored : ∀ before member after, members = before ++ member :: after →
    (∀ option : OptionName, ¬ option.NamedBy member.1) →
    Options.ofMembers members = Options.ofMembers (before ++ after)
  listed : ∀ options : Options, Options.ofMembers options.toMembers = options
  updated : Options.ofMembers
      (Json.update (Options.ofMembers members).toMembers given.flagMembers) =
    override given (Options.ofMembers members)
  generates : ∀ (inputs : Inputs) document value,
    ReadsOptions inputs.configuration (Options.ofMembers members) →
    readJson document = .ok value →
    generate given inputs.language inputs.configuration document =
      (Generation.run (.string inputs.language.name) value
        (given.name.getD Extraction.defaultRootName)
        (override given (Options.ofMembers members))).mapError
          fun error => failed error.message

/-- A command resolves its options for every configuration and with every combination of flags. -/
theorem resolves_options (given : Arguments) (members : List (String × Json)) :
    ResolvesOptions given members where
  resolved _ _ := get_override_eq_iff
  ignored _ _ _ split unknown := split ▸ Options.ofMembers_of_unknown unknown
  listed := Options.ofMembers_toMembers
  updated := by rw [update_toMembers, Options.ofMembers_toMembers]
  generates inputs document value optioned read := by
    rw [generate_of_read optioned read, generateWith]
    cases Generation.run _ value _ _ <;> rfl

/-- In this configuration every option is named twice, by different keys or to give it back its
default. -/
example : override { nullSafety := some true, package := some "" }
    (Options.ofMembers
      [("includeConstructor", .boolean true), ("indent", .integer 4), ("null_safety", .null),
       ("serializationOptions", .string "Gson"), ("include_constructor", .integer 0),
       ("packageName", .string "org.acme"), ("serializationStyle", .null),
       ("nullSafety", .boolean false)]) =
    ⟨.integer 0, .boolean true, .null, .string ""⟩ := rfl

end CommandLine

end Exemplar
