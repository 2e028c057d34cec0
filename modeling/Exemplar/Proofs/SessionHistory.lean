import Exemplar.Proofs.GenerationOutcome
import Exemplar.Session
import Mathlib.Data.List.Induction

/-
Histories of sessions. A session remembers nothing but its last rendering. An emission is therefore
the same after any history as in a new session, no other request changes the session, and with
checked options a session emits the code that a generation gives.
-/

namespace Exemplar

/-- This function returns the model set that a request renders. A document without models is not
rendered, and neither are the questions about single fields. -/
def Request.rendered? (options : Options) : Request → Option ModelSet
  | .emit set => some set
  | .extractAndEmit document rootName =>
      match Extraction.ofDocument options.nullSafety.truthy rootName document with
      | .ok extraction => some extraction.models
      | .error _ => none
  | _ => none

namespace Session

/-- This function returns the session that has answered a history of requests. -/
def after (language : Language) (options : Options) (history : List Request) : Session :=
  history.foldl (fun session request => (session.answer request).1) (start language options)

/-- This function returns the last model set that a history renders. -/
def lastRendered? (options : Options) (history : List Request) : Option ModelSet :=
  (history.filterMap (Request.rendered? options)).getLast?

/-- This function returns the session that has rendered at most one model set. -/
def remembering (language : Language) (options : Options) : Option ModelSet → Session
  | none => start language options
  | some set => ((start language options).emit set).1

variable {language : Language} {options : Options}

@[simp] theorem language_remembering (last : Option ModelSet) :
    (remembering language options last).language = language := by
  cases last <;> rfl

@[simp] theorem options_remembering (last : Option ModelSet) :
    (remembering language options last).options = options := by
  cases last <;> rfl

/-- An emission depends on the language and the options of the session alone, because a rendering
forgets what earlier ones have left. -/
theorem emit_remembering (last : Option ModelSet) (set : ModelSet) :
    (remembering language options last).emit set = (start language options).emit set := by
  have written := language.renderer.perform_write_congr options set
    (remembering language options last).toMemory (start language options).toMemory
  rw [emit, language_remembering, options_remembering, written]
  rfl

/-- The last rendering of a history is that of its last request, if that renders anything. -/
theorem lastRendered?_append (options : Options) (earlier : List Request) (request : Request) :
    lastRendered? options (earlier ++ [request]) =
      (request.rendered? options).or (lastRendered? options earlier) := by
  cases rendered : request.rendered? options <;> simp [lastRendered?, rendered]

/-- A request that renders nothing leaves the session as it is. -/
theorem answer_of_rendered_eq_none {session : Session} {request : Request}
    (silent : request.rendered? session.options = none) : (session.answer request).1 = session := by
  cases request with
  | emit => cases silent
  | extractAndEmit document rootName =>
      cases extracted :
          Extraction.ofDocument session.options.nullSafety.truthy rootName document with
      | ok extraction => simp [Request.rendered?, extracted] at silent
      | error error => simp [answer, extracted]
  | _ => rfl

/-- A request that renders a model set is answered by its emission. -/
theorem answer_of_rendered_eq_some {session : Session} {request : Request} {set : ModelSet}
    (rendered : request.rendered? session.options = some set) :
    session.answer request = ((session.emit set).1,
      (session.emit set).2.map fun (code, fileName) => .emitted code fileName) := by
  cases request with
  | emit => cases rendered; rfl
  | extractAndEmit document rootName =>
      cases extracted :
          Extraction.ofDocument session.options.nullSafety.truthy rootName document with
      | ok extraction =>
          have same : extraction.models = set := by
            simpa [Request.rendered?, extracted] using rendered
          simp [answer, extracted, same]
      | error error => simp [Request.rendered?, extracted] at rendered
  | _ => cases rendered

/-- One request replaces the rendering that a session remembers, or keeps it. -/
theorem answer_remembering (last : Option ModelSet) (request : Request) :
    ((remembering language options last).answer request).1 =
      remembering language options ((request.rendered? options).or last) := by
  cases rendered : request.rendered? options with
  | none => exact answer_of_rendered_eq_none (by simpa using rendered)
  | some set =>
      rw [answer_of_rendered_eq_some (by simpa using rendered), emit_remembering]
      rfl

/-- A session after any history is that of its last rendering alone. -/
theorem after_eq_remembering (history : List Request) :
    after language options history =
      remembering language options (lastRendered? options history) := by
  -- The last request is the one that decides, so the history is taken apart at its end.
  induction history using List.reverseRecOn with
  | nil => rfl
  | append_singleton earlier request inductionHypothesis =>
      have step : after language options (earlier ++ [request]) =
          ((after language options earlier).answer request).1 := by
        simp [after]
      rw [step, inductionHypothesis, answer_remembering, lastRendered?_append]

theorem answer_eq_start (last : Option ModelSet) {request : Request} {set : ModelSet}
    (rendered : request.rendered? options = some set) :
    (remembering language options last).answer request =
      (start language options).answer request := by
  have anew : (start language options).answer request = _ := answer_of_rendered_eq_some rendered
  rw [answer_of_rendered_eq_some (by simpa using rendered), emit_remembering, anew]

/-- A rendering makes exactly the names of its models known, also when it fails. -/
theorem mem_knownModels_iff {session : Session} {request : Request} {set : ModelSet}
    (rendered : request.rendered? session.options = some set) {name : String} :
    name ∈ (session.answer request).1.knownModels ↔ ∃ model ∈ set.models, model.name = name := by
  have known : (session.answer request).1.knownModels = set.names := by
    rw [answer_of_rendered_eq_some rendered]
    exact session.language.knownModels_write session.options set session.toMemory
  simp [known, ModelSet.names, NameSet.mem_ofList]

/-- An emission of marked models fails only in Kotlin, which looks up the style of a renamed
field. -/
theorem exists_emit_error_iff {session : Session} {set : ModelSet}
    (marked : ∀ model ∈ set.models, model.Marked) :
    (∃ error, (session.emit set).2 = .error error) ↔
      session.language = .kotlin ∧ session.options.serializationStyle.isTableKey = false ∧
        ∃ model ∈ set.models, ∃ field ∈ model.fields, field.isRenamed = true := by
  rw [← session.language.fails_write_iff session.toMemory marked, Rendering.Fails]
  show (∃ error, Except.map _ ((session.language.renderer.write session.options set).perform
    session.toMemory).1 = .error error) ↔ _
  cases ((session.language.renderer.write session.options set).perform session.toMemory).1 with
  | error error => exact ⟨fun _ => ⟨error, rfl⟩, fun _ => ⟨error, rfl⟩⟩
  | ok code => exact iff_of_false nofun nofun

/-- With checked options a document is emitted as it is generated. -/
theorem answer_extractAndEmit {chosen : Options} {value : Json}
    (named : Language.parse value = .ok language)
    (checked : chosen.validatedFor language = .ok options) (last : Option ModelSet)
    (document : Json) (rootName : String) :
    ((remembering language options last).answer (.extractAndEmit document rootName)).2 =
      (Generation.run value document rootName chosen).map fun generation =>
        .emitted generation.code generation.fileName := by
  rw [Generation.run_of_named named, Generation.inLanguage, checked]
  simp only [answer, options_remembering, emit_remembering, ok_bind]
  cases Extraction.ofDocument options.nullSafety.truthy rootName document with
  | error error => rfl
  | ok extraction =>
      show Except.map _ ((start language options).emit extraction.models).2 = _
      rw [ok_bind]
      cases ((start language options).emit extraction.models).2 <;> rfl

/-- A session may be used again for any language, any options and after any history. A model set is
rendered as in a new session and then exactly its names are known, a request that renders nothing
changes nothing, histories with the same last rendering have the same answers, and checked options
give the code of a generation. -/
theorem answer_after (language : Language) (options : Options) (history : List Request) :
    (∀ (request : Request) (set : ModelSet), request.rendered? options = some set →
      (after language options history).answer request =
        (start language options).answer request ∧
      ∀ name, name ∈ ((after language options history).answer request).1.knownModels ↔
        ∃ model ∈ set.models, model.name = name) ∧
    (∀ request : Request, request.rendered? options = none →
      ((after language options history).answer request).1 = after language options history) ∧
    (∀ other, lastRendered? options other = lastRendered? options history → ∀ request,
      (after language options other).answer request =
        (after language options history).answer request) ∧
    ∀ value chosen, Language.parse value = .ok language →
      chosen.validatedFor language = .ok options → ∀ document rootName,
        ((after language options history).answer (.extractAndEmit document rootName)).2 =
          (Generation.run value document rootName chosen).map fun generation =>
            .emitted generation.code generation.fileName := by
  rw [after_eq_remembering history]
  refine ⟨?_, ?_, ?_, ?_⟩
  · intro request set rendered
    exact ⟨answer_eq_start _ rendered, fun _ => mem_knownModels_iff (by simpa using rendered)⟩
  · intro request silent
    rw [answer_remembering, silent, Option.none_or]
  · intro other sameLast request
    rw [after_eq_remembering other, sameLast]
  · intro value chosen named checked document rootName
    exact answer_extractAndEmit named checked _ document rootName

/-- In this history a rendering is followed by a question and by a document without models. -/
def mixedHistory : List Request :=
  [.extractAndEmit (.object [("user", .object [("e-mail", .string "ada")])]) "owner",
   .typeText (.list (.reference "EMail")), .extractAndEmit (.array []) "nobody"]

/-- These options give a style of Kotlin by its label, in a package of their own. -/
def labelledJackson : Options where
  serializationStyle := .string "Jackson"
  packageName := .string "org.example"

/-- A session with the checked options renders, asks and generates after the history as before. -/
theorem mixedHistory_answer_after :
    ∃ options, labelledJackson.validatedFor .kotlin = .ok options ∧
      Language.parse (.string "kt") = .ok .kotlin ∧
      (∀ set,
        (after .kotlin options mixedHistory).answer (.emit set) =
          (start .kotlin options).answer (.emit set) ∧
        ∀ name, name ∈ ((after .kotlin options mixedHistory).answer (.emit set)).1.knownModels ↔
          ∃ model ∈ set.models, model.name = name) ∧
      ((after .kotlin options mixedHistory).answer (.extractAndEmit .null "nobody")).1 =
        after .kotlin options mixedHistory ∧
      (∀ request, (after .kotlin options (mixedHistory.take 1)).answer request =
        (after .kotlin options mixedHistory).answer request) ∧
      ∀ document rootName,
        ((after .kotlin options mixedHistory).answer (.extractAndEmit document rootName)).2 =
          (Generation.run (.string "kt") document rootName labelledJackson).map fun generation =>
            .emitted generation.code generation.fileName := by
  have checked : labelledJackson.validatedFor .kotlin =
      .ok { labelledJackson with serializationStyle := .string "jackson" } := rfl
  have named : Language.parse (.string "kt") = .ok .kotlin := rfl
  obtain ⟨rendering, silent, sameLast, generation⟩ := answer_after .kotlin
    { labelledJackson with serializationStyle := .string "jackson" } mixedHistory
  exact ⟨_, checked, named, fun set => rendering (.emit set) set rfl, silent _ rfl,
    sameLast _ rfl, generation _ _ named checked⟩

end Session

end Exemplar
