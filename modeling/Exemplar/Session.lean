import Exemplar.Model.Extraction
import Exemplar.Rendering

namespace Exemplar

/-- A session has the memory of its last emission. -/
structure Session extends Memory where
  language : Language
  options : Options

/-- These are the requests to a session. -/
inductive Request where
  | emit (set : ModelSet)
  | extractAndEmit (document : Json) (rootName : String)
  | typeText (shape : Shape)
  | isKnownReference (shape : Shape)
  | fileName (root : String)
  | initialText (field : Field)
  | heldModel (field : Field)
  | fieldType (field : Field)

/-- These are the answers of a session. -/
inductive Answer where
  | emitted (code fileName : String)
  | text (value : String)
  | optionalText (value : Option String)
  | truth (value : Bool)
  deriving DecidableEq

namespace Session

/-- A new session knows no models. -/
def start (language : Language) (options : Options) : Session where
  language := language
  options := options
  knownModels := []
  imports := []

/-- An emission writes the code of a model set and suggests a name for its file. The session keeps
what the rendering remembers, also when it fails. -/
def emit (session : Session) (set : ModelSet) : Session × Except Error (String × String) :=
  let (written, memory) :=
    (session.language.renderer.write session.options set).perform session.toMemory
  ({ session with toMemory := memory },
    written.map fun code => (code, session.language.fileName set.root.name))

/-- Only an emission changes the session. A document without models leaves it as it is. -/
def answer (session : Session) : Request → Session × Except Error Answer
  | .emit set =>
      let (after, emitted) := session.emit set
      (after, emitted.map fun (code, fileName) => .emitted code fileName)
  | .extractAndEmit document rootName =>
      match Extraction.ofDocument session.options.nullSafety.truthy rootName document with
      | .error error => (session, .error error)
      | .ok extraction =>
          let (after, emitted) := session.emit extraction.models
          (after, emitted.map fun (code, fileName) => .emitted code fileName)
  | .typeText shape =>
      (session, (session.language.vocabulary.typeText session.knownModels shape).map .text)
  | .isKnownReference shape =>
      (session, .ok (.truth (shape.knownModel? session.knownModels).isSome))
  | .fileName root => (session, .ok (.text (session.language.fileName root)))
  | .initialText field =>
      (session,
        (session.language.renderedInitial? session.knownModels field).map .optionalText)
  | .heldModel field =>
      (session, .ok (.optionalText (field.shape.heldModel? session.knownModels)))
  | .fieldType field =>
      (session, (session.language.renderedType session.knownModels field).map .text)

end Session

end Exemplar
