import Exemplar.Session

namespace Exemplar

/-- A generation ends with the source code, the name suggested for its file, and its notices. -/
structure Generation where
  code : String
  fileName : String
  language : Language
  notices : List Notice

namespace Generation

def suggestedPath (generation : Generation) : String :=
  generation.fileName ++ "." ++ generation.language.extension

/-- This function generates code in a known language, in a session of its own. -/
def inLanguage (language : Language) (document : Json) (rootName : String) (options : Options) :
    Except Error Generation := do
  let options ← options.validatedFor language
  let extraction ← Extraction.ofDocument options.nullSafety.truthy rootName document
  let (code, fileName) ← ((Session.start language options).emit extraction.models).2
  .ok
    { code := code
      fileName := fileName
      language := language
      notices := extraction.notices ++
        [.emitting extraction.models.models.length language
          options.serializationStyle.plainText] }

/-- This function generates code in the language that a user asks for. -/
def run (language : Json) (document : Json) (rootName : String) (options : Options) :
    Except Error Generation := do
  inLanguage (← Language.parse language) document rootName options

end Generation

end Exemplar
