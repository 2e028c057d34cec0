import Exemplar.Language

namespace Exemplar

/-- A warning is always shown and a detail only on demand. -/
inductive NoticeLevel where
  | detail
  | warning
  deriving DecidableEq

def NoticeLevel.name : NoticeLevel → String
  | .detail => "DEBUG"
  | .warning => "WARNING"

/-- These are the things that a generation takes notice of. -/
inductive Notice where
  | merging (model key : String)
  | sharesRootName (model : String)
  | extracted (root : String) (fields nested : Nat)
  | emitting (models : Nat) (language : Language) (style : String)
  deriving DecidableEq

namespace Notice

/-- A nested model that hides the root model deserves a warning. -/
def level : Notice → NoticeLevel
  | .sharesRootName _ => .warning
  | _ => .detail

/-- This function names the stage that a notice comes from. -/
def source : Notice → String
  | .emitting .. => "json_to_model.pipeline.generator"
  | _ => "json_to_model.pipeline.analyzer.extractor"

def emitterName : Language → String
  | .typeScript => "TypeScriptBackend"
  | .dart => "DartBackend"
  | .kotlin => "KotlinBackend"

/-- This function words a notice. -/
def message : Notice → String
  | .merging model key =>
      "Merging second sample of nested model " ++ model ++ " (property " ++ key ++ ")"
  | .sharesRootName model =>
      "Nested model " ++ model ++ " has the same name as the root model"
  | .extracted root fields nested =>
      "Extracted " ++ root ++ " with " ++ toString fields ++ " properties and " ++
        toString nested ++ " nested models"
  | .emitting models language style =>
      "Emitting " ++ toString models ++ " models with " ++ emitterName language ++
        " (style " ++ style ++ ")"

def line (notice : Notice) : String :=
  notice.level.name ++ " " ++ notice.source ++ ": " ++ notice.message ++ "\n"

end Notice

end Exemplar
