import Exemplar.Error

/-
Templates. A template is a list of lines with placeholders, and parts of it may be left out or
repeated. A placeholder that its scope does not define is an error.
-/

namespace Exemplar

/-- A scope gives values to variables. The innermost variable of a name hides the others. -/
abbrev Scope := List (String × Json)

/-- A placeholder names a variable or a member of its value. -/
inductive Placeholder where
  | whole (name : String)
  | part (name member : String)

instance : Coe String Placeholder := ⟨.whole⟩

/-- These are the conditions on which parts of a template depend. -/
inductive Condition where
  | holds (placeholder : Placeholder)
  | fails (placeholder : Placeholder)
  | isText (placeholder : Placeholder) (text : String)

/-- These are the pieces of a line. -/
inductive Piece where
  | fixed (text : String)
  | shown (placeholder : Placeholder)
  | joined (separator : String) (placeholder : Placeholder)
  | chosen (condition : Condition) (text : String)

instance : Coe String Piece := ⟨.fixed⟩

/-- A part of a template is a line, a choice between two parts, or the repetition of a part for each
item of a list. -/
inductive TemplatePart where
  | line (pieces : List Piece)
  | choice (condition : Condition) (yes no : List TemplatePart)
  | each (name : String) (items : Placeholder) (body : List TemplatePart)

/-- A template lists its parts. -/
abbrev Template := List TemplatePart

/-- This function looks up the value of a placeholder. -/
def Placeholder.value (scope : Scope) : Placeholder → Except Error Json
  | .whole name => (Lookup.placeholder name).found (Json.member? name scope)
  | .part name member => do
      let record ← (Lookup.placeholder name).found (Json.member? name scope)
      (Lookup.placeholder member).found (record.members?.bind (Json.member? member))

def Condition.decide (scope : Scope) : Condition → Except Error Bool
  | .holds placeholder => do .ok (← placeholder.value scope).truthy
  | .fails placeholder => do .ok !(← placeholder.value scope).truthy
  | .isText placeholder text => do .ok ((← placeholder.value scope).isText text)

/-- This function writes a piece of a line. -/
def Piece.write (scope : Scope) : Piece → Except Error String
  | .fixed text => .ok text
  | .shown placeholder => do .ok (← placeholder.value scope).plainText
  | .joined separator placeholder => do
      let items ← Lookup.item.found (← placeholder.value scope).items?
      .ok (separator.intercalate (items.map Json.plainText))
  | .chosen condition text => do .ok (if ← condition.decide scope then text else "")

def Piece.writeAll (scope : Scope) : List Piece → Except Error String
  | [] => .ok ""
  | first :: rest => do .ok ((← first.write scope) ++ (← writeAll scope rest))

/-- This function repeats an action for each item and tells it which item is the last. -/
def repeatFor (action : Json → Bool → Except Error (List String)) :
    List Json → Except Error (List String)
  | [] => .ok []
  | [last] => action last true
  | item :: next :: later => do
      .ok ((← action item false) ++ (← repeatFor action (next :: later)))

/-- In a repetition the scope has the item and knows whether it is the last one. -/
def Scope.within (name : String) (item : Json) (last : Bool) (scope : Scope) : Scope :=
  (name, item) :: ("loop", .object [("last", .boolean last)]) :: scope

mutual

/-- This function writes the lines of a part. -/
def TemplatePart.lines : TemplatePart → Scope → Except Error (List String)
  | .line pieces, scope => do .ok [← Piece.writeAll scope pieces]
  | .choice condition yes no, scope => do
      if ← condition.decide scope then Template.lines yes scope else Template.lines no scope
  | .each name items body, scope => do
      let items ← Lookup.item.found (← items.value scope).items?
      repeatFor (fun item last => Template.lines body (scope.within name item last)) items

def Template.lines : List TemplatePart → Scope → Except Error (List String)
  | [], _ => .ok []
  | first :: rest, scope => do .ok ((← first.lines scope) ++ (← Template.lines rest scope))

end

/-- This function writes a template. Every line ends in a line feed. -/
def Template.text (template : Template) (scope : Scope) : Except Error String := do
  .ok (String.join ((← Template.lines template scope).map fun line => line ++ "\n"))

end Exemplar
