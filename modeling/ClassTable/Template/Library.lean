import ClassTable.Template.Parser
import ClassTable.Template.Render
import ClassTable.Text.Quoted

set_option autoImplicit false

namespace ClassTable.Template

namespace Library

/-- How deep blocks and templates may nest in one run. -/
def maxNesting : Nat := 4000

def find? (library : Library) (name : String) : Option (List Node) := library.lookup name

def has (library : Library) (name : String) : Bool := (library.find? name).isSome

def insert (library : Library) (name : String) (nodes : List Node) : Library :=
  (name, nodes) :: library.filter (·.1 != name)

/-- Adds a template given as source; a malformed one adds nothing. -/
def register? (library : Library) (name source : String) : Option Library :=
  (parse? source).map (library.insert name)

def names (library : Library) : List String :=
  (library.map Prod.fst).mergeSort (fun s t => !decide (t < s))

def render (library : Library) (name : String) (data : Json) : Except Fault String :=
  match library.find? name with
  | none => .error (.templateUnknown name)
  | some nodes => do
    let env : Env := ⟨library, .start data, "", [], 0⟩
    let s ← nodes.foldlM (renderNode maxNesting env) (.start name)
    pure s.writer.text

def summary (library : Library) : String :=
  "TemplateRegistry \x7b templates: ["
    ++ String.intercalate ", " (library.names.map Text.quoted) ++ "] \x7d"

end Library

end ClassTable.Template
