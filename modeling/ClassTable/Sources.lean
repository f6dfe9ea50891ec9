import ClassTable.Constructor
import ClassTable.Layering
import ClassTable.Precondition
import ClassTable.Project
import ClassTable.Template.Builtin

set_option autoImplicit false

namespace ClassTable

inductive Fault where
  | row (f : RowFault)
  | definition (f : ClassFault)
  | template (f : Template.Fault)
deriving DecidableEq, Repr

namespace Fault

def message : Fault → String
  | row f => f.message
  | definition f => f.message
  | template f => f.message

def isStructural : Fault → Bool
  | row _ => true
  | _ => false

def isPrecondition : Fault → Bool
  | definition _ => true
  | _ => false

def row? : Fault → Option Nat
  | row f => some f.row
  | _ => none

end Fault

/-- Types whose fields are marked as never null. -/
def nonNullTypes : List String :=
  ["int", "long", "short", "byte", "float", "double", "boolean", "char", "Integer", "Long", "Short",
    "Byte", "Float", "Double", "Boolean", "Character", "String"]

def isNonNullType (dataType : String) : Bool := Text.trim dataType ∈ nonNullTypes

def FieldDef.context (f : FieldDef) : Json :=
  .obj [("data_type", .str f.dataType), ("description", .str f.description),
    ("initial_value", .str f.initialValue), ("invariant", .bool f.invariant), ("name", .str f.name),
    ("non_null", .bool (isNonNullType f.dataType))]

def ConstructorKind.doc (className : String) : ConstructorKind → List String
  | default => ["Default constructor."]
  | required => ["Constructor with the required fields."]
  | copying => ["Copy constructor.", "", "@param " ++ Constructor.copyArgument ++ " " ++ className
      ++ " to copy"]

def Parameter.context (p : Parameter) : Json :=
  .obj [("data_type", .str p.dataType), ("name", .str p.name)]

def Assignment.context (a : Assignment) : Json :=
  .obj [("member", .str a.member), ("value", .str a.value)]

def Constructor.context (className : String) (c : Constructor) : Json :=
  .obj [("assignments", .arr (c.assignments.map Assignment.context)),
    ("class_name", .str className),
    ("doc", .arr ((c.kind.doc className).map .str)),
    ("kind", .str c.kind.name),
    ("parameters", .arr (c.parameters.map Parameter.context))]

def ClassDef.context (project : Project) (c : ClassDef) : Json :=
  .obj [("class", .obj [("description", .str c.description), ("name", .str c.name)]),
    ("constructors", .arr ((Constructor.ofClass c).map (·.context c.name))),
    ("description_lines", .arr ((Text.lines c.description).map fun l => .str (Text.trimEnd l))),
    ("fields", .arr (c.fields.map FieldDef.context)),
    ("meta", project.toJson),
    ("uses_non_null", .bool (c.fields.any fun f => isNonNullType f.dataType)),
    ("year", .num (.int project.year))]

abbrev Sources := Keyed String

structure Renderer where
  project : Project
  library : Template.Library
  policy : CollisionPolicy

namespace Renderer

def standard (project : Project) : Renderer := ⟨project, .builtin, .reject⟩

/-- The text of a class, which does not depend on the classes nested in it. -/
def renderClass (r : Renderer) (c : ClassDef) : Except Fault String :=
  match c.fault? with
  | some fault => .error (.definition fault)
  | none => (r.library.render Template.Builtin.classFile.name (c.context r.project)).mapError .template

/-- Adds the texts of classes to `sources`; of two with one name the later stays. -/
def renderClasses (r : Renderer) (sources : Sources) : List ClassDef → Logged Fault Sources
  | [] => pure sources
  | c :: rest => do
    let text ← .ofExcept (r.renderClass c)
    .tell (if (sources.get? c.name).isSome then [.classRepeated c.name] else [])
    r.renderClasses (sources.insert c.name text) rest

def render (r : Renderer) (forest : List ClassDef) : Logged Fault Sources := do
  (checkForest r.policy forest).mapError .definition
  r.renderClasses [] (forestWalk forest)

end Renderer

def generate (project : Project) (rows : List Row) : Logged Fault Sources := do
  let forest ← (buildForest rootBase rows).mapError .row
  (Renderer.standard project).render forest

end ClassTable
