/-
The outline of a source: as much of its syntax as the engine needs, namely import directives,
namespaces, types and how properties get their values. The second half is its JSON form, in which
every node names its kind in a member `node` and every property value in a member `kind`.
-/
import PluginForge.Compiler.Diagnostic

namespace PluginForge

/-- An expression; of a text literal the text between the quotes. -/
inductive Expression where
  | literal (text : String)
  | other (text : String)
deriving DecidableEq, Repr

/-- How a property gets its value. -/
inductive PropertyValue where
  /-- `Name => expr;` -/
  | expressionBody (expr : Expression)
  /-- `Name { get { … return expr; } }`, of which the first `return` counts. -/
  | getter (firstReturn : Option Expression)
  | auto
deriving DecidableEq, Repr

/-- A node of an outline. -/
inductive OutlineNode where
  /-- An import directive; `text` is how the compiler writes it. -/
  | directive (target text : String) (isGlobal : Bool) (alias? : Option String)
  | scope (name : String) (fileScoped : Bool) (members : List OutlineNode)
  | typeDecl (kind name : String) (modifiers bases : List String) (members : List OutlineNode)
  | property (name : String) (value : PropertyValue)
  | other
deriving Repr, Inhabited

/-- A parsed source. -/
structure SyntaxTree where
  path : Path
  outline : List OutlineNode
  diagnostics : List Diagnostic
deriving Repr

/-! ## JSON -/

namespace Expression

def caseNames : List String :=
  ["literal", "other"]

def toJson : Expression → Json
  | .literal t => .obj [("kind", .str "literal"), ("text", .str t)]
  | .other t => .obj [("kind", .str "other"), ("text", .str t)]

open Json.Draft in
/-- Reads an expression. In an array, its case may also be given by its number. -/
def ofDraft? (d : Json.Draft) : Option Expression :=
  let kind? (kind : Json.Draft) : Option String :=
    match d with
    | .arr _ => kind.caseOf? caseNames
    | _ => kind.caseName? isNullOrEmpty
  match record? ["kind", "text"] d with
  | some [kind, text] => do
    let kind ← required kind? kind
    let text ← required string? text
    match kind with
    | "literal" => some (.literal text)
    | "other" => some (.other text)
    | _ => none
  | _ => none

end Expression

namespace Json.Draft

/-- Takes the case name out of a value that holds it under `tag`; in an array it comes first. Inside
another tagged value, where `nested` holds, the case may also be given by its number in `names`. -/
def tagged? (tag : String) (names : List String) (nested : Bool) (d : Draft) :
    Option (String × Draft) :=
  let kind? (kind : Draft) : Option String :=
    if nested then kind.caseOf? names else kind.string?.filter (· ∈ names)
  match d with
  | .obj members =>
    match membersNamed tag members with
    | [kind] => (kind? kind).map (·, .obj (members.filter fun m => m.1 ≠ some tag))
    | _ => none
  | .arr (kind :: items) => (kind? kind).map (·, .arr items)
  | _ => none

/-- Whether a value may stand where a case holds nothing. -/
def isBare : Draft → Bool
  | .obj _ => true
  | .arr [] => true
  | _ => false

end Json.Draft

namespace PropertyValue

def caseNames : List String :=
  ["expressionBody", "getter", "auto"]

def toJson : PropertyValue → Json
  | .expressionBody e => .obj [("kind", .str "expressionBody"), ("expr", e.toJson)]
  | .getter e => .obj [("kind", .str "getter"), ("firstReturn", .ofOption Expression.toJson e)]
  | .auto => .obj [("kind", .str "auto")]

open Json.Draft in
/-- Reads a property value all of which can be used. -/
def ofUsable? (nested : Bool) (d : Json.Draft) : Option PropertyValue := do
  let (kind, d) ← d.tagged? "kind" caseNames nested
  match kind with
  | "expressionBody" =>
    match record? ["expr"] d with
    | some [expr] => (required Expression.ofDraft? expr).map .expressionBody
    | _ => none
  | "getter" =>
    match record? ["firstReturn"] d with
    | some [e] => (optional (option? Expression.ofDraft?) none e).map .getter
    | _ => none
  | _ => if isBare d then some .auto else none

def ofDraft? (d : Json.Draft) : Option PropertyValue :=
  if d.usable then ofUsable? false d else none

end PropertyValue

namespace OutlineNode

def caseNames : List String :=
  ["using", "namespace", "type", "property", "other"]

mutual

def toJson : OutlineNode → Json
  | .directive target text isGlobal alias? =>
    .obj [("node", .str "using"), ("target", .str target), ("text", .str text),
      ("isGlobal", .bool isGlobal), ("alias", .ofOption .str alias?)]
  | .scope name fileScoped members =>
    .obj [("node", .str "namespace"), ("name", .str name), ("fileScoped", .bool fileScoped),
      ("members", .arr (listToJson members))]
  | .typeDecl kind name modifiers bases members =>
    .obj [("node", .str "type"), ("kind", .str kind), ("name", .str name),
      ("modifiers", .strings modifiers), ("bases", .strings bases),
      ("members", .arr (listToJson members))]
  | .property name value =>
    .obj [("node", .str "property"), ("name", .str name), ("value", value.toJson)]
  | .other => .obj [("node", .str "other")]

def listToJson : List OutlineNode → List Json
  | [] => []
  | n :: rest => n.toJson :: listToJson rest

end

open Json.Draft in
/-- Reads a node all of which can be used and that is nested less than `fuel` deep. -/
def ofUsable? (nested : Bool) (fuel : Nat) (d : Json.Draft) : Option OutlineNode :=
  match fuel with
  | 0 => none
  | fuel + 1 => do
    let members? := optional (list? (ofUsable? true fuel)) []
    let (kind, d) ← d.tagged? "node" caseNames nested
    match kind with
    | "using" =>
      match record? ["target", "text", "isGlobal", "alias"] d with
      | some [target, text, isGlobal, alias?] =>
        return .directive (← required string? target) (← required string? text)
          (← optional bool? false isGlobal) (← optional (option? string?) none alias?)
      | _ => none
    | "namespace" =>
      match record? ["name", "fileScoped", "members"] d with
      | some [name, fileScoped, members] =>
        return .scope (← required string? name) (← optional bool? false fileScoped)
          (← members? members)
      | _ => none
    | "type" =>
      match record? ["kind", "name", "modifiers", "bases", "members"] d with
      | some [kind, name, modifiers, bases, members] =>
        return .typeDecl (← required string? kind) (← required string? name)
          (← optional (list? string?) [] modifiers) (← optional (list? string?) [] bases)
          (← members? members)
      | _ => none
    | "property" =>
      match record? ["name", "value"] d with
      | some [name, value] =>
        return .property (← required string? name)
          (← required (PropertyValue.ofUsable? true) value)
      | _ => none
    | _ => if isBare d then some .other else none

/-- Reads a node. What can be used is nested at most `Json.Draft.maxDepth` deep. -/
def ofDraft? (d : Json.Draft) : Option OutlineNode :=
  if d.usable then ofUsable? false (Json.Draft.maxDepth + 1) d else none

end OutlineNode

namespace SyntaxTree

def toJson (t : SyntaxTree) : Json :=
  .obj [("path", t.path.toJson), ("outline", .arr (OutlineNode.listToJson t.outline)),
    ("diagnostics", .arr (t.diagnostics.map Diagnostic.toJson))]

open Json.Draft in
def ofDraft? (d : Json.Draft) : Option SyntaxTree :=
  match record? ["path", "outline", "diagnostics"] d with
  | some [path, outline, diagnostics] => do
    return {
      path := ← required Path.ofDraft? path
      outline := ← optional (list? OutlineNode.ofDraft?) [] outline
      diagnostics := ← optional (list? Diagnostic.ofDraft?) [] diagnostics }
  | _ => none

end SyntaxTree
end PluginForge
