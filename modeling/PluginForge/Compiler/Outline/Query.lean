/-
What the engine reads off an outline: the namespace of the source, its root, the visible types, the
plugin's name and the import directives.
-/
import PluginForge.Compiler.Outline

namespace PluginForge

/-- The namespace of a source that declares none, and the stand-in for an empty name. -/
def globalName : String :=
  "Global"

/-- The part of a namespace before its first dot. -/
def rootNamespace (name : String) : String :=
  let root := Chars.trim (name.toList.takeWhile (· ≠ '.'))
  if root.isEmpty then globalName else .ofList root

namespace OutlineNode

/-- Whether a type with these modifiers can be seen outside its file. -/
def isVisible (modifiers : List String) : Bool :=
  "public" ∈ modifiers || "internal" ∈ modifiers

mutual

/-- The first namespace that is, or is not, declared for the whole file: the node itself, or one
inside it if it is a namespace. -/
def scope? (fileScoped : Bool) : OutlineNode → Option String
  | .scope name whole members =>
    if whole = fileScoped then some name else firstScope? fileScoped members
  | _ => none

def firstScope? (fileScoped : Bool) : List OutlineNode → Option String
  | [] => none
  | n :: rest => (scope? fileScoped n).or (firstScope? fileScoped rest)

end

mutual

/-- The names of the visible types in a node, in declaration order. -/
def typesIn : OutlineNode → List String
  | .scope _ _ members => visibleTypes members
  | .typeDecl _ name modifiers _ members =>
    (if isVisible modifiers then [name] else []) ++ visibleTypes members
  | _ => []

def visibleTypes : List OutlineNode → List String
  | [] => []
  | n :: rest => typesIn n ++ visibleTypes rest

end

mutual

/-- The texts of the import directives in a node, in order; types are not looked into. -/
def importsIn : OutlineNode → List String
  | .directive _ text _ _ => [text]
  | .scope _ _ members => importTexts members
  | _ => []

def importTexts : List OutlineNode → List String
  | [] => []
  | n :: rest => importsIn n ++ importTexts rest

end

mutual

/-- The first class in a node whose base list mentions `token`: its name and its members. -/
def pluginClassIn? (token : String) : OutlineNode → Option (String × List OutlineNode)
  | .scope _ _ members => pluginClass? token members
  | .typeDecl kind name _ bases members =>
    if kind = "class" && bases.any (Text.occurs token) then some (name, members)
    else pluginClass? token members
  | _ => none

def pluginClass? (token : String) : List OutlineNode → Option (String × List OutlineNode)
  | [] => none
  | n :: rest => (pluginClassIn? token n).or (pluginClass? token rest)

end

/-- The text that a node gives to the property `Name`, where it gives one literally. -/
def nameLiteral? : OutlineNode → Option String
  | .property "Name" (.expressionBody (.literal text)) => some text
  | .property "Name" (.getter (some (.literal text))) => some text
  | _ => none

end OutlineNode

namespace SyntaxTree

/-- The namespace of a source: the first one with a block, or else the first one for the file. -/
def namespaceName (t : SyntaxTree) : String :=
  ((OutlineNode.firstScope? false t.outline).or (OutlineNode.firstScope? true t.outline)).getD
    globalName

def visibleTypes (t : SyntaxTree) : List String :=
  OutlineNode.visibleTypes t.outline

def importTexts (t : SyntaxTree) : List String :=
  OutlineNode.importTexts t.outline

def errorCount (t : SyntaxTree) : Nat :=
  Diagnostic.errorCount t.diagnostics

/-- The name of the plugin whose entry class the source declares: the literal its property `Name`
gives, or else the name of the class. -/
def pluginName? (t : SyntaxTree) (baseType : String) : Option String :=
  (OutlineNode.pluginClass? baseType t.outline).map fun (className, members) =>
    (members.findSome? OutlineNode.nameLiteral?).getD className

end SyntaxTree
end PluginForge
