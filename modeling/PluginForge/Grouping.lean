/-
Partition of the parsed sources by root namespace. A group is compiled into one library; groups come
in the order in which their root is first seen, and the sources of a group in their own order.
-/
import PluginForge.Compiler.Outline.Query
import PluginForge.Compiler.Request
import PluginForge.Report.Log

namespace PluginForge

/-- A parsed source: the text handed to the compiler and what was read off its outline. -/
structure ParsedUnit where
  path : Path
  text : String
  tree : SyntaxTree
  namespaceName : String
  rootName : String
  visibleTypes : List String
deriving Repr

namespace ParsedUnit

/-- A source with its outline. -/
def ofTree (path : Path) (text : String) (tree : SyntaxTree) : ParsedUnit where
  path
  text
  tree
  namespaceName := tree.namespaceName
  rootName := rootNamespace tree.namespaceName
  visibleTypes := tree.visibleTypes

def source (u : ParsedUnit) : SourceFile :=
  ⟨u.path, u.text⟩

end ParsedUnit

/-- The sources that share a root namespace. -/
structure CompilationGroup where
  key : String
  /-- The namespace of the first source. -/
  fullNamespace : String
  units : List ParsedUnit
  /-- The namespaces of all sources, sorted and each once. -/
  subNamespaces : List String
  /-- The visible types of all sources, each once. -/
  visibleTypes : List String
  pluginName : Option String
deriving Repr

namespace CompilationGroup

/-- The elements of a list that were not there before, in order. -/
def dedup (names : List String) : List String :=
  names.foldl (fun acc n => if n ∈ acc then acc else acc ++ [n]) []

/-- Puts a name into a sorted list, unless it is there. -/
def insertName (n : String) : List String → List String
  | [] => [n]
  | m :: rest =>
    if n = m then m :: rest else if n < m then n :: m :: rest else m :: insertName n rest

/-- The group of some sources with a common root. -/
def ofUnits (baseType key : String) (units : List ParsedUnit) : CompilationGroup where
  key
  fullNamespace := (units.head?.map ParsedUnit.namespaceName).getD key
  units
  subNamespaces := (units.map ParsedUnit.namespaceName).foldr insertName []
  visibleTypes := dedup (units.flatMap ParsedUnit.visibleTypes)
  pluginName := units.findSome? fun u => u.tree.pluginName? baseType

/-- The groups of some sources. -/
def partition (baseType : String) (units : List ParsedUnit) : List CompilationGroup :=
  (groupBy ParsedUnit.rootName units).map fun (key, units) => ofUnits baseType key units

def sources (g : CompilationGroup) : List SourceFile :=
  g.units.map ParsedUnit.source

/-- The name that reports use: the plugin's, where there is one. -/
def displayName (g : CompilationGroup) : String :=
  g.pluginName.getD g.key

end CompilationGroup
end PluginForge
