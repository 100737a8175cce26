/-
The content hash of a script. It is taken over the source with uniform line ends and the imports in
sorted order, so it does not depend on how lines end or in which order imports are given.
-/
import PluginForge.Encoding.Source
import PluginForge.Text.Blake3

namespace PluginForge.Script

/-- The imports without the blanks around them, in the order of their characters. -/
def sortedImports (imports : List String) : List String :=
  (imports.map Text.trim).mergeSort fun a b => ! decide (b < a)

/-- What is hashed: the source, a zero byte, and the imports, each with a line feed. -/
def hashInput (source : String) (imports : List String) : Bytes :=
  Encoding.toUtf8 (Text.replace "\r\n" "\n" source) ++
    0 :: (sortedImports imports).flatMap fun i => Encoding.toUtf8 i ++ [0x0A]

def contentHash (source : String) (imports : List String) : String :=
  Blake3.hex (hashInput source imports)

end PluginForge.Script
