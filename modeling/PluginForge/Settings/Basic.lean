/-
The settings of the build engine and their document. Every member of the document may be missing
and then has its default; members that are not known are passed over.
-/
import PluginForge.Settings.LanguageVersion

namespace PluginForge

structure Settings where
  /-- Whether builds are allowed at all. -/
  enabled : Bool
  /-- Whether sources are also looked for below the source root's own directory. -/
  includeSubdirectories : Bool
  /-- How often the compile of one group is repeated after imports were removed. -/
  retryCount : UInt32
  languageVersion : LanguageVersion
  maxFiles : UInt64
  /-- The limit on the sources' total size, in whole mebibytes. -/
  maxSizeMB : UInt64
  /-- Imports put in front of every source that lacks them. -/
  defaultImports : List String
  /-- Imports taken out of every source before it is parsed. -/
  removedImports : List String
  /-- Platform assemblies, relative to the runtime directory. -/
  systemAssemblyNames : List String
  clearLogsOnSuccess : Bool
  showEnglishErrors : Bool
  showChineseErrors : Bool
  /-- What the base list of a plugin's entry class mentions. -/
  pluginBaseType : String
  /-- The host's main library, relative to the host directory. -/
  hostInterfaceLibrary : String
  /-- Further host libraries, relative to the host directory. -/
  hostRuntimeBinaries : List String
  /-- Imports that every script is compiled with. -/
  scriptImports : List String
deriving DecidableEq, Repr

namespace Settings

def standardImports : List String := [
  "System", "System.Collections", "System.Collections.Generic", "System.Linq", "System.Text",
  "System.Threading", "System.Threading.Tasks", "System.IO", "System.IO.Compression",
  "System.Reflection", "System.Diagnostics", "System.Globalization", "System.Security",
  "System.Security.Cryptography", "System.Net", "System.Net.Http",
  "System.Runtime.CompilerServices", "System.Runtime.InteropServices", "Microsoft.Xna.Framework"]

def standardScriptImports : List String := [
  "System", "System.Linq", "System.Text", "System.Threading.Tasks", "System.Collections.Generic",
  "Terraria", "TShockAPI", "Microsoft.Xna.Framework"]

def standardHostBinaries : List String := [
  "bin/OTAPI.dll", "bin/OTAPI.Runtime.dll", "bin/HttpServer.dll", "bin/ModFramework.dll",
  "bin/TerrariaServer.dll"]

def standardAssemblies : List String := [
  "System.dll", "System.Net.dll", "System.Net.Http.dll", "System.Net.Primitives.dll",
  "System.Private.CoreLib.dll", "System.Private.Uri.dll", "System.Runtime.dll", "netstandard.dll",
  "System.Core.dll", "System.Collections.dll", "System.Collections.Concurrent.dll",
  "System.Collections.Immutable.dll", "System.Linq.dll", "System.Linq.Expressions.dll",
  "System.IO.dll", "System.IO.FileSystem.dll", "System.IO.Compression.dll", "System.Text.Json.dll",
  "System.Text.RegularExpressions.dll", "System.Text.Encoding.Extensions.dll",
  "System.Threading.dll", "System.Threading.Tasks.dll", "System.Threading.Thread.dll",
  "System.Runtime.Extensions.dll", "System.Runtime.InteropServices.dll",
  "System.Runtime.Numerics.dll", "System.ComponentModel.dll", "System.ComponentModel.Primitives.dll",
  "System.Memory.dll", "System.Reflection.dll", "System.Reflection.Primitives.dll",
  "System.ObjectModel.dll", "System.Globalization.dll", "System.Diagnostics.Process.dll",
  "System.Console.dll", "System.Security.Cryptography.Algorithms.dll",
  "System.Security.Cryptography.Primitives.dll"]

/-- The settings of an empty document. -/
def standard : Settings where
  enabled := true
  includeSubdirectories := true
  retryCount := 3
  languageVersion := .csharp11
  maxFiles := 100
  maxSizeMB := 50
  defaultImports := standardImports
  removedImports := []
  systemAssemblyNames := standardAssemblies
  clearLogsOnSuccess := true
  showEnglishErrors := true
  showChineseErrors := true
  pluginBaseType := "TerrariaPlugin"
  hostInterfaceLibrary := "ServerPlugins/TShockAPI.dll"
  hostRuntimeBinaries := standardHostBinaries
  scriptImports := standardScriptImports

instance : Inhabited Settings := ⟨standard⟩

/-! ## The document -/

def toJson (s : Settings) : Json :=
  .obj [
    ("enabled", .bool s.enabled),
    ("includeSubdirectories", .bool s.includeSubdirectories),
    ("retryCount", .ofNat s.retryCount.toNat),
    ("languageVersion", s.languageVersion.toJson),
    ("maxFiles", .ofNat s.maxFiles.toNat),
    ("maxSizeMB", .ofNat s.maxSizeMB.toNat),
    ("defaultImports", .strings s.defaultImports),
    ("removedImports", .strings s.removedImports),
    ("systemAssemblyNames", .strings s.systemAssemblyNames),
    ("clearLogsOnSuccess", .bool s.clearLogsOnSuccess),
    ("showOriginalErrors", .bool s.showEnglishErrors),
    ("showTranslatedErrors", .bool s.showChineseErrors),
    ("pluginBaseType", .str s.pluginBaseType),
    ("hostInterfaceLibrary", .str s.hostInterfaceLibrary),
    ("hostRuntimeBinaries", .strings s.hostRuntimeBinaries),
    ("scriptImports", .strings s.scriptImports)]

/-- The members of the document in their order. -/
def memberNames : List String := [
  "enabled", "includeSubdirectories", "retryCount", "languageVersion", "maxFiles", "maxSizeMB",
  "defaultImports", "removedImports", "systemAssemblyNames", "clearLogsOnSuccess",
  "showOriginalErrors", "showTranslatedErrors", "pluginBaseType", "hostInterfaceLibrary",
  "hostRuntimeBinaries", "scriptImports"]

open Json.Draft in
def ofDraft? (d : Json.Draft) : Option Settings :=
  match record? memberNames d with
  | some [enabled, subdirectories, retries, version, files, size, imports, removed, assemblies,
      clearLogs, english, chinese, baseType, library, binaries, scriptImports] => do
    let strings? := list? string?
    return {
      enabled := ← optional bool? standard.enabled enabled
      includeSubdirectories := ← optional bool? standard.includeSubdirectories subdirectories
      retryCount := ← optional uint32? standard.retryCount retries
      languageVersion := ← optional LanguageVersion.ofDraft? standard.languageVersion version
      maxFiles := ← optional uint64? standard.maxFiles files
      maxSizeMB := ← optional uint64? standard.maxSizeMB size
      defaultImports := ← optional strings? standard.defaultImports imports
      removedImports := ← optional strings? standard.removedImports removed
      systemAssemblyNames := ← optional strings? standard.systemAssemblyNames assemblies
      clearLogsOnSuccess := ← optional bool? standard.clearLogsOnSuccess clearLogs
      showEnglishErrors := ← optional bool? standard.showEnglishErrors english
      showChineseErrors := ← optional bool? standard.showChineseErrors chinese
      pluginBaseType := ← optional string? standard.pluginBaseType baseType
      hostInterfaceLibrary := ← optional string? standard.hostInterfaceLibrary library
      hostRuntimeBinaries := ← optional strings? standard.hostRuntimeBinaries binaries
      scriptImports := ← optional strings? standard.scriptImports scriptImports }
  | _ => none

/-- The text of the settings' document. -/
def render (s : Settings) : String :=
  s.toJson.pretty

/-- Reads a settings document. -/
def parse? (text : String) : Option Settings :=
  (Json.Draft.read? text).bind ofDraft?

end Settings
end PluginForge
