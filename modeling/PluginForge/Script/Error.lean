/-
What can go wrong with scripts.
-/
import PluginForge.Compiler.Service
import PluginForge.Reference.Resolve

namespace PluginForge

inductive ScriptError where
  | notCompiled (name : String)
  | timeout (name : String) (milliseconds : Nat)
  | execution (name detail : String)
  /-- The script has errors; their messages are in the form that is shown. -/
  | compile (name : String) (errors : List String)
  | service (e : ServiceError)
  | reference (e : ReferenceError)
  | store (e : StoreError)
deriving DecidableEq, Repr

def ScriptError.message : ScriptError → String
  | .notCompiled name => "script '" ++ name ++ "' is not compiled"
  | .timeout name ms => "script '" ++ name ++ "' timed out after " ++ toString ms ++ " ms"
  | .execution name detail => "script '" ++ name ++ "' failed: " ++ detail
  | .compile name errors =>
    "script '" ++ name ++ "' failed to compile: " ++ "; ".intercalate errors
  | .service e => e.message
  | .reference e => e.message
  | .store e => e.message

/-- What can go wrong when a script file is run: reading it, or the script. -/
inductive ScriptFileError where
  | store (e : StoreError)
  | script (e : ScriptError)
deriving DecidableEq, Repr

def ScriptFileError.message : ScriptFileError → String
  | .store e => "file system error: " ++ e.message
  | .script e => "script error: " ++ e.message

end PluginForge
