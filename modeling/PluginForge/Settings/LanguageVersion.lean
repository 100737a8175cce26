/-
The version of the C# language that sources are compiled as. A name that is not known stands for the
newest version the compiler has.
-/
import PluginForge.Json.Reader

namespace PluginForge

inductive LanguageVersion where
  | csharp8
  | csharp9
  | csharp10
  | csharp11
  | csharp12
  | csharp13
  | csharp14
  | latest
deriving DecidableEq, Repr, Inhabited

namespace LanguageVersion

def name : LanguageVersion → String
  | .csharp8 => "CSharp8"
  | .csharp9 => "CSharp9"
  | .csharp10 => "CSharp10"
  | .csharp11 => "CSharp11"
  | .csharp12 => "CSharp12"
  | .csharp13 => "CSharp13"
  | .csharp14 => "CSharp14"
  | .latest => "Latest"

def ofName : String → LanguageVersion
  | "CSharp8" => .csharp8
  | "CSharp9" => .csharp9
  | "CSharp10" => .csharp10
  | "CSharp11" => .csharp11
  | "CSharp12" => .csharp12
  | "CSharp13" => .csharp13
  | "CSharp14" => .csharp14
  | _ => .latest

def toJson (v : LanguageVersion) : Json :=
  .str v.name

def ofDraft? (d : Json.Draft) : Option LanguageVersion :=
  (d.caseName? Json.Draft.isNull).map ofName

@[simp] theorem ofName_name (v : LanguageVersion) : ofName v.name = v := by
  cases v <;> rfl

end LanguageVersion
end PluginForge
