/-
Small letters of all scripts. The capital sigma becomes the final form at the end of a word, and the
capital I with a dot becomes two characters.
-/
import PluginForge.Text

namespace PluginForge.Chars

/-- The small letter of a character, where it is one character. -/
def lowerChar (c : Char) : Char :=
  if c.toNat < 0x80 then c.toLower
  else
    match Text.Unicode.lowerRuns.find? fun r =>
        r.first ≤ c.toNat && c.toNat ≤ r.last && (c.toNat - r.first) % r.step == 0 with
    | some r => .ofNat (r.image + (c.toNat - r.first))
    | none => c

/-- Whether the first character that is not passed over has case. -/
def nextIsCased (s : List Char) : Bool :=
  match s.dropWhile fun c => Text.Unicode.covers Text.Unicode.caseIgnorable c.toNat with
  | c :: _ => Text.Unicode.covers Text.Unicode.cased c.toNat
  | [] => false

/-- The small letters of a text whose beginning, reversed, is `before`. -/
def lowercaseAfter (before : List Char) : List Char → List Char
  | [] => []
  | c :: rest =>
    let small :=
      if c = 'Σ' then [if nextIsCased before && ! nextIsCased rest then 'ς' else 'σ']
      else if c = 'İ' then ['i', '\u0307']
      else [lowerChar c]
    small ++ lowercaseAfter (c :: before) rest

end PluginForge.Chars

namespace PluginForge.Text

def lowercase (s : String) : String :=
  .ofList (Chars.lowercaseAfter [] s.toList)

end PluginForge.Text
