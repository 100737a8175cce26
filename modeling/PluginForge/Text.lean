/-
The operations on texts that the library works with, as functions on `String`. Each is the
function of the same name on lists of characters.
-/
import PluginForge.Text.Chars

namespace PluginForge.Text

def trim (s : String) : String :=
  .ofList (Chars.trim s.toList)

/-- Whether a text is nothing but blanks. -/
def isBlank (s : String) : Bool :=
  s.toList.all Chars.isBlank

def occurs (p s : String) : Bool :=
  Chars.occurs p.toList s.toList

def startsWith (p s : String) : Bool :=
  p.toList.isPrefixOf s.toList

def lowerAscii (s : String) : String :=
  .ofList (Chars.lowerAscii s.toList)

def replace (old new s : String) : String :=
  .ofList (Chars.replace old.toList new.toList s.toList)

/-- The lines of a text without their ends. -/
def lines (s : String) : List String :=
  (Chars.lines s.toList).map .ofList

/-- The text `s` written `n` times. -/
def repeated (s : String) (n : Nat) : String :=
  String.join (List.replicate n s)

/-- A number in at least `width` digits. -/
def padded (width n : Nat) : String :=
  let digits := toString n
  repeated "0" (width - digits.length) ++ digits

end PluginForge.Text
