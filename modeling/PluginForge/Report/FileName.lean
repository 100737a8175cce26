/-
Names of files and points in time: the form of a group's name that can stand in a file name, and the
names of failure logs.
-/
import PluginForge.Compiler.Outline.Query

namespace PluginForge

/-- A character in a file name: those with a meaning in paths or patterns, and controls, become
underscores. -/
def safeChar (c : Char) : Char :=
  if c ∈ ['<', '>', ':', '"', '/', '\\', '|', '?', '*'] || Chars.isControl c then '_' else c

/-- The form of a name that can stand in a file name. -/
def safeName (name : String) : String :=
  let s := Chars.trim (name.toList.map safeChar)
  if s.isEmpty then globalName else .ofList s

/-- A point in time, in the calendar's own parts. -/
structure TimeStamp where
  year : Int
  month : Nat
  day : Nat
  hour : Nat
  minute : Nat
  second : Nat
deriving DecidableEq, Repr

namespace TimeStamp

/-- A year in four digits; outside of four digits it has a sign. -/
def yearChars (y : Int) : List Char :=
  if 0 ≤ y ∧ y ≤ 9999 then Chars.padded 4 y.toNat
  else (if y < 0 then '-' else '+') :: Chars.padded 4 y.natAbs

/-- The parts of a time: the date's with `dash` between them and the day's with `colon`. -/
def chars (dash colon : List Char) (middle : Char) (t : TimeStamp) : List Char :=
  yearChars t.year ++ dash ++ Chars.padded 2 t.month ++ dash ++ Chars.padded 2 t.day ++
    middle :: Chars.padded 2 t.hour ++ colon ++ Chars.padded 2 t.minute ++ colon ++
    Chars.padded 2 t.second

/-- The form that stands in file names. -/
def compact (t : TimeStamp) : String :=
  .ofList (t.chars [] [] '_')

/-- The form that is read. -/
def readable (t : TimeStamp) : String :=
  .ofList (t.chars ['-'] [':'] ' ')

end TimeStamp

/-- The extension of failure logs. -/
def logExtension : String := "txt"

/-- The name of the failure log of a group. -/
def logFileName (key : String) (t : TimeStamp) : String :=
  safeName key ++ "_" ++ t.compact ++ "." ++ logExtension

end PluginForge
