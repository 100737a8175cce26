/-
The encoding of a source file is guessed: UTF-8, then GBK, then Windows-1252 is tried, and the first
one that fits is taken. An encoding fits if it reads the bytes without a fault and without a
replacement character. Windows-1252 always fits, and what would fit Big5 fits GBK, which is why Big5
is not tried.
-/
import PluginForge.Encoding.Gb18030
import PluginForge.Store.FileSystem

namespace PluginForge

inductive Encoding where
  | utf8
  | gbk
  | windows1252
deriving DecidableEq, Repr

namespace Encoding

def name : Encoding → String
  | .utf8 => "UTF-8"
  | .gbk => "GBK"
  | .windows1252 => "windows-1252"

/-! ## UTF-8 -/

/-- The bytes without the mark that says they are UTF-8. -/
def withoutMark : Bytes → Bytes
  | 0xEF :: 0xBB :: 0xBF :: rest => rest
  | bytes => bytes

def utf8? (bytes : Bytes) : Option String :=
  String.fromUTF8? ⟨bytes.toArray⟩

/-- The bytes of a text in UTF-8. -/
def toUtf8 (s : String) : Bytes :=
  s.toUTF8.data.toList

/-! ## Windows-1252 -/

/-- The code points of the bytes from 0x80 to 0x9F. -/
def windowsCodes : Array Nat := #[
  0x20AC, 0x81, 0x201A, 0x192, 0x201E, 0x2026, 0x2020, 0x2021, 0x2C6, 0x2030, 0x160, 0x2039, 0x152,
  0x8D, 0x17D, 0x8F, 0x90, 0x2018, 0x2019, 0x201C, 0x201D, 0x2022, 0x2013, 0x2014, 0x2DC, 0x2122,
  0x161, 0x203A, 0x153, 0x9D, 0x17E, 0x178]

/-- The character of a byte; most bytes stand for the code point of their own value. -/
def windowsChar (b : UInt8) : Char :=
  if 0x80 ≤ b ∧ b ≤ 0x9F then .ofNat (windowsCodes.getD (b.toNat - 0x80) 0) else .ofNat b.toNat

def windowsText (bytes : Bytes) : String :=
  .ofList (bytes.map windowsChar)

/-! ## Guessing -/

/-- Whether a text is free of replacement characters. -/
def isClean (s : String) : Bool :=
  ! s.toList.contains '\uFFFD'

/-- The text of a source file and the encoding it was read in. -/
def decode (bytes : Bytes) : String × Encoding :=
  match (utf8? (withoutMark bytes)).filter isClean with
  | some s => (s, .utf8)
  | none =>
    match (Gb18030.decode? bytes).filter isClean with
    | some s => (s, .gbk)
    | none => (windowsText bytes, .windows1252)

/-! ## Reading anything as UTF-8 -/

/-- The length of the sequence that a byte of UTF-8 leads, and the bounds of its second byte. -/
def sequence? (lead : UInt8) : Option (Nat × UInt8 × UInt8) :=
  if 0xC2 ≤ lead ∧ lead ≤ 0xDF then some (2, 0x80, 0xBF)
  else if lead = 0xE0 then some (3, 0xA0, 0xBF)
  else if lead = 0xED then some (3, 0x80, 0x9F)
  else if 0xE1 ≤ lead ∧ lead ≤ 0xEF then some (3, 0x80, 0xBF)
  else if lead = 0xF0 then some (4, 0x90, 0xBF)
  else if 0xF1 ≤ lead ∧ lead ≤ 0xF3 then some (4, 0x80, 0xBF)
  else if lead = 0xF4 then some (4, 0x80, 0x8F)
  else none

/-- The number of bytes at the start of `rest` that continue a sequence: `count` of them at most, the
first one between `low` and `high`. -/
def continued : (count : Nat) → (low high : UInt8) → Bytes → Nat
  | count + 1, low, high, b :: rest =>
    if low ≤ b ∧ b ≤ high then continued count 0x80 0xBF rest + 1 else 0
  | _, _, _, _ => 0

/-- The character whose sequence has the lead byte `lead` and goes on with `tail`. -/
def sequenceChar (lead : UInt8) (tail : Bytes) : Char :=
  let bits := lead.toNat % Nat.pow 2 (6 - tail.length)
  .ofNat (tail.foldl (fun n b => n * 64 + b.toNat % 64) bits)

/-- Reads bytes as UTF-8 behind the characters read so far, the last one first. What belongs to no
character is read as `fault`, once for each longest start of a sequence. -/
def readFrom (fault : List Char) : (fuel : Nat) → List Char → Bytes → List Char
  | 0, done, _ => done.reverse
  | _ + 1, done, [] => done.reverse
  | fuel + 1, done, b :: rest =>
    if b < 0x80 then readFrom fault fuel (.ofNat b.toNat :: done) rest
    else
      match sequence? b with
      | none => readFrom fault fuel (fault.reverse ++ done) rest
      | some (size, low, high) =>
        let n := continued (size - 1) low high rest
        let read := if n = size - 1 then [sequenceChar b (rest.take n)] else fault.reverse
        readFrom fault fuel (read ++ done) (rest.drop n)

/-- The text of bytes that are taken for UTF-8, with replacement characters for faults. -/
def lossyUtf8 (bytes : Bytes) : String :=
  .ofList (readFrom ['\uFFFD'] bytes.length [] bytes)

/-- The text of bytes that are taken for JSON. A fault is read as half a surrogate pair, which makes
the quoted text around it one that cannot be used. The letters beside it begin no escape, so that the
half neither follows a backslash nor meets its other half. -/
def jsonText (bytes : Bytes) : String :=
  .ofList (readFrom "x\\ud800x".toList bytes.length [] bytes)

end Encoding
end PluginForge
