/-
Decoding of GB 18030, of which GBK is the part with two bytes at most. An ASCII byte stands for
itself; every other character has two bytes or four, except that a single 0x80 is the euro sign.
-/
import PluginForge.Encoding.Gb18030.Index

namespace PluginForge.Gb18030

/-- The characters of two bytes by their number. -/
def twoByteTable : Array Char :=
  (twoByteRows.flatMap String.toList).toArray

/-- The character of a lead and a trail byte. -/
def twoByte? (lead trail : UInt8) : Option Char :=
  let row := lead.toNat - 0x81
  if 0x40 ≤ trail ∧ trail ≤ 0x7E then twoByteTable[row * 190 + (trail.toNat - 0x40)]?
  else if 0x80 ≤ trail ∧ trail ≤ 0xFE then twoByteTable[row * 190 + (trail.toNat - 0x41)]?
  else none

/-- The code point with a number among those of four bytes. -/
def fourByteCode? (n : Nat) : Option Nat :=
  if n < 39420 then
    (fourByteRuns.findRev? fun r => r.1 ≤ n).map fun r => r.2 + (n - r.1)
  else if 189000 ≤ n ∧ n < 1237576 then some (0x10000 + (n - 189000))
  else none

/-- The character of four bytes, of which the second and the fourth are ASCII digits. -/
def fourByte? (a b c d : UInt8) : Option Char :=
  if 0x81 ≤ c ∧ c ≤ 0xFE ∧ 0x30 ≤ d ∧ d ≤ 0x39 then
    (fourByteCode? ((((a.toNat - 0x81) * 10 + (b.toNat - 0x30)) * 126 + (c.toNat - 0x81)) * 10 +
      (d.toNat - 0x30))).map .ofNat
  else none

/-- Decodes bytes behind the characters read so far, the last one first. -/
def decodeFrom (done : List Char) : List UInt8 → Option (List Char)
  | [] => some done.reverse
  | a :: rest =>
    if a < 0x80 then decodeFrom (.ofNat a.toNat :: done) rest
    else if a = 0x80 then decodeFrom ('€' :: done) rest
    else if a = 0xFF then none
    else
      match rest with
      | [] => none
      | b :: rest =>
        if 0x30 ≤ b ∧ b ≤ 0x39 then
          match rest with
          | c :: d :: rest =>
            match fourByte? a b c d with
            | some ch => decodeFrom (ch :: done) rest
            | none => none
          | _ => none
        else
          match twoByte? a b with
          | some ch => decodeFrom (ch :: done) rest
          | none => none

/-- The text that bytes stand for, unless they are malformed. -/
def decode? (bytes : List UInt8) : Option String :=
  (decodeFrom [] bytes).map .ofList

end PluginForge.Gb18030
