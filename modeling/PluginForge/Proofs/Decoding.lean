/-
Guessing an encoding, and why three encodings are enough. Five are to be tried, GB 18030 and Big5
between GBK and Windows-1252, and bytes that fit none would be read as UTF-8 with replacement
characters (`probed`). But GBK is read as GB 18030 is, every pair of bytes of Big5 is one of GBK, and
Windows-1252 fits all bytes. So `decode` gives what trying all five gives, the text has no replacement
character, and nothing is left to the last resort.

The characters of Big5 play no part in this, which is why they are left open.
-/
import PluginForge.Proofs.TwoByteRows
import PluginForge.Proofs.Utf8

namespace PluginForge

/-! ## Big5 -/

namespace Big5

/-- The characters of a lead and a trail byte, by an index of the characters of Big5. -/
def pair? (index : Nat → Option (List Char)) (lead trail : UInt8) : Option (List Char) :=
  let row := lead.toNat - 0x81
  if 0x40 ≤ trail ∧ trail ≤ 0x7E then index (row * 157 + (trail.toNat - 0x40))
  else if 0xA1 ≤ trail ∧ trail ≤ 0xFE then index (row * 157 + (trail.toNat - 0x62))
  else none

/-- Decodes bytes behind the characters read so far, the last one first. -/
def decodeFrom (index : Nat → Option (List Char)) (done : List Char) :
    List UInt8 → Option (List Char)
  | [] => some done.reverse
  | a :: rest =>
    if a < 0x80 then decodeFrom index (.ofNat a.toNat :: done) rest
    else if a = 0x80 ∨ a = 0xFF then none
    else
      match rest with
      | [] => none
      | b :: rest =>
        match pair? index a b with
        | some cs => decodeFrom index (cs.reverse ++ done) rest
        | none => none

/-- The text that bytes stand for, unless they are malformed. -/
def decode? (index : Nat → Option (List Char)) (bytes : List UInt8) : Option String :=
  (decodeFrom index [] bytes).map .ofList

theorem trail_of_pair? {index : Nat → Option (List Char)} {a b : UInt8} {cs : List Char}
    (h : pair? index a b = some cs) : 0x40 ≤ b ∧ b ≤ 0x7E ∨ 0xA1 ≤ b ∧ b ≤ 0xFE := by
  unfold pair? at h
  split at h
  · rename_i low
    exact .inl low
  · split at h
    · rename_i high
      exact .inr high
    · cases h

end Big5

namespace Gb18030

theorem decodeFrom_ascii {a : UInt8} (ha : a < 0x80) (done : List Char) (rest : List UInt8) :
    decodeFrom done (a :: rest) = decodeFrom (.ofNat a.toNat :: done) rest := by
  rw [decodeFrom.eq_def]
  exact if_pos ha

theorem decodeFrom_pair {a b : UInt8} {c : Char} (led : 0x81 ≤ a ∧ a ≤ 0xFE) (trailed : 0x3A ≤ b)
    (h : twoByte? a b = some c) (done : List Char) (rest : List UInt8) :
    decodeFrom done (a :: b :: rest) = decodeFrom (c :: done) rest := by
  have plain : ¬ a < 0x80 := by grind
  have euro : a ≠ 0x80 := by grind
  have last : a ≠ 0xFF := by grind
  have digit : ¬ (0x30 ≤ b ∧ b ≤ 0x39) := by grind
  rw [decodeFrom.eq_def]
  simp only [if_neg plain, if_neg euro, if_neg last, if_neg digit, h]

theorem ofNat_ne_replacement {n : Nat} (h : n < 0x100) : Char.ofNat n ≠ '\uFFFD' := by
  have all : ∀ n < 0x100, Char.ofNat n ≠ '\uFFFD' := by decide +kernel
  exact all n h

/-- Bytes that Big5 reads, GB 18030 reads without a replacement character. -/
theorem exists_decodeFrom_of_big5 {index : Nat → Option (List Char)} {done read : List Char}
    {bytes : List UInt8} (h : Big5.decodeFrom index done bytes = some read)
    {before : List Char} (clean : '\uFFFD' ∉ before) :
    ∃ cs, decodeFrom before bytes = some cs ∧ '\uFFFD' ∉ cs := by
  fun_induction Big5.decodeFrom index done bytes generalizing before with
  | case1 done => exact ⟨before.reverse, rfl, by simpa using clean⟩
  | case2 done a rest ascii ih =>
    rw [decodeFrom_ascii ascii]
    refine ih h (List.not_mem_cons_of_ne_of_not_mem (Ne.symm ?_) clean)
    exact ofNat_ne_replacement a.toNat_lt
  | case3 | case4 | case6 => cases h
  | case5 done a plain ends b rest cs pair ih =>
    have led : 0x81 ≤ a ∧ a ≤ 0xFE := by grind
    have late : 0x40 ≤ b ∧ b ≤ 0x7E ∨ 0xA1 ≤ b ∧ b ≤ 0xFE := Big5.trail_of_pair? pair
    have trailed : 0x40 ≤ b ∧ b ≤ 0x7E ∨ 0x80 ≤ b ∧ b ≤ 0xFE := by grind
    have beyond : 0x3A ≤ b := by grind
    obtain ⟨c, hc, replaced⟩ := exists_twoByte led trailed
    rw [decodeFrom_pair led beyond hc]
    exact ih h (List.not_mem_cons_of_ne_of_not_mem replaced.symm clean)

end Gb18030

namespace Encoding

/-! ## All five encodings -/

/-- An encoding as it is tried: its name, and the text that bytes stand for in it unless they are
malformed. -/
structure Candidate where
  name : String
  read? : Bytes → Option String

/-- The encodings that are to be tried, in this order, over an index of the characters of Big5. -/
def candidates (index : Nat → Option (List Char)) : List Candidate := [
  ⟨"UTF-8", fun bytes => utf8? (withoutMark bytes)⟩,
  ⟨"GBK", Gb18030.decode?⟩,
  ⟨"gb18030", Gb18030.decode?⟩,
  ⟨"Big5", Big5.decode? index⟩,
  ⟨"windows-1252", fun bytes => some (windowsText bytes)⟩]

/-- The first encoding that reads the bytes without a fault and without a replacement character, with
what it reads. -/
def probe? (cs : List Candidate) (bytes : Bytes) : Option (String × String) :=
  cs.findSome? fun c => ((c.read? bytes).filter isClean).map (·, c.name)

/-- The text of a source file and the name of the encoding it is read in. As the last resort the bytes
are read as UTF-8 with replacement characters. -/
def probed (cs : List Candidate) (bytes : Bytes) : String × String :=
  (probe? cs bytes).getD (lossyUtf8 bytes, "UTF-8 (lossy)")

theorem isClean_iff {s : String} : isClean s = true ↔ '\uFFFD' ∉ s.toList := by
  simp [isClean]

theorem windowsChar_ne_replacement (b : UInt8) : windowsChar b ≠ '\uFFFD' := by
  unfold windowsChar
  split
  · rename_i high
    have codes : ∀ n < 0x20, Char.ofNat (windowsCodes.getD n 0) ≠ '\uFFFD' := by decide +kernel
    refine codes _ ?_
    simp only [UInt8.le_iff_toNat_le, UInt8.reduceToNat] at high
    omega
  · exact Gb18030.ofNat_ne_replacement b.toNat_lt

theorem isClean_windowsText (bytes : Bytes) : isClean (windowsText bytes) = true := by
  rw [isClean_iff, windowsText, String.toList_ofList, List.mem_map]
  rintro ⟨b, -, h⟩
  exact windowsChar_ne_replacement b h

/-- What is read cleanly in Big5 is read cleanly in GBK. -/
theorem filter_big5_eq_none {index : Nat → Option (List Char)} {bytes : Bytes}
    (h : (Gb18030.decode? bytes).filter isClean = none) :
    (Big5.decode? index bytes).filter isClean = none := by
  cases hb : Big5.decodeFrom index [] bytes with
  | none => rw [Big5.decode?, hb]; rfl
  | some read =>
    obtain ⟨cs, hc, clean⟩ := Gb18030.exists_decodeFrom_of_big5 hb List.not_mem_nil
    have kept : isClean (.ofList cs) = true := by rwa [isClean_iff, String.toList_ofList]
    rw [Gb18030.decode?, hc, Option.map_some, Option.filter_some, if_pos kept] at h
    cases h

theorem probe?_candidates (index : Nat → Option (List Char)) (bytes : Bytes) :
    probe? (candidates index) bytes = some ((decode bytes).1, (decode bytes).2.name) := by
  unfold probe? candidates decode
  simp only [List.findSome?_cons]
  cases hu : (utf8? (withoutMark bytes)).filter isClean with
  | some s => rfl
  | none =>
    cases hg : (Gb18030.decode? bytes).filter isClean with
    | some s => rfl
    | none =>
      rw [filter_big5_eq_none hg, Option.filter_some, if_pos (isClean_windowsText bytes)]
      rfl

theorem exists_of_probe? {cs : List Candidate} {bytes : Bytes} {s name : String}
    (h : probe? cs bytes = some (s, name)) :
    ∃ c ∈ cs, c.name = name ∧ c.read? bytes = some s ∧ isClean s = true := by
  obtain ⟨c, hc, found⟩ := List.exists_of_findSome?_eq_some h
  obtain ⟨t, kept, hs⟩ := Option.map_eq_some_iff.1 found
  obtain ⟨read, clean⟩ := Option.filter_eq_some_iff.1 kept
  cases hs
  exact ⟨c, hc, rfl, read, clean⟩

/-! ## Texts in UTF-8 -/

theorem isClean_unmarked {s : String} (h : isClean s = true) : isClean (unmarked s) = true := by
  unfold unmarked
  split
  · rename_i r hs
    rw [isClean_iff, hs] at h
    rw [isClean_iff, String.toList_ofList]
    exact fun hr => h (List.mem_cons_of_mem _ hr)
  · exact h

theorem decode_of_withoutMark {bytes : Bytes} {s : String} (h : withoutMark bytes = toUtf8 s)
    (clean : isClean s = true) : decode bytes = (s, .utf8) := by
  unfold decode
  rw [h, utf8?_toUtf8, Option.filter_some, if_pos clean]

/-! ## The guess -/

/-- Every text of bytes is a clean one in an encoding that was tried, so that the last resort is
never needed; and the UTF-8 of a clean text is read as that text, without the mark before it. -/
theorem decode_probed (index : Nat → Option (List Char)) (bytes : Bytes) (s : String) :
    probed (candidates index) bytes = ((decode bytes).1, (decode bytes).2.name) ∧
      probe? (candidates index) bytes = some (probed (candidates index) bytes) ∧
      (∃ c ∈ candidates index, c.name = (decode bytes).2.name ∧
        c.read? bytes = some (decode bytes).1) ∧
      isClean (decode bytes).1 = true ∧
      (isClean s = true → decode (toUtf8 s) = (unmarked s, .utf8) ∧
        decode (0xEF :: 0xBB :: 0xBF :: toUtf8 s) = (s, .utf8)) := by
  have tried := probe?_candidates index bytes
  have result : probed (candidates index) bytes = ((decode bytes).1, (decode bytes).2.name) := by
    rw [probed, tried, Option.getD_some]
  obtain ⟨c, hc, name, read, clean⟩ := exists_of_probe? tried
  refine ⟨result, by rw [tried, result], ⟨c, hc, name, read⟩, clean, fun hs => ⟨?_, ?_⟩⟩
  · exact decode_of_withoutMark (withoutMark_toUtf8 s) (isClean_unmarked hs)
  · exact decode_of_withoutMark rfl hs

/-- A text in Windows-1252, and one that starts with a mark of its own. -/
theorem decode_probed_marks :
    probed (candidates fun _ => none) [0x63, 0x61, 0x66, 0xE9] = ("café", "windows-1252") ∧
      isClean "\uFEFFvoid" = true ∧
      decode (toUtf8 "\uFEFFvoid") = ("void", .utf8) ∧
      decode (0xEF :: 0xBB :: 0xBF :: toUtf8 "\uFEFFvoid") = ("\uFEFFvoid", .utf8) := by
  have clean : isClean "\uFEFFvoid" = true := by decide +kernel
  have latin : decode [0x63, 0x61, 0x66, 0xE9] = ("café", .windows1252) := by decide +kernel
  obtain ⟨guessed, -, -, -, written⟩ :=
    decode_probed (fun _ => none) [0x63, 0x61, 0x66, 0xE9] "\uFEFFvoid"
  rw [latin] at guessed
  obtain ⟨plain, marked⟩ := written clean
  have void : unmarked "\uFEFFvoid" = "void" := by decide +kernel
  exact ⟨guessed, clean, by rw [plain, void], marked⟩

end Encoding
end PluginForge
