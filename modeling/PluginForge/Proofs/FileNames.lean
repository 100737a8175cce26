/-
What the names of artifacts and logs are made of: a safe name has no character with a meaning in
paths or patterns and no control, and what a log's name adds to it has none either, so each of them
names a file directly in the directory it is joined to.
-/
import PluginForge.Proofs.Marks
import PluginForge.Proofs.Numerals
import PluginForge.Proofs.Paths
import PluginForge.Report.FileName

namespace PluginForge

/-! ## Names with a stand-in -/

/-- What is left of a text without the blanks around it, or the stand-in if that is nothing. Root
namespaces and safe names are both made in this way. -/
def orGlobal (s : List Char) : String :=
  if (Chars.trim s).isEmpty then globalName else .ofList (Chars.trim s)

theorem rootNamespace_eq_orGlobal (name : String) :
    rootNamespace name = orGlobal (name.toList.takeWhile (· ≠ '.')) := rfl

theorem safeName_eq_orGlobal (name : String) :
    safeName name = orGlobal (name.toList.map safeChar) := rfl

theorem trimmed_orGlobal (s : List Char) : Chars.Trimmed (orGlobal s).toList := by
  unfold orGlobal
  split
  · exact ⟨⟨'G', "lobal".toList, by decide⟩, ⟨"Globa".toList, 'l', by decide⟩⟩
  · rename_i h
    rw [String.toList_ofList]
    exact Chars.trimmed_trim fun he => h (List.isEmpty_iff.2 he)

theorem mem_of_mem_orGlobal {c : Char} {s : List Char} (h : c ∈ (orGlobal s).toList) :
    c ∈ globalName.toList ∨ c ∈ s := by
  unfold orGlobal at h
  split at h
  · exact .inl h
  · rw [String.toList_ofList] at h
    exact .inr (Chars.mem_of_mem_trim h)

/-! ## Safe names -/

/-- A character that can stand in a file name. -/
def IsSafeChar (c : Char) : Prop :=
  safeChar c = c

instance (c : Char) : Decidable (IsSafeChar c) :=
  inferInstanceAs (Decidable (_ = _))

theorem isSafeChar_safeChar (c : Char) : IsSafeChar (safeChar c) := by
  unfold IsSafeChar
  by_cases h : (c ∈ ['<', '>', ':', '"', '/', '\\', '|', '?', '*'] || Chars.isControl c) = true
  · have hc : safeChar c = '_' := if_pos h
    rw [hc]
    decide
  · have hc : safeChar c = c := if_neg h
    rw [hc, hc]

theorem IsSafeChar.ne_of {c d : Char} (h : IsSafeChar c) (hd : ¬ IsSafeChar d) : c ≠ d :=
  fun e => hd (e ▸ h)

theorem IsSafeChar.of_all {cs : List Char} (h : (cs.all fun c => IsSafeChar c) = true) {c : Char}
    (hc : c ∈ cs) : IsSafeChar c :=
  of_decide_eq_true (List.all_eq_true.1 h c hc)

theorem isSafeChar_of_mem_safeName {name : String} {c : Char} (h : c ∈ (safeName name).toList) :
    IsSafeChar c := by
  rw [safeName_eq_orGlobal] at h
  rcases mem_of_mem_orGlobal h with h | h
  · exact .of_all (by decide) h
  · obtain ⟨d, _, rfl⟩ := List.mem_map.1 h
    exact isSafeChar_safeChar d

theorem trimmed_safeName (name : String) : Chars.Trimmed (safeName name).toList :=
  trimmed_orGlobal (name.toList.map safeChar)

theorem safeName_ne_nil (name : String) : (safeName name).toList ≠ [] :=
  (trimmed_safeName name).ne_nil

/-! ## Numbers and times -/

namespace Chars

theorem isDigit_of_mem_padded {width n : Nat} {c : Char} (h : c ∈ padded width n) :
    c.isDigit = true := by
  rcases List.mem_append.1 h with h | h
  · rw [List.eq_of_mem_replicate h]
    rfl
  · exact isDigit_of_mem_digits h

end Chars

namespace TimeStamp

/-- The characters that the times in file names are made of. -/
def IsCompactChar (c : Char) : Prop :=
  c.isDigit = true ∨ c ∈ ['-', '+', '_']

instance (c : Char) : Decidable (IsCompactChar c) :=
  inferInstanceAs (Decidable (_ ∨ _))

theorem isCompactChar_of_mem_padded {width n : Nat} {c : Char} (h : c ∈ Chars.padded width n) :
    IsCompactChar c :=
  .inl (Chars.isDigit_of_mem_padded h)

theorem isCompactChar_of_mem_yearChars {y : Int} {c : Char} (h : c ∈ yearChars y) :
    IsCompactChar c := by
  unfold yearChars at h
  split at h
  · exact isCompactChar_of_mem_padded h
  · rcases List.mem_cons.1 h with rfl | h
    · split
      · exact .inr (by decide)
      · exact .inr (by decide)
    · exact isCompactChar_of_mem_padded h

theorem isCompactChar_of_mem_compact {t : TimeStamp} {c : Char} (h : c ∈ t.compact.toList) :
    IsCompactChar c := by
  rw [compact, String.toList_ofList, chars] at h
  simp only [List.append_nil, List.mem_append, List.mem_cons] at h
  rcases h with ((((h | h) | h) | rfl | h) | h) | h
  · exact isCompactChar_of_mem_yearChars h
  · exact isCompactChar_of_mem_padded h
  · exact isCompactChar_of_mem_padded h
  · exact .inr (by decide)
  all_goals exact isCompactChar_of_mem_padded h

end TimeStamp

/-! ## File names -/

/-- A file name: a stem that is there, a dot and an extension without dots, all of them without
separators of paths. -/
structure IsFileName (s stem ext : List Char) : Prop where
  eq : s = stem ++ '.' :: ext
  stem_ne_nil : stem ≠ []
  ext_ne_nil : ext ≠ []
  noDot : '.' ∉ ext
  plain : ∀ c ∈ s, c ≠ '/' ∧ c ≠ '\\'

namespace IsFileName

variable {s stem ext : List Char}

theorem isName (h : IsFileName s stem ext) : Path.IsName s := by
  refine .of_length (fun hs => (h.plain _ hs).1 rfl) ?_
  have hstem := List.length_pos_iff.2 h.stem_ne_nil
  have hext := List.length_pos_iff.2 h.ext_ne_nil
  rw [h.eq, List.length_append, List.length_cons]
  omega

theorem extension? (h : IsFileName s stem ext) {p : Path} {dir : List Char}
    (hp : p.text.toList = dir ++ '/' :: s) : p.extension? = some (.ofList ext) := by
  have hn := h.isName
  rw [h.eq] at hp hn
  exact Path.extension?_append hp hn h.stem_ne_nil h.noDot

theorem hasExtension_iff (h : IsFileName s stem ext) {p : Path} {dir : List Char}
    (hp : p.text.toList = dir ++ '/' :: s) {wanted : String} (hw : wanted ≠ "") :
    p.hasExtension wanted = true ↔
      Chars.lowerAscii ext = Chars.lowerAscii (wanted.toList.dropWhile (· == '.')) := by
  rw [Path.hasExtension_iff (h.extension? hp) hw, Text.lowerAscii, String.toList_ofList]
  exact ⟨fun he => String.ofList_injective he, congrArg String.ofList⟩

end IsFileName

theorem ne_separators {c : Char} (h : IsSafeChar c) : c ≠ '/' ∧ c ≠ '\\' :=
  ⟨h.ne_of (by decide), h.ne_of (by decide)⟩

theorem isFileName_safeName (key : String) {ext : String} (hne : ext.toList ≠ [])
    (he : '.' ∉ ext.toList) (hp : ∀ c ∈ ext.toList, IsSafeChar c) :
    IsFileName (safeName key ++ "." ++ ext).toList (safeName key).toList ext.toList where
  eq := by simp
  stem_ne_nil := safeName_ne_nil key
  ext_ne_nil := hne
  noDot := he
  plain c hc := by
    simp only [String.toList_append, List.mem_append] at hc
    rcases hc with (hc | hc) | hc
    · exact ne_separators (isSafeChar_of_mem_safeName hc)
    · rw [List.mem_singleton.1 hc]
      decide
    · exact ne_separators (hp c hc)

theorem isFileName_logFileName (key : String) (t : TimeStamp) :
    IsFileName (logFileName key t).toList (safeName key ++ "_" ++ t.compact).toList
      logExtension.toList where
  eq := by simp [logFileName]
  stem_ne_nil := by simp
  ext_ne_nil := by decide
  noDot := by decide
  plain c hc := by
    simp only [logFileName, String.toList_append, List.mem_append] at hc
    rcases hc with (((hc | hc) | hc) | hc) | hc
    · exact ne_separators (isSafeChar_of_mem_safeName hc)
    · rw [List.mem_singleton.1 hc]
      decide
    · have hc := TimeStamp.isCompactChar_of_mem_compact hc
      constructor <;> rintro rfl <;> revert hc <;> decide
    · rw [List.mem_singleton.1 hc]
      decide
    · exact ne_separators (.of_all (by decide) hc)

end PluginForge
