/-
What the content hash of a script tells apart. The source and the imports are hashed in one piece, a
zero character after the source and a line feed after each import, and neither is marked where it
occurs in a part. Where the marks do not occur in the parts (`Delimited`), what is hashed is the same
just for scripts with the same content: UTF-8 loses nothing, the first or the last zero ends the source,
and the lines after it are the sorted imports. Otherwise different scripts may be hashed alike, and one
of them is then taken for the other.
-/
import Mathlib.Data.List.Sort
import Mathlib.Data.String.Basic
import PluginForge.Proofs.Lines
import PluginForge.Proofs.Marks
import PluginForge.Proofs.ScriptExchange
import PluginForge.Proofs.Utf8

namespace PluginForge

/-! ## Parts and marks -/

namespace Chars

/-- Texts without line feeds, each of them ended by one, are the lines of what they make up. -/
theorem rawLines_flatMap_feed {lines : List (List Char)} (h : ∀ l ∈ lines, '\n' ∉ l) :
    rawLines (lines.flatMap (· ++ ['\n'])) = lines.map (· ++ ['\n']) := by
  induction lines with
  | nil => rfl
  | cons l rest ih =>
    obtain ⟨hl, hrest⟩ := List.forall_mem_cons.1 h
    rw [List.flatMap_cons, List.append_assoc, List.singleton_append, rawLines_append_feed hl,
      ih hrest, List.map_cons]

theorem mem_of_mem_replaceByFrom {rule : List Char → Option (Nat × List Char)} {c : Char} {k : Nat}
    {done s : List Char} (new : ∀ t n new, rule t = some (n, new) → c ∉ new)
    (h : c ∈ replaceByFrom rule k done s) : c ∈ done ∨ c ∈ s := by
  induction s generalizing k done with
  | nil =>
    cases k <;> exact .inl (by simpa [replaceByFrom] using h)
  | cons d s ih =>
    cases k with
    | succ k => exact (ih h).imp_right (List.mem_cons_of_mem d)
    | zero =>
      unfold replaceByFrom at h
      split at h
      · rename_i n text hr
        rcases ih h with hd | hs
        · rw [List.mem_append, List.mem_reverse] at hd
          exact .inl (hd.resolve_left (new _ _ _ hr))
        · exact .inr (List.mem_cons_of_mem d hs)
      · rcases ih h with hd | hs
        · rcases List.mem_cons.1 hd with rfl | hd
          · exact .inr List.mem_cons_self
          · exact .inl hd
        · exact .inr (List.mem_cons_of_mem d hs)

/-- Replacing brings in no character but those of the text that is put in. -/
theorem mem_of_mem_replace {old new s : List Char} {c : Char} (hn : c ∉ new)
    (h : c ∈ replace old new s) : c ∈ s := by
  unfold replace at h
  split at h
  · exact h
  · refine (mem_of_mem_replaceByFrom (fun t n text hr => ?_) h).resolve_left List.not_mem_nil
    split at hr
    · cases hr
      exact hn
    · cases hr

end Chars

/-! ## What is hashed -/

namespace Script

/-- Scripts with the same content: the same source but for how lines end, and the same imports but for
their order and the blanks around them. -/
structure SameContent (source : String) (imports : List String) (source' : String)
    (imports' : List String) : Prop where
  source : Text.replace "\r\n" "\n" source = Text.replace "\r\n" "\n" source'
  imports : (imports.map Text.trim).Perm (imports'.map Text.trim)

instance (source : String) (imports : List String) (source' : String) (imports' : List String) :
    Decidable (SameContent source imports source' imports') :=
  decidable_of_iff (Text.replace "\r\n" "\n" source = Text.replace "\r\n" "\n" source' ∧
    (imports.map Text.trim).Perm (imports'.map Text.trim)) ⟨fun h => ⟨h.1, h.2⟩, fun h => ⟨h.1, h.2⟩⟩

/-- The marks between the parts of what is hashed do not get mixed up with the parts: no import has a
line feed inside, and when there is a zero character in one of the sources, there is none in the imports
that come with the other. -/
structure Delimited (source : String) (imports : List String) (source' : String)
    (imports' : List String) : Prop where
  feed : ∀ i ∈ imports, '\n' ∉ (Text.trim i).toList
  feed' : ∀ i ∈ imports', '\n' ∉ (Text.trim i).toList
  zero : '\x00' ∈ source.toList → ∀ i ∈ imports', '\x00' ∉ i.toList
  zero' : '\x00' ∈ source'.toList → ∀ i ∈ imports, '\x00' ∉ i.toList

variable {source source' : String} {imports imports' : List String}

theorem mem_sortedImports {t : String} :
    t ∈ sortedImports imports ↔ ∃ i ∈ imports, Text.trim i = t := by
  rw [sortedImports, (List.mergeSort_perm _ _).mem_iff, List.mem_map]

/-- Sorting the imports forgets their order and nothing else. -/
theorem sortedImports_eq_iff : sortedImports imports = sortedImports imports' ↔
    (imports.map Text.trim).Perm (imports'.map Text.trim) := by
  constructor
  · intro h
    have perm := List.mergeSort_perm (imports.map Text.trim) fun a b => ! decide (b < a)
    have perm' := List.mergeSort_perm (imports'.map Text.trim) fun a b => ! decide (b < a)
    exact perm.symm.trans ((List.Perm.of_eq h).trans perm')
  · intro h
    have sorted (l : List String) :
        (l.mergeSort fun a b => ! decide (b < a)).Pairwise fun a b => ! decide (b < a) := by
      refine List.pairwise_mergeSort (fun a b c hab hbc => ?_) (fun a b => ?_) l
      · simp only [Bool.not_eq_true', decide_eq_false_iff_not, not_lt] at hab hbc ⊢
        exact hab.trans hbc
      · simp only [Bool.or_eq_true, Bool.not_eq_true', decide_eq_false_iff_not, not_lt]
        exact le_total a b
    refine List.Perm.eq_of_pairwise (fun a b _ _ hab hba => ?_) (sorted _) (sorted _)
      ((List.mergeSort_perm _ _).trans (h.trans (List.mergeSort_perm _ _).symm))
    simp only [Bool.not_eq_true', decide_eq_false_iff_not, not_lt] at hab hba
    exact le_antisymm hab hba

/-- The lines of the imports in what is hashed. -/
def importLines (imports : List String) : List Char :=
  ((sortedImports imports).map String.toList).flatMap (· ++ ['\n'])

/-- The text that is hashed. -/
def hashText (source : String) (imports : List String) : List Char :=
  (Text.replace "\r\n" "\n" source).toList ++ '\x00' :: importLines imports

theorem hashInput_eq_toUtf8 (source : String) (imports : List String) :
    hashInput source imports = Encoding.toUtf8 (.ofList (hashText source imports)) := by
  have lines (l : List String) : (l.flatMap fun i => Encoding.toUtf8 i ++ [0x0A]) =
      Encoding.toUtf8 (.ofList ((l.map String.toList).flatMap (· ++ ['\n']))) := by
    induction l with
    | nil => rfl
    | cons i rest ih =>
      rw [List.flatMap_cons, List.map_cons, List.flatMap_cons, Encoding.toUtf8_ofList_append,
        Encoding.toUtf8_ofList_append, String.ofList_toList, ih]
      rfl
  have marked (l : List Char) : Encoding.toUtf8 (.ofList ('\x00' :: l)) =
      0 :: Encoding.toUtf8 (.ofList l) := Encoding.toUtf8_ofList_append ['\x00'] l
  rw [hashInput, hashText, Encoding.toUtf8_ofList_append, String.ofList_toList, marked, lines,
    importLines]

theorem importLines_inj (h : ∀ i ∈ imports, '\n' ∉ (Text.trim i).toList)
    (h' : ∀ i ∈ imports', '\n' ∉ (Text.trim i).toList)
    (he : importLines imports = importLines imports') :
    sortedImports imports = sortedImports imports' := by
  have free {is : List String} (hi : ∀ i ∈ is, '\n' ∉ (Text.trim i).toList) :
      ∀ l ∈ (sortedImports is).map String.toList, '\n' ∉ l := by
    intro l hl
    obtain ⟨t, ht, rfl⟩ := List.mem_map.1 hl
    obtain ⟨i, hm, rfl⟩ := mem_sortedImports.1 ht
    exact hi i hm
  have lines := congrArg Chars.rawLines he
  rw [importLines, importLines, Chars.rawLines_flatMap_feed (free h),
    Chars.rawLines_flatMap_feed (free h')] at lines
  have inj : Function.Injective fun s : String => s.toList ++ ['\n'] :=
    fun s t hst => String.toList_inj.1 (List.append_cancel_right hst)
  simp only [List.map_map] at lines
  exact inj.list_map lines

/-- A zero character in what is hashed for the imports is one of an import. -/
theorem exists_zero_of_mem_importLines (h : '\x00' ∈ importLines imports) :
    ∃ i ∈ imports, '\x00' ∈ i.toList := by
  obtain ⟨l, hl, hc⟩ := List.mem_flatMap.1 h
  obtain ⟨t, ht, rfl⟩ := List.mem_map.1 hl
  obtain ⟨i, hi, rfl⟩ := mem_sortedImports.1 ht
  rcases List.mem_append.1 hc with hc | hc
  · rw [Text.trim, String.toList_ofList] at hc
    exact ⟨i, hi, Chars.mem_of_mem_trim hc⟩
  · exact absurd (List.mem_singleton.1 hc) (by decide)

theorem zero_mem_of_replace (h : '\x00' ∈ (Text.replace "\r\n" "\n" source).toList) :
    '\x00' ∈ source.toList := by
  rw [Text.replace, String.toList_ofList] at h
  exact Chars.mem_of_mem_replace (by decide) h

theorem SameContent.hashInput_eq (h : SameContent source imports source' imports') :
    hashInput source imports = hashInput source' imports' := by
  rw [hashInput, hashInput, h.source, sortedImports_eq_iff.2 h.imports]

theorem Delimited.sameContent (h : Delimited source imports source' imports')
    (he : hashInput source imports = hashInput source' imports') :
    SameContent source imports source' imports' := by
  rw [hashInput_eq_toUtf8, hashInput_eq_toUtf8] at he
  have text : hashText source imports = hashText source' imports' :=
    String.ofList_injective (Encoding.toUtf8_injective he)
  obtain ⟨sources, lines⟩ := Chars.append_cons_inj text
    (fun hs hi => by
      obtain ⟨i, hm, hz⟩ := exists_zero_of_mem_importLines hi
      exact h.zero (zero_mem_of_replace hs) i hm hz)
    (fun hs hi => by
      obtain ⟨i, hm, hz⟩ := exists_zero_of_mem_importLines hi
      exact h.zero' (zero_mem_of_replace hs) i hm hz)
  exact ⟨String.toList_inj.1 sources, sortedImports_eq_iff.1 (importLines_inj h.feed h.feed' lines)⟩

end Script

/-- The hash tells two inputs apart, unless they are the same. -/
def Blake3.Separates (x y : List UInt8) : Prop :=
  hex x = hex y → x = y

namespace Engine

open Script

variable {φ σ ρ : Type} {e : Engine φ σ ρ} {s : EngineState φ σ ρ} {name source : String}
  {imports : List String}

theorem precompile_cached_iff : (e.precompile name source imports s).1 = .ok .cached ↔
    ∃ entry, s.scripts.find? name = some entry ∧ entry.contentHash = contentHash source imports := by
  rw [← Script.Shelf.holds_iff]
  have course := e.precompile_precompiling name source imports s
  generalize (e.precompile name source imports s).1 = r,
    e.precompileExchanges name source imports s = asked,
    (e.precompile name source imports s).2.scripts = shelf at course ⊢
  cases course with
  | cached held => simp [held]
  | compiled held => simp [held]
  | failed held => simp [held]

end Engine

namespace Script

/-- Where the marks between the parts are no parts of them, what is hashed is the same just for scripts
with the same content. If besides the hash separates what is hashed for two scripts, their hashes are
the same just if their contents are; and when the one is kept under a name, a request for the other
under this name is answered from the shelf just if their contents are the same. -/
theorem hashInput_separates {source source' : String} {imports imports' : List String}
    (h : Delimited source imports source' imports') :
    (hashInput source imports = hashInput source' imports' ↔
        SameContent source imports source' imports') ∧
      (Blake3.Separates (hashInput source imports) (hashInput source' imports') →
        (contentHash source imports = contentHash source' imports' ↔
          SameContent source imports source' imports') ∧
        ∀ (φ σ ρ : Type) (e : Engine φ σ ρ) (s : EngineState φ σ ρ) (name : String)
          (entry : Entry ρ), s.scripts.find? name = some entry →
            entry.contentHash = contentHash source imports →
            ((e.precompile name source' imports' s).1 = .ok .cached ↔
              SameContent source imports source' imports')) := by
  have input : hashInput source imports = hashInput source' imports' ↔
      SameContent source imports source' imports' :=
    ⟨h.sameContent, SameContent.hashInput_eq⟩
  refine ⟨input, fun separates => ?_⟩
  have hashes : contentHash source imports = contentHash source' imports' ↔
      SameContent source imports source' imports' :=
    ⟨fun he => input.1 (separates he), fun same => congrArg Blake3.hex (input.2 same)⟩
  refine ⟨hashes, fun φ σ ρ e s name entry kept own => ?_⟩
  rw [Engine.precompile_cached_iff, ← hashes, ← own, kept]
  simp

/-- Two scripts that differ in one character of the source. -/
theorem hashInput_separates_greetings :
    Delimited "return 1;" ["System"] "return 2;" ["System"] ∧
      contentHash "return 1;" ["System"] ≠ contentHash "return 2;" ["System"] := by
  have delimited : Delimited "return 1;" ["System"] "return 2;" ["System"] :=
    ⟨by decide, by decide, by decide, by decide⟩
  have separates : Blake3.Separates (hashInput "return 1;" ["System"])
      (hashInput "return 2;" ["System"]) :=
    fun alike => absurd alike (by decide +kernel)
  have differ : ¬ SameContent "return 1;" ["System"] "return 2;" ["System"] :=
    fun same => absurd same.source (by decide)
  exact ⟨delimited, mt ((hashInput_separates delimited).2 separates).1.1 differ⟩

/-- What is hashed is the same just for scripts with the same content, whatever occurs in them. -/
def SeparatesContents : Prop :=
  ∀ source imports source' imports',
    hashInput source imports = hashInput source' imports' ↔
      SameContent source imports source' imports'

/-- One import with a line feed inside is hashed like two imports. -/
theorem not_separatesContents : ¬ SeparatesContents := by
  intro h
  have one : sortedImports ["A\nB"] = ["A\nB"] := List.mergeSort_of_pairwise (by decide)
  have two : sortedImports ["A", "B"] = ["A", "B"] := List.mergeSort_of_pairwise (by decide)
  have alike : hashInput "return 1;" ["A\nB"] = hashInput "return 1;" ["A", "B"] := by
    rw [hashInput, hashInput, one, two]
    decide
  exact absurd ((h _ _ _ _).1 alike).imports.length_eq (by decide)

end Script
end PluginForge
