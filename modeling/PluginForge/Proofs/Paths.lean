/-
The last step of a path and its extension, read off the end of the path's text: what follows the
last `/` is the file name, and what follows the last dot of that is the extension, whatever stands
before them.
-/
import PluginForge.Path
import PluginForge.Proofs.Marks

namespace PluginForge.Path

/-! ## File names -/

/-- A stretch between separators that stands for a step with this name. -/
structure IsName (name : List Char) : Prop where
  plain : '/' ∉ name
  step : Component.ofSegment? name = some (.name name)

theorem IsName.of_length {name : List Char} (plain : '/' ∉ name) (h : 2 < name.length) :
    IsName name where
  plain
  step := by
    have hn : name ≠ [] ∧ name ≠ ['.'] ∧ name ≠ ['.', '.'] := by
      refine ⟨?_, ?_, ?_⟩ <;> rintro rfl <;> simp at h
    simp [Component.ofSegment?, hn]

theorem segments_singleton {name : List Char} (h : '/' ∉ name) : segments name = [name] :=
  List.splitOnP_eq_singleton fun c hc => by simpa using fun e : c = '/' => h (e ▸ hc)

theorem segments_append {name : List Char} (h : '/' ∉ name) (s : List Char) :
    segments (s ++ '/' :: name) = segments s ++ [name] := by
  rw [← segments_singleton h]
  exact List.splitOnP_append_cons s name (beq_self_eq_true '/')

theorem filterMap_ofSegment?_append {name : List Char} (h : IsName name)
    (segs : List (List Char)) :
    (segs ++ [name]).filterMap Component.ofSegment? =
      segs.filterMap Component.ofSegment? ++ [.name name] := by
  rw [List.filterMap_append, List.filterMap_cons_some h.step]
  rfl

section

variable {p : Path} {s name : List Char}

/-- A name that follows a separator at the end of a path is its last step. -/
theorem components_append (hp : p.text.toList = s ++ '/' :: name) (h : IsName name) :
    ∃ cs, p.components = cs ++ [.name name] := by
  unfold components
  rw [hp]
  split
  · rename_i he
    simp at he
  · rename_i t he
    cases s with
    | nil =>
      obtain ⟨-, rfl⟩ := List.cons.inj he
      rw [segments_singleton h.plain]
      exact ⟨[.root], congrArg _ (filterMap_ofSegment?_append h [])⟩
    | cons c s =>
      obtain ⟨-, rfl⟩ := List.cons.inj he
      rw [List.append_eq, segments_append h.plain, filterMap_ofSegment?_append h]
      exact ⟨_, (List.cons_append ..).symm⟩
  · rw [segments_append h.plain]
    split
    · -- The dot at the start is not the name at the end: there is a separator between them.
      rename_i rest he
      obtain ⟨seg, segs, hs⟩ := List.exists_cons_of_ne_nil (List.splitOnP_ne_nil (· == '/') s)
      have hs : segments s = seg :: segs := hs
      rw [hs, List.cons_append] at he
      obtain ⟨-, rfl⟩ := List.cons.inj he
      rw [filterMap_ofSegment?_append h]
      exact ⟨_, (List.cons_append ..).symm⟩
    · rw [filterMap_ofSegment?_append h]
      exact ⟨_, rfl⟩

theorem fileNameChars?_append (hp : p.text.toList = s ++ '/' :: name) (h : IsName name) :
    p.fileNameChars? = some name := by
  obtain ⟨cs, hc⟩ := components_append hp h
  rw [fileNameChars?, hc, List.getLast?_concat]

end

/-! ## Extensions -/

theorem splitExtension_append {stem ext : List Char} (hs : stem ≠ []) (he : '.' ∉ ext) :
    splitExtension (stem ++ '.' :: ext) = (stem, some ext) := by
  rw [splitExtension, Chars.cutLast?_append he]
  split
  · rename_i h
    simp_all
  · rename_i h
    simp_all
  · rename_i h
    simp at h

/-- A file name that is put together from a stem and an extension. -/
theorem extension?_append {p : Path} {s stem ext : List Char}
    (hp : p.text.toList = s ++ '/' :: (stem ++ '.' :: ext)) (h : IsName (stem ++ '.' :: ext))
    (hs : stem ≠ []) (he : '.' ∉ ext) : p.extension? = some (.ofList ext) := by
  rw [extension?, fileNameChars?_append hp h, Option.bind_some, splitExtension_append hs he]
  rfl

theorem hasExtension_iff {p : Path} {ext wanted : String} (h : p.extension? = some ext)
    (hw : wanted ≠ "") :
    p.hasExtension wanted = true ↔
      Text.lowerAscii ext = .ofList (Chars.lowerAscii (wanted.toList.dropWhile (· == '.'))) := by
  simp [hasExtension, h, hw]

/-- A path has one extension, whatever the case of its letters. -/
theorem hasExtension_unique {p : Path} {a b : String} (ha : a ≠ "") (hb : b ≠ "")
    (h : p.hasExtension a = true) (h' : p.hasExtension b = true) :
    Chars.lowerAscii (a.toList.dropWhile (· == '.')) =
      Chars.lowerAscii (b.toList.dropWhile (· == '.')) := by
  cases he : p.extension? with
  | none => simp [hasExtension, he, ha] at h
  | some ext =>
    rw [hasExtension_iff he ha] at h
    rw [hasExtension_iff he hb] at h'
    exact String.ofList_injective (h.symm.trans h')

end PluginForge.Path
