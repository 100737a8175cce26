/-
The JSON forms of what goes between the engine and a compiler: every diagnostic, request and result
is read back from its written text, whatever texts and numbers it holds. None of these forms nests
more than three deep, so the reader's limit does not matter to them.
-/
import PluginForge.Compiler.Request
import PluginForge.Proofs.SettingsDocument

namespace PluginForge

open Json

namespace Json

variable {α : Type} {toJson : α → Json} {ofDraft? : Draft → Option α}

/-- Reads a value from a text. -/
def decode? (ofDraft? : Draft → Option α) (text : String) : Option α :=
  (Draft.read? text).bind ofDraft?

/-- Every value is read back from its text. -/
def Restores (toJson : α → Json) (ofDraft? : Draft → Option α) : Prop :=
  ∀ a, decode? ofDraft? (toJson a).render = some a

/-- What was read of any text is read again from what is written for it. -/
def Settles (toJson : α → Json) (ofDraft? : Draft → Option α) : Prop :=
  ∀ text a, decode? ofDraft? text = some a → decode? ofDraft? (toJson a).render = some a

theorem Restores.settles (h : Restores toJson ofDraft?) : Settles toJson ofDraft? :=
  fun _ a _ => h a

/-- A value whose form stays within the reader's limit is read back from its text. -/
theorem decode?_render {a : α} (exact : Exact (toJson a))
    (shallow : (toJson a).nesting ≤ Draft.maxDepth)
    (back : ofDraft? (.ofJson (toJson a)) = some a) :
    decode? ofDraft? (toJson a).render = some a := by
  have seen : Draft.seen 0 (toJson a) = .ofJson (toJson a) := Draft.seen_eq_ofJson _ (by omega)
  rw [decode?, read?_render exact, seen, Option.bind_some, back]

/-- The laws of a form that nests at most `depth` deep. -/
structure LawfulForm (toJson : α → Json) (ofDraft? : Draft → Option α) (depth : Nat) : Prop where
  exact (a : α) : Exact (toJson a)
  nesting_le (a : α) : (toJson a).nesting ≤ depth
  back (a : α) : ofDraft? (.ofJson (toJson a)) = some a

namespace LawfulForm

variable {depth : Nat} (h : LawfulForm toJson ofDraft? depth)
include h

theorem restores (hd : depth ≤ Draft.maxDepth) : Restores toJson ofDraft? :=
  fun a => decode?_render (h.exact a) (Nat.le_trans (h.nesting_le a) hd) (h.back a)

theorem mono {depth' : Nat} (hd : depth ≤ depth') : LawfulForm toJson ofDraft? depth' where
  exact := h.exact
  nesting_le a := Nat.le_trans (h.nesting_le a) hd
  back := h.back

/-- The form of a list of such values. -/
theorem list : LawfulForm (fun l => .arr (l.map toJson)) (Draft.list? ofDraft?) (depth + 1) where
  exact _ := exact_list fun a _ => h.exact a
  nesting_le _ := nesting_list_le fun a _ => h.nesting_le a
  back _ := Draft.list?_ofJson fun a _ => h.back a

/-- The form of such a value that may be absent, where none of them is `null`. -/
theorem option (present : ∀ a, toJson a ≠ .null) :
    LawfulForm (Json.ofOption toJson) (Draft.option? ofDraft?) depth where
  exact o := exact_ofOption h.exact o
  nesting_le o := nesting_ofOption_le h.nesting_le o
  back _ := Draft.option?_ofJson fun a _ => ⟨h.back a, present a⟩

end LawfulForm

theorem lawful_str : LawfulForm Json.str Draft.string? 0 :=
  ⟨.str, fun _ => Nat.le_refl 0, Draft.string?_ofJson⟩

theorem lawful_uint8 : LawfulForm (fun n => .ofNat n.toNat) Draft.uint8? 0 :=
  ⟨fun n => exact_ofNat (Nat.lt_trans n.toNat_lt (by decide)), fun _ => Nat.le_refl 0,
    Draft.uint8?_ofNat⟩

theorem lawful_uint32 : LawfulForm (fun n => .ofNat n.toNat) Draft.uint32? 0 :=
  ⟨fun n => exact_ofNat (Nat.lt_trans n.toNat_lt (by decide)), fun _ => Nat.le_refl 0,
    Draft.uint32?_ofNat⟩

end Json

theorem Path.lawful : LawfulForm toJson ofDraft? 0 :=
  ⟨fun p => .str p.text, fun _ => Nat.le_refl 0, fun _ => rfl⟩

theorem LanguageVersion.lawful : LawfulForm toJson ofDraft? 0 :=
  ⟨exact_toJson, fun _ => Nat.le_refl 0, ofDraft?_toJson⟩

theorem Severity.lawful : LawfulForm (fun s => .str s.name) ofDraft? 0 :=
  ⟨fun s => .str s.name, fun _ => Nat.le_refl 0, fun s => by cases s <;> rfl⟩

theorem Diagnostic.lawful : LawfulForm toJson ofDraft? 1 := by
  have codes := lawful_str.option (by simp)
  have paths := Path.lawful.option (by simp [Path.toJson])
  have lines := lawful_uint32.option (by simp [Json.ofNat])
  refine ⟨fun d => .obj ?_, fun d => nesting_obj_le ?_, fun d => ?_⟩
  · simp [Exact.str, codes.exact, paths.exact, lines.exact]
  · simp only [List.forall_mem_cons]
    exact ⟨Nat.le_refl 0, codes.nesting_le _, Nat.le_refl 0, paths.nesting_le _,
      lines.nesting_le _, List.forall_mem_nil _⟩
  · simp [ofDraft?, toJson, Draft.record?_ofJson, Severity.lawful.back, paths.back, lines.back]

theorem SourceFile.lawful : LawfulForm toJson ofDraft? 1 := by
  refine ⟨fun s => .obj ?_, fun s => nesting_obj_le ?_, fun s => ?_⟩
  · simp [Exact.str, Path.lawful.exact]
  · simp [nesting, Path.toJson]
  · simp [ofDraft?, toJson, Draft.record?_ofJson, Path.lawful.back]

theorem EmitPolicy.lawful : LawfulForm toJson ofDraft? 1 := by
  refine ⟨fun p => .obj ?_, fun p => nesting_obj_le ?_, fun p => ?_⟩
  · simp [Exact.str, Exact.bool]
  · simp [nesting]
  · simp [ofDraft?, toJson, Draft.record?_ofJson]

theorem EmitRequest.lawful : LawfulForm toJson ofDraft? 3 := by
  have sources := SourceFile.lawful.list
  have paths := Path.lawful.list
  refine ⟨fun r => .obj ?_, fun r => nesting_obj_le ?_, fun r => ?_⟩
  · simp [Exact.str, LanguageVersion.lawful.exact, sources.exact, paths.exact,
      EmitPolicy.lawful.exact]
  · simp only [List.forall_mem_cons]
    exact ⟨Nat.zero_le 2, sources.nesting_le _, Nat.zero_le 2, (paths.mono (by omega)).nesting_le _,
      (EmitPolicy.lawful.mono (by omega)).nesting_le _, List.forall_mem_nil _⟩
  · simp [ofDraft?, toJson, Draft.record?_ofJson, LanguageVersion.lawful.back, sources.back,
      paths.back, EmitPolicy.lawful.back]

theorem EmitOutput.lawful : LawfulForm toJson ofDraft? 3 := by
  have bytes : LawfulForm bytesToJson (Draft.list? Draft.uint8?) 1 := lawful_uint8.list
  have symbols := bytes.option (by simp [bytesToJson])
  have diagnostics := Diagnostic.lawful.list
  refine ⟨fun o => .obj ?_, fun o => nesting_obj_le ?_, fun o => ?_⟩
  · simp [Exact.bool, bytes.exact, symbols.exact, diagnostics.exact]
  · simp only [List.forall_mem_cons]
    exact ⟨Nat.zero_le 2, (bytes.mono (by omega)).nesting_le _,
      (symbols.mono (by omega)).nesting_le _, diagnostics.nesting_le _, List.forall_mem_nil _⟩
  · simp [ofDraft?, toJson, Draft.record?_ofJson, bytes.back, symbols.back, diagnostics.back]

theorem ScriptRequest.lawful : LawfulForm toJson ofDraft? 2 := by
  have imports : LawfulForm Json.strings (Draft.list? Draft.string?) 1 := lawful_str.list
  have paths := Path.lawful.list
  refine ⟨fun r => .obj ?_, fun r => nesting_obj_le ?_, fun r => ?_⟩
  · simp [Exact.str, LanguageVersion.lawful.exact, imports.exact, paths.exact]
  · simp only [List.forall_mem_cons]
    exact ⟨Nat.zero_le 1, Nat.zero_le 1, imports.nesting_le _, paths.nesting_le _, Nat.zero_le 1,
      List.forall_mem_nil _⟩
  · simp [ofDraft?, toJson, Draft.record?_ofJson, LanguageVersion.lawful.back, paths.back]

end PluginForge
