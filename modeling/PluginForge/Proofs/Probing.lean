/-
What is known of the tree that a unit comes with. The compiler gave it for the very text of the
unit, but only the text before default imports were added was found to be without errors: a text to
which imports were added is parsed again, and how many errors that finds is not looked at.
-/
import PluginForge.Compiler.Scripted
import PluginForge.Proofs.Intake
import PluginForge.Proofs.Simulation
import PluginForge.Store.Memory

namespace PluginForge.Intake

variable {φ σ ρ : Type}

/-- The exchanges of the intake of the sources below a root. -/
def exchanges (fs : FileSystem φ) (service : CompileService σ ρ) (settings : Settings) (root : Path)
    (files : φ) (s : σ) : List (Exchange ρ) :=
  (ingest fs service.traced settings root files (.start s)).2.2.exchanges

/-- A unit was found to be without errors before default imports were added to it, and it comes with
the tree for what it is now. -/
structure Probed (settings : Settings) (xs : List (Exchange ρ)) (u : ParsedUnit) : Prop where
  tree : parsing settings u.path u.text (.answer u.tree) ∈ xs
  probe : ∃ text probe, parsing settings u.path text (.answer probe) ∈ xs ∧ probe.errorCount = 0 ∧
    u.text = completed settings text probe ∧ (u.text = text → u.tree = probe)

variable {fs : FileSystem φ} {settings : Settings} {files : φ} {p : Path}
  {xs ys : List (Exchange ρ)} {u : ParsedUnit}

theorem Probed.mono (h : Probed settings xs u) (hs : xs ⊆ ys) : Probed settings ys u where
  tree := hs h.tree
  probe := by
    obtain ⟨text, probe, hm, hp⟩ := h.probe
    exact ⟨text, probe, hs hm, hp⟩

/-- A unit has no errors where there are no default imports to be added. -/
theorem Probed.errorCount (h : Probed settings xs u) (hd : settings.defaultImports = []) :
    u.tree.errorCount = 0 := by
  obtain ⟨text, probe, -, he, ht, hsame⟩ := h.probe
  have hc : completed settings text probe = text := by
    simp [completed, hd, Import.addDefaults, Import.missingDefaults]
  rw [hsame (ht.trans hc), he]

theorem FileIntake.probed (h : FileIntake fs settings files p xs (.ok (.parsed u))) :
    Probed settings xs u := by
  cases h with
  | @text src _ _ _ _ hp =>
    generalize Import.strip src.text settings.removedImports = text at hp
    cases hp with
    | @complete probe he hc =>
      exact ⟨List.mem_singleton_self _, text, probe, List.mem_singleton_self _, he, hc.symm,
        fun _ => rfl⟩
    | @parsedAgain probe tree he hc =>
      refine ⟨?_, text, probe, List.mem_cons_self, he, rfl, fun h => absurd h hc⟩
      exact List.mem_cons_of_mem _ (List.mem_singleton_self _)

/-- Every unit that an intake reports comes with the tree that the compiler gave for its text, and
was made of a text in which the compiler had found no error. -/
theorem ingest_probed (fs : FileSystem φ) (service : CompileService σ ρ) (settings : Settings)
    (root : Path) (files : φ) (s : σ) {report : IntakeReport}
    (h : (ingest fs service settings root files s).1 = .ok report) :
    ∀ u ∈ report.units, Probed settings (exchanges fs service settings root files s) u := by
  rw [ingest_eq_traced] at h
  unfold exchanges
  rcases hi : ingest fs service.traced settings root files (.start s) with ⟨r, files', t⟩
  rw [hi] at h
  cases h
  obtain ⟨paths, xs, -, hx, ht⟩ := ingest_taken service hi
  intro u hu
  obtain ⟨p, ys, hf, hy⟩ := ht.origin u hu
  exact hf.probed.mono fun x hm => hx ▸ hy hm

/-- A source that is right as it stands, but not with an import in front. -/
def aliasedSource : MemoryStore :=
  ⟨[("src/a.cs", Encoding.toUtf8 "extern alias Lib;\nclass A {}")], []⟩

/-- The complaint about an alias that comes behind an import. -/
def lateAlias : Diagnostic :=
  { Diagnostic.plainError "An extern alias declaration must precede all other elements" with
    code := some "CS0439" }

/-- A compiler that makes this complaint. -/
def strictAboutAliases : CompileService (List Scripted.EmitAnswer) Scripted.Code :=
  Scripted.service ⟨[⟨none, some "using System;", .answer ([], [lateAlias])⟩], [], []⟩

/-- Settings with one default import. -/
def withSystem : Settings :=
  { Settings.standard with defaultImports := ["System"] }

theorem ingest_probed_alias :
    ∃ report,
      (ingest MemoryStore.fileSystem strictAboutAliases withSystem ⟨"src"⟩ aliasedSource []).1 =
        .ok report ∧
      report.units.map ParsedUnit.text = ["using System;\nextern alias Lib;\nclass A {}"] ∧
      ∀ u ∈ report.units, Probed withSystem
        (exchanges MemoryStore.fileSystem strictAboutAliases withSystem ⟨"src"⟩ aliasedSource [])
        u := by
  have ht : (ingest MemoryStore.fileSystem strictAboutAliases withSystem ⟨"src"⟩ aliasedSource
      []).1.toOption.map (·.units.map ParsedUnit.text) =
        some ["using System;\nextern alias Lib;\nclass A {}"] := by
    decide +kernel
  cases h : (ingest MemoryStore.fileSystem strictAboutAliases withSystem ⟨"src"⟩ aliasedSource
    []).1 with
  | error err =>
    rw [h] at ht
    cases ht
  | ok report =>
    rw [h] at ht
    exact ⟨report, rfl, Option.some.inj ht, ingest_probed _ _ _ _ _ _ h⟩

/-- A unit may come with a tree that has errors. -/
theorem ingest_accepts_errors :
    ((ingest MemoryStore.fileSystem strictAboutAliases withSystem ⟨"src"⟩ aliasedSource
      []).1.toOption.map (·.units.map (·.tree.errorCount))) = some [1] := by
  decide +kernel

end PluginForge.Intake
