/-
Taking in sources: candidate files are listed and counted, and each is read, decoded, rid of the
configured imports, parsed, and given the default imports it lacks. A file that cannot be used is
skipped; only a compiler without memory ends the whole pass.
-/
import PluginForge.Compiler.Service
import PluginForge.Encoding.Source
import PluginForge.Grouping
import PluginForge.Import.Edit
import PluginForge.Intake.Skipped
import PluginForge.Settings.Basic

namespace PluginForge

/-- Why a whole intake fails. -/
inductive IntakeError where
  | rootCreated (root : Path)
  | tooManyFiles (count limit : Nat)
  | tooLarge (size limit : Nat)
  | store (e : StoreError)
  | service (e : ServiceError)
deriving DecidableEq, Repr

def IntakeError.message : IntakeError → String
  | .rootCreated root => "source directory did not exist and was created: " ++ root.text
  | .tooManyFiles count limit =>
    "too many source files: " ++ toString count ++ " (limit " ++ toString limit ++ ")"
  | .tooLarge size limit =>
    "source files too large: " ++ toString size ++ " MB (limit " ++ toString limit ++ " MB)"
  | .store e => "cannot enumerate sources: " ++ e.message
  | .service e => e.message

/-- The parsed files in the order of the listing, and the skipped ones. -/
structure IntakeReport where
  units : List ParsedUnit
  skipped : List SkippedFile
deriving Repr

/-- A file that was read: its bytes and the text they stand for. -/
structure SourceUnit where
  path : Path
  bytes : Bytes
  encoding : Encoding
  text : String
deriving Repr

namespace Intake

/-- The extension of sources. -/
def sourceExtension : String := "cs"

/-- The bytes in one of the units in which sizes are limited. -/
def mebibyte : Nat := 1024 * 1024

variable {φ σ ρ : Type} (fs : FileSystem φ) (service : CompileService σ ρ) (settings : Settings)

/-! ## Discovery -/

/-- The total size of some files, in a word of 64 bits. As in a release build the sum is not checked:
it starts over at `2 ^ 64`. -/
def totalSize (files : φ) (paths : List Path) : Except StoreError UInt64 :=
  paths.foldlM (fun total p => (fs.size p files).map (total + .ofNat ·)) 0

/-- The sources below a root, if they are within the limits. A root that is not there is made. -/
def discover (root : Path) (files : φ) : Except IntakeError (List Path) × φ :=
  if fs.isDir root files then
    match fs.list root sourceExtension settings.includeSubdirectories files with
    | .error e => (.error (.store e), files)
    | .ok paths =>
      if settings.maxFiles.toNat < paths.length then
        (.error (.tooManyFiles paths.length settings.maxFiles.toNat), files)
      else
        match totalSize fs files paths with
        | .error e => (.error (.store e), files)
        | .ok total =>
          if settings.maxSizeMB.toNat < total.toNat / mebibyte then
            (.error (.tooLarge (total.toNat / mebibyte) settings.maxSizeMB.toNat), files)
          else (.ok paths, files)
  else
    match fs.makeDir root files with
    | (.ok (), files) => (.error (.rootCreated root), files)
    | (.error e, files) => (.error (.store e), files)

/-! ## One file -/

/-- Reads and decodes a file; an empty one gives nothing. -/
def readUnit (p : Path) (files : φ) : Except StoreError (Option SourceUnit) := do
  if (← fs.size p files) = 0 then return none
  else
    let bytes ← fs.read p files
    let (text, encoding) := Encoding.decode bytes
    return some ⟨p, bytes, encoding, text⟩

/-- What becomes of a file. -/
inductive FileOutcome where
  | parsed (u : ParsedUnit)
  | skipped (r : SkipReason)

def parse (p : Path) (text : String) (s : σ) : Except ServiceError SyntaxTree × σ :=
  let (r, s) := service.parse ⟨p, text⟩ settings.languageVersion s
  (r.guarded, s)

/-- Parses a text and adds the default imports that its tree shows to be missing; the tree is then
that of the new text. -/
def parseText (p : Path) (text : String) (s : σ) : Except ServiceError FileOutcome × σ :=
  match parse service settings p text s with
  | (.error e, s) => (.error e, s)
  | (.ok probe, s) =>
    if probe.errorCount ≠ 0 then (.ok (.skipped (.invalid probe.errorCount)), s)
    else
      let completed := Import.addDefaults text probe.importTexts settings.defaultImports
      if completed = text then (.ok (.parsed (.ofTree p text probe)), s)
      else
        match parse service settings p completed s with
        | (.error e, s) => (.error e, s)
        | (.ok tree, s) => (.ok (.parsed (.ofTree p completed tree)), s)

/-- Takes in one file. -/
def ingestFile (files : φ) (p : Path) (s : σ) : Except ServiceError FileOutcome × σ :=
  match readUnit fs p files with
  | .error e => (.ok (.skipped (.readFailed e.message)), s)
  | .ok none => (.ok (.skipped .empty), s)
  | .ok (some u) =>
    let text := Import.strip u.text settings.removedImports
    if Text.isBlank text then (.ok (.skipped .blank), s)
    else parseText service settings p text s

/-! ## All files -/

/-- Takes in some files; the report so far is reversed. -/
def ingestAll (files : φ) (report : IntakeReport) :
    List Path → σ → Except IntakeError IntakeReport × σ
  | [], s => (.ok ⟨report.units.reverse, report.skipped.reverse⟩, s)
  | p :: rest, s =>
    match ingestFile fs service settings files p s with
    | (.ok (.parsed u), s) => ingestAll files { report with units := u :: report.units } rest s
    | (.ok (.skipped r), s) =>
      ingestAll files { report with skipped := ⟨p, r⟩ :: report.skipped } rest s
    | (.error e, s) =>
      if e.isOutOfMemory then (.error (.service e), s)
      else
        ingestAll files { report with skipped := ⟨p, .parseFailed e.message⟩ :: report.skipped }
          rest s

/-- Takes in the sources below a root. -/
def ingest (root : Path) (files : φ) (s : σ) : Except IntakeError IntakeReport × φ × σ :=
  match discover fs settings root files with
  | (.error e, files) => (.error e, files, s)
  | (.ok paths, files) =>
    let (r, s) := ingestAll fs service settings files ⟨[], []⟩ paths s
    (r, files, s)

end Intake
end PluginForge
