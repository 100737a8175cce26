/-
A run of the program: the settings are loaded, or made where there are none, and the command is
carried out in the workspace.
-/
import PluginForge.CommandLine.Display
import PluginForge.CommandLine.Options
import PluginForge.Compiler.Helper
import PluginForge.Engine.Build
import PluginForge.Engine.Scripts
import PluginForge.Engine.Upkeep
import PluginForge.Settings.LogLevels

namespace PluginForge.CommandLine

/-- What a run takes from outside: the time at which each group is reported, and how many
milliseconds a build takes. -/
structure Moment where
  clock : Nat → TimeStamp
  milliseconds : Nat

/-- What a failed operation of the file system is put down to. -/
def reason : StoreError → String
  | .notFound _ => "No such file or directory (os error 2)"
  | .permissionDenied _ => "Permission denied (os error 13)"
  | .io detail => detail
  | e => e.message

variable {φ σ : Type} (fs : FileSystem φ)

/-! ## Settings -/

/-- Writes the settings of a workspace. -/
def saveSettings (w : Workspace) (settings : Settings) (files : φ) : Except String Unit × φ :=
  match fs.makeDir w.settingsPath.parent files with
  | (.error e, files) =>
    (.error ("cannot create '" ++ w.settingsPath.parent.text ++ "': " ++ reason e), files)
  | (.ok (), files) =>
    match fs.write w.settingsPath (Encoding.toUtf8 settings.render) files with
    | (.error e, files) =>
      (.error ("cannot write '" ++ w.settingsPath.text ++ "': " ++ reason e), files)
    | (.ok (), files) => (.ok (), files)

/-- Reads the settings of a workspace; where there are none, the standard ones hold. -/
def readSettings (w : Workspace) (files : φ) : Except String Settings :=
  let place := "'" ++ w.settingsPath.text ++ "': "
  if fs.exists w.settingsPath files then
    match fs.read w.settingsPath files with
    | .error e => .error ("cannot read " ++ place ++ reason e)
    | .ok bytes =>
      match Encoding.utf8? bytes with
      | none => .error ("cannot read " ++ place ++ "stream did not contain valid UTF-8")
      | some text =>
        match Settings.parse? text with
        | some settings => .ok settings
        | none => .error ("cannot parse " ++ place ++ "not a settings document")
  else .ok .standard

/-- Reads the settings and writes them back, so that the document has every member. -/
def loadSettings (w : Workspace) (files : φ) : Except String Settings × φ :=
  match readSettings fs w files with
  | .error message => (.error message, files)
  | .ok settings =>
    match saveSettings fs w settings files with
    | (.error message, files) => (.error message, files)
    | (.ok (), files) => (.ok settings, files)

/-- Opens the log file, which is made if it is not there. -/
def openLog (logFile : Option Path) (files : φ) : Except StoreError Unit × φ :=
  match logFile with
  | none => (.ok (), files)
  | some p => if fs.isFile p files then (.ok (), files) else fs.write p [] files

/-! ## Commands -/

/-- Switches builds on or off. -/
def setEnabled (w : Workspace) (settings : Settings) (enabled : Bool) (files : φ) : Output × φ :=
  match saveSettings fs w { settings with enabled } files with
  | (.ok (), files) =>
    (.shown ["compilation " ++ if enabled then "enabled" else "disabled"], files)
  | (.error message, files) => (.error message, files)

/-- The engine that the options ask for. -/
def engineOf (helper : Helper σ) (o : Options) (w : Workspace) (settings : Settings) :
    Engine φ σ HelperScript where
  settings
  workspace := w
  roots := .ofWorkspace w o.host o.runtime
  store := fs
  service := helper.service
  extraAssemblies := []

/-- Builds everything below a directory and shows what came of it. -/
def build (e : Engine φ σ HelperScript) (moment : Moment) (root : Path)
    (s : EngineState φ σ HelperScript) : Output × EngineState φ σ HelperScript :=
  match e.buildDir root moment.clock s with
  | (.ok report, s) => (showReport moment.milliseconds report, s)
  | (.error f, s) => (showFailure f, s)

/-- Removes the sources. -/
def clean (e : Engine φ σ HelperScript) (s : EngineState φ σ HelperScript) :
    Output × EngineState φ σ HelperScript :=
  match e.cleanSources s with
  | (.ok n, s) =>
    (.shown ["✅ removed " ++ toString n ++ " file(s) from " ++ e.workspace.sourceDir.text], s)
  | (.error _, s) => (.failed [], s)

/-- Runs a script file with a context that is given as text. -/
def script (e : Engine φ σ HelperScript) (file : Path) (context : String) (limit : Nat)
    (s : EngineState φ σ HelperScript) : Output × EngineState φ σ HelperScript :=
  match Json.read? context with
  | none => (.error "context is not JSON: not a JSON text", s)
  | some context =>
    match e.runScriptFile file context limit s with
    | (.ok value, s) => (.shown [value.render], s)
    | (.error err, s) => (.failed ["❌ " ++ err.message], s)

/-- Carries out a command with the engine. -/
def withEngine (e : Engine φ σ HelperScript) (moment : Moment)
    (s : EngineState φ σ HelperScript) :
    Command → Output × EngineState φ σ HelperScript
  | .build path => build e moment (path.getD e.workspace.sourceDir) s
  | .clean => clean e s
  | .paths => (.shown [(e.describePaths s).display], s)
  | .script file context limit => script e file context limit s
  | .config | .enable | .disable => (.shown [], s)

/-- Carries out a command. -/
def carryOut (helper : Helper σ) (moment : Moment) (o : Options) (c : Command) (w : Workspace)
    (settings : Settings) (files : φ) (s : σ) : Output × φ × σ :=
  match c with
  | .config => (.shown ["# " ++ w.settingsPath.text, settings.render], files, s)
  | .enable =>
    let (output, files) := setEnabled fs w settings true files
    (output, files, s)
  | .disable =>
    let (output, files) := setEnabled fs w settings false files
    (output, files, s)
  | c =>
    let (output, state) :=
      withEngine (engineOf fs helper o w settings) moment (.start files s) c
    (output, state.files, state.service)

/-! ## The program -/

/-- Carries out a command after the log levels, the log file and the settings were seen to. -/
def perform (helper : Helper σ) (moment : Moment) (o : Options) (c : Command) (files : φ) (s : σ) :
    Output × φ × σ :=
  match LogLevels.ofArgs o.verbosity o.logLevels with
  | .error e => (.error e.message, files, s)
  | .ok _ =>
    match openLog fs o.logFile files with
    | (.error e, files) => (.error ("cannot open log file: " ++ reason e), files, s)
    | (.ok (), files) =>
      let w : Workspace := ⟨o.basePath⟩
      match loadSettings fs w files with
      | (.error message, files) => (.error message, files, s)
      | (.ok settings, files) => carryOut fs helper moment o c w settings files s

/-- What is shown to those who ask for help. -/
def helpLines : List String := [
  "Hot compilation of plugin sources against a running host",
  "",
  "Usage: hotbuild [OPTIONS] <build|clean|paths|config|enable|disable|script>"]

/-- What is shown where there is nothing to be done. -/
def Request.reply : Request → Output
  | .version => .shown ["hotbuild 0.1.0"]
  | .misuse => { Output.failed ["error: wrong arguments; see hotbuild --help"] with exit := 2 }
  | _ => .shown helpLines

/-- A run of the program. -/
def run (helper : Helper σ) (moment : Moment) (args : List String) (files : φ) (s : σ) :
    Output × φ × σ :=
  match Request.ofArgs args with
  | .run o c => perform fs helper moment o c files s
  | request => (request.reply, files, s)

end PluginForge.CommandLine
