/-
The options of the command line. Arguments are taken in order: options of the program come before its
command, those of the command after it, and `--` ends the options. The first argument that is wrong
ends the reading, and so does a question for help or for the version.
-/
import PluginForge.Path
import PluginForge.Text.Number

namespace PluginForge.CommandLine

inductive LogFormat where
  | pretty
  | compact
  | json
deriving DecidableEq, Repr

def LogFormat.ofName? : String → Option LogFormat
  | "pretty" => some .pretty
  | "compact" => some .compact
  | "json" => some .json
  | _ => none

/-- What the program is to do. -/
inductive Command where
  | build (path : Option Path)
  | clean
  | paths
  | config
  | enable
  | disable
  | script (file : Path) (context : String) (timeout : Nat)
deriving DecidableEq, Repr

/-- The options of the program; those that may be given once only are absent until they are. -/
structure Options where
  base : Option Path
  compiler : Option Path
  compilerArgs : List String
  host : Option Path
  runtime : Option Path
  logFormat : Option LogFormat
  logFile : Option Path
  logLevels : List String
  verbosity : Nat
deriving DecidableEq, Repr

namespace Options

/-- The options before any argument. -/
def empty : Options := ⟨none, none, [], none, none, none, none, [], 0⟩

def basePath (o : Options) : Path :=
  o.base.getD ⟨"."⟩

def compilerPath (o : Options) : Path :=
  o.compiler.getD ⟨"hotbuild-compiler"⟩

end Options

/-- How arguments are understood. -/
inductive Request where
  | run (o : Options) (c : Command)
  | help
  | version
  /-- The arguments are wrong. -/
  | misuse
deriving DecidableEq, Repr

/-! ## Arguments -/

/-- The shape of an argument. -/
inductive Argument where
  | word (s : String)
  /-- `--name` or `--name=value`. -/
  | long (name : String) (value : Option String)
  /-- `-` and one or more letters. -/
  | short (letters : List Char)
  | endOfOptions
deriving DecidableEq, Repr

def Argument.ofText (s : String) : Argument :=
  match s.toList with
  | ['-', '-'] => .endOfOptions
  | '-' :: '-' :: r =>
    match Chars.cut? '=' r with
    | some (name, value) => .long (.ofList name) (some (.ofList value))
    | none => .long (.ofList r) none
  | '-' :: c :: r => .short (c :: r)
  | _ => .word s

/-- The value of an option: the one after its equals sign, or else the next argument, if that is a
word; and the arguments after it. -/
def takeValue? (value : Option String) (rest : List String) : Option (String × List String) :=
  match value, rest with
  | some v, rest => some (v, rest)
  | none, v :: rest =>
    match Argument.ofText v with
    | .word v => some (v, rest)
    | _ => none
  | none, [] => none

/-- A path must not be empty. -/
def pathOf? (value : String) : Option Path :=
  if value = "" then none else some ⟨value⟩

/-- Sets what may be given once only. -/
def once? {α : Type} (present value : Option α) : Option (Option α) :=
  match present, value with
  | none, some a => some (some a)
  | _, _ => none

/-- A number of 64 bits, which a plus sign may precede. -/
def number? (s : String) : Option Nat :=
  let digits := match s.toList with
    | '+' :: r => r
    | r => r
  if ! digits.isEmpty && digits.all Char.isDigit && Chars.ofDigits digits < UInt64.size then
    some (Chars.ofDigits digits)
  else none

/-! ## Commands -/

/-- Whether some letters, read up to the first that is not `v`, ask for help or are wrong; `none` if
all of them are `v`. -/
def askedByLetters? (version : Bool) : List Char → Option Request
  | [] => none
  | 'v' :: rest => if version then askedByLetters? version rest else some .misuse
  | 'h' :: _ => some .help
  | 'V' :: _ => some (if version then .version else .misuse)
  | _ => some .misuse

/-- Reads the arguments of a command that takes at most one word. -/
def readBuild (o : Options) (path : Option Path) (ended : Bool) : List String → Request
  | [] => .run o (.build path)
  | a :: rest =>
    match if ended then .word a else Argument.ofText a with
    | .word w =>
      match once? path (pathOf? w) with
      | some path => readBuild o path ended rest
      | none => .misuse
    | .long "help" none => .help
    | .long .. => .misuse
    | .short letters => (askedByLetters? false letters).getD .misuse
    | .endOfOptions => readBuild o path true rest

/-- Reads the arguments of a command that takes none. -/
def readPlain (o : Options) (c : Command) : List String → Request
  | [] => .run o c
  | a :: rest =>
    match Argument.ofText a with
    | .long "help" none => .help
    | .short letters => (askedByLetters? false letters).getD .misuse
    | .endOfOptions => if rest.isEmpty then .run o c else .misuse
    | _ => .misuse

/-- What was given so far of the arguments of a script. -/
structure ScriptArgs where
  file : Option Path
  context : Option String
  timeout : Option Nat

/-- The command that these arguments make up. -/
def ScriptArgs.request (o : Options) (s : ScriptArgs) : Request :=
  match s.file with
  | some file => .run o (.script file (s.context.getD "null") (s.timeout.getD 5000))
  | none => .misuse

/-- Reads the arguments of a script; the fuel is at least their number. -/
def readScript (o : Options) : (fuel : Nat) → ScriptArgs → Bool → List String → Request
  | _, s, _, [] => s.request o
  | 0, _, _, _ :: _ => .misuse
  | fuel + 1, s, ended, a :: rest =>
    match if ended then .word a else Argument.ofText a with
    | .word w =>
      match once? s.file (pathOf? w) with
      | some file => readScript o fuel { s with file } ended rest
      | none => .misuse
    | .long "help" none => .help
    | .long "context" value =>
      match takeValue? value rest with
      | some (v, rest) =>
        match once? s.context (some v) with
        | some context => readScript o fuel { s with context } ended rest
        | none => .misuse
      | none => .misuse
    | .long "timeout-ms" value =>
      match takeValue? value rest with
      | some (v, rest) =>
        match once? s.timeout (number? v) with
        | some timeout => readScript o fuel { s with timeout } ended rest
        | none => .misuse
      | none => .misuse
    | .long .. => .misuse
    | .short letters => (askedByLetters? false letters).getD .misuse
    | .endOfOptions => readScript o fuel s true rest

def commandNames : List String :=
  ["build", "clean", "paths", "config", "enable", "disable", "script", "help"]

/-- Reads a command and its arguments. -/
def readCommand (o : Options) (name : String) (rest : List String) : Request :=
  match name with
  | "build" => readBuild o none false rest
  | "clean" => readPlain o .clean rest
  | "paths" => readPlain o .paths rest
  | "config" => readPlain o .config rest
  | "enable" => readPlain o .enable rest
  | "disable" => readPlain o .disable rest
  | "script" => readScript o rest.length ⟨none, none, none⟩ false rest
  | "help" =>
    match rest with
    | [] => .help
    | [topic] => if topic ∈ commandNames then .help else .misuse
    | _ => .misuse
  | _ => .misuse

/-! ## Options of the program -/

/-- Sets an option that takes a value. -/
def Options.set? (o : Options) (name value : String) : Option Options :=
  match name with
  | "base" => (once? o.base (pathOf? value)).map fun base => { o with base }
  | "compiler" => (once? o.compiler (pathOf? value)).map fun compiler => { o with compiler }
  | "compiler-arg" => some { o with compilerArgs := o.compilerArgs ++ [value] }
  | "host" => (once? o.host (pathOf? value)).map fun host => { o with host }
  | "runtime" => (once? o.runtime (pathOf? value)).map fun runtime => { o with runtime }
  | "log-format" =>
    (once? o.logFormat (LogFormat.ofName? value)).map fun logFormat => { o with logFormat }
  | "log-file" => (once? o.logFile (pathOf? value)).map fun logFile => { o with logFile }
  | "log" => some { o with logLevels := o.logLevels ++ [value] }
  | _ => none

/-- The options that take a value. -/
def valueOptions : List String :=
  ["base", "compiler", "compiler-arg", "host", "runtime", "log-format", "log-file", "log"]

/-- Reads the arguments from the program's own options on; the fuel is at least their number. -/
def readFrom : (fuel : Nat) → Options → List String → Request
  | 0, _, _ => .misuse
  | _ + 1, _, [] => .misuse
  | fuel + 1, o, a :: rest =>
    match Argument.ofText a with
    | .word name => readCommand o name rest
    | .endOfOptions => .misuse
    | .long "help" none => .help
    | .long "version" none => .version
    | .long "verbose" none => readFrom fuel { o with verbosity := o.verbosity + 1 } rest
    | .long name value =>
      if name ∈ valueOptions then
        match takeValue? value rest with
        | some (v, rest) =>
          match o.set? name v with
          | some o => readFrom fuel o rest
          | none => .misuse
        | none => .misuse
      else .misuse
    | .short letters =>
      match askedByLetters? true letters with
      | some request => request
      | none => readFrom fuel { o with verbosity := o.verbosity + letters.length } rest

/-- Reads the arguments of the program. -/
def Request.ofArgs (args : List String) : Request :=
  readFrom args.length .empty args

end PluginForge.CommandLine
