import Quire.Command.Settings
import Quire.Converter.Assembly
import Quire.Converter.Document
import Quire.Node.Json

/-!
# Running commands

What a command prints, reports and writes, as a function of its words, the standard input, the host
and the files. A run stops at the first stage that fails.
-/

namespace Quire.Command

/-- What a failed run reports: what could not be done, and why. -/
structure Report where
  message : String
  cause : Option String

/-- What a run comes to. -/
structure Outcome where
  exit : Nat
  stdout : String
  report : Option Report
  files : FileTree

/-- A run's surroundings, and the compiler of the template language. -/
structure Surroundings where
  stdin : ByteArray
  compiler : Template.Compiler
  host : Host
  files : FileTree

/-- The host of a process, given the value of the variable that names the platform. -/
def detectHost (platform : Option String) (workingDir : String) : Host :=
  ⟨(platform.bind Platform.ofName?).getD .native, workingDir⟩

/-- A stage that may fail with a report. -/
abbrev Stage := Except Report

/-- A stage that says what could not be done if it fails. -/
def stage {ε α : Type} (message : String) (cause : ε → Option String) : Except ε α → Stage α
  | .ok value => .ok value
  | .error e => .error ⟨message, cause e⟩

/-- A stage of reading or writing a file. -/
def fileStage {α : Type} (message : String) : Except FileError α → Stage α :=
  stage message fun e => some e.message

/-- The settings for the arguments. -/
def loadSettings (arguments : ConverterArguments) (files : FileTree) : Stage Settings := do
  match arguments.config with
  | none => return .merge {} arguments
  | some path =>
    let text ← fileStage ("Failed to read config file " ++ path) (files.readText path)
    match Config.parse path text with
    | some config => return .merge config arguments
    | none => .error ⟨"Failed to parse config file " ++ path, none⟩

/-- The text of a run's input, which is a file or the standard input. -/
def readInput (input : String) (around : Surroundings) : Stage String :=
  if input = "-" then
    fileStage "Failed to read node tree from stdin" (FileTree.decode around.stdin)
  else fileStage ("Failed to read input file: " ++ input) (around.files.readText input)

/-- The converted input, ended by a line end. -/
def convertInput (input : String) (arguments : ConverterArguments) (around : Surroundings) :
    Stage String := do
  let settings ← loadSettings arguments around.files
  let source ← readInput input around
  let node ← stage ("Failed to parse node tree from " ++ input) (fun _ => none) (Node.parse source)
  let converter ←
    stage ("Failed to set up the " ++ settings.backend ++ " converter")
      (fun e : UnknownEngine => some e.message)
      ((Assembly.on (κ := Unit) around.compiler around.host).create around.files 0
        settings.backend settings.options)
  let (output, _) := (converter.document around.files node).run (Template.Memory.fresh ())
  let output ← stage ("Failed to convert " ++ input) (fun e => some e.message) output
  return output ++ "\n"

/-- A run that fails after it has printed something. -/
def fail (report : Report) (stdout : String) (files : FileTree) : Outcome :=
  ⟨1, stdout, some report, files⟩

/-- A run that succeeds. -/
def succeed (stdout : String) (files : FileTree) : Outcome :=
  ⟨0, stdout, none, files⟩

/-- Runs the command that converts a document. -/
def runConvert (input : String) (output : Option String) (arguments : ConverterArguments)
    (around : Surroundings) : Outcome :=
  match convertInput input arguments around with
  | .error report => fail report "" around.files
  | .ok text =>
    match output with
    | none => succeed text around.files
    | some path =>
      match fileStage ("Failed to write output file: " ++ path)
          (around.files.write path text.toUTF8) with
      | .error report => fail report "" around.files
      | .ok files => succeed "" files

/-- The search for templates with some settings, if there are directories to be searched. -/
def searchFor (compiler : Template.Compiler) (host : Host) (files : FileTree)
    (settings : Settings) : Except UnknownEngine (Option Template.Search) :=
  let backend := Backend.ofName settings.backend
  let options := host.fillIn files backend settings.options
  match options.templateDirs with
  | none => .ok none
  | some directories =>
    match Template.Engine.ofName? compiler options.templateEngine options.autoescape with
    | none => .error ⟨options.templateEngine⟩
    | some engine =>
      let base :=
        match options.baseDir with
        | some dir => host.resolvePath dir
        | none => host.workingDir
      .ok (some (.inDirectories directories base engine.name backend.name engine.extension))

/-- What there is for a name. -/
inductive Answer where
  /-- There are no template directories. -/
  | unconfigured
  /-- There is a template. -/
  | found (path : String)
  /-- There are template directories without a template for the name. -/
  | missing

namespace Answer

/-- The backend whose built-in converter is named for want of a template. -/
def builtin? (backend : Backend) : Answer → Option Backend
  | unconfigured => some backend
  | found _ => none
  | missing => if backend.isBuiltin then some backend else none

/-- What is said of the nodes that have no template. -/
def fallback (backend : Backend) (answer : Answer) : String :=
  match answer.builtin? backend with
  | some named => "built-in " ++ named.name ++ " converter"
  | none => "not convertible"

/-- The wording of an answer. -/
def text (backend : Backend) : Answer → String
  | unconfigured => "no template directories configured; " ++ unconfigured.fallback backend
  | found path => path
  | missing => "no template; " ++ missing.fallback backend

end Answer

/-- Why there is no answer for a name. -/
inductive Refusal where
  | engine (cause : UnknownEngine)
  | lookup (cause : Template.LookupError)

/-- What is reported when there is no answer for a name. -/
def Refusal.report (name : String) : Refusal → Report
  | engine cause => ⟨cause.message, none⟩
  | lookup cause => ⟨"Failed to resolve template for " ++ name, some cause.message⟩

/-- What there is for a name with some settings. -/
def answer (compiler : Template.Compiler) (host : Host) (files : FileTree) (settings : Settings)
    (name : String) : Except Refusal Answer :=
  match searchFor compiler host files settings with
  | .error e => .error (.engine e)
  | .ok none => .ok .unconfigured
  | .ok (some search) =>
    match search.resolve files name with
    | .error e => .error (.lookup e)
    | .ok (some template) => .ok (.found template.path)
    | .ok none => .ok .missing

/-- One line for each path that is tried for a name, with a mark on those that are files. -/
def explanation (compiler : Template.Compiler) (host : Host) (files : FileTree)
    (settings : Settings) (name : String) : String :=
  match searchFor compiler host files settings with
  | .ok (some search) =>
    String.join ((search.candidates files name).map fun path =>
      (if files.isFile path then "* " else "  ") ++ path ++ "\n")
  | _ => ""

/-- Runs the command that shows which template a name has. -/
def runResolve (name : String) (explain : Bool) (arguments : ConverterArguments)
    (around : Surroundings) : Outcome :=
  match loadSettings arguments around.files with
  | .error report => fail report "" around.files
  | .ok settings =>
    let explained :=
      if explain then explanation around.compiler around.host around.files settings name else ""
    match answer around.compiler around.host around.files settings name with
    | .error refusal => fail (refusal.report name) explained around.files
    | .ok answer =>
      succeed
        (explained ++ name ++ ": " ++ answer.text (Backend.ofName settings.backend) ++ "\n")
        around.files

/-- The lists of backends, engines and kinds of nodes. -/
def listing : String :=
  let entries (names : List String) := String.join (names.map fun name => "  " ++ name ++ "\n")
  "Built-in backends:\n" ++ entries (Backend.builtin.map (·.name)) ++
    entries [Backend.revealjs.name ++ " (templates only)"] ++
    "Template engines:\n" ++ entries Template.Engine.names ++
    "Node kinds:\n" ++ entries Kind.names

/-- The name and version of the program. -/
def versionLine : String := "docconv 0.1.0\n"

/-- Runs a command. -/
def Invocation.run (invocation : Invocation) (around : Surroundings) : Outcome :=
  match invocation with
  | .convert input output converter => runConvert input output converter around
  | .resolve name explain converter => runResolve name explain converter around
  | .backends => succeed listing around.files

/-- Runs the command that words stand for. -/
def run (compiler : Template.Compiler) (words : List String) (stdin : ByteArray)
    (platform : Option String) (workingDir : String) (files : FileTree) : Outcome :=
  match Invocation.read words with
  | .error .usage => ⟨2, "", none, files⟩
  | .error .help => succeed "" files
  | .error .version => succeed versionLine files
  | .ok invocation => invocation.run ⟨stdin, compiler, detectHost platform workingDir, files⟩

end Quire.Command
