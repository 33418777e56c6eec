/-!
# Command-line arguments

The commands and their options, and how a list of words is read as one of them.
-/

namespace Quire.Command

/-- The options that say how a converter is made. -/
structure ConverterArguments where
  config : Option String := none
  backend : Option String := none
  templateDirs : List String := []
  templateEngine : Option String := none
  templateCache : Bool := false
  autoescape : Bool := false

/-- A command with its arguments. -/
inductive Invocation where
  | convert (input : String) (output : Option String) (converter : ConverterArguments)
  | resolve (name : String) (explain : Bool) (converter : ConverterArguments)
  | backends

/-- Why no command is run. -/
inductive Stop where
  /-- The words are no command. -/
  | usage
  /-- A description was asked for. -/
  | help
  | version

/-- The options of all commands. -/
inductive Opt where
  | verbose
  | quiet
  | help
  | version
  | config
  | backend
  | templateDir
  | templateEngine
  | templateCache
  | autoescape
  | output
  | explain
deriving DecidableEq

namespace Opt

/-- The long name. -/
def long : Opt → String
  | verbose => "verbose"
  | quiet => "quiet"
  | help => "help"
  | version => "version"
  | config => "config"
  | backend => "backend"
  | templateDir => "template-dir"
  | templateEngine => "template-engine"
  | templateCache => "template-cache"
  | autoescape => "autoescape"
  | output => "output"
  | explain => "explain"

/-- The letter, if there is one. -/
def short? : Opt → Option Char
  | verbose => some 'v'
  | quiet => some 'q'
  | help => some 'h'
  | version => some 'V'
  | config => some 'c'
  | backend => some 'b'
  | templateDir => some 'T'
  | templateEngine => some 'E'
  | output => some 'o'
  | templateCache | autoescape | explain => none

/-- Whether the option has a value. -/
def takesValue : Opt → Bool
  | config | backend | templateDir | templateEngine | output => true
  | _ => false

/-- Whether the value is a path, which is never empty. -/
def takesPath : Opt → Bool
  | config | templateDir | output => true
  | _ => false

/-- Whether the option may be given more than once. -/
def repeats : Opt → Bool
  | verbose | templateDir => true
  | _ => false

end Opt

/-- What one part of the command line admits: its options and the greatest number of other words. -/
structure Grammar where
  options : List Opt
  positionals : Nat

/-- The options that stand before or after the command. -/
def everywhere : List Opt := [.verbose, .quiet, .help]

/-- The options of a converter. -/
def ofConverter : List Opt :=
  [.config, .backend, .templateDir, .templateEngine, .templateCache, .autoescape]

/-- What follows `convert`. -/
def convertGrammar : Grammar := ⟨everywhere ++ ofConverter ++ [.output], 1⟩

/-- What follows `resolve`. -/
def resolveGrammar : Grammar := ⟨everywhere ++ ofConverter ++ [.explain], 1⟩

/-- What follows `backends`. -/
def backendsGrammar : Grammar := ⟨everywhere, 0⟩

/-- What stands before the command. -/
def commonOptions : List Opt := everywhere ++ [.version]

/-- The options and words read so far. -/
structure Given where
  /-- The options in order, each with its value if it has one. -/
  options : List (Opt × String) := []
  positionals : List String := []

namespace Given

/-- Adds an option. -/
def add (given : Given) (opt : Opt) (value : String) : Except Stop Given :=
  if opt = .help then .error .help
  else if opt = .version then .error .version
  else if opt.takesPath && value.isEmpty then .error .usage
  else if !opt.repeats && given.options.any (·.1 == opt) then .error .usage
  else .ok { given with options := given.options ++ [(opt, value)] }

/-- The values of an option. -/
def values (given : Given) (opt : Opt) : List String :=
  (given.options.filter (·.1 == opt)).map (·.2)

/-- The value of an option. -/
def value? (given : Given) (opt : Opt) : Option String :=
  (given.values opt).head?

/-- Whether an option is given. -/
def has (given : Given) (opt : Opt) : Bool :=
  given.options.any (·.1 == opt)

/-- The options of a converter. -/
def converter (given : Given) : ConverterArguments where
  config := given.value? .config
  backend := given.value? .backend
  templateDirs := given.values .templateDir
  templateEngine := given.value? .templateEngine
  templateCache := given.has .templateCache
  autoescape := given.has .autoescape

end Given

/-- Takes the value of an option from the next word, which must not look like an option. -/
def nextValue : List String → Except Stop (String × List String)
  | [] => .error .usage
  | word :: words =>
    if word.toList.head? == some '-' && word != "-" then .error .usage else .ok (word, words)

/-- Reads a word that starts with two hyphens. -/
def readLong (options : List Opt) (given : Given) (word : List Char) (words : List String) :
    Except Stop (Given × List String) := do
  let name := String.ofList (word.takeWhile (· != '='))
  let attached := (word.dropWhile (· != '=')).drop 1
  let hasValue := word.contains '='
  match options.find? (·.long == name) with
  | none => .error .usage
  | some opt =>
    if opt.takesValue then
      let (value, words) ←
        if hasValue then .ok (String.ofList attached, words) else nextValue words
      return (← given.add opt value, words)
    else if hasValue then .error .usage
    else return (← given.add opt "", words)

/-- Reads the letters of a word that starts with one hyphen. -/
def readShort (options : List Opt) (given : Given) :
    List Char → List String → Except Stop (Given × List String)
  | [], words => .ok (given, words)
  | c :: letters, words => do
    match options.find? (·.short? == some c) with
    | none => .error .usage
    | some opt =>
      if opt.takesValue then
        match letters with
        | [] =>
          let (value, words) ← nextValue words
          return (← given.add opt value, words)
        | '=' :: value => return (← given.add opt (String.ofList value), words)
        | value => return (← given.add opt (String.ofList value), words)
      else readShort options (← given.add opt "") letters words
termination_by letters => letters

/-- Reads the options before a command, and gives the words from the command on. -/
def readCommon : Nat → Given → List String → Except Stop (List String)
  | 0, _, _ => .error .usage
  | _, _, [] => .error .usage
  | fuel + 1, given, word :: words => do
    match word.toList with
    | ['-'] => .ok (word :: words)
    | ['-', '-'] => .error .usage
    | '-' :: '-' :: long =>
      let (given, words) ← readLong commonOptions given long words
      readCommon fuel given words
    | '-' :: letters =>
      let (given, words) ← readShort commonOptions given letters words
      readCommon fuel given words
    | _ => .ok (word :: words)

/-- Adds a word that is no option. -/
def addPositional (grammar : Grammar) (given : Given) (word : String) : Except Stop Given :=
  if given.positionals.length < grammar.positionals then
    .ok { given with positionals := given.positionals ++ [word] }
  else .error .usage

/-- Reads the words behind a command. -/
def readArguments (grammar : Grammar) : Nat → Given → List String → Except Stop Given
  | 0, _, _ => .error .usage
  | _, given, [] => .ok given
  | fuel + 1, given, word :: words => do
    match word.toList with
    | ['-'] => readArguments grammar fuel (← addPositional grammar given word) words
    | ['-', '-'] => words.foldlM (addPositional grammar) given
    | '-' :: '-' :: long =>
      let (given, words) ← readLong grammar.options given long words
      readArguments grammar fuel given words
    | '-' :: letters =>
      let (given, words) ← readShort grammar.options given letters words
      readArguments grammar fuel given words
    | _ => readArguments grammar fuel (← addPositional grammar given word) words

/-- Reads the words behind a command that asks for a description. -/
def readHelp : List String → Stop
  | [] => .help
  | [command] =>
    if command = "convert" ∨ command = "resolve" ∨ command = "backends" ∨ command = "help" then
      .help
    else .usage
  | _ => .usage

/-- The command that words stand for. -/
def Invocation.read (words : List String) : Except Stop Invocation := do
  match ← readCommon (words.length + 1) {} words with
  | [] => .error .usage
  | command :: rest =>
    let arguments (grammar : Grammar) := readArguments grammar (rest.length + 1) {} rest
    if command = "convert" then
      let given ← arguments convertGrammar
      match given.positionals with
      | input :: _ => .ok (.convert input (given.value? .output) given.converter)
      | [] => .error .usage
    else if command = "resolve" then
      let given ← arguments resolveGrammar
      match given.positionals with
      | name :: _ => .ok (.resolve name (given.has .explain) given.converter)
      | [] => .error .usage
    else if command = "backends" then
      let _ ← arguments backendsGrammar
      .ok .backends
    else if command = "help" then .error (readHelp rest)
    else .error .usage

end Quire.Command
