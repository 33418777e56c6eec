import Quire.Command.Run
import Quire.Proofs.Files.Writing
import Quire.Proofs.Template.Layer

/-!
# The stages of a conversion

Converting a document reads and parses the configuration file, reads and parses the input, sets a
converter up, converts and writes. Each stage can fail on what it is given by the ones before it. A
run reports the first stage that fails and then has printed and changed nothing; if none fails, the
one thing it changes is its output.

* `Fault`: how each stage fails, and what is reported.
* `Fault.phase_eq`: the message tells the stage.
* `convertInput_cases`: a conversion gets as far as the first fault.
* `Alike`: runs that differ in where their input comes from.
* `convert_all_or_nothing`: the run of the command.
-/

namespace Quire.Command

open Template (Memory)

/-- The stages of a conversion. -/
inductive Phase where
  | readConfig
  | parseConfig
  | readInput
  | parseTree
  | setUp
  | convert
  | write
deriving DecidableEq

/-- The place of a stage in the order. -/
def Phase.number : Phase → Nat
  | readConfig => 0
  | parseConfig => 1
  | readInput => 2
  | parseTree => 3
  | setUp => 4
  | convert => 5
  | write => 6

/-- The first characters of the messages about a stage. -/
def Phase.openings : Phase → List String
  | readConfig => ["Failed to read co"]
  | parseConfig => ["Failed to parse c"]
  | readInput => ["Failed to read no", "Failed to read in"]
  | parseTree => ["Failed to parse n"]
  | setUp => ["Failed to set up "]
  | convert => ["Failed to convert"]
  | write => ["Failed to write o"]

lemma Phase.number_inj {phase phase' : Phase} (same : phase.number = phase'.number) :
    phase = phase' := by
  cases phase <;> cases phase' <;> first | rfl | cases same

/-- No two stages have messages that begin alike. -/
lemma Phase.eq_of_openings {phase phase' : Phase} {opening : String}
    (begins : opening ∈ phase.openings) (begins' : opening ∈ phase'.openings) : phase = phase' := by
  have apart : ∀ opening ∈ phase.openings, opening ∈ phase'.openings → phase = phase' := by
    cases phase <;> cases phase' <;> decide
  exact apart opening begins begins'

/-- The converter for settings. -/
def setUp (around : Surroundings) (settings : Settings) :
    Except UnknownEngine (Converter (Memory Unit)) :=
  (Assembly.on around.compiler around.host).create around.files 0 settings.backend settings.options

/-- What a converter makes of a document. -/
def converted (around : Surroundings) (converter : Converter (Memory Unit)) (node : Node) :
    Except ConvertError String :=
  ((converter.document around.files node).run (Memory.fresh ())).1

section

variable (input : String) (output : Option String) (arguments : ConverterArguments)
  (around : Surroundings)

/-- The converter and the document that are there before the conversion. -/
inductive Ready : Converter (Memory Unit) → Node → Prop
  | intro {settings source converter node}
      (loaded : loadSettings arguments around.files = .ok settings)
      (read : readInput input around = .ok source) (parsed : Node.parse source = .ok node)
      (made : setUp around settings = .ok converter) : Ready converter node

/-- How a stage fails on what it is given, and what is reported. -/
inductive Fault : Phase → Report → Prop
  | readConfig {path e} (given : arguments.config = some path)
      (failed : around.files.readText path = .error e) :
      Fault .readConfig ⟨"Failed to read config file " ++ path, some e.message⟩
  | parseConfig {path text} (given : arguments.config = some path)
      (read : around.files.readText path = .ok text) (failed : Config.parse path text = none) :
      Fault .parseConfig ⟨"Failed to parse config file " ++ path, none⟩
  | readStdin {e} (given : input = "-") (failed : FileTree.decode around.stdin = .error e) :
      Fault .readInput ⟨"Failed to read node tree from stdin", some e.message⟩
  | readInput {e} (given : input ≠ "-") (failed : around.files.readText input = .error e) :
      Fault .readInput ⟨"Failed to read input file: " ++ input, some e.message⟩
  | parseTree {source e} (read : readInput input around = .ok source)
      (failed : Node.parse source = .error e) :
      Fault .parseTree ⟨"Failed to parse node tree from " ++ input, none⟩
  | setUp {settings e} (loaded : loadSettings arguments around.files = .ok settings)
      (failed : setUp around settings = .error e) :
      Fault .setUp ⟨"Failed to set up the " ++ settings.backend ++ " converter", some e.message⟩
  | convert {converter node e} (ready : Ready input arguments around converter node)
      (failed : converted around converter node = .error e) :
      Fault .convert ⟨"Failed to convert " ++ input, some e.message⟩
  | write {converter node text path e} (ready : Ready input arguments around converter node)
      (made : converted around converter node = .ok text) (given : output = some path)
      (failed : around.files.write path (text ++ "\n").toUTF8 = .error e) :
      Fault .write ⟨"Failed to write output file: " ++ path, some e.message⟩

/-- A stage does not fail. -/
def Passes (phase : Phase) : Prop :=
  ∀ report, ¬Fault input output arguments around phase report

/-- No stage before the given one fails. -/
def Reaches (phase : Phase) : Prop :=
  ∀ earlier, earlier.number < phase.number → Passes input output arguments around earlier

/-- How a text is delivered: it is printed and nothing is changed, or it is in a file that is the
only change and nothing is printed. -/
def Delivered (output : Option String) (text : String) (before : FileTree) (outcome : Outcome) :
    Prop :=
  match output with
  | none => outcome = succeed text before
  | some path => ∃ target after, outcome = succeed "" after ∧
      FileTree.Overwritten path text.toUTF8 target before after ∧ after.readText path = .ok text

end

variable {input : String} {output : Option String} {arguments : ConverterArguments}
  {around : Surroundings}

/-- Before the conversion there are one converter and one document. -/
lemma Ready.unique {converter converter' : Converter (Memory Unit)} {node node' : Node}
    (ready : Ready input arguments around converter node)
    (ready' : Ready input arguments around converter' node') :
    converter = converter' ∧ node = node' := by
  obtain ⟨loaded, read, parsed, made⟩ := ready
  obtain ⟨loaded', read', parsed', made'⟩ := ready'
  cases loaded.symm.trans loaded'
  cases read.symm.trans read'
  cases parsed.symm.trans parsed'
  cases made.symm.trans made'
  exact ⟨rfl, rfl⟩

/-- What is reported begins as the messages about the stage do. -/
lemma Fault.opening {phase : Phase} {report : Report}
    (fault : Fault input output arguments around phase report) :
    String.ofList (report.message.toList.take 17) ∈ phase.openings := by
  -- 17 characters are enough, and all messages have as many before the first name in them
  cases fault <;> simp [Phase.openings]

/-- What is reported tells which stage has failed, in whichever runs. -/
lemma Fault.phase_eq {input' : String} {output' : Option String}
    {arguments' : ConverterArguments} {around' : Surroundings} {phase phase' : Phase}
    {report report' : Report} (fault : Fault input output arguments around phase report)
    (fault' : Fault input' output' arguments' around' phase' report')
    (same : report.message = report'.message) : phase = phase' :=
  Phase.eq_of_openings fault.opening (same ▸ fault'.opening)

namespace Reaches

/-- Every run gets to the first stage. -/
lemma start : Reaches input output arguments around .readConfig :=
  fun _ before => (Nat.not_lt_zero _ before).elim

/-- A stage that does not fail leads to the next one. -/
lemma next {phase phase' : Phase} (reaches : Reaches input output arguments around phase)
    (passes : Passes input output arguments around phase)
    (follows : phase'.number = phase.number + 1) :
    Reaches input output arguments around phase' := by
  intro earlier before
  obtain earlier_still | same := Nat.lt_or_eq_of_le (Nat.le_of_lt_succ (follows ▸ before))
  · exact reaches earlier earlier_still
  · exact Phase.number_inj same ▸ passes

/-- A run that gets through the last stage gets through all. -/
lemma passes (reaches : Reaches input output arguments around .write)
    (last : Passes input output arguments around .write) (phase : Phase) :
    Passes input output arguments around phase := by
  cases phase with
  | write => exact last
  | _ => exact reaches _ (by decide)

end Reaches

/-- Loading the settings fails on reading the configuration file or else on parsing it. -/
lemma loadSettings_cases (input : String) (output : Option String)
    (arguments : ConverterArguments) (around : Surroundings) :
    (∃ phase report, loadSettings arguments around.files = .error report ∧
      Fault input output arguments around phase report ∧
      Reaches input output arguments around phase) ∨
    ∃ settings, loadSettings arguments around.files = .ok settings ∧
      Reaches input output arguments around .readInput := by
  unfold loadSettings
  cases given : arguments.config with
  | none =>
    have unread : Passes input output arguments around .readConfig := by
      intro report fault
      cases fault with
      | readConfig given' failed => cases given.symm.trans given'
    have unparsed : Passes input output arguments around .parseConfig := by
      intro report fault
      cases fault with
      | parseConfig given' read failed => cases given.symm.trans given'
    exact .inr ⟨_, rfl, (Reaches.start.next unread rfl).next unparsed rfl⟩
  | some path =>
    cases read : around.files.readText path with
    | error e =>
      refine .inl ⟨.readConfig, _, ?_, .readConfig given read, .start⟩
      simp only [read, fileStage, stage, bind, Except.bind]
    | ok text =>
      have passes : Passes input output arguments around .readConfig := by
        intro report fault
        cases fault with
        | readConfig given' failed =>
          cases given.symm.trans given'
          cases read.symm.trans failed
      have reaches : Reaches input output arguments around .parseConfig :=
        Reaches.start.next passes rfl
      cases parsed : Config.parse path text with
      | none =>
        refine .inl ⟨.parseConfig, _, ?_, .parseConfig given read parsed, reaches⟩
        simp only [read, parsed, fileStage, stage, bind, Except.bind]
      | some config =>
        have passes : Passes input output arguments around .parseConfig := by
          intro report fault
          cases fault with
          | parseConfig given' read' failed =>
            cases given.symm.trans given'
            cases read.symm.trans read'
            cases parsed.symm.trans failed
        refine .inr ⟨.merge config arguments, ?_, reaches.next passes rfl⟩
        simp only [read, parsed, fileStage, stage, bind, Except.bind]
        rfl

/-- Reading the input fails on the standard input or on the file that is named. -/
lemma fault_of_readInput {report : Report} (output : Option String)
    (arguments : ConverterArguments) (failed : readInput input around = .error report) :
    Fault input output arguments around .readInput report := by
  unfold readInput at failed
  split at failed
  next named =>
    cases decoded : FileTree.decode around.stdin with
    | error e =>
      rw [decoded] at failed
      cases failed
      exact .readStdin named decoded
    | ok source =>
      rw [decoded] at failed
      cases failed
  next named =>
    cases read : around.files.readText input with
    | error e =>
      rw [read] at failed
      cases failed
      exact .readInput named read
    | ok source =>
      rw [read] at failed
      cases failed

lemma passes_readInput {source : String} (output : Option String)
    (arguments : ConverterArguments) (read : readInput input around = .ok source) :
    Passes input output arguments around .readInput := by
  intro report fault
  cases fault with
  | readStdin named failed =>
    unfold readInput at read
    rw [if_pos named, failed] at read
    cases read
  | readInput named failed =>
    unfold readInput at read
    rw [if_neg named, failed] at read
    cases read

/-- With a converter and a document, the conversion decides about the output. -/
lemma convertInput_of_ready {converter : Converter (Memory Unit)} {node : Node}
    (ready : Ready input arguments around converter node) :
    convertInput input arguments around =
      (stage ("Failed to convert " ++ input) (fun e => some e.message)
        (converted around converter node)).map (· ++ "\n") := by
  obtain ⟨loaded, read, parsed, made⟩ := ready
  unfold setUp at made
  simp only [convertInput, loaded, read, parsed, made, stage, bind, Except.bind]
  unfold converted
  obtain ⟨done, memory⟩ := (converter.document around.files node).run (Memory.fresh ())
  cases done <;> rfl

/-- A conversion gets as far as the first stage that fails, or to the output. -/
lemma convertInput_cases (input : String) (output : Option String)
    (arguments : ConverterArguments) (around : Surroundings) :
    (∃ phase report, convertInput input arguments around = .error report ∧
      Fault input output arguments around phase report ∧
      Reaches input output arguments around phase) ∨
    ∃ converter node text, convertInput input arguments around = .ok (text ++ "\n") ∧
      Ready input arguments around converter node ∧ converted around converter node = .ok text ∧
      Reaches input output arguments around .write := by
  -- each stage fails, and is then the first one that does, or is passed
  obtain ⟨phase, report, failed, fault, reaches⟩ | ⟨settings, loaded, reaches⟩ :=
    loadSettings_cases input output arguments around
  · refine .inl ⟨phase, report, ?_, fault, reaches⟩
    simp only [convertInput, failed, bind, Except.bind]
  cases read : readInput input around with
  | error report =>
    refine .inl ⟨.readInput, report, ?_, fault_of_readInput output arguments read, reaches⟩
    simp only [convertInput, loaded, read, bind, Except.bind]
  | ok source =>
    have passes := passes_readInput output arguments read
    have reaches : Reaches input output arguments around .parseTree := reaches.next passes rfl
    cases parsed : Node.parse source with
    | error e =>
      refine .inl ⟨.parseTree, _, ?_, .parseTree read parsed, reaches⟩
      simp only [convertInput, loaded, read, parsed, stage, bind, Except.bind]
    | ok node =>
      have passes : Passes input output arguments around .parseTree := by
        intro report fault
        cases fault with
        | parseTree read' failed =>
          cases read.symm.trans read'
          cases parsed.symm.trans failed
      have reaches : Reaches input output arguments around .setUp := reaches.next passes rfl
      cases made : setUp around settings with
      | error e =>
        refine .inl ⟨.setUp, _, ?_, .setUp loaded made, reaches⟩
        unfold setUp at made
        simp only [convertInput, loaded, read, parsed, made, stage, bind, Except.bind]
      | ok converter =>
        have ready : Ready input arguments around converter node := ⟨loaded, read, parsed, made⟩
        have passes : Passes input output arguments around .setUp := by
          intro report fault
          cases fault with
          | setUp loaded' failed =>
            cases loaded.symm.trans loaded'
            cases made.symm.trans failed
        have reaches : Reaches input output arguments around .convert := reaches.next passes rfl
        rw [convertInput_of_ready ready]
        cases done : converted around converter node with
        | error e => exact .inl ⟨.convert, _, rfl, .convert ready done, reaches⟩
        | ok text =>
          refine .inr ⟨converter, node, text, rfl, ready, done, reaches.next ?_ rfl⟩
          intro report fault
          cases fault with
          | convert ready' failed =>
            obtain ⟨rfl, rfl⟩ := ready.unique ready'
            cases done.symm.trans failed

/-- A text that is there is delivered, or the output cannot be written. -/
lemma delivered_or_fault {converter : Converter (Memory Unit)} {node : Node} {text : String}
    (output : Option String) (ready : Ready input arguments around converter node)
    (made : converted around converter node = .ok text) :
    (∃ report, Fault input output arguments around .write report ∧
      runConvert input output arguments around = fail report "" around.files) ∨
    (Passes input output arguments around .write ∧
      Delivered output (text ++ "\n") around.files (runConvert input output arguments around)) := by
  have there : convertInput input arguments around = .ok (text ++ "\n") := by
    rw [convertInput_of_ready ready, made]
    rfl
  unfold runConvert
  rw [there]
  cases output with
  | none =>
    refine .inr ⟨fun report fault => ?_, rfl⟩
    cases fault with
    | write ready' made' given failed => cases given
  | some path =>
    cases written : around.files.write path (text ++ "\n").toUTF8 with
    | error e =>
      refine .inl ⟨_, .write ready made rfl written, ?_⟩
      simp only [written, fileStage, stage]
    | ok after =>
      obtain ⟨target, overwritten⟩ := FileTree.overwritten_of_write written
      have reads : after.readText path = .ok (text ++ "\n") :=
        FileTree.readText_eq_ok_iff.mpr ⟨_, overwritten.written, FileTree.decode_toUTF8 _⟩
      refine .inr ⟨fun report fault => ?_, target, after, ?_, overwritten, reads⟩
      · cases fault with
        | write ready' made' given failed =>
          obtain ⟨rfl, rfl⟩ := ready.unique ready'
          cases made.symm.trans made'
          cases given
          cases written.symm.trans failed
      · simp only [written, fileStage, stage]

/-- Two stages that come to the same, or fail for the same cause. -/
inductive Alike {α : Type} : Stage α → Stage α → Prop
  | ok (value : α) : Alike (.ok value) (.ok value)
  | error {report report' : Report} (same : report.cause = report'.cause) :
    Alike (.error report) (.error report')

namespace Alike

variable {α β ε : Type}

lemma refl (result : Stage α) : Alike result result := by
  cases result with
  | ok value => exact .ok value
  | error report => exact .error rfl

/-- The same result is alike under any message. -/
lemma stage (message message' : String) (cause : ε → Option String) (result : Except ε α) :
    Alike (Command.stage message cause result) (Command.stage message' cause result) := by
  cases result with
  | ok value => exact .ok value
  | error e => exact .error rfl

/-- Stages in a row are alike if each is. -/
lemma bind {result result' : Stage α} {next next' : α → Stage β} (first : Alike result result')
    (second : ∀ value, Alike (next value) (next' value)) :
    Alike (result >>= next) (result' >>= next') := by
  cases first with
  | ok value => exact second value
  | error same => exact .error same

end Alike

/-- The input of a run is the same from a file and from the standard input. -/
lemma alike_readInput {file : String} {bytes : ByteArray} (stdin : ByteArray)
    {compiler : Template.Compiler} {host : Host} {files : FileTree} (named : file ≠ "-")
    (holds : files.lookup file = .ok (.file bytes)) :
    Alike (readInput file ⟨stdin, compiler, host, files⟩)
      (readInput "-" ⟨bytes, compiler, host, files⟩) := by
  have read : files.readText file = FileTree.decode bytes := by
    simp only [FileTree.readText, holds, bind, Except.bind]
  -- the two differ in the wording of a failure
  simp only [readInput, if_neg named, if_true, read]
  exact .stage ..

/-- So is what it is converted to. -/
lemma alike_convertInput {file : String} {bytes : ByteArray} (stdin : ByteArray)
    {compiler : Template.Compiler} {host : Host} {files : FileTree} (named : file ≠ "-")
    (holds : files.lookup file = .ok (.file bytes)) (arguments : ConverterArguments) :
    Alike (convertInput file arguments ⟨stdin, compiler, host, files⟩)
      (convertInput "-" arguments ⟨bytes, compiler, host, files⟩) := by
  refine (Alike.refl _).bind fun settings => ?_
  refine (alike_readInput stdin named holds).bind fun source => ?_
  refine (Alike.stage ..).bind fun node => ?_
  refine (Alike.stage ..).bind fun converter => ?_
  exact (Alike.stage ..).bind fun output => .refl _

/-- Alike inputs have alike runs. -/
lemma runConvert_of_alike {input' : String} {stdin stdin' : ByteArray}
    {compiler : Template.Compiler} {host : Host} {files : FileTree} (output : Option String)
    (alike : Alike (convertInput input arguments ⟨stdin, compiler, host, files⟩)
      (convertInput input' arguments ⟨stdin', compiler, host, files⟩)) :
    let outcome := runConvert input output arguments ⟨stdin, compiler, host, files⟩
    let outcome' := runConvert input' output arguments ⟨stdin', compiler, host, files⟩
    outcome.exit = outcome'.exit ∧ outcome.stdout = outcome'.stdout ∧
      outcome.files = outcome'.files ∧
      outcome.report.map (·.cause) = outcome'.report.map (·.cause) := by
  unfold runConvert
  generalize convertInput input arguments ⟨stdin, compiler, host, files⟩ = result at alike
  generalize convertInput input' arguments ⟨stdin', compiler, host, files⟩ = result' at alike
  cases alike with
  | ok text => exact ⟨rfl, rfl, rfl, rfl⟩
  | error same => exact ⟨rfl, rfl, rfl, congrArg some same⟩

/-- A run that converts a document stops at the first stage that fails and reports it, or delivers
what the converter makes of the document, ended by a line end. If it stops, nothing is printed and
no file is changed; the message tells the stage. Else no stage fails, and the text is printed or is
in the output file, which is the only change. From a file and from the standard input, the same
bytes come to the same, up to the name of the input in a message. -/
theorem convert_all_or_nothing (input : String) (output : Option String)
    (arguments : ConverterArguments) (around : Surroundings) :
    ((∃ phase report, Fault input output arguments around phase report ∧
        Reaches input output arguments around phase ∧
        (Invocation.convert input output arguments).run around = fail report "" around.files) ∨
      ∃ converter node text, Ready input arguments around converter node ∧
        converted around converter node = .ok text ∧
        (∀ phase, Passes input output arguments around phase) ∧
        Delivered output (text ++ "\n") around.files
          ((Invocation.convert input output arguments).run around)) ∧
    (∀ phase report, Fault input output arguments around phase report →
      ∀ input' output' arguments' around' phase' report',
        Fault input' output' arguments' around' phase' report' →
        report.message = report'.message → phase = phase') ∧
    ∀ file bytes, file ≠ "-" → around.files.lookup file = .ok (.file bytes) →
      let fromFile := (Invocation.convert file output arguments).run around
      let fromStdin := (Invocation.convert "-" output arguments).run
        { around with stdin := bytes }
      fromFile.exit = fromStdin.exit ∧ fromFile.stdout = fromStdin.stdout ∧
        fromFile.files = fromStdin.files ∧
        fromFile.report.map (·.cause) = fromStdin.report.map (·.cause) := by
  refine ⟨?_, ?_, ?_⟩
  · obtain ⟨phase, report, failed, fault, reaches⟩ |
        ⟨converter, node, text, _, ready, made, reaches⟩ :=
      convertInput_cases input output arguments around
    · refine .inl ⟨phase, report, fault, reaches, ?_⟩
      simp only [Invocation.run, runConvert, failed]
    · obtain ⟨report, fault, stopped⟩ | ⟨last, delivered⟩ := delivered_or_fault output ready made
      · exact .inl ⟨.write, report, fault, reaches, stopped⟩
      · exact .inr ⟨converter, node, text, ready, made, reaches.passes last, delivered⟩
  · intro phase report fault _ _ _ _ phase' report' fault' same
    exact fault.phase_eq fault' same
  · intro file bytes named holds
    exact runConvert_of_alike output (alike_convertInput around.stdin named holds arguments)

/-- A paragraph in a file and the same bytes on the standard input are converted into a file with
the same outcome. -/
theorem convert_all_or_nothing_paragraph :
    let source := "\x7b\"node_name\": \"paragraph\"\x7d".toUTF8
    let files := (FileTree.rooted ["w"]).withFile "/w/doc.json" source
    let around : Surroundings := ⟨.empty, .verbatim, detectHost none "/w", files⟩
    let fromFile := (Invocation.convert "doc.json" (some "out.html") {}).run around
    let fromStdin :=
      (Invocation.convert "-" (some "out.html") {}).run { around with stdin := source }
    "doc.json" ≠ "-" ∧ files.lookup "doc.json" = .ok (.file source) ∧
    fromFile.exit = fromStdin.exit ∧ fromFile.stdout = fromStdin.stdout ∧
    fromFile.files = fromStdin.files ∧
    fromFile.report.map (·.cause) = fromStdin.report.map (·.cause) := by
  intro source files around fromFile fromStdin
  have named : "doc.json" ≠ "-" := by decide
  have holds : files.lookup "doc.json" = .ok (.file source) := by rfl
  obtain ⟨_, _, same⟩ := convert_all_or_nothing "doc.json" (some "out.html") {} around
  exact ⟨named, holds, same "doc.json" source named holds⟩

end Quire.Command
