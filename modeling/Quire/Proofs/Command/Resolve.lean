import Quire.Command.Run
import Quire.Proofs.Converter.Override
import Quire.Proofs.Converter.Rendering
import Quire.Proofs.Template.Search

/-!
# What is said of templates and what is done with them

The command that shows which template a name has sets its search up by itself. It comes to the
search of the layer that a converter for the same settings is made with, so that what it says of a
name is what happens to nodes of that name, as long as the files stay the same.

* `searchFor_eq`: the two ways of setting up a search.
* `Foretold`: what an answer says of the conversion of a node.
* `answer_foretold`: the answer for a name foretells the conversion of each node of that name.
* `fallback_foretold`: so it does for a node without template, where there is a converter for it.
-/

namespace Quire

open Template (Layer Memory LayerState)

/-- What is found for a name is the text at its path. -/
lemma Template.Search.eq_of_firstOf {files : FileTree} {name : String} {paths : List String}
    {template : Template.Found} (found : firstOf files name paths = .ok (some template)) :
    template.name = name ∧ files.readText template.path = .ok template.source := by
  induction paths with
  | nil => cases found
  | cons path paths ih =>
    unfold firstOf at found
    split at found
    · exact ih found
    · split at found
      next source read =>
        cases found
        exact ⟨rfl, read⟩
      next => exact ih found
      next => cases found

lemma Backend.plainOutput_ne_lookup (backend : Backend) (task : Task) (name other : String)
    (e : Template.LookupError) : backend.plainOutput task ≠ .error (.lookup name other e) := by
  unfold plainOutput Builtin.output
  split
  · split <;> simp
  · simp

lemma Backend.templateOutput_ne_lookup (backend : Backend) (engine : Template.Engine)
    (template : Template.Found) (task : Task) (name other : String) (e : Template.LookupError) :
    backend.templateOutput engine template task ≠ .error (.lookup name other e) := by
  unfold templateOutput
  split
  · simp
  · split <;> simp

namespace Command

/-- The search that is set up for an answer is that of the layer. -/
lemma searchFor_eq (compiler : Template.Compiler) (host : Host) (files : FileTree)
    (settings : Settings) :
    searchFor compiler host files settings =
      (Assembly.layer? compiler host files (Backend.ofName settings.backend) settings.options).map
        (·.map (·.search)) := by
  unfold searchFor Assembly.layer?
  dsimp only
  generalize host.fillIn files (Backend.ofName settings.backend) settings.options = options
  cases options.templateDirs with
  | none => rfl
  | some directories =>
    dsimp only
    cases Template.Engine.ofName? compiler options.templateEngine options.autoescape <;> rfl

/-- What an answer for a name says of a node of that name. -/
structure Foretold (answered : Except Refusal Answer) (backend : Backend) (layer : Layer)
    (files : FileTree) (task : Task) (state : LayerState)
    (outcome : Except ConvertError String) : Prop where
  /-- The path that is named is that of the template which the layer loads. -/
  found : ∀ path, answered = .ok (.found path) ↔
    ∃ loaded, ((layer.load files task.name).run state).1 = .ok (some loaded) ∧
      loaded.template.path = path
  /-- What is at this path is what the node is converted by. -/
  rendered : ∀ path, answered = .ok (.found path) → ∃ source, files.readText path = .ok source ∧
    outcome = backend.templateOutput layer.engine ⟨task.name, path, source⟩ task
  /-- A template that cannot be read is reported by both. -/
  unreadable : ∀ e, answered = .error (.lookup e) ↔
    outcome = .error (.lookup task.name backend.name e)
  /-- A template is missing exactly if the layer declines the node. -/
  missing : answered = .ok .missing ↔ ((layer.tryConvert files task).run state).1 = .ok none

section Answers

variable {compiler : Template.Compiler} {host : Host} {files : FileTree} {settings : Settings}

lemma answer_of_error {e : UnknownEngine}
    (failed : Assembly.layer? compiler host files (Backend.ofName settings.backend)
      settings.options = .error e) (name : String) :
    answer compiler host files settings name = .error (.engine e) := by
  simp only [answer, searchFor_eq, failed, Except.map]

lemma answer_of_no_layer
    (none_asked : Assembly.layer? compiler host files (Backend.ofName settings.backend)
      settings.options = .ok none) (name : String) :
    answer compiler host files settings name = .ok .unconfigured := by
  simp only [answer, searchFor_eq, none_asked, Except.map, Option.map]

lemma answer_of_search {search : Template.Search}
    (searched : searchFor compiler host files settings = .ok (some search)) (name : String) :
    answer compiler host files settings name =
      match search.resolve files name with
      | .error e => .error (.lookup e)
      | .ok (some template) => .ok (.found template.path)
      | .ok none => .ok .missing := by
  cases resolved : search.resolve files name with
  | error e => simp only [answer, searched, resolved]
  | ok found => cases found <;> simp only [answer, searched, resolved]

lemma answer_of_layer {layer : Layer}
    (asked : Assembly.layer? compiler host files (Backend.ofName settings.backend)
      settings.options = .ok (some layer)) (name : String) :
    answer compiler host files settings name =
      match layer.search.resolve files name with
      | .error e => .error (.lookup e)
      | .ok (some template) => .ok (.found template.path)
      | .ok none => .ok .missing := by
  have searched : searchFor compiler host files settings = .ok (some layer.search) := by
    simp only [searchFor_eq, asked, Except.map, Option.map]
  exact answer_of_search searched name

/-- An answer with a layer is not about engines, and is not that there is no layer. -/
lemma answer_of_layer_ne {layer : Layer}
    (asked : Assembly.layer? compiler host files (Backend.ofName settings.backend)
      settings.options = .ok (some layer)) (name : String) :
    (∀ e, answer compiler host files settings name ≠ .error (.engine e)) ∧
      answer compiler host files settings name ≠ .ok .unconfigured := by
  rw [answer_of_layer asked]
  cases layer.search.resolve files name with
  | error e => simp
  | ok found => cases found <;> simp

end Answers

/-- With a layer that sees what is in the files, an answer foretells what a node comes to. -/
lemma Foretold.of_resolve {answered : Except Refusal Answer} {backend : Backend} {layer : Layer}
    {files : FileTree} {task : Task} {state : LayerState} {outcome : Except ConvertError String}
    (sees : layer.view files state task.name = layer.loading files task.name)
    (answers : answered =
      match layer.search.resolve files task.name with
      | .error e => .error (.lookup e)
      | .ok (some template) => .ok (.found template.path)
      | .ok none => .ok .missing)
    (comes : outcome = backend.overriddenOutput layer files task) :
    Foretold answered backend layer files task state outcome := by
  have loads : ((layer.load files task.name).run state).1 = layer.loading files task.name := by
    rw [Layer.run_load, sees]
  have tries : ((layer.tryConvert files task).run state).1 =
      layer.triedIn task (layer.loading files task.name) := by
    rw [Layer.run_tryConvert, sees]
  unfold Backend.overriddenOutput at comes
  unfold Layer.loading at loads tries
  -- both sides are decided by how the same search ends
  cases resolved : layer.search.resolve files task.name with
  | error e =>
    rw [resolved] at answers comes loads tries
    subst answers comes
    refine ⟨?_, ?_, ?_, ?_⟩
    · simp [loads, Except.map]
    · intro path same
      cases same
    · simp
    · simp [tries, Except.map, Layer.triedIn]
  | ok found =>
    cases found with
    | none =>
      rw [resolved] at answers comes loads tries
      subst answers comes
      refine ⟨?_, ?_, ?_, ?_⟩
      · simp [loads, Except.map]
      · intro path same
        cases same
      · simp [Backend.plainOutput_ne_lookup]
      · simp [tries, Except.map, Layer.triedIn]
    | some template =>
      obtain ⟨named, read⟩ := Template.Search.eq_of_firstOf resolved
      rw [resolved] at answers comes loads tries
      subst answers comes
      refine ⟨?_, ?_, ?_, ?_⟩
      · simp [loads, Except.map]
      · rintro path same
        cases same
        rw [← named]
        exact ⟨template.source, read, rfl⟩
      · simp [Backend.templateOutput_ne_lookup]
      · rw [tries]
        simp only [Except.map, Option.map, Layer.triedIn]
        cases layer.render _ task <;> simp

/-- What the command prints or reports is its answer. -/
lemma runResolve_eq {arguments : ConverterArguments} {around : Surroundings} {settings : Settings}
    (loaded : loadSettings arguments around.files = .ok settings) (name : String) (explain : Bool) :
    runResolve name explain arguments around =
      let explained :=
        if explain then explanation around.compiler around.host around.files settings name else ""
      match answer around.compiler around.host around.files settings name with
      | .error refusal => fail (refusal.report name) explained around.files
      | .ok answer =>
        succeed
          (explained ++ name ++ ": " ++ answer.text (Backend.ofName settings.backend) ++ "\n")
          around.files := by
  cases answered : answer around.compiler around.host around.files settings name <;>
    simp only [runResolve, loaded, answered]

/-- The command that shows which template a name has agrees with the converter that is made for the
same settings. It fails for want of an engine exactly if no converter is made, and it finds no
template directories exactly if the converter has no layer. With a layer, its answer foretells what
a node of that name comes to, after any calls of the converter in the same files. -/
theorem answer_foretold {κ : Type} {arguments : ConverterArguments} {around : Surroundings}
    {settings : Settings} (loaded : loadSettings arguments around.files = .ok settings)
    (name : String) (explain : Bool) (id : Nat) (user : κ) :
    let backend := Backend.ofName settings.backend
    let layer := Assembly.layer? around.compiler around.host around.files backend settings.options
    let created := (Assembly.on around.compiler around.host).create around.files id
      settings.backend settings.options
    let answered := answer around.compiler around.host around.files settings name
    let explained :=
      if explain then explanation around.compiler around.host around.files settings name else ""
    (runResolve name explain arguments around =
      match answered with
      | .error refusal => fail (refusal.report name) explained around.files
      | .ok answer =>
        succeed (explained ++ name ++ ": " ++ answer.text backend ++ "\n") around.files) ∧
    (∀ e, answered = .error (.engine e) ↔ created = .error e) ∧
    (answered = .ok .unconfigured ↔ layer = .ok none) ∧
    (layer = .ok none →
      created = .ok ((Assembly.builtin? backend).getD (.unsupported backend.name))) ∧
    ∀ above, layer = .ok (some above) →
      let converter :=
        Converter.composite backend.name (above.converter id) (Assembly.builtin? backend)
      created = .ok converter ∧
      ∀ (earlier : List Converter.Call) (task : Task), task.name = name →
        let memory := converter.after around.files earlier (Memory.fresh user)
        Foretold answered backend above around.files task (memory.layers id)
          ((converter.convert around.files task).run memory).1 := by
  intro backend layer created answered explained
  refine ⟨runResolve_eq loaded name explain, ?_⟩
  cases asked : layer with
  | error e =>
    have answers : answered = .error (.engine e) := answer_of_error asked name
    have makes : created = .error e := Assembly.make_of_error asked id
    rw [answers, makes]
    simp
  | ok found =>
    cases found with
    | none =>
      have answers : answered = .ok .unconfigured := answer_of_no_layer asked name
      have makes : created = .ok _ := Assembly.make_of_no_layer asked id
      rw [answers, makes]
      simp
    | some above =>
      have makes : created = .ok _ := Assembly.make_of_layer asked id
      obtain ⟨engine, unconfigured⟩ := answer_of_layer_ne asked name
      refine ⟨?_, ?_, ?_, ?_⟩
      · intro e
        rw [makes]
        exact iff_of_false (engine e) (by simp)
      · exact iff_of_false unconfigured (by simp)
      · intro none_asked
        cases none_asked
      · intro other same
        cases same
        refine ⟨makes, ?_⟩
        rintro earlier task rfl
        have named := Assembly.backend_of_layer asked
        obtain ⟨kept, outcome⟩ := Assembly.composite_after named id around.files user earlier task
        exact .of_resolve kept (answer_of_layer asked task.name) outcome

/-- An alias with a directory of templates for the canonical name. -/
def overriding : Surroundings where
  stdin := ByteArray.empty
  compiler := .verbatim
  host := ⟨.native, "/w"⟩
  files :=
    { root := .directory
        [("w", .directory
          [("t", .directory
            [("html5", .directory [("paragraph.tera", .file ⟨#[112]⟩)])])])]
      workingDir := ["w"] }

/-- A template in the directory of the canonical name is the one that is named and used. -/
theorem answer_foretold_alias :
    let arguments : ConverterArguments := { backend := some "html", templateDirs := ["t"] }
    let settings : Settings := .merge {} arguments
    let task : Task := ⟨Node.named "paragraph", "", none⟩
    loadSettings arguments overriding.files = .ok settings ∧
    answer overriding.compiler overriding.host overriding.files settings "paragraph" =
      .ok (.found "/w/t/html5/paragraph.tera") ∧
    ∃ converter,
      (Assembly.on overriding.compiler overriding.host).create overriding.files 0 "html"
        settings.options = .ok converter ∧
      ∃ source,
        ((converter.convert overriding.files task).run (Memory.fresh ())).1 =
          Backend.html5.templateOutput (.tera .verbatim false)
            ⟨"paragraph", "/w/t/html5/paragraph.tera", source⟩ task := by
  intro arguments settings task
  have loaded : loadSettings arguments overriding.files = .ok settings := rfl
  have backend : Backend.ofName settings.backend = .html5 := by decide
  let above : Layer := .inDirectories "html5" ["t"] "/w" (.tera .verbatim false) false
  have asked : Assembly.layer? overriding.compiler overriding.host overriding.files
      (Backend.ofName settings.backend) settings.options = .ok (some above) := by
    rw [backend]
    rfl
  have resolved : above.search.resolve overriding.files "paragraph" =
      .ok (some ⟨"paragraph", "/w/t/html5/paragraph.tera", "p"⟩) := by
    decide +kernel
  have answers : answer overriding.compiler overriding.host overriding.files settings "paragraph" =
      .ok (.found "/w/t/html5/paragraph.tera") := by
    rw [answer_of_layer asked, resolved]
  obtain ⟨-, -, -, -, agrees⟩ := answer_foretold loaded "paragraph" false 0 ()
  obtain ⟨created, each⟩ := agrees _ asked
  obtain ⟨source, -, outcome⟩ := (each [] task rfl).rendered _ answers
  rw [backend] at outcome
  exact ⟨loaded, answers, _, created, source, outcome⟩

namespace Answer

variable {backend : Backend} {found : Answer}

lemma eq_of_builtin? {named : Backend} (tells : found.builtin? backend = some named) :
    named = backend := by
  cases found with
  | unconfigured => cases tells; rfl
  | found path => cases tells
  | missing =>
    have tells : (if backend.isBuiltin then some backend else none) = some named := tells
    split at tells
    · cases tells
      rfl
    · cases tells

/-- Nodes without template are called not convertible only where the backend has no format. -/
lemma ofBackend?_of_builtin? (bare : found = .unconfigured ∨ found = .missing)
    (tells : found.builtin? backend = none) : Builtin.ofBackend? backend = none := by
  rcases bare with rfl | rfl
  · cases tells
  · cases backend <;> first | rfl | cases tells

end Answer

/-- Without a template, a node comes to what it comes to without template directories. -/
lemma outcome_of_bare {κ : Type} {compiler : Template.Compiler} {host : Host} {files : FileTree}
    {settings : Settings} {name : String} {found : Answer}
    (answers : answer compiler host files settings name = .ok found)
    (bare : found = .unconfigured ∨ found = .missing) (id : Nat) (user : κ) :
    ∃ converter,
      (Assembly.on compiler host).create files id settings.backend settings.options =
        .ok converter ∧
      ∀ (earlier : List Converter.Call) (task : Task), task.name = name →
        ((converter.convert files task).run
            (converter.after files earlier (Memory.fresh user))).1 =
          (Backend.ofName settings.backend).plainOutput task := by
  cases asked :
      Assembly.layer? compiler host files (Backend.ofName settings.backend) settings.options with
  | error e =>
    rw [answer_of_error asked] at answers
    cases answers
  | ok layer =>
    cases layer with
    | none =>
      exact ⟨_, Assembly.make_of_no_layer asked id, fun _ task _ =>
        Assembly.convert_of_none files task _⟩
    | some layer =>
      refine ⟨_, Assembly.make_of_layer asked id, ?_⟩
      rintro earlier task rfl
      -- the answer leaves no other end of the search
      have missing : layer.search.resolve files task.name = .ok none := by
        rw [answer_of_layer asked] at answers
        split at answers
        next => cases answers
        next =>
          cases answers
          rcases bare with same | same <;> cases same
        next none_found => exact none_found
      have named := Assembly.backend_of_layer asked
      obtain ⟨-, outcome⟩ := Assembly.composite_after named id files user earlier task
      rw [outcome, Backend.overriddenOutput, missing]

/-- What the command says of a name without template is what a node of that name comes to, after any
calls of the converter in the same files. If it names a converter and the backend has a format,
nodes of known kinds come to the output of the format, and other nodes are refused by it. If it says
that such nodes are not convertible, there is no converter for them. -/
theorem fallback_foretold {κ : Type} {arguments : ConverterArguments} {around : Surroundings}
    {settings : Settings} (loaded : loadSettings arguments around.files = .ok settings)
    {name : String} {found : Answer}
    (answers : answer around.compiler around.host around.files settings name = .ok found)
    (bare : found = .unconfigured ∨ found = .missing) (explain : Bool) (id : Nat) (user : κ) :
    let backend := Backend.ofName settings.backend
    let explained :=
      if explain then explanation around.compiler around.host around.files settings name else ""
    runResolve name explain arguments around =
      succeed (explained ++ name ++ ": " ++ found.text backend ++ "\n") around.files ∧
    ∃ converter,
      (Assembly.on around.compiler around.host).create around.files id settings.backend
        settings.options = .ok converter ∧
      ∀ (earlier : List Converter.Call) (task : Task), task.name = name →
        let outcome := ((converter.convert around.files task).run
          (converter.after around.files earlier (Memory.fresh user))).1
        (∀ named format, found.builtin? backend = some named →
          Builtin.ofBackend? named = some format →
            (name ∈ Kind.names → ∃ output, format.output task = .ok output ∧ outcome = .ok output) ∧
            (name ∉ Kind.names → outcome = .error (.unsupportedNode named.name name))) ∧
        (found.builtin? backend = none → outcome = .error (.noConverter backend.name name)) := by
  intro backend explained
  obtain ⟨converter, created, each⟩ := outcome_of_bare answers bare id user
  refine ⟨?_, converter, created, ?_⟩
  · rw [runResolve_eq loaded, answers]
  · intro earlier task same
    rw [each earlier task same]
    subst same
    refine ⟨?_, ?_⟩
    · intro named format tells known
      have same := Answer.eq_of_builtin? tells
      subst same
      have plain : backend.plainOutput task = format.output task := by
        rw [Backend.plainOutput, known]
      rw [plain]
      refine ⟨?_, ?_⟩
      · intro listed
        obtain ⟨output, written⟩ := format.output_of_known listed
        exact ⟨output, written, written⟩
      · intro unlisted
        rw [format.output_of_unknown unlisted, Builtin.backend_of_ofBackend? known]
    · intro tells
      rw [Backend.plainOutput, Answer.ofBackend?_of_builtin? bare tells]

/-- With directories but no template for paragraphs, the built-in converter is named and used. -/
theorem fallback_foretold_paragraph :
    let arguments : ConverterArguments := { templateDirs := ["t"] }
    let around : Surroundings :=
      ⟨ByteArray.empty, .verbatim, ⟨.native, "/w"⟩, .rooted ["w", "t"]⟩
    let settings : Settings := .merge {} arguments
    let task : Task := ⟨(Node.named "paragraph").withText "a < b", "", none⟩
    answer around.compiler around.host around.files settings "paragraph" = .ok .missing ∧
    (runResolve "paragraph" false arguments around).stdout =
      "paragraph: no template; built-in html5 converter\n" ∧
    ∃ converter,
      (Assembly.on around.compiler around.host).create around.files 0 settings.backend
        settings.options = .ok converter ∧
      ∃ output, Builtin.html5.output task = .ok output ∧
        ((converter.convert around.files task).run (Memory.fresh ())).1 = .ok output := by
  intro arguments around settings task
  have loaded : loadSettings arguments around.files = .ok settings := rfl
  have backend : Backend.ofName settings.backend = .html5 := by decide
  let above : Layer := .inDirectories "html5" ["t"] "/w" (.tera .verbatim false) false
  have asked : Assembly.layer? around.compiler around.host around.files
      (Backend.ofName settings.backend) settings.options = .ok (some above) := by
    rw [backend]
    rfl
  have resolved : above.search.resolve around.files "paragraph" = .ok none := by
    decide +kernel
  have answers :
      answer around.compiler around.host around.files settings "paragraph" = .ok .missing := by
    rw [answer_of_layer asked, resolved]
  obtain ⟨ran, converter, created, each⟩ :=
    fallback_foretold loaded answers (.inr rfl) false 0 ()
  obtain ⟨named, -⟩ := each [] task rfl
  rw [backend] at ran named
  refine ⟨answers, ?_, converter, created, (named .html5 .html5 rfl rfl).1 (by decide)⟩
  rw [ran]
  decide +kernel

/-- A node of no known kind is refused by the built-in converter that is named for it. -/
theorem named_converter_refuses :
    let around : Surroundings :=
      ⟨ByteArray.empty, .verbatim, ⟨.native, "/w"⟩, .rooted ["w"]⟩
    let settings : Settings := .merge {} {}
    answer around.compiler around.host around.files settings "sidebar" = .ok .unconfigured ∧
    (runResolve "sidebar" false {} around).stdout =
      "sidebar: no template directories configured; built-in html5 converter\n" ∧
    ∃ converter,
      (Assembly.on around.compiler around.host).create around.files 0 settings.backend
        settings.options = .ok converter ∧
      ((converter.convert around.files ⟨Node.named "sidebar", "", none⟩).run
          (Memory.fresh ())).1 = .error (.unsupportedNode "html5" "sidebar") := by
  intro around settings
  have loaded : loadSettings {} around.files = .ok settings := rfl
  have backend : Backend.ofName settings.backend = .html5 := by decide
  have no_layer : Assembly.layer? around.compiler around.host around.files
      (Backend.ofName settings.backend) settings.options = .ok none := by
    rw [backend]
    rfl
  have answers := answer_of_no_layer no_layer "sidebar"
  refine ⟨answers, ?_, _, Assembly.make_of_no_layer no_layer 0, ?_⟩
  · rw [runResolve_eq loaded, answers, backend]
    decide +kernel
  · rw [backend]
    rfl

end Command

end Quire
