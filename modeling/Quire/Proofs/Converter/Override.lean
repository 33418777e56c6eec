import Quire.Converter.Assembly
import Quire.Proofs.Converter.Graph

/-!
# Overriding by templates

With template directories in force, the converter made for a backend that is not registered does
with a node what the search for a template says: a template is rendered, a failed look-up is
reported, and a node without template comes to exactly what it comes to without template
directories.

* `layer?_of_none`, `layer?_of_directories`, `layer?_of_unknown_engine`: the layer for options.
* `make_eq`: the two shapes of the converter that is made, with a layer and without.
* `convert_of_none`: what a node comes to without template directories.
* `settled_composite`, `composite_after`: what a node comes to with a layer.
* `create_overridden`: the converter with template directories, made and used in any files.
-/

namespace Quire

/-- What a node comes to without template directories: the output of the backend's format, if there
is one. -/
def Backend.plainOutput (backend : Backend) (task : Task) : Except ConvertError String :=
  match Builtin.ofBackend? backend with
  | some format => format.output task
  | none => .error (.noConverter backend.name task.name)

/-- What a node comes to with a template. It is compiled under its path and rendered with the node,
its content and the backend's name. -/
def Backend.templateOutput (backend : Backend) (engine : Template.Engine)
    (found : Template.Found) (task : Task) : Except ConvertError String :=
  match engine.compile found.path found.source with
  | .error cause => .error (.badTemplate task.name backend.name found.path cause)
  | .ok compiled =>
    match compiled (.object [("backend", .string backend.name), ("node", task.toJson.sorted)]) with
    | .ok output => .ok output
    | .error cause => .error (.render task.name backend.name found.path cause)

/-- What a node comes to with a layer that sees what is in the files. -/
def Backend.overriddenOutput (backend : Backend) (layer : Template.Layer) (files : FileTree)
    (task : Task) : Except ConvertError String :=
  match layer.search.resolve files task.name with
  | .error e => .error (.lookup task.name backend.name e)
  | .ok (some template) => backend.templateOutput layer.engine template task
  | .ok none => backend.plainOutput task

/-- A converter for a backend whose output is decided by a search for templates. -/
structure Converter.Overridden {μ : Type} (converter : Converter μ) (backend : Backend)
    (engine : Template.Engine) (search : Template.Search) : Prop where
  missing : ∀ files task memory, search.resolve files task.name = .ok none →
    ((converter.convert files task).run memory).1 = backend.plainOutput task
  unreadable : ∀ files task memory e, search.resolve files task.name = .error e →
    ((converter.convert files task).run memory).1 = .error (.lookup task.name backend.name e)
  found : ∀ files task memory template, search.resolve files task.name = .ok (some template) →
    ((converter.convert files task).run memory).1 = backend.templateOutput engine template task

namespace Assembly

open Template (Layer Memory Search)

variable {κ : Type} {compiler : Template.Compiler} {host : Host} {files : FileTree}
  {backend : Backend} {options : Options}

/-- The host decides about template directories and nothing else. -/
lemma fillIn_eq {given : Option (List String)}
    (dirs : (host.fillIn files backend options).templateDirs = given) :
    host.fillIn files backend options = { options with templateDirs := given } := by
  subst dirs
  simp only [Host.fillIn]
  split <;> rfl

/-- Given template directories are kept. -/
lemma fillIn_of_some {directories : List String} (given : options.templateDirs = some directories) :
    (host.fillIn files backend options).templateDirs = some directories := by
  unfold Host.fillIn
  rw [given]
  simp [given]

/-- Where no template directories are given, the host decides alone. -/
lemma fillIn_of_none (none_given : options.templateDirs = none) :
    (host.fillIn files backend options).templateDirs =
      if backend = .revealjs ∧ host.platform.isNode ∧
          files.isDir (host.resolvePath Host.revealTemplates) then
        some [host.resolvePath Host.revealTemplates]
      else none := by
  unfold Host.fillIn
  rw [none_given]
  simp only [Option.isNone_none, true_and]
  split
  next => rfl
  next => exact none_given

/-- The converter with a layer in front of that of the backend's format, or without one. -/
def assembled (id : Nat) (backend : Backend) : Option Layer → Converter (Memory κ)
  | none => (builtin? backend).getD (.unsupported backend.name)
  | some layer => .composite backend.name (layer.converter id) (builtin? backend)

/-- The layer that is asked for decides about the converter. -/
lemma make_eq (compiler : Template.Compiler) (host : Host) (files : FileTree) (id : Nat)
    (backend : Backend) (options : Options) :
    make (κ := κ) compiler host files id backend options =
      (layer? compiler host files backend options).map (assembled id backend) := by
  unfold make
  cases layer? compiler host files backend options with
  | error e => rfl
  | ok layer => cases layer <;> rfl

/-- Without a layer, the converter is the one of the backend's format or a stand-in. -/
lemma make_of_no_layer (none_asked : layer? compiler host files backend options = .ok none)
    (id : Nat) :
    make (κ := κ) compiler host files id backend options =
      .ok ((builtin? backend).getD (.unsupported backend.name)) := by
  rw [make_eq, none_asked]
  rfl

/-- A layer stands in front of the converter of the backend's format. -/
lemma make_of_layer {layer : Layer}
    (asked : layer? compiler host files backend options = .ok (some layer)) (id : Nat) :
    make (κ := κ) compiler host files id backend options =
      .ok (.composite backend.name (layer.converter id) (builtin? backend)) := by
  rw [make_eq, asked]
  rfl

lemma make_of_error {e : UnknownEngine}
    (failed : layer? compiler host files backend options = .error e) (id : Nat) :
    make (κ := κ) compiler host files id backend options = .error e := by
  rw [make_eq, failed]
  rfl

/-- Without template directories there is no layer. -/
lemma layer?_of_none (none_given : (host.fillIn files backend options).templateDirs = none) :
    layer? compiler host files backend options = .ok none := by
  simp only [layer?, none_given]

/-- With template directories and a known engine, there is a layer over the directories. -/
lemma layer?_of_directories {directories : List String} {engine : Template.Engine}
    (given : (host.fillIn files backend options).templateDirs = some directories)
    (known :
      Template.Engine.ofName? compiler options.templateEngine options.autoescape = some engine) :
    layer? compiler host files backend options =
      .ok (some (.inDirectories backend.name directories (host.templateBase options) engine
        options.templateCache)) := by
  simp only [layer?, fillIn_eq given, known]
  rfl

/-- With template directories, an unknown engine is an error. -/
lemma layer?_of_unknown_engine {directories : List String}
    (given : (host.fillIn files backend options).templateDirs = some directories)
    (unknown : Template.Engine.ofName? compiler options.templateEngine options.autoescape = none) :
    layer? compiler host files backend options = .error ⟨options.templateEngine⟩ := by
  simp only [layer?, fillIn_eq given, unknown]

/-- Without registrations, the layer that is asked for decides about the converter. -/
lemma create_on (compiler : Template.Compiler) (host : Host) (files : FileTree) (id : Nat)
    (name : String) (options : Options) :
    (on (κ := κ) compiler host).create files id name options =
      (layer? compiler host files (Backend.ofName name) options).map
        (assembled id (Backend.ofName name)) :=
  make_eq compiler host files id (Backend.ofName name) options

/-- A layer searches the template directories, relative ones below the base directory. -/
lemma directories_of_layer {directories : List String} {layer : Layer}
    (given : (host.fillIn files backend options).templateDirs = some directories)
    (asked : layer? compiler host files backend options = .ok (some layer)) :
    layer.search.directories = directories.map (Path.join (host.templateBase options)) := by
  cases known : Template.Engine.ofName? compiler options.templateEngine options.autoescape with
  | none =>
    rw [layer?_of_unknown_engine given known] at asked
    cases asked
  | some engine =>
    rw [layer?_of_directories given known] at asked
    cases asked
    rfl

/-- A layer bears the name of the backend. -/
lemma backend_of_layer {layer : Layer}
    (asked : layer? compiler host files backend options = .ok (some layer)) :
    layer.backend = backend.name := by
  unfold layer? at asked
  dsimp only at asked
  split at asked
  · cases asked
  · split at asked
    · cases asked
    · cases asked
      rfl

/-- What a node comes to with the converter that is made without template directories. -/
lemma convert_of_none (files : FileTree) (task : Task) (memory : Memory κ) :
    ((((builtin? backend).getD (.unsupported backend.name)).convert files task).run memory).1 =
      backend.plainOutput task := by
  unfold builtin? Backend.plainOutput
  cases Builtin.ofBackend? backend <;> rfl

/-- Where a layer sees what is in the files, it is settled together with the converter of the
backend's format behind it. -/
lemma settled_composite {kept : Memory κ → Prop} {layer : Layer} {id : Nat} {task : Task}
    (named : layer.backend = backend.name)
    (above : (layer.converter id).Settled kept files task
      (Layer.handledIn (layer.loading files task.name))
      (layer.convertedIn task (layer.loading files task.name))) :
    ∃ handled, (Converter.composite backend.name (layer.converter id) (builtin? backend)).Settled
      kept files task handled (backend.overriddenOutput layer files task) := by
  have outcome : backend.overriddenOutput layer files task =
      if Layer.handledIn (layer.loading files task.name) then
        layer.convertedIn task (layer.loading files task.name)
      else backend.plainOutput task := by
    unfold Backend.overriddenOutput Backend.templateOutput Layer.loading
    rw [← named]
    cases layer.search.resolve files task.name with
    | error e => rfl
    | ok found => cases found <;> rfl
  rw [outcome]
  unfold builtin? Backend.plainOutput
  cases Builtin.ofBackend? backend with
  | none => exact ⟨_, above.overridesOnly⟩
  | some format => exact ⟨_, above.composite (format.settled _ files task)⟩

/-- A layer without cache in front of the converter of the backend's format leaves the decision to
its search. -/
lemma overridden_composite (layer : Layer) (uncached : layer.cached = false)
    (named : layer.backend = backend.name) (id : Nat) :
    Converter.Overridden (μ := Memory κ)
      (.composite backend.name (layer.converter id) (builtin? backend)) backend layer.engine
      layer.search := by
  have comes (files : FileTree) (task : Task) (memory : Memory κ) :
      (((Converter.composite backend.name (layer.converter id) (builtin? backend)).convert files
        task).run memory).1 = backend.overriddenOutput layer files task := by
    obtain ⟨_, one⟩ := settled_composite named (layer.settled_of_uncached uncached id files task)
    exact (one.convert memory trivial).1
  refine ⟨?_, ?_, ?_⟩
  · intro files task memory missing
    rw [comes, Backend.overriddenOutput, missing]
  · intro files task memory e unreadable
    rw [comes, Backend.overriddenOutput, unreadable]
  · intro files task memory template found
    rw [comes, Backend.overriddenOutput, found]

/-- After any calls in the same files, a layer sees what is in the files, with or without a cache,
and what a node comes to is decided by that. -/
lemma composite_after {layer : Layer} (named : layer.backend = backend.name) (id : Nat)
    (files : FileTree) (user : κ) (earlier : List Converter.Call) (task : Task) :
    let converter := Converter.composite backend.name (layer.converter id) (builtin? backend)
    let memory := converter.after files earlier (Memory.fresh user)
    layer.view files (memory.layers id) task.name = layer.loading files task.name ∧
      ((converter.convert files task).run memory).1 =
        backend.overriddenOutput layer files task := by
  intro converter memory
  have settled (task : Task) : ∃ handled, converter.Settled
      (SameViews (fun _ => layer) files (Memory.fresh user)) files task handled
      (backend.overriddenOutput layer files task) :=
    settled_composite named <|
      Layer.settled (fun _ same => (same id task.name).trans (Layer.view_of_unknown rfl))
        fun _ same => same.settle id task.name
  have kept : SameViews (fun _ => layer) files (Memory.fresh user) memory :=
    Converter.kept_after (fun task => (settled task).imp fun _ one => ⟨_, one⟩) earlier
      fun _ _ => rfl
  obtain ⟨_, one⟩ := settled task
  exact ⟨(kept id task.name).trans (Layer.view_of_unknown rfl), (one.convert memory kept).1⟩

/-- For a backend that is not registered, with template directories in force, a known engine and no
cache, a converter is made. Its output for a node is decided by the search in the directories, and
where the search finds nothing it is that of the converter which is made for the same backend when
no template directories are in force. -/
theorem create_overridden (assembly : Assembly κ) (files : FileTree) (id : Nat) (name : String)
    (options : Options) (directories : List String) (engine : Template.Engine)
    (unregistered : assembly.registry.get? name = none)
    (given : (assembly.host.fillIn files (Backend.ofName name) options).templateDirs =
      some directories)
    (known : Template.Engine.ofName? assembly.compiler options.templateEngine options.autoescape =
      some engine)
    (uncached : options.templateCache = false) :
    (∃ converter, assembly.create files id name options = .ok converter ∧
      converter.Overridden (Backend.ofName name) engine
        (.inDirectories directories (assembly.host.templateBase options) engine.name
          (Backend.ofName name).name engine.extension)) ∧
    ∀ (host : Host) (files : FileTree) (id : Nat) (options : Options),
      (host.fillIn files (Backend.ofName name) options).templateDirs = none →
      ∃ plain, create { assembly with host } files id name options = .ok plain ∧
        ∀ files task memory,
          ((plain.convert files task).run memory).1 = (Backend.ofName name).plainOutput task := by
  constructor
  · refine ⟨_, ?_, overridden_composite (.inDirectories _ _ _ _ _) uncached rfl id⟩
    unfold create
    rw [unregistered]
    exact make_of_layer (layer?_of_directories given known) id
  · intro host files id options none_given
    refine ⟨_, ?_, convert_of_none⟩
    unfold create
    rw [unregistered]
    exact make_of_no_layer (layer?_of_none none_given) id

/-- The alias `html` with the template directory `t`: templates for `html5` override the built-in
converter, which is what the alias stands for without template directories. -/
theorem create_overridden_alias :
    let assembly : Assembly Unit := .on .verbatim ⟨.native, "/w"⟩
    let files := FileTree.rooted ["w", "t"]
    let options : Options := { templateDirs := some ["t"] }
    assembly.registry.get? "html" = none ∧
    (assembly.host.fillIn files (Backend.ofName "html") options).templateDirs = some ["t"] ∧
    Template.Engine.ofName? assembly.compiler options.templateEngine options.autoescape =
      some (.tera .verbatim false) ∧
    options.templateCache = false ∧
    (∃ converter, assembly.create files 0 "html" options = .ok converter ∧
      converter.Overridden .html5 (.tera .verbatim false)
        (.inDirectories ["t"] "/w" "tera" "html5" "tera")) ∧
    ∃ plain, assembly.create files 0 "html" {} = .ok plain ∧
      ∀ files task memory,
        ((plain.convert files task).run memory).1 = Backend.html5.plainOutput task := by
  intro assembly files options
  have backend : Backend.ofName "html" = .html5 := by decide
  have given : (assembly.host.fillIn files (Backend.ofName "html") options).templateDirs =
      some ["t"] := by rw [backend]; rfl
  have known : Template.Engine.ofName? assembly.compiler options.templateEngine options.autoescape =
      some (.tera .verbatim false) := rfl
  obtain ⟨made, plain⟩ :=
    create_overridden assembly files 0 "html" options ["t"] _ rfl given known rfl
  rw [backend] at made plain
  exact ⟨rfl, given, known, rfl, made, plain _ files 0 {} rfl⟩

end Assembly

end Quire
