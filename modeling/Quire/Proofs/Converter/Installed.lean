import Quire.Proofs.Converter.Override
import Quire.Proofs.Files.Location
import Quire.Proofs.Template.Search

/-!
# Installed templates

On a host with modules, the templates for reveal.js that are installed below the working directory
are a default. Whether they are there is looked up from the working directory, and a layer takes
relative directories below its base directory, so that the directory that was seen is the one that
is searched exactly if the working directory is absolute or the base directory is empty.

* `layer?_of_installed`: the layer over the installed templates.
* `installed_templates_searched`: which directory is searched, and what follows for the nodes.
* `relative_host_misses_templates`: a relative working directory.
-/

namespace Quire

open Template (Layer Memory Search)

/-- A layer that sees what is in the files resolves a name as its search does. -/
lemma Template.Layer.resolve_of_view {layer : Layer} {files : FileTree}
    {state : Template.LayerState} {name : String}
    (sees : layer.view files state name = layer.loading files name) :
    ((layer.resolve files name).run state).1 = layer.search.resolve files name := by
  rw [Layer.run_resolve, sees, Layer.loading]
  cases layer.search.resolve files name with
  | error e => rfl
  | ok found => cases found <;> rfl

namespace Assembly

variable {κ : Type} {compiler : Template.Compiler} {host : Host} {files : FileTree}
  {options : Options} {engine : Template.Engine}

/-- Where the installed templates are seen and no directories are given, they are below the base
directory for the layer. -/
lemma layer?_of_installed (node : host.platform.isNode = true)
    (none_given : options.templateDirs = none)
    (known : Template.Engine.ofName? compiler options.templateEngine options.autoescape =
      some engine)
    (installed : files.isDir (host.resolvePath Host.revealTemplates) = true) :
    layer? compiler host files .revealjs options =
      .ok (some (.inDirectories "revealjs" [host.resolvePath Host.revealTemplates]
        (host.templateBase options) engine options.templateCache)) := by
  apply layer?_of_directories _ known
  rw [fillIn_of_none none_given, if_pos ⟨rfl, node, installed⟩]

/-- The directory of the installed templates is taken as it is only from an absolute working
directory or without a base directory. -/
lemma search_installed_iff (base : String) (engine : Template.Engine) (cached : Bool) :
    (Layer.inDirectories "revealjs" [host.resolvePath Host.revealTemplates] base engine
        cached).search =
      ⟨[host.resolvePath Host.revealTemplates], engine.name, "revealjs", engine.extension⟩ ↔
    Path.isAbsolute host.workingDir = true ∨ base = "" := by
  have start : Path.isAbsolute (host.resolvePath Host.revealTemplates) =
      Path.isAbsolute host.workingDir := by
    unfold Host.resolvePath
    rw [Path.isAbsolute_join, show Path.isAbsolute Host.revealTemplates = false by decide,
      Bool.false_or]
  rw [← start, ← Path.join_eq_self_iff]
  simp [Layer.inDirectories, Search.inDirectories]

/-- With the templates for reveal.js installed on a host with modules, the converter for reveal.js
has a layer over the directory that was seen, taken as it is, exactly if the working directory is
absolute or there is no base directory. Then after any calls in the same files a name is resolved as
the search in that directory does, this decides what a node comes to, and without a cache it does so
in any files. -/
theorem installed_templates_searched {assembly : Assembly κ}
    (unregistered : assembly.registry.get? "revealjs" = none)
    (node : assembly.host.platform.isNode = true) (none_given : options.templateDirs = none)
    (known : Template.Engine.ofName? assembly.compiler options.templateEngine options.autoescape =
      some engine)
    (installed : files.isDir (assembly.host.resolvePath Host.revealTemplates) = true) (id : Nat) :
    let search : Search :=
      ⟨[assembly.host.resolvePath Host.revealTemplates], engine.name, "revealjs", engine.extension⟩
    ∃ layer : Layer,
      let converter : Converter (Memory κ) := .composite "revealjs" (layer.converter id) none
      assembly.create files id "revealjs" options = .ok converter ∧
      (layer.search = search ↔
        Path.isAbsolute assembly.host.workingDir = true ∨
          assembly.host.templateBase options = "") ∧
      (layer.search = search →
        (∀ (files : FileTree) (user : κ) (earlier : List Converter.Call) (task : Task),
          let memory := converter.after files earlier (Memory.fresh user)
          ((layer.resolve files task.name).run (memory.layers id)).1 =
              search.resolve files task.name ∧
            ((converter.convert files task).run memory).1 =
              match search.resolve files task.name with
              | .error e => .error (.lookup task.name "revealjs" e)
              | .ok (some template) => Backend.revealjs.templateOutput engine template task
              | .ok none => .error (.noConverter "revealjs" task.name)) ∧
        (options.templateCache = false → converter.Overridden .revealjs engine search)) := by
  intro search
  let layer : Layer := .inDirectories "revealjs"
    [assembly.host.resolvePath Host.revealTemplates] (assembly.host.templateBase options) engine
    options.templateCache
  have named : layer.backend = Backend.revealjs.name := rfl
  refine ⟨layer, ?_, search_installed_iff _ engine _, fun same => ⟨?_, ?_⟩⟩
  · unfold create
    rw [unregistered]
    exact make_of_layer (layer?_of_installed node none_given known installed) id
  · intro files user earlier task
    obtain ⟨sees, outcome⟩ := composite_after named id files user earlier task
    refine ⟨?_, ?_⟩
    · rw [← same]
      exact Layer.resolve_of_view sees
    · rw [← same]
      exact outcome
  · intro uncached
    rw [← same]
    exact overridden_composite layer uncached named id

/-- The templates for reveal.js, with one for paragraphs, installed in a directory `proj`. -/
def presentation : FileTree where
  root := .directory
    [("w", .directory
      [("proj", .directory
        [("node_modules", .directory
          [("asciidoctor-reveal.js", .directory
            [("templates", .directory [("paragraph.tera", .file ⟨#[112]⟩)])])])])])]
  workingDir := ["w"]

/-- From the working directory `/w/proj`, the template of a paragraph is found and used. -/
theorem installed_template_found :
    let assembly : Assembly Unit := .on .verbatim ⟨.node, "/w/proj"⟩
    let options : Options := { baseDir := some "b" }
    let task : Task := ⟨Node.named "paragraph", "", none⟩
    let path := "/w/proj/node_modules/asciidoctor-reveal.js/templates/paragraph.tera"
    presentation.isDir (assembly.host.resolvePath Host.revealTemplates) = true ∧
    ∃ converter, assembly.create presentation 0 "revealjs" options = .ok converter ∧
      ((converter.convert presentation task).run (Memory.fresh ())).1 =
        Backend.revealjs.templateOutput (.tera .verbatim false) ⟨"paragraph", path, "p"⟩ task := by
  intro assembly options task path
  have unregistered : assembly.registry.get? "revealjs" = none := rfl
  have none_given : options.templateDirs = none := rfl
  have known : Template.Engine.ofName? assembly.compiler options.templateEngine
      options.autoescape = some (.tera .verbatim false) := rfl
  have installed : presentation.isDir (assembly.host.resolvePath Host.revealTemplates) = true := by
    decide +kernel
  have absolute : Path.isAbsolute assembly.host.workingDir = true := by decide +kernel
  have resolved : Search.resolve
      ⟨[assembly.host.resolvePath Host.revealTemplates],
        (Template.Engine.tera .verbatim false).name, "revealjs",
        (Template.Engine.tera .verbatim false).extension⟩ presentation task.name =
      .ok (some ⟨"paragraph", path, "p"⟩) := by decide +kernel
  obtain ⟨layer, created, taken, used⟩ :=
    installed_templates_searched unregistered rfl none_given known installed 0
  obtain ⟨each, -⟩ := used (taken.mpr (.inl absolute))
  obtain ⟨-, outcome⟩ := each presentation () [] task
  refine ⟨installed, _, created, outcome.trans ?_⟩
  rw [resolved]

/-- From the relative working directory `proj`, the templates are seen, and the layer searches below
`proj` once more. -/
theorem relative_host_misses_templates :
    let host : Host := ⟨.node, "proj"⟩
    let task : Task := ⟨Node.named "paragraph", "", none⟩
    let search : Search := ⟨[host.resolvePath Host.revealTemplates], "tera", "revealjs", "tera"⟩
    presentation.isDir (host.resolvePath Host.revealTemplates) = true ∧
    search.resolve presentation "paragraph" =
      .ok (some ⟨"paragraph", host.resolvePath Host.revealTemplates ++ "/paragraph.tera", "p"⟩) ∧
    ∃ converter, (Assembly.on .verbatim host).create presentation 0 "revealjs" {} = .ok converter ∧
      ((converter.convert presentation task).run (Memory.fresh ())).1 =
        .error (.noConverter "revealjs" "paragraph") := by
  intro host task search
  have known : Template.Engine.ofName? .verbatim ({} : Options).templateEngine
      ({} : Options).autoescape = some (.tera .verbatim false) := rfl
  have installed : presentation.isDir (host.resolvePath Host.revealTemplates) = true := by
    decide +kernel
  let layer : Layer := .inDirectories "revealjs" [host.resolvePath Host.revealTemplates] "proj"
    (.tera .verbatim false) false
  have asked : layer? .verbatim host presentation .revealjs {} = .ok (some layer) :=
    layer?_of_installed rfl rfl known installed
  have missing : layer.search.resolve presentation "paragraph" = .ok none := by decide +kernel
  have named : layer.backend = Backend.revealjs.name := rfl
  obtain ⟨-, outcome⟩ := composite_after named 0 presentation () [] task
  refine ⟨installed, by decide +kernel, _, make_of_layer asked 0, outcome.trans ?_⟩
  rw [Backend.overriddenOutput, show layer.search.resolve presentation task.name = _ from missing]
  rfl

end Assembly

end Quire
