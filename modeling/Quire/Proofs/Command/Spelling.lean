import Mathlib.Data.List.Forall2
import Quire.Command.Run
import Quire.Proofs.Converter.Override
import Quire.Proofs.Files.Location

/-!
# Spellings of a configuration file

A configuration file can be named from the working directory or from the root. Its relative paths
are taken below its own directory, and what is still relative then is taken below the base directory
when a layer is set up. So an entry for a template directory is placed twice where both the file is
named from the working directory and a base directory is given; everywhere else the spelling makes
no difference.

* `Config.Means`: the directory that an entry of a file stands for.
* `means_of_absolute`, `means_iff_of_relative`: the two spellings of the file.
* `spelling_of_config`: the layers under both spellings.
* `relative_spelling_misplaces`: a file with a base directory, named from the working directory.
-/

namespace Quire

/-- A layer with the same rules over other directories. -/
def Template.Layer.within (layer : Template.Layer) (directories : List String) : Template.Layer :=
  { layer with search := { layer.search with directories := directories } }

namespace Assembly

open Template (Layer)

/-- Two outcomes of asking for a layer that differ in the directories of the layer only, which are
related. -/
inductive SameLayer (related : List String → List String → Prop) :
    Except UnknownEngine (Option Layer) → Except UnknownEngine (Option Layer) → Prop where
  | refused {e} : SameLayer related (.error e) (.error e)
  | absent : SameLayer related (.ok none) (.ok none)
  | present {layer : Layer} {directories} :
    related layer.search.directories directories →
    SameLayer related (.ok (some layer)) (.ok (some (layer.within directories)))

variable {compiler : Template.Compiler} {host : Host} {files : FileTree} {backend : Backend}
  {options options' : Options}

/-- Under an absolute working directory, so is the base directory. -/
lemma isAbsolute_templateBase (absolute : Path.isAbsolute host.workingDir = true)
    (options : Options) : Path.isAbsolute (host.templateBase options) = true := by
  unfold Host.templateBase
  split
  next dir given =>
    unfold Host.resolvePath
    rw [Path.isAbsolute_join, absolute, Bool.or_true]
  next => exact absolute

/-- Options that differ in their directories only ask for layers that differ in these only. -/
lemma SameLayer.of_directories {related : List String → List String → Prop}
    (engine : options'.templateEngine = options.templateEngine)
    (cache : options'.templateCache = options.templateCache)
    (autoescape : options'.autoescape = options.autoescape)
    (directories : Option.Rel
      (fun given given' => related (given.map (Path.join (host.templateBase options)))
        (given'.map (Path.join (host.templateBase options'))))
      (host.fillIn files backend options).templateDirs
      (host.fillIn files backend options').templateDirs) :
    SameLayer related (layer? compiler host files backend options)
      (layer? compiler host files backend options') := by
  generalize given : (host.fillIn files backend options).templateDirs = first at directories
  generalize given' : (host.fillIn files backend options').templateDirs = second at directories
  cases directories with
  | none =>
    rw [layer?_of_none given, layer?_of_none given']
    exact .absent
  | some pair =>
    cases known :
        Template.Engine.ofName? compiler options.templateEngine options.autoescape with
    | none =>
      have unknown : Template.Engine.ofName? compiler options'.templateEngine
          options'.autoescape = none := by
        rw [engine, autoescape, known]
      rw [layer?_of_unknown_engine given known, layer?_of_unknown_engine given' unknown, engine]
      exact .refused
    | some found =>
      have known' : Template.Engine.ofName? compiler options'.templateEngine
          options'.autoescape = some found := by
        rw [engine, autoescape, known]
      rw [layer?_of_directories given known, layer?_of_directories given' known', cache]
      exact .present pair

end Assembly

namespace Command

open Template (Layer Memory)

namespace Config

/-- The configuration in a text, with its paths as they are written. -/
def written? (text : String) : Option Config := do
  let members ← Toml.parse text
  ofMembers? members

/-- A directory is the one that an entry of a file stands for: an absolute entry is the directory,
and a relative one is below the directory of the file, whose path is seen from `cwd`. -/
def Means (cwd file entry directory : String) : Prop :=
  if Path.isAbsolute entry then directory = entry
  else
    Path.isAbsolute directory = true ∧
      Path.names directory = Path.names cwd ++ (Path.names file).dropLast ++ Path.names entry

/-- Reading a file places the paths that are written in it. -/
lemma parse_eq (path text : String) :
    parse path text = (written? text).map (anchor (Path.parent path)) := by
  unfold parse written?
  cases Toml.parse text with
  | none => rfl
  | some members =>
    simp only [bind, Option.bind_some]
    cases ofMembers? members <;> rfl

/-- An entry stands for one location. -/
lemma Means.sameLocation {cwd file entry directory directory' : String}
    (means : Means cwd file entry directory) (means' : Means cwd file entry directory') :
    Path.SameLocation directory directory' := by
  unfold Means at means means'
  split at means
  next absolute =>
    rw [if_pos absolute] at means'
    rw [means, means']
    exact .refl entry
  next relative =>
    rw [if_neg relative] at means'
    exact ⟨means.1.trans means'.1.symm, means.2.trans means'.2.symm⟩

/-- An absolute entry is the directory, whatever it is placed below. -/
lemma means_of_own {cwd file entry : String} (own : Path.isAbsolute entry = true)
    (base home : String) : Means cwd file entry (Path.join base (Path.join home entry)) := by
  unfold Means
  rw [if_pos own, Path.join_of_absolute _ own, Path.join_of_absolute _ own]

section Placing

variable {cwd file : String} (relative : Path.isAbsolute file = false)
  (ends : ∀ piece, (Path.pieces file).getLast? = some piece → Path.moves piece = true)

include relative ends

/-- The directory of a file, when the file is spelled from the root. -/
lemma names_parent_join :
    Path.names (Path.parent (Path.join cwd file)) =
      Path.names cwd ++ (Path.names file).dropLast := by
  obtain ⟨name, along⟩ := Path.names_eq_concat file ends
  obtain ⟨name', along'⟩ := Path.names_eq_concat (Path.join cwd file) <| by
    rwa [Path.getLast?_pieces_join cwd relative]
  rw [Path.names_join cwd relative, along, ← List.append_assoc] at along'
  rw [along, List.dropLast_concat]
  exact (List.append_inj_left' along' rfl).symm

/-- Under a spelling from the root, an entry is placed once, whatever the base directory is. -/
lemma means_of_absolute (absolute : Path.isAbsolute cwd = true) (base entry : String) :
    Means cwd file entry
      (Path.join base (Path.join (Path.parent (Path.join cwd file)) entry)) := by
  have home : Path.isAbsolute (Path.parent (Path.join cwd file)) = true := by
    rw [Path.isAbsolute_parent, Path.isAbsolute_join, absolute, Bool.or_true]
  have placed : Path.isAbsolute (Path.join (Path.parent (Path.join cwd file)) entry) = true := by
    rw [Path.isAbsolute_join, home, Bool.or_true]
  cases own : Path.isAbsolute entry with
  | true => exact means_of_own own _ _
  | false =>
    unfold Means
    rw [own, if_neg Bool.false_ne_true, Path.join_of_absolute base placed]
    refine ⟨placed, ?_⟩
    rw [Path.names_join _ own, names_parent_join relative ends]

/-- Under a spelling from the working directory, a relative entry is placed below the base
directory, so that this has to be the working directory. -/
lemma means_iff_of_relative {base : String} (rooted : Path.isAbsolute cwd = true)
    (absolute : Path.isAbsolute base = true) (entry : String) :
    Means cwd file entry (Path.join base (Path.join (Path.parent file) entry)) ↔
      Path.isAbsolute entry = true ∨ Path.SameLocation base cwd := by
  cases own : Path.isAbsolute entry with
  | true => exact iff_of_true (means_of_own own _ _) (.inl rfl)
  | false =>
    have below : Path.isAbsolute (Path.join (Path.parent file) entry) = false := by
      rw [Path.isAbsolute_join, own, Path.isAbsolute_parent, relative, Bool.or_self]
    have placed : Path.isAbsolute (Path.join base (Path.join (Path.parent file) entry)) = true := by
      rw [Path.isAbsolute_join, below, absolute, Bool.or_true]
    obtain ⟨name, along⟩ := Path.names_eq_concat file ends
    unfold Means
    rw [own, if_neg Bool.false_ne_true, Path.names_join base below, Path.names_join _ own, along,
      List.dropLast_concat, List.append_assoc, List.append_left_inj]
    constructor
    · rintro ⟨-, same⟩
      exact .inr ⟨absolute.trans rooted.symm, same⟩
    · rintro (relative' | same)
      · cases relative'
      · exact ⟨placed, same.names⟩

end Placing

end Config

/-- The settings under which a file is read at a path. -/
def Settings.ofFile (written : Config) (file : String) (arguments : ConverterArguments) :
    Settings :=
  .merge (written.anchor (Path.parent file)) arguments

section Settings

variable {written : Config} {files : FileTree} {file text : String}

/-- A file that can be read and holds a configuration gives the settings. -/
lemma loadSettings_of_file (arguments : ConverterArguments) (read : files.readText file = .ok text)
    (parses : Config.written? text = some written) :
    loadSettings { arguments with config := some file } files =
      .ok (.ofFile written file arguments) := by
  simp only [loadSettings, read, fileStage, stage, bind, Except.bind, Config.parse_eq, parses,
    Option.map]
  rfl

/-- Where a file is makes no difference to what it holds besides paths. -/
lemma ofFile_congr (written : Config) (file file' : String) (arguments : ConverterArguments) :
    let settings := Settings.ofFile written file arguments
    let settings' := Settings.ofFile written file' arguments
    settings'.backend = settings.backend ∧
      settings'.options.templateEngine = settings.options.templateEngine ∧
      settings'.options.templateCache = settings.options.templateCache ∧
      settings'.options.autoescape = settings.options.autoescape := by
  simp only [Settings.ofFile, Settings.merge, Config.anchor, and_self]

/-- Without directories on the command line, those of the file are placed below its directory. -/
lemma templateDirs_ofFile {arguments : ConverterArguments} (no_flag : arguments.templateDirs = [])
    (written : Config) (file : String) :
    (Settings.ofFile written file arguments).options.templateDirs =
      written.options.templateDirs.map (·.map (Path.join (Path.parent file))) := by
  simp only [Settings.ofFile, Settings.merge, no_flag]
  rfl

/-- A layer searches the entries of the file, placed below its directory and then below the base
directory. -/
lemma directories_ofFile {arguments : ConverterArguments} (no_flag : arguments.templateDirs = [])
    {compiler : Template.Compiler} {host : Host} {backend : Backend} {entries : List String}
    {layer : Layer} (listed : written.options.templateDirs = some entries)
    (asked : Assembly.layer? compiler host files backend
      (Settings.ofFile written file arguments).options = .ok (some layer)) :
    layer.search.directories = entries.map fun entry =>
      Path.join (host.templateBase (Settings.ofFile written file arguments).options)
        (Path.join (Path.parent file) entry) := by
  have given := templateDirs_ofFile no_flag written file
  rw [listed] at given
  rw [Assembly.directories_of_layer (Assembly.fillIn_of_some given) asked, List.map_map]
  rfl

/-- Where both spellings place every entry at one location, the layers differ in the spelling of
their directories only. -/
lemma sameLayer_ofFile {arguments : ConverterArguments} (no_flag : arguments.templateDirs = [])
    {compiler : Template.Compiler} {host : Host}
    (rooted : Path.isAbsolute host.workingDir = true) (backend : Backend) (file' : String)
    (same : ∀ entries, written.options.templateDirs = some entries → ∀ entry ∈ entries,
      Path.SameLocation
        (Path.join (host.templateBase (Settings.ofFile written file arguments).options)
          (Path.join (Path.parent file) entry))
        (Path.join (host.templateBase (Settings.ofFile written file' arguments).options)
          (Path.join (Path.parent file') entry))) :
    Assembly.SameLayer (List.Forall₂ Path.SameLocation)
      (Assembly.layer? compiler host files backend
        (Settings.ofFile written file arguments).options)
      (Assembly.layer? compiler host files backend
        (Settings.ofFile written file' arguments).options) := by
  obtain ⟨-, engines, caches, escapes⟩ := ofFile_congr written file file' arguments
  refine .of_directories engines caches escapes ?_
  have given := templateDirs_ofFile no_flag written
  cases listed : written.options.templateDirs with
  | none =>
    simp only [listed, Option.map_none] at given
    rw [Assembly.fillIn_of_none (given _), Assembly.fillIn_of_none (given _)]
    -- the installed templates are below the working directory, and so are placed once
    have installed : Path.isAbsolute (host.resolvePath Host.revealTemplates) = true := by
      unfold Host.resolvePath
      rw [Path.isAbsolute_join, rooted, Bool.or_true]
    split
    next =>
      refine .some (.cons ?_ .nil)
      rw [Path.join_of_absolute _ installed, Path.join_of_absolute _ installed]
      exact .refl _
    next => exact .none
  | some entries =>
    simp only [listed, Option.map_some] at given
    rw [Assembly.fillIn_of_some (given _), Assembly.fillIn_of_some (given _)]
    refine .some ?_
    rw [List.map_map, List.map_map, List.forall₂_map_left_iff, List.forall₂_map_right_iff,
      List.forall₂_same]
    exact same entries listed

/-- A configuration file that is named from the root gives a layer in which each entry for a
template directory stands for a directory below that of the file. Named from the working directory,
it gives one in which this is so exactly for the absolute entries and, if the base directory is the
working directory, for the others. Where it is so for all entries, the layers under both spellings
search the same locations in the same order. -/
theorem spelling_of_config {κ : Type} {arguments : ConverterArguments} {files : FileTree}
    {cwd file text : String} {written : Config} (no_flag : arguments.templateDirs = [])
    (absolute : Path.isAbsolute cwd = true) (relative : Path.isAbsolute file = false)
    (stands : files.walk [] (Path.pieces cwd) = .ok files.workingDir)
    (checked : FileTree.checkPath (Path.join cwd file) = .ok ())
    (read : files.readText file = .ok text) (parses : Config.written? text = some written)
    (compiler : Template.Compiler) (platform : Option String) (id : Nat) :
    ∃ settings settings',
      loadSettings { arguments with config := some file } files = .ok settings ∧
      loadSettings { arguments with config := some (Path.join cwd file) } files = .ok settings' ∧
      settings'.backend = settings.backend ∧
      let host := detectHost platform cwd
      let backend := Backend.ofName settings.backend
      let base := host.templateBase settings.options
      let layer := Assembly.layer? compiler host files backend settings.options
      let layer' := Assembly.layer? compiler host files backend settings'.options
      (Assembly.on (κ := κ) compiler host).create files id settings.backend settings.options =
        layer.map (Assembly.assembled id backend) ∧
      (Assembly.on (κ := κ) compiler host).create files id settings'.backend settings'.options =
        layer'.map (Assembly.assembled id backend) ∧
      (∀ entries above, written.options.templateDirs = some entries → layer' = .ok (some above) →
        List.Forall₂ (Config.Means cwd file) entries above.search.directories) ∧
      (∀ entries above, written.options.templateDirs = some entries → layer = .ok (some above) →
        (List.Forall₂ (Config.Means cwd file) entries above.search.directories ↔
          ∀ entry ∈ entries, Path.isAbsolute entry = true ∨ Path.SameLocation base cwd)) ∧
      ((∀ entries, written.options.templateDirs = some entries →
          ∀ entry ∈ entries, Path.isAbsolute entry = true ∨ Path.SameLocation base cwd) →
        Assembly.SameLayer (List.Forall₂ Path.SameLocation) layer layer') := by
  obtain ⟨bytes, found, decoded⟩ := FileTree.readText_eq_ok_iff.mp read
  have ends : ∀ piece, (Path.pieces file).getLast? = some piece → Path.moves piece = true :=
    fun _ last => FileTree.moves_of_lookup_file found last
  have found' := FileTree.lookup_join_workingDir absolute relative stands checked found
  have read' := FileTree.readText_eq_ok_iff.mpr ⟨bytes, found', decoded⟩
  obtain ⟨backends, -⟩ := ofFile_congr written file (Path.join cwd file) arguments
  refine ⟨.ofFile written file arguments, .ofFile written (Path.join cwd file) arguments,
    loadSettings_of_file _ read parses, loadSettings_of_file _ read' parses, backends, ?_⟩
  intro host backend base layer layer'
  have absolute' : Path.isAbsolute host.workingDir = true := absolute
  have rooted : Path.isAbsolute base = true := Assembly.isAbsolute_templateBase absolute' _
  refine ⟨Assembly.create_on .., ?_, ?_, ?_, ?_⟩
  · rw [backends]
    exact Assembly.create_on ..
  · intro entries above listed asked
    rw [directories_ofFile no_flag listed asked, List.forall₂_map_right_iff, List.forall₂_same]
    exact fun entry _ => Config.means_of_absolute relative ends absolute _ entry
  · intro entries above listed asked
    rw [directories_ofFile no_flag listed asked, List.forall₂_map_right_iff, List.forall₂_same]
    exact forall₂_congr fun entry _ =>
      Config.means_iff_of_relative relative ends absolute rooted entry
  · intro settled
    refine sameLayer_ofFile no_flag absolute' backend _ fun entries listed entry mem => ?_
    have means := (Config.means_iff_of_relative relative ends absolute rooted entry).mpr
      (settled entries listed entry mem)
    exact means.sameLocation (Config.means_of_absolute relative ends absolute _ entry)

end Settings

/-- A configuration file in a directory below the working directory. -/
def configured (text : String) : FileTree where
  root := .directory [("w", .directory [("conf", .directory [("d.toml", .file text.toUTF8)])])]
  workingDir := ["w"]

lemma readText_configured (text : String) :
    (configured text).readText "conf/d.toml" = .ok text := by
  have found : (configured text).lookup "conf/d.toml" = .ok (.file text.toUTF8) := rfl
  exact FileTree.readText_eq_ok_iff.mpr ⟨_, found, FileTree.decode_toUTF8 text⟩

/-- Without a base directory, a relative entry is a directory next to the file, and an absolute one
is itself, under both spellings. -/
theorem spelling_of_config_nested :
    let text := "template-dirs = [\"t\", \"/s\"]\n"
    let files := configured text
    let host := detectHost none "/w"
    ∃ settings settings',
      loadSettings { config := some "conf/d.toml" } files = .ok settings ∧
      loadSettings { config := some "/w/conf/d.toml" } files = .ok settings' ∧
      settings.options.templateDirs = some ["conf/t", "/s"] ∧
      settings'.options.templateDirs = some ["/w/conf/t", "/s"] ∧
      Assembly.SameLayer (List.Forall₂ Path.SameLocation)
        (Assembly.layer? .verbatim host files (Backend.ofName settings.backend) settings.options)
        (Assembly.layer? .verbatim host files (Backend.ofName settings.backend)
          settings'.options) := by
  intro text files host
  have no_flag : ({} : ConverterArguments).templateDirs = [] := rfl
  have read : files.readText "conf/d.toml" = .ok text := readText_configured text
  have parses : Config.written? text =
      some { options := { templateDirs := some ["t", "/s"] } } := by decide +kernel
  have absolute : Path.isAbsolute "/w" = true := by decide
  have relative : Path.isAbsolute "conf/d.toml" = false := by decide
  have stands : files.walk [] (Path.pieces "/w") = .ok files.workingDir := rfl
  have joined : Path.join "/w" "conf/d.toml" = "/w/conf/d.toml" := by decide +kernel
  have checked : FileTree.checkPath (Path.join "/w" "conf/d.toml") = .ok () := by decide +kernel
  have read' : files.readText (Path.join "/w" "conf/d.toml") = .ok text :=
    FileTree.readText_eq_ok_iff.mpr ⟨_, (by rw [joined]; rfl), FileTree.decode_toUTF8 text⟩
  obtain ⟨settings, settings', loaded, loaded', -, -, -, -, -, same⟩ :=
    spelling_of_config (κ := Unit) no_flag absolute relative stands checked read parses .verbatim
      none 0
  cases loaded.symm.trans (loadSettings_of_file {} read parses)
  cases loaded'.symm.trans (loadSettings_of_file {} read' parses)
  rw [joined] at loaded' same
  -- without a base directory of its own, the file has the working directory
  exact ⟨_, _, loaded, loaded', by decide +kernel, by decide +kernel,
    same fun _ _ _ _ => .inr (.refl _)⟩

/-- With a base directory, the entry `t` of a file that is named from the working directory is
looked for below the base directory, and not next to the file. -/
theorem relative_spelling_misplaces :
    let files := configured "template-dirs = \"t\"\nbase-dir = \"b\"\n"
    let host := detectHost none "/w"
    ∃ settings settings' above above',
      loadSettings { config := some "conf/d.toml" } files = .ok settings ∧
      loadSettings { config := some "/w/conf/d.toml" } files = .ok settings' ∧
      Assembly.layer? .verbatim host files (Backend.ofName settings.backend) settings.options =
        .ok (some above) ∧
      Assembly.layer? .verbatim host files (Backend.ofName settings'.backend) settings'.options =
        .ok (some above') ∧
      above.search.directories = ["/w/conf/b/conf/t"] ∧
      above'.search.directories = ["/w/conf/t"] ∧
      ¬List.Forall₂ Path.SameLocation above.search.directories above'.search.directories ∧
      ¬Config.Means "/w" "conf/d.toml" "t" "/w/conf/b/conf/t" := by
  intro files host
  let written : Config := { options := { templateDirs := some ["t"], baseDir := some "b" } }
  have parses : Config.written? "template-dirs = \"t\"\nbase-dir = \"b\"\n" = some written := by
    decide +kernel
  have found : files.lookup "/w/conf/d.toml" = .ok (.file _) := rfl
  have read := FileTree.readText_eq_ok_iff.mpr ⟨_, found, FileTree.decode_toUTF8 _⟩
  have backend : Backend.ofName (Settings.ofFile written "conf/d.toml" {}).backend = .html5 := by
    decide +kernel
  have backend' :
      Backend.ofName (Settings.ofFile written "/w/conf/d.toml" {}).backend = .html5 := by
    decide +kernel
  let above (path : String) : Layer :=
    .inDirectories "html5" [Path.join (Path.parent path) "t"]
      (Path.join "/w" (Path.join (Path.parent path) "b")) (.tera .verbatim false) false
  have asked (path : String) : Assembly.layer? .verbatim host files .html5
      (Settings.ofFile written path {}).options = .ok (some (above path)) := rfl
  have first : (above "conf/d.toml").search.directories = ["/w/conf/b/conf/t"] := by decide +kernel
  have second : (above "/w/conf/d.toml").search.directories = ["/w/conf/t"] := by decide +kernel
  refine ⟨_, _, _, _, loadSettings_of_file {} (readText_configured _) parses,
    loadSettings_of_file {} read parses, by rw [backend, asked], by rw [backend', asked], first,
    second, ?_, ?_⟩
  · rw [first, second]
    rintro (_ | ⟨same, _⟩)
    exact absurd same.names (by decide +kernel)
  · exact fun means => absurd means.2 (by decide +kernel)

end Command

end Quire
