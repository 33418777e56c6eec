import Quire.Proofs.Command.Resolve
import Quire.Proofs.Files.Writing

/-!
# What the marks on searched paths tell

The command that shows which template a name has can list all paths that are tried, with a mark on
those that are files. The first mark tells how the search ends: at the marked path, with its text or
for want of one. Where nothing is marked, nothing is found.

* `Template.Search.probes`: the paths in their order, each with its mark or without.
* `Template.Search.MarksTell`: what the marks say of an outcome.
* `Template.Search.MarksTell.congr`: nothing but the first marked path has a say in it.
* `Command.explanation_tells`: the command and the search it explains.
-/

namespace Quire

namespace Template.Search

/-- A path that is tried, and whether it is marked. -/
structure Probe where
  path : String
  marked : Bool
deriving DecidableEq

/-- The line for a path. -/
def Probe.line (probe : Probe) : String :=
  (if probe.marked then "* " else "  ") ++ probe.path ++ "\n"

/-- The paths that are tried for a name, with a mark on those that are files. -/
def probes (search : Search) (files : FileTree) (name : String) : List Probe :=
  (search.candidates files name).map fun path => ⟨path, files.isFile path⟩

/-- An outcome is what the marks on some paths say: that nothing is found where nothing is marked,
and else that the first marked path is found, or cannot be read if its bytes are no text. -/
structure MarksTell (files : FileTree) (name : String) (probes : List Probe)
    (outcome : Except LookupError (Option Found)) : Prop where
  unmarked : (∀ probe ∈ probes, probe.marked = false) → outcome = .ok none
  marked : ∀ before path later, probes = before ++ ⟨path, true⟩ :: later →
    (∀ probe ∈ before, probe.marked = false) →
    ∃ bytes, files.lookup path = .ok (.file bytes) ∧
      outcome =
        match String.fromUTF8? bytes with
        | some text => .ok (some ⟨name, path, text⟩)
        | none => .error ⟨path, .notText⟩

variable {search : Search} {files files' : FileTree} {name : String}

/-- The search passes over paths that are no files. -/
lemma firstFile_append_of_unmarked {before : List String} (paths : List String)
    (unmarked : ∀ path ∈ before, files.isFile path = false) :
    firstFile files name (before ++ paths) = firstFile files name paths := by
  induction before with
  | nil => rfl
  | cons path before ih =>
    have here := unmarked path List.mem_cons_self
    rw [List.cons_append, firstFile_cons_of_not_file, ih fun other mem =>
      unmarked other (List.mem_cons_of_mem _ mem)]
    intro bytes found
    rw [FileTree.isFile_iff.mpr ⟨bytes, found⟩] at here
    cases here

/-- The bytes of a file are its text, or the file cannot be read. -/
lemma ofBytes_eq (path : String) (bytes : ByteArray) :
    ofBytes name path bytes =
      match String.fromUTF8? bytes with
      | some text => .ok (some ⟨name, path, text⟩)
      | none => .error ⟨path, .notText⟩ := by
  unfold ofBytes FileTree.decode
  cases String.fromUTF8? bytes <;> rfl

/-- The marks tell where a search for files ends. -/
lemma marksTell_firstFile (paths : List String) :
    MarksTell files name (paths.map fun path => ⟨path, files.isFile path⟩)
      (firstFile files name paths) where
  unmarked none_marked := by
    have nowhere : firstFile files name (paths ++ []) = .ok none :=
      firstFile_append_of_unmarked [] fun path mem => none_marked _ (List.mem_map_of_mem mem)
    rwa [List.append_nil] at nowhere
  marked before path later split first := by
    obtain ⟨front, rest, rfl, rfl, behind⟩ := List.map_eq_append_iff.mp split
    obtain ⟨other, back, rfl, here, rfl⟩ := List.map_eq_cons_iff.mp behind
    obtain ⟨rfl, file⟩ := Probe.mk.inj here
    obtain ⟨bytes, found⟩ := FileTree.isFile_iff.mp file
    refine ⟨bytes, found, ?_⟩
    rw [firstFile_append_of_unmarked _ fun path mem => first _ (List.mem_map_of_mem mem),
      firstFile_cons_of_file _ found, ofBytes_eq]

section

variable {probes probes' : List Probe} {outcome outcome' : Except LookupError (Option Found)}

lemma MarksTell.of_unmarked (tells : MarksTell files name probes outcome)
    (nowhere : probes.find? (·.marked) = none) : outcome = .ok none :=
  tells.unmarked fun probe mem => Bool.eq_false_iff.mpr (List.find?_eq_none.mp nowhere probe mem)

lemma MarksTell.of_marked {probe : Probe} (tells : MarksTell files name probes outcome)
    (first : probes.find? (·.marked) = some probe) :
    ∃ bytes, files.lookup probe.path = .ok (.file bytes) ∧
      outcome =
        match String.fromUTF8? bytes with
        | some text => .ok (some ⟨name, probe.path, text⟩)
        | none => .error ⟨probe.path, .notText⟩ := by
  obtain ⟨marked, before, later, rfl, unmarked⟩ := List.find?_eq_some_iff_append.mp first
  obtain ⟨path, mark⟩ := probe
  cases marked
  exact tells.marked before path later rfl fun probe mem => by simpa using unmarked probe mem

/-- No path has a say in an outcome but the first marked one, and that one only by what it leads
to. -/
lemma MarksTell.congr (tells : MarksTell files name probes outcome)
    (tells' : MarksTell files' name probes' outcome')
    (first : probes'.find? (·.marked) = probes.find? (·.marked))
    (same : ∀ probe, probes.find? (·.marked) = some probe →
      files'.lookup probe.path = files.lookup probe.path) : outcome' = outcome := by
  cases found : probes.find? (·.marked) with
  | none => rw [tells.of_unmarked found, tells'.of_unmarked (first.trans found)]
  | some probe =>
    obtain ⟨bytes, file, told⟩ := tells.of_marked found
    obtain ⟨bytes', file', told'⟩ := tells'.of_marked (first.trans found)
    rw [same probe found, file] at file'
    cases file'
    rw [told, told']

end

/-- The file of a plain name has one piece only if its extension has. -/
lemma extension_plain (onePiece : '/' ∉ (search.fileName name).toList) :
    '/' ∉ search.extension.toList := by
  unfold fileName at onePiece
  split at onePiece
  next none => rw [none]; decide
  next =>
    rw [String.toList_append, List.mem_append, not_or] at onePiece
    exact onePiece.2

/-- The marks on the paths that are tried for a name tell how its search ends. -/
lemma marksTell_resolve (plainName : Path.isPlainName name = true)
    (onePiece : '/' ∉ (search.fileName name).toList) (accepted : search.Accepts files name) :
    MarksTell files name (search.probes files name) (search.resolve files name) := by
  have resolved : search.resolve files name =
      firstFile files name (search.candidates files name) :=
    firstOf_eq_firstFile fun path mem =>
      lookup_candidate plainName (extension_plain onePiece) accepted mem
  rw [resolved]
  exact marksTell_firstFile _

end Template.Search

namespace Command

open Template (Search)

/-- What is listed for a name are the paths that are tried for it. -/
lemma explanation_of_search {compiler : Template.Compiler} {host : Host} {files : FileTree}
    {settings : Settings} {search : Search}
    (searched : searchFor compiler host files settings = .ok (some search)) (name : String) :
    explanation compiler host files settings name =
      String.join ((search.probes files name).map Search.Probe.line) := by
  simp only [explanation, searched, Search.probes, List.map_map]
  rfl

/-- The marks on the paths that are listed for a name tell the truth: where none is marked nothing
is found, and else the first marked path is what is found, or what cannot be read if it is no text.
No other path has a say in that, whatever it leads to. The command that lists the paths ends in the
same way. -/
theorem explanation_tells {search : Search} {files : FileTree} {name : String}
    (plainName : Path.isPlainName name = true)
    (onePiece : '/' ∉ (search.fileName name).toList) (accepted : search.Accepts files name) :
    Search.MarksTell files name (search.probes files name) (search.resolve files name) ∧
    (∀ (search' : Search) (files' : FileTree), '/' ∉ (search'.fileName name).toList →
      search'.Accepts files' name →
      (search'.probes files' name).find? (·.marked) = (search.probes files name).find? (·.marked) →
      (∀ probe, (search.probes files name).find? (·.marked) = some probe →
        files'.lookup probe.path = files.lookup probe.path) →
      search'.resolve files' name = search.resolve files name) ∧
    ∀ (arguments : ConverterArguments) (around : Surroundings) (settings : Settings),
      around.files = files → loadSettings arguments files = .ok settings →
      searchFor around.compiler around.host files settings = .ok (some search) →
      let listed := String.join ((search.probes files name).map Search.Probe.line)
      runResolve name true arguments around =
        match search.resolve files name with
        | .ok none =>
          succeed
            (listed ++ name ++ ": " ++ Answer.missing.text (Backend.ofName settings.backend) ++
              "\n") files
        | .ok (some template) => succeed (listed ++ name ++ ": " ++ template.path ++ "\n") files
        | .error e =>
          fail ⟨"Failed to resolve template for " ++ name, some e.message⟩ listed files := by
  have tells := Search.marksTell_resolve plainName onePiece accepted
  refine ⟨tells, ?_, ?_⟩
  · intro search' files' onePiece' accepted' first same
    exact tells.congr (Search.marksTell_resolve plainName onePiece' accepted') first same
  · rintro arguments around settings rfl loaded searched
    intro listed
    rw [runResolve_eq loaded, answer_of_search searched, explanation_of_search searched]
    cases search.resolve around.files name with
    | error e => rfl
    | ok found => cases found <;> rfl

/-- Two directories with a file each. In the first one a directory has the name of the file as well,
and the file is no text. -/
def misleading : Surroundings where
  stdin := ByteArray.empty
  compiler := .verbatim
  host := ⟨.native, "/w"⟩
  files :=
    { root := .directory
        [("w", .directory
          [("s", .directory [("paragraph.tera", .file ⟨#[112]⟩)]),
           ("t", .directory
             [("html5", .directory [("paragraph.tera", .directory [])]),
              ("paragraph.tera", .file ⟨#[255]⟩)])])]
      workingDir := ["w"] }

/-- The directory has no mark, and the first file with a mark is the one that cannot be read. -/
theorem explanation_tells_misleading :
    let search : Search := .inDirectories ["t", "s"] "/w" "tera" "html5" "tera"
    let arguments : ConverterArguments := { templateDirs := ["t", "s"] }
    let settings : Settings := .merge {} arguments
    Path.isPlainName "paragraph" = true ∧ '/' ∉ (search.fileName "paragraph").toList ∧
    search.Accepts misleading.files "paragraph" ∧
    loadSettings arguments misleading.files = .ok settings ∧
    searchFor misleading.compiler misleading.host misleading.files settings = .ok (some search) ∧
    search.resolve misleading.files "paragraph" = .error ⟨"/w/t/paragraph.tera", .notText⟩ ∧
    (runResolve "paragraph" true arguments misleading).stdout =
      "  /w/t/html5/paragraph.tera\n* /w/t/paragraph.tera\n* /w/s/paragraph.tera\n" := by
  intro search arguments settings
  have plainName : Path.isPlainName "paragraph" = true := by decide +kernel
  have onePiece : '/' ∉ (search.fileName "paragraph").toList := by decide +kernel
  have accepted : search.Accepts misleading.files "paragraph" := by
    refine ⟨?_, ?_, ?_⟩ <;> decide +kernel
  have backend : Backend.ofName settings.backend = .html5 := by decide
  have loaded : loadSettings arguments misleading.files = .ok settings := rfl
  have searched : searchFor misleading.compiler misleading.host misleading.files settings =
      .ok (some search) := by
    unfold searchFor
    rw [backend]
    rfl
  obtain ⟨tells, -, runs⟩ := explanation_tells plainName onePiece accepted
  have listed : search.probes misleading.files "paragraph" =
      [⟨"/w/t/html5/paragraph.tera", false⟩] ++ ⟨"/w/t/paragraph.tera", true⟩ ::
        [⟨"/w/s/paragraph.tera", true⟩] := by
    decide +kernel
  obtain ⟨bytes, found, outcome⟩ := tells.marked _ _ _ listed (by decide)
  have unreadable : FileTree.decode bytes = .error .notText := by
    have read : misleading.files.readText "/w/t/paragraph.tera" = .error .notText := by
      decide +kernel
    rwa [FileTree.readText, found] at read
  have resolved : search.resolve misleading.files "paragraph" =
      .error ⟨"/w/t/paragraph.tera", .notText⟩ := by
    rw [outcome]
    cases decoded : String.fromUTF8? bytes with
    | some text =>
      rw [FileTree.decode, decoded] at unreadable
      cases unreadable
    | none => rfl
  refine ⟨plainName, onePiece, accepted, loaded, searched, resolved, ?_⟩
  rw [runs arguments misleading settings rfl loaded searched, resolved, listed]
  decide +kernel

end Command

end Quire
