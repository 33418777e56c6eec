import Mathlib.Control.Monad.Basic
import Quire.Template.Search
import Quire.Proofs.Files.Lookup

/-!
# Searching without looking first

The search for a template leaves out the places inside a directory that do not exist. A plain search
tries them all and goes on where there is no file. Both find the same, whatever the names of the
engine and the backend are: below a place that is no directory there is nothing, and the one place
that need not lie below the engine's directory, that of an absolute backend, comes again.

* `Search.layout`, `Search.firstFile`, `Search.resolvePlainly`: the plain search.
* `Search.firstOf_eq_firstFile`: trying a path is finding a file if nothing else can go wrong.
* `Search.firstIn_places`: one directory, with the places that exist and with all.
* `Search.firstIn_flatMap`: a list of directories.
* `Search.resolve_eq_resolvePlainly`: the two searches.
-/

namespace Quire.Template.Search

variable {search : Search} {files : FileTree} {name : String}

/-- All places inside one directory, the most specific one first. -/
def layout (search : Search) (directory : String) : List String :=
  let engineDir := Path.join directory search.engine
  let nested := if search.engine = "" then [] else [Path.join engineDir search.backend, engineDir]
  nested ++ [Path.join directory search.backend, directory]

/-- The template that the bytes of a file are. -/
def ofBytes (name path : String) (bytes : ByteArray) : Except LookupError (Option Found) :=
  match FileTree.decode bytes with
  | .ok source => .ok (some ⟨name, path, source⟩)
  | .error cause => .error ⟨path, cause⟩

/-- The first of some paths that leads to a file. -/
def firstFile (files : FileTree) (name : String) :
    List String → Except LookupError (Option Found)
  | [] => .ok none
  | path :: paths =>
    match files.lookup path with
    | .ok (.file bytes) => ofBytes name path bytes
    | _ => firstFile files name paths

/-- The paths of a template's file in some places. -/
def pathsIn (search : Search) (name : String) (places : List String) : List String :=
  places.map fun place => Path.join place (search.fileName name)

/-- The first template's file in some places. -/
def firstIn (search : Search) (files : FileTree) (name : String) (places : List String) :
    Except LookupError (Option Found) :=
  firstFile files name (search.pathsIn name places)

/-- The template for a name, tried in all places of the directories that exist. -/
def resolvePlainly (search : Search) (files : FileTree) (name : String) :
    Except LookupError (Option Found) :=
  search.firstIn files name ((search.directories.filter files.isDir).flatMap search.layout)

/-- A template's file is one that can be there: without NUL in its name, and neither the name nor
one of its paths too long. -/
structure Accepts (search : Search) (files : FileTree) (name : String) : Prop where
  no_nul : '\x00' ∉ (search.fileName name).toList
  short_name : (search.fileName name).utf8ByteSize ≤ FileTree.longestName
  short_paths : ∀ path ∈ search.candidates files name, path.utf8ByteSize < FileTree.pathLimit

/-- The file of a plain name has one piece. -/
lemma fileName_plain (plainName : Path.isPlainName name = true)
    (plainExtension : '/' ∉ search.extension.toList) : '/' ∉ (search.fileName name).toList := by
  obtain ⟨_, slash, _⟩ := Path.isPlainName_iff.mp plainName
  unfold fileName
  split
  next => exact slash
  next =>
    simp only [String.toList_append, List.mem_append, not_or]
    exact ⟨⟨slash, by decide⟩, plainExtension⟩

/-- The file of a plain name is no special piece. -/
lemma fileName_special (plainName : Path.isPlainName name = true) :
    search.fileName name ≠ "" ∧ search.fileName name ≠ "." ∧ search.fileName name ≠ ".." := by
  obtain ⟨special, _⟩ := Path.isPlainName_iff.mp plainName
  unfold fileName
  split
  next => exact special
  next extended =>
    -- a name, a dot and an extension are three characters at least
    have name_length : name.length ≠ 0 :=
      fun empty => special.1 (String.length_eq_zero_iff.mp empty)
    have extension_length : search.extension.length ≠ 0 :=
      fun empty => extended (String.length_eq_zero_iff.mp empty)
    have long : 3 ≤ (name ++ "." ++ search.extension).length := by
      simp only [String.length_append, show ".".length = 1 from rfl]
      omega
    refine ⟨?_, ?_, ?_⟩ <;> intro same <;> rw [same] at long <;> exact absurd long (by decide)

/-- Only directories are looked into. -/
lemma isDir_of_mem_places {directory place : String} (mem : place ∈ search.places files directory) :
    files.isDir place = true := by
  unfold places at mem
  split at mem
  next isDirectory =>
    simp only [List.mem_append, List.mem_singleton] at mem
    rcases mem with (nested | backend) | rfl
    · split at nested
      next both =>
        rcases List.mem_append.mp nested with deep | engine
        · split at deep
          next deepest =>
            cases List.mem_singleton.mp deep
            exact deepest
          next => cases deep
        · cases List.mem_singleton.mp engine
          exact both.2
      next => cases nested
    · split at backend
      next there =>
        cases List.mem_singleton.mp backend
        exact there
      next => cases backend
    · exact isDirectory
  next => cases mem

/-- The paths that are tried for a plain name. -/
lemma candidates_eq (plainName : Path.isPlainName name = true) :
    search.candidates files name =
      search.pathsIn name (search.directories.flatMap (search.places files)) := by
  unfold candidates
  rw [if_pos plainName]
  rfl

/-- A template's file is there or is missing, as far as it can be there. -/
lemma lookup_candidate (plainName : Path.isPlainName name = true)
    (plainExtension : '/' ∉ search.extension.toList) (accepted : search.Accepts files name)
    {path : String} (mem : path ∈ search.candidates files name) :
    (∃ entry, files.lookup path = .ok entry) ∨ files.lookup path = .error .notFound := by
  have short := accepted.short_paths path mem
  rw [candidates_eq plainName] at mem
  obtain ⟨place, searched, rfl⟩ := List.mem_map.mp mem
  obtain ⟨directory, _, inside⟩ := List.mem_flatMap.mp searched
  obtain ⟨entries, found⟩ := FileTree.isDir_iff.mp (isDir_of_mem_places inside)
  -- the directory in front is a path itself, so only the name could spoil the joined one
  obtain ⟨no_nul, nonempty, _⟩ :=
    FileTree.checkPath_eq_ok_iff.mp (FileTree.lookup_eq_ok_iff.mp found).1
  have checked : FileTree.checkPath (Path.join place (search.fileName name)) = .ok () :=
    FileTree.checkPath_eq_ok_iff.mpr ⟨Path.not_mem_join (by decide) no_nul accepted.no_nul,
      Path.join_ne_empty nonempty _, short⟩
  rw [FileTree.lookup_join found (fileName_plain plainName plainExtension)
    (fileName_special plainName) accepted.short_name checked]
  cases Entries.find? entries (search.fileName name) with
  | some entry => exact .inl ⟨entry, rfl⟩
  | none => exact .inr rfl

/-- A file ends the search. -/
lemma firstFile_cons_of_file {path : String} {bytes : ByteArray} (paths : List String)
    (found : files.lookup path = .ok (.file bytes)) :
    firstFile files name (path :: paths) = ofBytes name path bytes := by
  rw [firstFile, found]

/-- The search goes on where a path leads to no file. -/
lemma firstFile_cons_of_not_file {path : String} (paths : List String)
    (other : ∀ bytes, files.lookup path ≠ .ok (.file bytes)) :
    firstFile files name (path :: paths) = firstFile files name paths := by
  rw [firstFile]
  split
  next bytes found => exact (other bytes found).elim
  next => rfl

/-- Trying goes on at a directory. -/
lemma firstOf_cons_of_directory {path : String} {entries : List (String × FileEntry)}
    (paths : List String) (found : files.lookup path = .ok (.directory entries)) :
    firstOf files name (path :: paths) = firstOf files name paths := by
  have directory : files.isDir path = true := FileTree.isDir_iff.mpr ⟨entries, found⟩
  rw [firstOf, if_pos directory]

/-- Trying ends at a file. -/
lemma firstOf_cons_of_file {path : String} {bytes : ByteArray} (paths : List String)
    (found : files.lookup path = .ok (.file bytes)) :
    firstOf files name (path :: paths) = ofBytes name path bytes := by
  have no_directory : files.isDir path = false := by rw [FileTree.isDir, found]
  have read : files.readText path = FileTree.decode bytes := by
    rw [FileTree.readText, found]
    rfl
  rw [firstOf, read, no_directory, if_neg Bool.false_ne_true]
  -- bytes are a text or they are not; in no case are they missing
  unfold ofBytes FileTree.decode
  cases String.fromUTF8? bytes <;> rfl

/-- Trying goes on where nothing is. -/
lemma firstOf_cons_of_missing {path : String} (paths : List String)
    (missing : files.lookup path = .error .notFound) :
    firstOf files name (path :: paths) = firstOf files name paths := by
  have no_directory : files.isDir path = false := by rw [FileTree.isDir, missing]
  have read : files.readText path = .error .notFound := by
    rw [FileTree.readText, missing]
    rfl
  rw [firstOf, read, no_directory, if_neg Bool.false_ne_true]

/-- Trying a path is finding a file if each path leads to an entry or is missing. -/
lemma firstOf_eq_firstFile {paths : List String}
    (regular : ∀ path ∈ paths,
      (∃ entry, files.lookup path = .ok entry) ∨ files.lookup path = .error .notFound) :
    firstOf files name paths = firstFile files name paths := by
  induction paths with
  | nil => rfl
  | cons path rest ih =>
    have later := ih fun other mem => regular other (List.mem_cons_of_mem _ mem)
    rcases regular path List.mem_cons_self with ⟨entry, found⟩ | missing
    · cases entry with
      | directory entries =>
        rw [firstOf_cons_of_directory rest found, firstFile, found]
        exact later
      | file bytes => rw [firstOf_cons_of_file rest found, firstFile_cons_of_file rest found]
    · rw [firstOf_cons_of_missing rest missing, firstFile, missing]
      exact later

/-- What comes after some places matters only as far as something is found there. -/
lemma firstIn_append_congr (places : List String) {later later' : List String}
    (same : search.firstIn files name later = search.firstIn files name later') :
    search.firstIn files name (places ++ later) = search.firstIn files name (places ++ later') := by
  induction places with
  | nil => exact same
  | cons place rest ih =>
    have same_rest : firstFile files name (search.pathsIn name (rest ++ later)) =
        firstFile files name (search.pathsIn name (rest ++ later')) := ih
    simp only [firstIn, pathsIn, List.cons_append, List.map_cons] at same_rest ⊢
    rw [firstFile, firstFile, same_rest]

/-- A place need not be looked into again. -/
lemma firstIn_twice (place : String) (places : List String) :
    search.firstIn files name (place :: place :: places) =
      search.firstIn files name (place :: places) := by
  by_cases file : ∃ bytes, files.lookup (Path.join place (search.fileName name)) = .ok (.file bytes)
  · obtain ⟨bytes, found⟩ := file
    exact (firstFile_cons_of_file _ found).trans (firstFile_cons_of_file _ found).symm
  · exact firstFile_cons_of_not_file _ fun bytes found => file ⟨bytes, found⟩

section

variable (plain : '/' ∉ (search.fileName name).toList)
include plain

/-- Nothing is found in a place that is no directory. -/
lemma firstIn_of_not_isDir {place : String} (nonempty : place ≠ "")
    (missing : files.isDir place = false) (places : List String) :
    search.firstIn files name (place :: places) = search.firstIn files name places := by
  apply firstFile_cons_of_not_file
  intro bytes found
  have relative := Path.isAbsolute_of_not_mem plain
  have directory := FileTree.isDir_of_lookup_join nonempty relative found
  rw [missing] at directory
  cases directory

/-- A place that is left out if it does not exist might as well stay. -/
lemma firstIn_existing {place : String} (nonempty : place ≠ "") (places : List String) :
    search.firstIn files name ((if files.isDir place then [place] else []) ++ places) =
      search.firstIn files name (place :: places) := by
  cases directory : files.isDir place with
  | true => rfl
  | false => exact (firstIn_of_not_isDir plain nonempty directory places).symm

/-- Below an engine's directory that does not exist nothing is found that would not be found in the
directory of the backend. -/
lemma firstIn_without_engine {directory : String} (nonempty : directory ≠ "")
    (missing : files.isDir (Path.join directory search.engine) = false) (places : List String) :
    search.firstIn files name
        (Path.join (Path.join directory search.engine) search.backend ::
          Path.join directory search.engine :: Path.join directory search.backend :: places) =
      search.firstIn files name (Path.join directory search.backend :: places) := by
  have engine_nonempty : Path.join directory search.engine ≠ "" := Path.join_ne_empty nonempty _
  have skip := firstIn_of_not_isDir plain engine_nonempty missing
  cases absolute : Path.isAbsolute search.backend with
  | true =>
    -- the engine's directory plays no part, and the same place comes twice
    have same : Path.join (Path.join directory search.engine) search.backend =
        Path.join directory search.backend := by
      unfold Path.join
      rw [absolute, if_pos rfl, if_pos rfl]
    rw [same]
    exact (firstIn_append_congr [_] (skip _)).trans (firstIn_twice _ _)
  | false =>
    have below_missing :
        files.isDir (Path.join (Path.join directory search.engine) search.backend) = false := by
      apply Bool.eq_false_iff.mpr
      intro there
      obtain ⟨entries, found⟩ := FileTree.isDir_iff.mp there
      rw [FileTree.isDir_of_lookup_join engine_nonempty absolute found] at missing
      cases missing
    rw [firstIn_of_not_isDir plain (Path.join_ne_empty engine_nonempty _) below_missing, skip]

/-- In one directory that exists, the places that exist hold what all places hold. -/
lemma firstIn_places {directory : String} (there : files.isDir directory = true)
    (places : List String) :
    search.firstIn files name (search.places files directory ++ places) =
      search.firstIn files name (search.layout directory ++ places) := by
  have nonempty : directory ≠ "" := FileTree.ne_empty_of_isDir there
  have backend_nonempty := Path.join_ne_empty nonempty search.backend
  have engine_nonempty := Path.join_ne_empty nonempty search.engine
  have below_nonempty := Path.join_ne_empty engine_nonempty search.backend
  simp only [Search.places, layout, if_pos there]
  -- the engine has no level of its own, or one that exists, or one that does not
  by_cases no_engine : search.engine = ""
  · simp only [no_engine, ne_eq, not_true_eq_false, false_and, if_false, if_true, List.nil_append,
      List.append_assoc, List.cons_append]
    exact firstIn_existing plain backend_nonempty _
  · cases engine : files.isDir (Path.join directory search.engine) with
    | true =>
      simp only [no_engine, ne_eq, not_false_eq_true, and_self, if_true, if_false,
        List.append_assoc, List.cons_append, List.nil_append]
      rw [firstIn_existing plain below_nonempty]
      exact firstIn_append_congr [_, _] (firstIn_existing plain backend_nonempty _)
    | false =>
      simp only [no_engine, ne_eq, not_false_eq_true, Bool.false_eq_true, and_false, if_false,
        List.append_assoc, List.cons_append, List.nil_append]
      rw [firstIn_without_engine plain nonempty engine]
      exact firstIn_existing plain backend_nonempty _

/-- In some directories, the places that exist hold what all places hold. -/
lemma firstIn_flatMap (directories : List String) :
    search.firstIn files name (directories.flatMap (search.places files)) =
      search.firstIn files name ((directories.filter files.isDir).flatMap search.layout) := by
  induction directories with
  | nil => rfl
  | cons directory rest ih =>
    -- the directories after this one are reached only if nothing is found in it, on both sides
    rw [List.flatMap_cons]
    cases there : files.isDir directory with
    | true =>
      rw [List.filter_cons_of_pos there, List.flatMap_cons, firstIn_places plain there]
      exact firstIn_append_congr _ ih
    | false =>
      have nothing : search.places files directory = [] := by
        rw [Search.places, there, if_neg Bool.false_ne_true]
      rw [nothing, List.nil_append, List.filter_cons_of_neg (by rw [there]; exact nofun)]
      exact ih

end

/-- Leaving out the places that do not exist changes nothing: the template that is found, and the
one that is found and cannot be read, are those of the plain search. -/
theorem resolve_eq_resolvePlainly (directories : List String) (base engine backend : String)
    {extension name : String} (files : FileTree) (plainExtension : '/' ∉ extension.toList)
    (plainName : Path.isPlainName name = true)
    (accepted : (inDirectories directories base engine backend extension).Accepts files name) :
    (inDirectories directories base engine backend extension).resolve files name =
      (inDirectories directories base engine backend extension).resolvePlainly files name := by
  have plain :
      '/' ∉ ((inDirectories directories base engine backend extension).fileName name).toList :=
    fileName_plain plainName plainExtension
  calc
    _ = firstFile files name
          ((inDirectories directories base engine backend extension).candidates files name) :=
      firstOf_eq_firstFile fun path mem => lookup_candidate plainName plainExtension accepted mem
    _ = (inDirectories directories base engine backend extension).firstIn files name
          ((directories.map (Path.join base)).flatMap
            ((inDirectories directories base engine backend extension).places files)) := by
      rw [candidates_eq plainName]
      rfl
    _ = _ := firstIn_flatMap plain _

/-- Two directories. In the first one a directory has the name of the template's file and the engine
has no directory; in the second one the file in the engine's directory is no text. -/
def unreadable : FileTree where
  root := .directory
    [("base", .directory
      [("first", .directory
        [("html5", .directory []), ("table.tera", .directory [])]),
       ("second", .directory
        [("table.tera", .file ⟨#[116]⟩),
         ("tera", .directory [("table.tera", .file ⟨#[255]⟩)])])])]
  workingDir := ["base"]

/-- Both searches pass over the directories that are missing and the one that has the name of the
file, and both stop at the file that is no text. -/
theorem resolve_eq_resolvePlainly_unreadable :
    let search := inDirectories ["none", "first", "second"] "/base" "tera" "html5" "tera"
    '/' ∉ "tera".toList ∧ Path.isPlainName "table" = true ∧ search.Accepts unreadable "table" ∧
    search.resolve unreadable "table" = search.resolvePlainly unreadable "table" ∧
    search.resolvePlainly unreadable "table" =
      .error ⟨"/base/second/tera/table.tera", .notText⟩ := by
  intro search
  have plainExtension : '/' ∉ "tera".toList := by decide
  have plainName : Path.isPlainName "table" = true := by decide +kernel
  have accepted : search.Accepts unreadable "table" := by
    refine ⟨?_, ?_, ?_⟩ <;> decide +kernel
  have same := resolve_eq_resolvePlainly _ _ _ _ unreadable plainExtension plainName accepted
  exact ⟨plainExtension, plainName, accepted, same, by decide +kernel⟩

end Quire.Template.Search
