import Quire.Proofs.Files.Writing
import Quire.Proofs.Template.Layer
import Quire.Proofs.Template.Search

/-!
# Names stay in their places

The name of a node comes from a document, and paths are made of it. The path of a plain name is a
place of the search with one more piece, and the places do not depend on the name. Any other name
has no path at all. So no name leads out of the places, and no file that is written or removed under
one name is seen under another.

* `Search.fileName_injective`, `Search.names_join_fileName`: the piece that a name adds to a place.
* `Search.firstOf_congr`: what a search sees of the files.
* `Search.resolve_of_beside`: searching beside a file of another name.
* `Search.names_confined`: the result.
-/

namespace Quire

/-- A name that is not one piece of a path, wherever `/` and `\` separate pieces. -/
def Path.Straying (name : String) : Prop :=
  name = "" ∨ name = "." ∨ name = ".." ∨ '/' ∈ name.toList ∨ '\\' ∈ name.toList

instance (name : String) : Decidable (Path.Straying name) :=
  inferInstanceAs (Decidable (_ ∨ _ ∨ _ ∨ _ ∨ _))

lemma Path.isPlainName_iff_not_straying {name : String} :
    isPlainName name = true ↔ ¬ Straying name := by
  rw [isPlainName_iff, Straying]
  simp only [not_or, ne_eq, and_assoc]

namespace Template

namespace Search

variable {search : Search} {files after : FileTree} {name other : String}

lemma candidates_of_straying (strays : Path.Straying name) : search.candidates files name = [] := by
  unfold candidates
  rw [if_neg fun plainName => Path.isPlainName_iff_not_straying.mp plainName strays]

lemma fileName_injective (same : search.fileName name = search.fileName other) : name = other := by
  unfold fileName at same
  split at same
  next => exact same
  next =>
    have chars := congrArg String.toList same
    simp only [String.toList_append, List.append_left_inj] at chars
    exact String.toList_inj.mp chars

/-- Leaving places out keeps their order. -/
lemma sublist_of_ite (kept : Prop) [Decidable kept] (places : List String) :
    (if kept then places else []).Sublist places := by
  split
  next => exact .refl places
  next => exact List.nil_sublist places

lemma places_sublist_layout (directory : String) :
    (search.places files directory).Sublist (search.layout directory) := by
  unfold places
  split
  next =>
    simp only [layout, List.append_assoc]
    have behind := (sublist_of_ite (files.isDir (Path.join directory search.backend) = true)
      [Path.join directory search.backend]).append (.refl [directory])
    refine List.Sublist.append ?_ behind
    -- the engine has a level of its own unless it has no name
    by_cases no_engine : search.engine = ""
    · simp only [no_engine, ne_eq, not_true_eq_false, false_and, if_false, if_true]
      exact .refl []
    · rw [if_neg no_engine]
      split
      next => exact (sublist_of_ite _ [_]).append (.refl [Path.join directory search.engine])
      next => exact List.nil_sublist _
  next => exact List.nil_sublist _

section

variable (plainExtension : '/' ∉ search.extension.toList)
include plainExtension

/-- The file of a plain name is one piece after a place. -/
lemma names_join_fileName (plainName : Path.isPlainName name = true) (place : String) :
    Path.names (Path.join place (search.fileName name)) =
      Path.names place ++ [search.fileName name] := by
  have plain := fileName_plain plainName plainExtension
  obtain ⟨nonempty, not_here, -⟩ := search.fileName_special plainName
  have own : Path.names (search.fileName name) = [search.fileName name] := by
    rw [Path.names, Path.pieces_of_not_mem plain]
    simp [Path.moves, nonempty, not_here]
  rw [Path.names_join place (Path.isAbsolute_of_not_mem plain), own]

/-- The files of two names have different names, in one state of the files and in two. -/
lemma names_ne_of_mem_candidates {path path' : String} (plainName : Path.isPlainName name = true)
    (plainOther : Path.isPlainName other = true) (apart : name ≠ other)
    (mem : path ∈ search.candidates files name) (mem' : path' ∈ search.candidates after other) :
    Path.names path ≠ Path.names path' := by
  rw [candidates_eq plainName] at mem
  rw [candidates_eq plainOther] at mem'
  obtain ⟨place, -, rfl⟩ := List.mem_map.mp mem
  obtain ⟨place', -, rfl⟩ := List.mem_map.mp mem'
  intro same
  rw [names_join_fileName plainExtension plainName,
    names_join_fileName plainExtension plainOther] at same
  obtain ⟨-, last⟩ := List.append_inj' same rfl
  exact apart (fileName_injective (List.singleton_inj.mp last))

end

/-- Where the same directories are, the same places are looked into. -/
lemma places_congr (same : ∀ path, after.isDir path = files.isDir path) (directory : String) :
    search.places after directory = search.places files directory := by
  unfold places
  simp only [same]

lemma candidates_congr (same : ∀ path, after.isDir path = files.isDir path) :
    search.candidates after name = search.candidates files name := by
  unfold candidates
  rw [funext (places_congr same)]

/-- Trying paths sees no more of the files than which of them are directories, and what can be read
under them. -/
lemma firstOf_congr {paths : List String}
    (same : ∀ path ∈ paths,
      after.isDir path = files.isDir path ∧ after.readText path = files.readText path) :
    firstOf after name paths = firstOf files name paths := by
  induction paths with
  | nil => rfl
  | cons path paths ih =>
    obtain ⟨dir, read⟩ := same path List.mem_cons_self
    have later := ih fun other mem => same other (List.mem_cons_of_mem path mem)
    rw [firstOf, firstOf, dir, read, later]

/-- A file of another name is not seen. -/
lemma resolve_of_beside {target : List String} (agree : FileTree.AgreeBeside target files after)
    (plainExtension : '/' ∉ search.extension.toList)
    (apart : target.getLast? ≠ some (search.fileName name)) :
    search.resolve after name = search.resolve files name := by
  have dirs := FileTree.isDir_of_beside agree
  unfold resolve
  rw [candidates_congr dirs]
  refine firstOf_congr fun path mem => ⟨dirs path, ?_⟩
  by_cases strays : Path.Straying name
  · rw [candidates_of_straying strays] at mem
    cases mem
  · have plainName := Path.isPlainName_iff_not_straying.mpr strays
    rw [candidates_eq plainName] at mem
    obtain ⟨place, searched, rfl⟩ := List.mem_map.mp mem
    obtain ⟨directory, -, inside⟩ := List.mem_flatMap.mp searched
    exact FileTree.readText_congr <| FileTree.lookup_join_of_beside agree apart
      (isDir_of_mem_places inside) (fileName_plain plainName plainExtension)
      (fileName_special plainName)

end Search

namespace Layer

variable {layer : Layer} {files after : FileTree} {name : String}

/-- A layer without cache sees of the files what its search finds. -/
lemma view_congr (uncached : layer.cached = false)
    (same : layer.search.resolve after name = layer.search.resolve files name)
    (state : LayerState) :
    layer.view after state name = layer.view files state name ∧
      layer.settle after state name = layer.settle files state name := by
  have loaded : layer.loading after name = layer.loading files name := by
    unfold loading
    rw [same]
  rw [view_of_uncached uncached, view_of_uncached uncached, settle_of_uncached uncached,
    settle_of_uncached uncached, loaded]
  exact ⟨rfl, rfl⟩

end Layer

/-- A name with a separator in it, a special one and the empty one have no paths. The paths of every
other name are the places that are searched for all names, each with one more piece, which is
neither special nor divided. Two names have no path in common, however it is spelled, and a file
that is created, replaced or removed under one of them makes no difference to the other. -/
theorem Search.names_confined (search : Search) (plainExtension : '/' ∉ search.extension.toList) :
    (∀ files name, Path.Straying name →
      search.candidates files name = [] ∧ search.resolve files name = .ok none) ∧
    (∀ files : FileTree,
      let places := search.directories.flatMap (search.places files)
      (∀ place ∈ places, files.isDir place = true ∧
        ∃ directory ∈ search.directories, place ∈ search.layout directory) ∧
      ∀ name, ¬ Path.Straying name →
        let file := search.fileName name
        search.candidates files name = places.map (Path.join · file) ∧
        (file ≠ "" ∧ file ≠ "." ∧ file ≠ "..") ∧ '/' ∉ file.toList ∧
        ∀ place ∈ places,
          Path.isAbsolute (Path.join place file) = Path.isAbsolute place ∧
          Path.names (Path.join place file) = Path.names place ++ [file]) ∧
    (∀ name other, ¬ Path.Straying name → ¬ Path.Straying other → name ≠ other →
      ∀ files files', ∀ path ∈ search.candidates files name,
        ∀ path' ∈ search.candidates files' other, Path.names path ≠ Path.names path') ∧
    ∀ before after name other directory, ¬ Path.Straying other → name ≠ other →
      FileTree.Touched (Path.join directory (search.fileName other)) before after →
      search.resolve after name = search.resolve before name ∧
      ∀ layer : Layer, layer.search = search → layer.cached = false → ∀ state,
        (layer.handles after name).run state = (layer.handles before name).run state ∧
        ∀ task : Task, task.name = name →
          (layer.convert after task).run state = (layer.convert before task).run state := by
  simp only [← Path.isPlainName_iff_not_straying]
  refine ⟨fun files name strays => ?_, fun files => ⟨fun place searched => ?_, ?_⟩, ?_, ?_⟩
  · unfold resolve
    rw [candidates_of_straying strays]
    exact ⟨rfl, rfl⟩
  · obtain ⟨directory, mem, inside⟩ := List.mem_flatMap.mp searched
    exact ⟨isDir_of_mem_places inside, directory, mem,
      (places_sublist_layout directory).subset inside⟩
  · intro name plainName
    have plain := fileName_plain plainName plainExtension
    refine ⟨candidates_eq plainName, fileName_special plainName, plain,
      fun place searched => ⟨?_, ?_⟩⟩
    · rw [Path.isAbsolute_join, Path.isAbsolute_of_not_mem plain, Bool.false_or]
    · exact names_join_fileName plainExtension plainName place
  · intro name other plainName plainOther apart files files' path mem path' mem'
    exact names_ne_of_mem_candidates plainExtension plainName plainOther apart mem mem'
  · intro before after name other directory plainOther apart touched
    obtain ⟨above, agree⟩ := FileTree.beside_of_touched touched
      (fileName_plain plainOther plainExtension) (fileName_special plainOther)
    have last : (above ++ [search.fileName other]).getLast? ≠ some (search.fileName name) := by
      rw [List.getLast?_concat]
      exact fun same => apart (fileName_injective (Option.some.inj same)).symm
    have same := resolve_of_beside agree plainExtension last
    refine ⟨same, ?_⟩
    rintro layer rfl uncached state
    obtain ⟨view, settle⟩ := Layer.view_congr uncached same state
    refine ⟨?_, ?_⟩
    · rw [layer.run_handles, layer.run_handles, view, settle]
    · rintro task rfl
      rw [layer.run_convert, layer.run_convert, view, settle]

/-- A new template for tables is written into a directory that the search looks into first. -/
theorem Search.names_confined_table :
    let search : Search := ⟨["/t"], "tera", "html5", "tera"⟩
    let before : FileTree := ⟨.directory [("t", .directory
      [("html5", .directory []), ("paragraph.tera", .file ⟨#[112]⟩)])], []⟩
    let after := before.put ["t", "html5", "table.tera"] (some (.file ⟨#[116]⟩))
    let layer : Layer := ⟨"html5", ⟨"tera", "tera", fun _ source => .ok fun _ => .ok source⟩,
      search, false⟩
    '/' ∉ search.extension.toList ∧ Path.Straying "../table" ∧
    ¬ Path.Straying "table" ∧ ¬ Path.Straying "paragraph" ∧ "paragraph" ≠ "table" ∧
    before.write (Path.join "/t/html5" (search.fileName "table")) ⟨#[116]⟩ = .ok after ∧
    layer.cached = false ∧
    search.candidates after "../table" = [] ∧
    Path.names "/t/html5/paragraph.tera" ≠ Path.names "/t/html5/table.tera" ∧
    search.resolve after "paragraph" = search.resolve before "paragraph" ∧
    (layer.convert after ⟨.named "paragraph", "", none⟩).run {} =
      (layer.convert before ⟨.named "paragraph", "", none⟩).run {} ∧
    search.resolve before "paragraph" = .ok (some ⟨"paragraph", "/t/paragraph.tera", "p"⟩) ∧
    search.candidates after "paragraph" = ["/t/html5/paragraph.tera", "/t/paragraph.tera"] ∧
    search.resolve after "table" ≠ search.resolve before "table" := by
  intro search before after layer
  have plainExtension : '/' ∉ search.extension.toList := by decide
  have strays : Path.Straying "../table" := by decide +kernel
  have table : ¬ Path.Straying "table" := by decide +kernel
  have paragraph : ¬ Path.Straying "paragraph" := by decide +kernel
  have written : before.write (Path.join "/t/html5" (search.fileName "table")) ⟨#[116]⟩ =
      .ok after := by
    have file : search.fileName "table" = "table.tera" := by decide +kernel
    rw [file]
    with_unfolding_all rfl
  obtain ⟨refused, -, apart, frame⟩ := names_confined search plainExtension
  obtain ⟨same, calls⟩ := frame before after "paragraph" "table" "/t/html5" table (by decide)
    (.written _ written)
  refine ⟨plainExtension, strays, table, paragraph, by decide, written, rfl,
    (refused after _ strays).1, ?_, same, (calls layer rfl rfl {}).2 _ rfl, ?_, ?_, ?_⟩
  · exact apart "paragraph" "table" paragraph table (by decide) before after _
      (by decide +kernel) _ (by decide +kernel)
  all_goals decide +kernel

end Template

end Quire
