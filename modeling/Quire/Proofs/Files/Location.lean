import Quire.Proofs.Files.Lookup

/-!
# Locations

Where a path leads, told by its text: the names along it, without the pieces that stay where they
are. Two paths with the same start and the same names are spellings of one location, and lead to the
same directory in every tree.

* `Path.names_join`, `Path.names_eq_concat`: the names along a joined path and along the directory
  part of the path of a file.
* `FileTree.walk_filter_moves_iff`: pieces that stay make no difference to a walk to a directory.
* `FileTree.lookup_directory_congr`: one location is one directory.
* `FileTree.lookup_join_workingDir`: a path spelled with the working directory in front.
-/

namespace Quire

namespace Path

/-- Whether a piece of a path leads elsewhere. -/
def moves (piece : String) : Bool :=
  !(piece == "" || piece == ".")

/-- The names along a path; going up is one of them. -/
def names (path : String) : List String :=
  (pieces path).filter moves

/-- Two spellings of one location. -/
structure SameLocation (a b : String) : Prop where
  start : isAbsolute a = isAbsolute b
  names : names a = names b

lemma SameLocation.refl (path : String) : SameLocation path path :=
  ⟨rfl, rfl⟩

lemma moves_eq_false_iff {piece : String} : moves piece = false ↔ piece = "" ∨ piece = "." := by
  unfold moves
  rw [Bool.not_eq_false', Bool.or_eq_true, beq_iff_eq, beq_iff_eq]

lemma moves_eq_true_iff {piece : String} : moves piece = true ↔ ¬(piece = "" ∨ piece = ".") := by
  rw [← moves_eq_false_iff, Bool.not_eq_false]

/-- The names before a slash and after it. -/
lemma names_append_slash (a b : String) : names (a ++ "/" ++ b) = names a ++ names b := by
  unfold names
  rw [pieces_append_slash, List.filter_append]

/-- A slash at the end leads nowhere. -/
@[simp]
lemma names_slash (a : String) : names (a ++ "/") = names a := by
  rw [names, pieces_slash, List.filter_append]
  exact List.append_nil _

/-- The names along a joined path are those of both. -/
lemma names_join (a : String) {b : String} (relative : isAbsolute b = false) :
    names (join a b) = names a ++ names b := by
  by_cases nonempty : a = ""
  · subst nonempty
    unfold join
    rw [relative, if_neg Bool.false_ne_true]
    rfl
  · obtain ⟨stem, rfl | rfl, joined⟩ := join_eq nonempty relative
    · rw [joined, names_append_slash]
    · rw [joined, names_append_slash, names_slash]

/-- An absolute path replaces what it is joined to. -/
lemma join_of_absolute (a : String) {b : String} (absolute : isAbsolute b = true) :
    join a b = b := by
  unfold join
  rw [absolute, if_pos rfl]

/-- A path stays the same when it is joined only if it is absolute or there is nothing in front. -/
lemma join_eq_self_iff {a b : String} : join a b = b ↔ isAbsolute b = true ∨ a = "" := by
  cases starts : isAbsolute b with
  | true => exact iff_of_true (join_of_absolute a starts) (.inl rfl)
  | false =>
    by_cases nonempty : a = ""
    · subst nonempty
      refine iff_of_true ?_ (.inr rfl)
      unfold join
      rw [starts, if_neg Bool.false_ne_true]
      rfl
    · refine iff_of_false ?_ (not_or.mpr ⟨Bool.false_ne_true, nonempty⟩)
      obtain ⟨stem, -, joined⟩ := join_eq nonempty starts
      intro same
      -- the slash that is put between makes the joined path longer
      have length := congrArg String.length (joined.symm.trans same)
      simp only [String.length_append, show "/".length = 1 from rfl] at length
      omega

/-- A joined path is absolute if one of both is. -/
@[simp]
lemma isAbsolute_join (a b : String) : isAbsolute (join a b) = (isAbsolute b || isAbsolute a) := by
  cases starts : isAbsolute b with
  | true => rw [join_of_absolute a starts, starts, Bool.true_or]
  | false =>
    rw [Bool.false_or]
    by_cases nonempty : a = ""
    · subst nonempty
      unfold join
      rw [starts, if_neg Bool.false_ne_true]
      exact starts
    · obtain ⟨tail, joined⟩ := join_eq_append nonempty starts
      rw [joined, isAbsolute_append nonempty]

/-- A joined path ends as the path behind does. -/
lemma getLast?_pieces_join (a : String) {b : String} (relative : isAbsolute b = false) :
    (pieces (join a b)).getLast? = (pieces b).getLast? := by
  by_cases nonempty : a = ""
  · subst nonempty
    unfold join
    rw [relative, if_neg Bool.false_ne_true]
    rfl
  · obtain ⟨stem, -, joined⟩ := join_eq nonempty relative
    rw [joined, pieces_append_slash, List.getLast?_append,
      List.getLast?_eq_some_getLast (pieces_ne_nil b)]
    rfl

/-- Trimming the end of a path keeps the names along it. -/
lemma names_trimReversed (cs : List Char) :
    names (String.ofList (trimReversed cs).reverse) = names (String.ofList cs.reverse) := by
  have slash (rest : List Char) :
      String.ofList ('/' :: rest).reverse = String.ofList rest.reverse ++ "/" := by
    rw [List.reverse_cons, String.ofList_append]
  fun_induction trimReversed cs with
  | case1 => rfl
  | case2 rest _ ih => rw [ih, slash, names_slash]
  | case3 => rfl
  | case4 rest _ ih =>
    have dot : String.ofList ('.' :: '/' :: rest).reverse =
        String.ofList rest.reverse ++ "/" ++ "." := by
      rw [List.reverse_cons, String.ofList_append, slash]
    rw [ih, dot, names_append_slash]
    exact (List.append_nil _).symm
  | case5 => rfl

/-- Trimming the end of a path keeps its start. -/
lemma getLast?_trimReversed (cs : List Char) : (trimReversed cs).getLast? = cs.getLast? := by
  fun_induction trimReversed cs with
  | case1 => rfl
  | case2 rest other ih =>
    cases rest with
    | nil => exact (other rfl).elim
    | cons c rest => rw [ih, List.getLast?_cons_cons]
  | case3 => rfl
  | case4 rest other ih =>
    cases rest with
    | nil => exact (other rfl).elim
    | cons c rest => rw [ih, List.getLast?_cons_cons, List.getLast?_cons_cons]
  | case5 => rfl

/-- The last piece of a path, and what is in front of it; the directory part is what is in front,
trimmed. -/
lemma exists_front (path : String) :
    ∃ front last, path = front ++ last ∧ '/' ∉ last.toList ∧
      (front = "" ∨ ∃ stem, front = stem ++ "/") ∧
      parent path = String.ofList (trimReversed front.toList.reverse).reverse := by
  let ends := path.toList.reverse
  refine ⟨String.ofList (ends.dropWhile (· != '/')).reverse,
    String.ofList (ends.takeWhile (· != '/')).reverse, ?_, ?_, ?_, ?_⟩
  · rw [← String.ofList_append, ← List.reverse_append, List.takeWhile_append_dropWhile,
      List.reverse_reverse, String.ofList_toList]
  · rw [String.toList_ofList, List.mem_reverse]
    intro slash
    have kept := List.all_eq_true.mp (List.all_takeWhile (l := ends)) '/' slash
    cases kept
  · cases front : ends.dropWhile (· != '/') with
    | nil => exact .inl rfl
    | cons c rest =>
      have slash : c = '/' := by
        have stopped := List.head?_dropWhile_not (· != '/') ends
        rw [front] at stopped
        simpa using stopped
      refine .inr ⟨String.ofList rest.reverse, ?_⟩
      rw [slash, List.reverse_cons, String.ofList_append]
  · rw [String.toList_ofList, List.reverse_reverse]
    rfl

/-- The directory part of a path starts where the path does. -/
lemma isAbsolute_parent (path : String) : isAbsolute (parent path) = isAbsolute path := by
  obtain ⟨front, last, rfl, plain, shape, cut⟩ := exists_front path
  have start : isAbsolute (parent (front ++ last)) = isAbsolute front := by
    unfold isAbsolute
    rw [cut, String.toList_ofList, List.head?_reverse, getLast?_trimReversed, List.getLast?_reverse]
  rw [start]
  by_cases empty : front = ""
  · subst empty
    rw [String.empty_append, isAbsolute_of_not_mem plain]
    rfl
  · rw [isAbsolute_append empty]

/-- The directory part of the path of a file leads along all names but the last. -/
lemma names_eq_concat (path : String)
    (ends : ∀ piece, (pieces path).getLast? = some piece → moves piece = true) :
    ∃ name, names path = names (parent path) ++ [name] := by
  obtain ⟨front, last, rfl, plain, shape, cut⟩ := exists_front path
  have trimmed : names (parent (front ++ last)) = names front := by
    rw [cut, names_trimReversed, List.reverse_reverse, String.ofList_toList]
  have one : pieces last = [last] := pieces_of_not_mem plain
  have moving : moves last = true := by
    apply ends
    rcases shape with rfl | ⟨stem, rfl⟩
    · rw [String.empty_append, one, List.getLast?_singleton]
    · rw [pieces_append_slash, one, List.getLast?_concat]
  have only : names last = [last] := by
    rw [names, one, List.filter_cons_of_pos moving, List.filter_nil]
  refine ⟨last, ?_⟩
  rw [trimmed]
  rcases shape with rfl | ⟨stem, rfl⟩
  · rw [String.empty_append, only]
    rfl
  · rw [names_append_slash, names_slash, only]

end Path

namespace FileTree

variable {tree : FileTree}

/-- Pieces that stay where they are make no difference to a walk that ends in a directory. -/
lemma walk_filter_moves_iff {here there : List String} {pieces : List String}
    {entries : List (String × FileEntry)}
    (directory : tree.root.at? there = some (.directory entries)) :
    tree.walk here (pieces.filter Path.moves) = .ok there ↔ tree.walk here pieces = .ok there := by
  induction pieces generalizing here with
  | nil => exact Iff.rfl
  | cons piece rest ih =>
    cases moving : Path.moves piece with
    | false =>
      have stays := Path.moves_eq_false_iff.mp moving
      rw [List.filter_cons_of_neg (by simp [moving]), ih]
      -- the piece is walked over in a directory, and there is one: here, or where the walk goes on
      constructor
      · intro walked
        have found : ∃ entries, tree.root.at? here = some (.directory entries) := by
          cases rest with
          | nil =>
            cases walked
            exact ⟨entries, directory⟩
          | cons next rest => exact at?_of_walk (List.cons_ne_nil _ _) walked
        obtain ⟨_, found⟩ := found
        simp only [walk, found, if_pos stays, walked]
      · intro walked
        obtain ⟨_, found⟩ := at?_of_walk (List.cons_ne_nil _ _) walked
        simpa only [walk, found, if_pos stays] using walked
    | true =>
      rw [List.filter_cons_of_pos moving]
      simp only [walk, if_neg (Path.moves_eq_true_iff.mp moving)]
      cases tree.root.at? here with
      | none => exact Iff.rfl
      | some entry =>
        cases entry with
        | file bytes => exact Iff.rfl
        | directory above =>
          dsimp only
          split
          next => exact ih
          next =>
            split
            next => exact Iff.rfl
            next =>
              split
              next => exact Iff.rfl
              next => exact ih

/-- Two spellings of one location lead to one directory, as far as both are taken as paths. -/
lemma lookup_directory_congr {a b : String} (same : Path.SameLocation a b)
    (checked : checkPath a = .ok ()) (checked' : checkPath b = .ok ())
    (entries : List (String × FileEntry)) :
    tree.lookup a = .ok (.directory entries) ↔ tree.lookup b = .ok (.directory entries) := by
  have start : tree.start a = tree.start b := by
    unfold FileTree.start
    rw [same.start]
  simp only [lookup_eq_ok_iff, checked, checked', true_and]
  refine exists_congr fun there => and_congr_left fun directory => ?_
  refine (walk_filter_moves_iff directory).symm.trans (.trans ?_ (walk_filter_moves_iff directory))
  rw [start]
  exact iff_of_eq (congrArg (tree.walk _ · = _) same.names)

/-- The path of a file ends in a piece that leads to the file. -/
lemma moves_of_lookup_file {path : String} {bytes : ByteArray}
    (found : tree.lookup path = .ok (.file bytes)) {piece : String}
    (ends : (Path.pieces path).getLast? = some piece) : Path.moves piece = true := by
  obtain ⟨_, names, walked, reached⟩ := lookup_eq_ok_iff.mp found
  obtain ⟨front, split⟩ := List.getLast?_eq_some_iff.mp ends
  rw [split, walk_append] at walked
  cases before : tree.walk (tree.start path) front with
  | error e =>
    rw [before] at walked
    cases walked
  | ok here =>
    rw [before] at walked
    obtain ⟨entries, directory⟩ := at?_of_walk (List.cons_ne_nil _ _) walked
    rw [Path.moves_eq_true_iff]
    intro stays
    -- a piece that stays would leave the walk in a directory
    have same : names = here := by
      simpa [bind, Except.bind, walk, directory, if_pos stays] using walked.symm
    subst same
    rw [directory] at reached
    cases reached

/-- A path leads to the same entry with the working directory in front, if that is taken as a path
at all. -/
lemma lookup_join_workingDir {cwd path : String} {entry : FileEntry}
    (absolute : Path.isAbsolute cwd = true) (relative : Path.isAbsolute path = false)
    (stands : tree.walk [] (Path.pieces cwd) = .ok tree.workingDir)
    (checked : checkPath (Path.join cwd path) = .ok ()) (found : tree.lookup path = .ok entry) :
    tree.lookup (Path.join cwd path) = .ok entry := by
  obtain ⟨_, names, walked, reached⟩ := lookup_eq_ok_iff.mp found
  have nonempty : cwd ≠ "" := by
    rintro rfl
    cases absolute
  have here : tree.start path = tree.workingDir := by
    rw [start, relative, if_neg Bool.false_ne_true]
  have root : tree.start cwd = [] := by
    rw [start, absolute, if_pos rfl]
  rw [here] at walked
  obtain ⟨entries, directory⟩ := at?_of_walk (Path.pieces_ne_nil path) walked
  obtain ⟨stem, shape, split⟩ := Path.join_eq nonempty relative
  have reaches : tree.walk [] (Path.pieces stem) = .ok tree.workingDir :=
    (walk_stem_iff shape directory).mp stands
  refine lookup_eq_ok_iff.mpr ⟨checked, names, ?_, reached⟩
  rw [start_join nonempty relative, root, split, Path.pieces_append_slash, walk_append, reaches]
  exact walked

end FileTree

end Quire
