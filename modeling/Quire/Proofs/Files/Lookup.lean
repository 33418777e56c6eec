import Mathlib.Tactic.Lemma
import Quire.Files.Tree

/-!
# Looking up joined paths

How a joined path is walked: along the pieces of the one path and then along those of the other. So
whatever is reached below a path makes the path a directory, and a plain name below a directory is
looked up among the entries of the directory.

* `Path.join_eq`, `Path.pieces_append_slash`: a joined path, with its pieces.
* `FileTree.isDir_of_lookup_join`: what a joined path leads to lies in a directory.
* `FileTree.lookup_join`: a plain name below a directory.
-/

namespace Quire

namespace Path

/-- Pieces before a slash and after it. -/
lemma piecesFrom_append_slash (piece before after : List Char) :
    piecesFrom piece (before ++ '/' :: after) = piecesFrom piece before ++ piecesFrom [] after := by
  induction before generalizing piece with
  | nil => rfl
  | cons c rest ih =>
    simp only [List.cons_append, piecesFrom]
    split
    next => rw [ih, List.cons_append]
    next => exact ih _

/-- A text without slash is one piece. -/
lemma piecesFrom_of_not_mem {cs : List Char} (piece : List Char) (plain : '/' ∉ cs) :
    piecesFrom piece cs = [String.ofList (piece.reverse ++ cs)] := by
  induction cs generalizing piece with
  | nil => simp only [piecesFrom, List.append_nil]
  | cons c rest ih =>
    have other : c ≠ '/' := fun same => plain (same ▸ List.mem_cons_self)
    have later : '/' ∉ rest := fun mem => plain (List.mem_cons_of_mem _ mem)
    simp only [piecesFrom, if_neg other]
    rw [ih _ later, List.reverse_cons, List.append_assoc, List.singleton_append]

/-- Each text has a piece. -/
lemma pieces_ne_nil (path : String) : pieces path ≠ [] := by
  have nonempty (piece cs : List Char) : piecesFrom piece cs ≠ [] := by
    induction cs generalizing piece with
    | nil => exact List.cons_ne_nil _ _
    | cons c rest ih =>
      simp only [piecesFrom]
      split
      next => exact List.cons_ne_nil _ _
      next => exact ih _
  exact nonempty [] path.toList

/-- The pieces of two paths with a slash between them. -/
lemma pieces_append_slash (a b : String) : pieces (a ++ "/" ++ b) = pieces a ++ pieces b := by
  have split : (a ++ "/" ++ b).toList = a.toList ++ '/' :: b.toList := by
    simp [String.toList_append]
  unfold pieces
  rw [split, piecesFrom_append_slash]

/-- A slash at the end begins an empty piece. -/
lemma pieces_slash (a : String) : pieces (a ++ "/") = pieces a ++ [""] := by
  rw [← String.append_empty (s := a ++ "/"), pieces_append_slash]
  rfl

/-- The only piece of a name. -/
lemma pieces_of_not_mem {name : String} (plain : '/' ∉ name.toList) : pieces name = [name] := by
  unfold pieces
  rw [piecesFrom_of_not_mem [] plain, List.reverse_nil, List.nil_append, String.ofList_toList]

/-- Joining a relative path puts a slash in front of it, unless there is one already. -/
lemma join_eq {a b : String} (nonempty : a ≠ "") (relative : isAbsolute b = false) :
    ∃ stem, (a = stem ∨ a = stem ++ "/") ∧ join a b = stem ++ "/" ++ b := by
  have notEmpty : a.isEmpty = false := by
    apply Bool.eq_false_iff.mpr
    exact fun empty => nonempty (String.isEmpty_iff.mp empty)
  unfold join
  rw [relative, if_neg Bool.false_ne_true, notEmpty, Bool.false_or]
  split
  next last =>
    obtain ⟨front, ends⟩ := List.getLast?_eq_some_iff.mp (beq_iff_eq.mp last)
    have same : a = String.ofList front ++ "/" := by
      apply String.ext
      rw [ends, String.toList_append, String.toList_ofList]
      rfl
    exact ⟨String.ofList front, .inr same, by rw [same]⟩
  next => exact ⟨a, .inl rfl, rfl⟩

/-- A joined path begins with the path in front. -/
lemma join_eq_append {a b : String} (nonempty : a ≠ "") (relative : isAbsolute b = false) :
    ∃ tail, join a b = a ++ tail := by
  obtain ⟨stem, rfl | rfl, joined⟩ := join_eq nonempty relative
  · exact ⟨"/" ++ b, by rw [joined, String.append_assoc]⟩
  · exact ⟨b, joined⟩

/-- Whether a path starts at the root is told by its front. -/
lemma isAbsolute_append {a : String} (nonempty : a ≠ "") (b : String) :
    isAbsolute (a ++ b) = isAbsolute a := by
  unfold isAbsolute
  rw [String.toList_append]
  cases front : a.toList with
  | nil => exact (nonempty (String.toList_eq_nil_iff.mp front)).elim
  | cons c rest => rfl

/-- A text without slash is no path from the root. -/
lemma isAbsolute_of_not_mem {name : String} (plain : '/' ∉ name.toList) :
    isAbsolute name = false := by
  unfold isAbsolute
  cases front : name.toList with
  | nil => rfl
  | cons c rest =>
    rw [front] at plain
    exact beq_eq_false_iff_ne.mpr fun same => plain (Option.some.inj same ▸ List.mem_cons_self)

/-- A path that begins with one that is not empty is not empty either. -/
lemma join_ne_empty {a : String} (nonempty : a ≠ "") (b : String) : join a b ≠ "" := by
  cases absolute : isAbsolute b with
  | true =>
    unfold join
    rw [absolute, if_pos rfl]
    rintro rfl
    cases absolute
  | false =>
    obtain ⟨tail, joined⟩ := join_eq_append nonempty absolute
    rw [joined]
    intro empty
    exact nonempty (String.append_eq_empty_iff.mp empty).1

/-- A joined path has the characters of both paths and slashes. -/
lemma not_mem_join {a b : String} {c : Char} (other : c ≠ '/') (not_front : c ∉ a.toList)
    (not_back : c ∉ b.toList) : c ∉ (join a b).toList := by
  unfold join
  split
  next => exact not_back
  next =>
    split
    next => simp [String.toList_append, not_front, not_back]
    next => simp [String.toList_append, not_front, not_back, other]

/-- What makes a name plain. -/
lemma isPlainName_iff {name : String} :
    isPlainName name = true ↔
      (name ≠ "" ∧ name ≠ "." ∧ name ≠ "..") ∧ '/' ∉ name.toList ∧ '\\' ∉ name.toList := by
  unfold isPlainName
  simp only [Bool.not_eq_true', Bool.or_eq_false_iff, List.any_eq_false,
    String.isEmpty_eq_false_iff, beq_eq_false_iff_ne, Bool.or_eq_true, beq_iff_eq, not_or]
  constructor
  · rintro ⟨⟨⟨nonempty, not_here⟩, not_above⟩, chars⟩
    exact ⟨⟨nonempty, not_here, not_above⟩, fun slash => (chars _ slash).1 rfl,
      fun backslash => (chars _ backslash).2 rfl⟩
  · rintro ⟨⟨nonempty, not_here, not_above⟩, slash, backslash⟩
    refine ⟨⟨⟨nonempty, not_here⟩, not_above⟩, fun c mem => ⟨?_, ?_⟩⟩
    · rintro rfl
      exact slash mem
    · rintro rfl
      exact backslash mem

end Path

namespace FileTree

variable {tree : FileTree}

/-- What is taken as a path. -/
lemma checkPath_eq_ok_iff {path : String} :
    checkPath path = .ok () ↔
      '\x00' ∉ path.toList ∧ path ≠ "" ∧ path.utf8ByteSize < pathLimit := by
  unfold checkPath
  split
  next nul => simp_all
  next nul =>
    split
    next empty => simp_all
    next empty =>
      split
      next long => simp_all
      next short => simp_all

/-- What is taken as a path has only fronts that are. -/
lemma checkPath_front {a b : String} (nonempty : a ≠ "") (checked : checkPath (a ++ b) = .ok ()) :
    checkPath a = .ok () := by
  obtain ⟨nul, _, short⟩ := checkPath_eq_ok_iff.mp checked
  rw [String.toList_append, List.mem_append, not_or] at nul
  rw [String.utf8ByteSize_append] at short
  exact checkPath_eq_ok_iff.mpr ⟨nul.1, nonempty, by omega⟩

/-- Walking two lists of pieces is walking the one and then the other. -/
lemma walk_append (here : List String) (first second : List String) :
    tree.walk here (first ++ second) =
      tree.walk here first >>= fun there => tree.walk there second := by
  induction first generalizing here with
  | nil => rfl
  | cons piece rest ih =>
    simp only [List.cons_append, walk]
    split
    next =>
      split
      next => exact ih _
      next =>
        split
        next => exact ih _
        next =>
          split
          next => rfl
          next =>
            split
            next => rfl
            next => exact ih _
    next => rfl
    next => rfl

/-- Only a directory can be walked on from. -/
lemma at?_of_walk {here there : List String} {pieces : List String} (some_piece : pieces ≠ [])
    (walked : tree.walk here pieces = .ok there) :
    ∃ entries, tree.root.at? here = some (.directory entries) := by
  cases pieces with
  | nil => exact (some_piece rfl).elim
  | cons piece rest =>
    unfold walk at walked
    split at walked
    next entries found => exact ⟨entries, found⟩
    next => cases walked
    next => cases walked

/-- A slash at the end of a path makes no difference to a walk that ends in a directory. -/
lemma walk_stem_iff {a stem : String} (shape : a = stem ∨ a = stem ++ "/")
    {start here : List String} {entries : List (String × FileEntry)}
    (directory : tree.root.at? here = some (.directory entries)) :
    tree.walk start (Path.pieces a) = .ok here ↔
      tree.walk start (Path.pieces stem) = .ok here := by
  rcases shape with rfl | rfl
  · exact Iff.rfl
  · rw [Path.pieces_slash, walk_append]
    -- the empty piece behind the last slash stays where it is, in a directory
    cases reached : tree.walk start (Path.pieces stem) with
    | error e => exact ⟨nofun, nofun⟩
    | ok there =>
      constructor
      · intro walked
        obtain ⟨entries', directory'⟩ := at?_of_walk (List.cons_ne_nil _ _) walked
        simpa [bind, Except.bind, walk, directory'] using walked
      · intro same
        cases same
        simp [bind, Except.bind, walk, directory]

/-- A path leads to an entry if it is one and the walk along it ends there. -/
lemma lookup_eq_ok_iff {path : String} {entry : FileEntry} :
    tree.lookup path = .ok entry ↔
      checkPath path = .ok () ∧
        ∃ names, tree.walk (tree.start path) (Path.pieces path) = .ok names ∧
          tree.root.at? names = some entry := by
  constructor
  · intro found
    unfold lookup at found
    cases checked : checkPath path with
    | error e =>
      rw [checked] at found
      cases found
    | ok u =>
      cases walked : tree.walk (tree.start path) (Path.pieces path) with
      | error e =>
        rw [checked, walked] at found
        cases found
      | ok names =>
        refine ⟨rfl, names, rfl, ?_⟩
        rw [checked, walked] at found
        cases reached : tree.root.at? names with
        | none => simp [bind, Except.bind, reached] at found
        | some other => simp_all [bind, Except.bind]
  · rintro ⟨checked, names, walked, reached⟩
    unfold lookup
    rw [checked, walked]
    simp only [bind, Except.bind, reached]

/-- A path leads to a directory if its entry is one. -/
lemma isDir_iff {path : String} :
    tree.isDir path = true ↔ ∃ entries, tree.lookup path = .ok (.directory entries) := by
  unfold isDir
  split
  next entries found => exact ⟨fun _ => ⟨entries, found⟩, fun _ => rfl⟩
  next other => exact ⟨nofun, fun ⟨entries, found⟩ => (other entries found).elim⟩

/-- The bytes of a text are that text. -/
@[simp]
lemma decode_toUTF8 (text : String) : decode text.toUTF8 = .ok text := by
  have valid : text.toUTF8.IsValidUTF8 := text.isValidUTF8
  unfold decode String.fromUTF8?
  rw [dif_pos valid]
  rfl

/-- A path can be read if it leads to a file whose bytes are a text. -/
lemma readText_eq_ok_iff {path text : String} :
    tree.readText path = .ok text ↔
      ∃ bytes, tree.lookup path = .ok (.file bytes) ∧ decode bytes = .ok text := by
  unfold readText
  cases tree.lookup path with
  | error e => simp [bind, Except.bind]
  | ok entry => cases entry <;> simp [bind, Except.bind]

/-- What leads to a directory is a text that is not empty. -/
lemma ne_empty_of_isDir {path : String} (directory : tree.isDir path = true) : path ≠ "" := by
  obtain ⟨entries, found⟩ := isDir_iff.mp directory
  exact (checkPath_eq_ok_iff.mp (lookup_eq_ok_iff.mp found).1).2.1

/-- The walk along a joined path starts where the one along the path in front does. -/
lemma start_join {a b : String} (nonempty : a ≠ "") (relative : Path.isAbsolute b = false) :
    tree.start (Path.join a b) = tree.start a := by
  obtain ⟨tail, joined⟩ := Path.join_eq_append nonempty relative
  unfold start
  rw [joined, Path.isAbsolute_append nonempty]

/-- What a joined path leads to lies in the directory that the path in front leads to. -/
lemma isDir_of_lookup_join {a b : String} {entry : FileEntry} (nonempty : a ≠ "")
    (relative : Path.isAbsolute b = false) (found : tree.lookup (Path.join a b) = .ok entry) :
    tree.isDir a = true := by
  obtain ⟨checked, names, walked, _⟩ := lookup_eq_ok_iff.mp found
  obtain ⟨tail, joined⟩ := Path.join_eq_append nonempty relative
  have checked_front : checkPath a = .ok () := checkPath_front nonempty (joined ▸ checked)
  obtain ⟨stem, shape, split⟩ := Path.join_eq nonempty relative
  rw [start_join nonempty relative, split, Path.pieces_append_slash, walk_append] at walked
  -- the walk gets through the pieces of the stem, and ends in a directory as there are more pieces
  cases reached : tree.walk (tree.start a) (Path.pieces stem) with
  | error e =>
    rw [reached] at walked
    cases walked
  | ok here =>
    rw [reached] at walked
    obtain ⟨entries, directory⟩ := at?_of_walk (Path.pieces_ne_nil b) walked
    exact isDir_iff.mpr ⟨entries, lookup_eq_ok_iff.mpr
      ⟨checked_front, here, (walk_stem_iff shape directory).mpr reached, directory⟩⟩

/-- What is at the end of a list of names is looked up in what is before. -/
lemma at?_append_singleton {entry : FileEntry} {names : List String}
    {entries : List (String × FileEntry)} (found : entry.at? names = some (.directory entries))
    (name : String) : entry.at? (names ++ [name]) = Entries.find? entries name := by
  induction names generalizing entry with
  | nil =>
    cases found
    simp only [List.nil_append, FileEntry.at?]
    cases Entries.find? entries name <;> rfl
  | cons first rest ih =>
    cases entry with
    | file bytes => cases found
    | directory above =>
      simp only [List.cons_append, FileEntry.at?] at found ⊢
      cases next : Entries.find? above first with
      | none =>
        rw [next] at found
        cases found
      | some entry =>
        rw [next] at found
        exact ih found

/-- A plain name in a directory is walked to if there is an entry of that name. -/
lemma walk_name {here : List String} {name : String} {entries : List (String × FileEntry)}
    (directory : tree.root.at? here = some (.directory entries))
    (special : name ≠ "" ∧ name ≠ "." ∧ name ≠ "..") (short : name.utf8ByteSize ≤ longestName) :
    tree.walk here [name] =
      if (Entries.find? entries name).isNone then .error .notFound else .ok (here ++ [name]) := by
  obtain ⟨nonempty, not_here, not_above⟩ := special
  simp only [walk, directory, nonempty, not_here, not_above, or_self, if_false,
    Nat.not_lt.mpr short]

/-- A plain name below a directory leads to the entry of that name. -/
lemma lookup_join {a name : String} {entries : List (String × FileEntry)}
    (found : tree.lookup a = .ok (.directory entries)) (plain : '/' ∉ name.toList)
    (special : name ≠ "" ∧ name ≠ "." ∧ name ≠ "..") (short : name.utf8ByteSize ≤ longestName)
    (checked : checkPath (Path.join a name) = .ok ()) :
    tree.lookup (Path.join a name) =
      match Entries.find? entries name with
      | some entry => .ok entry
      | none => .error .notFound := by
  obtain ⟨checked_front, here, walked, directory⟩ := lookup_eq_ok_iff.mp found
  have nonempty : a ≠ "" := (checkPath_eq_ok_iff.mp checked_front).2.1
  have relative := Path.isAbsolute_of_not_mem plain
  obtain ⟨stem, shape, split⟩ := Path.join_eq nonempty relative
  have pieces : Path.pieces (Path.join a name) = Path.pieces stem ++ [name] := by
    rw [split, Path.pieces_append_slash, Path.pieces_of_not_mem plain]
  have reached := (walk_stem_iff shape directory).mp walked
  have below := at?_append_singleton directory name
  unfold lookup
  rw [checked, start_join nonempty relative, pieces, walk_append, reached]
  simp only [bind, Except.bind, walk_name directory special short]
  cases entry : Entries.find? entries name with
  | none => rfl
  | some entry =>
    rw [entry] at below
    simp [below]

end FileTree

end Quire
