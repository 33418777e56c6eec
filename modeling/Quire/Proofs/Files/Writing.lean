import Quire.Proofs.Files.Location

/-!
# Writing files

What a file that is written or removed leaves alone. Writing puts the file at one list of names, in
a directory that is there. At every other list of names stands what stood there before, and every
walk that does not end at the file leads where it led before.

* `write_eq_ok`: where a file is written.
* `kind?_put`: what stands where after a file is put into a directory or taken out of it.
* `walk_congr`: walks in trees that differ at one place only.
* `overwritten_of_write`: what writing does.
* `beside_of_touched`: a file that is written or removed is all that changes.
* `isDir_of_beside`, `lookup_join_of_beside`: what is found beside such a file.
-/

namespace Quire

/-- An entry without what is below it. -/
inductive EntryKind where
  | file (bytes : ByteArray)
  | directory

namespace FileEntry

/-- What kind of entry it is. -/
def kind : FileEntry → EntryKind
  | file bytes => .file bytes
  | directory _ => .directory

/-- What kind of entry is at a list of names. -/
def kind? (entry : FileEntry) (names : List String) : Option EntryKind :=
  (entry.at? names).map kind

lemma kind?_nil (entry : FileEntry) : entry.kind? [] = some entry.kind := by
  unfold kind? at?
  rfl

lemma kind?_file_cons (bytes : ByteArray) (name : String) (names : List String) :
    (file bytes).kind? (name :: names) = none := by
  unfold kind? at?
  rfl

lemma kind?_directory_cons (entries : List (String × FileEntry)) (name : String)
    (names : List String) :
    (directory entries).kind? (name :: names) =
      (Entries.find? entries name).bind (·.kind? names) := by
  unfold kind?
  simp only [at?]
  cases Entries.find? entries name <;> rfl

lemma kind?_eq_directory_iff {entry : FileEntry} {names : List String} :
    entry.kind? names = some .directory ↔
      ∃ entries, entry.at? names = some (.directory entries) := by
  unfold kind?
  cases entry.at? names with
  | none => simp
  | some found => cases found <;> simp [kind]

lemma kind?_eq_file_iff {entry : FileEntry} {names : List String} {bytes : ByteArray} :
    entry.kind? names = some (.file bytes) ↔ entry.at? names = some (.file bytes) := by
  unfold kind?
  cases entry.at? names with
  | none => simp
  | some found => cases found <;> simp [kind]

/-- A file is put into a directory that is there, or taken out of it: at its names stands what was
put there, and elsewhere what stood there before. -/
lemma kind?_alter {entry : FileEntry} {directory : List String} {name : String}
    {entries : List (String × FileEntry)} (content : Option ByteArray)
    (found : entry.at? directory = some (.directory entries))
    (no_directory : ∀ below, Entries.find? entries name ≠ some (.directory below)) :
    ∃ new, alter (fun _ => content.map file) (directory ++ [name]) (some entry) = some new ∧
      new.kind? (directory ++ [name]) = content.map .file ∧
      ∀ names, names ≠ directory ++ [name] → new.kind? names = entry.kind? names := by
  -- down the directories on the way, each of which is there and gets one entry changed
  induction directory generalizing entry with
  | nil =>
    cases found
    obtain ⟨changed, altered, found⟩ : ∃ changed,
        alter (fun _ => content.map file) [name] (some (.directory entries)) =
          some (.directory changed) ∧
        ∀ other, Entries.find? changed other =
          if other = name then content.map file else Entries.find? entries other := by
      cases content with
      | none => exact ⟨_, rfl, Entries.find?_erase entries name⟩
      | some bytes => exact ⟨_, rfl, fun other => Entries.find?_insert entries name other _⟩
    refine ⟨.directory changed, altered, ?_, ?_⟩
    · rw [List.nil_append, kind?_directory_cons, found, if_pos rfl]
      cases content with
      | none => rfl
      | some bytes => exact kind?_nil _
    · intro names other
      cases names with
      | nil => rw [kind?_nil, kind?_nil]; rfl
      | cons first rest =>
        rw [kind?_directory_cons, kind?_directory_cons, found]
        by_cases same : first = name
        · subst same
          rw [if_pos rfl]
          -- below the file is nothing, and below what it takes the place of was nothing
          cases rest with
          | nil => exact (other rfl).elim
          | cons second rest =>
            have nothing : (content.map file).bind (·.kind? (second :: rest)) = none := by
              cases content with
              | none => rfl
              | some bytes => exact kind?_file_cons ..
            rw [nothing]
            cases before : Entries.find? entries first with
            | none => rfl
            | some old =>
              cases old with
              | file bytes => exact (kind?_file_cons ..).symm
              | directory below => exact (no_directory below before).elim
        · rw [if_neg same]
  | cons first rest ih =>
    cases entry with
    | file bytes' => cases found
    | directory above =>
      simp only [at?] at found
      cases next : Entries.find? above first with
      | none =>
        rw [next] at found
        cases found
      | some below =>
        rw [next] at found
        obtain ⟨new, altered, written, elsewhere⟩ := ih found
        refine ⟨.directory (Entries.insert first new above), ?_, ?_, ?_⟩
        · simp only [List.cons_append, alter, next, altered]
        · rw [List.cons_append, kind?_directory_cons, Entries.find?_insert, if_pos rfl]
          exact written
        · intro names other
          cases names with
          | nil => rw [kind?_nil, kind?_nil]; rfl
          | cons second names =>
            rw [kind?_directory_cons, kind?_directory_cons, Entries.find?_insert]
            by_cases same : second = first
            · subst same
              rw [if_pos rfl, next]
              exact elsewhere names fun rest => other (congrArg _ rest)
            · rw [if_neg same]

end FileEntry

namespace FileTree

variable {tree after : FileTree} {path : String} {bytes : ByteArray}

/-- What kind of entry is at a list of names. -/
def kind? (tree : FileTree) (names : List String) : Option EntryKind :=
  tree.root.kind? names

/-- A walk gets past a piece in a directory. -/
lemma walk_cons_eq_ok_iff {here there : List String} {piece : String} {pieces : List String} :
    tree.walk here (piece :: pieces) = .ok there ↔
      tree.kind? here = some .directory ∧
        if piece = "" ∨ piece = "." then tree.walk here pieces = .ok there
        else if piece = ".." then tree.walk here.dropLast pieces = .ok there
        else piece.utf8ByteSize ≤ longestName ∧ (tree.kind? (here ++ [piece])).isSome ∧
          tree.walk (here ++ [piece]) pieces = .ok there := by
  unfold kind?
  rw [FileEntry.kind?_eq_directory_iff, walk]
  cases reached : tree.root.at? here with
  | none => simp
  | some entry =>
    cases entry with
    | file bytes => simp
    | directory entries =>
      have below := at?_append_singleton reached piece
      simp only [Option.some.injEq, FileEntry.directory.injEq, exists_eq', true_and]
      split
      next => rfl
      next =>
        split
        next => rfl
        next =>
          rw [FileEntry.kind?, Option.isSome_map, below]
          split
          next long => simp [Nat.not_le.mpr long]
          next short =>
            cases Entries.find? entries piece <;> simp [Nat.not_lt.mp short]

/-- Two trees with the same working directory differ at one list of names at most. -/
structure AgreeExceptAt (target : List String) (tree after : FileTree) : Prop where
  workingDir : after.workingDir = tree.workingDir
  elsewhere : ∀ names, names ≠ target → after.kind? names = tree.kind? names

lemma AgreeExceptAt.symm {target : List String} (agree : AgreeExceptAt target tree after) :
    AgreeExceptAt target after tree :=
  ⟨agree.workingDir.symm, fun names other => (agree.elsewhere names other).symm⟩

/-- Two trees differ at most in a file, which one of them need not have. -/
structure AgreeBeside (target : List String) (tree after : FileTree) : Prop extends
    AgreeExceptAt target tree after where
  before : tree.kind? target ≠ some .directory
  behind : after.kind? target ≠ some .directory

lemma AgreeBeside.symm {target : List String} (agree : AgreeBeside target tree after) :
    AgreeBeside target after tree :=
  ⟨agree.toAgreeExceptAt.symm, agree.behind, agree.before⟩

lemma AgreeBeside.start {target : List String} (agree : AgreeBeside target tree after)
    (path : String) : after.start path = tree.start path := by
  unfold FileTree.start
  rw [agree.workingDir]

/-- A walk leads to the same names in a tree that differs only where there is no directory, unless
it ends there and there is nothing any more. -/
lemma walk_congr {target here there : List String} {pieces : List String}
    (agree : AgreeExceptAt target tree after) (no_directory : tree.kind? target ≠ some .directory)
    (kept : there ≠ target ∨ (after.kind? target).isSome)
    (walked : tree.walk here pieces = .ok there) : after.walk here pieces = .ok there := by
  induction pieces generalizing here with
  | nil => exact walked
  | cons piece pieces ih =>
    rw [walk_cons_eq_ok_iff] at walked ⊢
    obtain ⟨directory, walked⟩ := walked
    have other : here ≠ target := fun same => no_directory (same ▸ directory)
    refine ⟨(agree.elsewhere here other).trans directory, ?_⟩
    split
    next stays =>
      rw [if_pos stays] at walked
      exact ih walked
    next moves =>
      rw [if_neg moves] at walked
      split
      next up =>
        rw [if_pos up] at walked
        exact ih walked
      next down =>
        rw [if_neg down] at walked
        obtain ⟨short, entered, walked⟩ := walked
        refine ⟨short, ?_, ih walked⟩
        by_cases reached : here ++ [piece] = target
        · -- the walk can only end here, as there is no directory to go on from
          rw [reached] at walked ⊢
          cases pieces with
          | nil => exact kept.resolve_left fun away => away (Except.ok.inj walked).symm
          | cons next pieces =>
            exact (no_directory (walk_cons_eq_ok_iff.mp walked).1).elim
        · rw [agree.elsewhere _ reached]
          exact entered

/-- What writing a file at a path comes to: it is at some names, to which the path leads, nothing
else is changed, and all other paths lead where they led. -/
structure Overwritten (path : String) (bytes : ByteArray) (target : List String)
    (tree after : FileTree) : Prop where
  agree : AgreeExceptAt target tree after
  leads : after.walk (after.start path) (Path.pieces path) = .ok target
  written : after.lookup path = .ok (.file bytes)
  others : ∀ other names, names ≠ target →
    (after.walk (after.start other) (Path.pieces other) = .ok names ↔
      tree.walk (tree.start other) (Path.pieces other) = .ok names)

/-- Where nothing is taken off the end of a path, its last piece is not empty. -/
lemma exists_front_of_length {pieces : List String} (some_piece : pieces ≠ [])
    (kept : pieces.length ≤ (pieces.reverse.dropWhile (· == "")).reverse.length) :
    ∃ front name, pieces = front ++ [name] ∧ name ≠ "" ∧
      (pieces.reverse.dropWhile (· == "")).reverse = front ++ [name] := by
  obtain ⟨front, name, rfl⟩ : ∃ front name, pieces = front ++ [name] :=
    ⟨_, _, (List.dropLast_concat_getLast some_piece).symm⟩
  by_cases empty : name = ""
  · have shorter : (front.reverse.dropWhile (· == "")).length ≤ front.length := by
      simpa using (front.reverse.dropWhile_suffix (· == "")).length_le
    simp [empty] at kept
    omega
  · refine ⟨front, name, rfl, empty, ?_⟩
    simp [empty]

/-- A file is written into a directory, under a name that is a plain piece and that no directory
has. -/
lemma write_eq_ok (done : tree.write path bytes = .ok after) :
    checkPath path = .ok () ∧ ∃ front directory name entries,
      Path.pieces path = front ++ [name] ∧
      tree.walk (tree.start path) front = .ok directory ∧
      tree.root.at? directory = some (.directory entries) ∧
      (name ≠ "" ∧ name ≠ "." ∧ name ≠ "..") ∧ name.utf8ByteSize ≤ longestName ∧
      (∀ below, Entries.find? entries name ≠ some (.directory below)) ∧
      after = tree.put (directory ++ [name]) (some (.file bytes)) := by
  unfold write at done
  cases checked : checkPath path with
  | error e =>
    rw [checked] at done
    cases done
  | ok u =>
    rw [checked] at done
    simp only [bind, Except.bind] at done
    split at done
    next => cases done
    next directory walked =>
      split at done
      next entries found =>
        split at done
        next => cases done
        next plain =>
          rw [not_or, not_or, Nat.not_lt] at plain
          obtain ⟨kept, not_here, not_above⟩ := plain
          obtain ⟨front, name, split, nonempty, named⟩ :=
            exists_front_of_length (Path.pieces_ne_nil path) kept
          rw [named] at not_here not_above walked done
          simp only [List.getLast?_concat, Option.getD_some, List.dropLast_concat]
            at not_here not_above walked done
          split at done
          next => cases done
          next short =>
            split at done
            next => cases done
            next no_directory =>
              exact ⟨rfl, front, directory, name, entries, split, walked, found,
                ⟨nonempty, not_here, not_above⟩, Nat.not_lt.mp short, no_directory,
                (Except.ok.inj done).symm⟩
      next => cases done
      next => cases done

/-- At the names of a file that is put into a directory or taken out of it stands what was put
there, and elsewhere what stood there before. -/
lemma kind?_put {directory : List String} {name : String} {entries : List (String × FileEntry)}
    (content : Option ByteArray) (found : tree.root.at? directory = some (.directory entries))
    (no_directory : ∀ below, Entries.find? entries name ≠ some (.directory below)) :
    (tree.put (directory ++ [name]) (content.map .file)).kind? (directory ++ [name]) =
        content.map .file ∧
      AgreeBeside (directory ++ [name]) tree
        (tree.put (directory ++ [name]) (content.map .file)) := by
  obtain ⟨new, altered, written, elsewhere⟩ := FileEntry.kind?_alter content found no_directory
  have root : (tree.put (directory ++ [name]) (content.map .file)).root = new := by
    simp only [put, altered, Option.getD_some]
  have stands : (tree.put (directory ++ [name]) (content.map .file)).kind? (directory ++ [name]) =
      content.map .file := by
    rw [kind?, root]
    exact written
  refine ⟨stands, ⟨rfl, fun names other => ?_⟩, ?_, ?_⟩
  · rw [kind?, root]
    exact elsewhere names other
  · rw [kind?, ne_eq, FileEntry.kind?_eq_directory_iff, at?_append_singleton found]
    rintro ⟨below, there⟩
    exact no_directory below there
  · rw [stands]
    cases content <;> nofun

/-- Writing a file changes nothing but the file. -/
theorem overwritten_of_write (done : tree.write path bytes = .ok after) :
    ∃ target, Overwritten path bytes target tree after := by
  obtain ⟨checked, front, directory, name, entries, split, walked, found, plain, short,
    no_directory, made⟩ := write_eq_ok done
  obtain ⟨written, agree⟩ := kind?_put (some bytes) found no_directory
  simp only [Option.map_some, ← made] at written agree
  have reached : tree.kind? directory = some .directory :=
    FileEntry.kind?_eq_directory_iff.mpr ⟨entries, found⟩
  have parent : directory ≠ directory ++ [name] := by simp
  have leads : after.walk (after.start path) (Path.pieces path) = .ok (directory ++ [name]) := by
    obtain ⟨nonempty, not_here, not_above⟩ := plain
    rw [agree.start, split, walk_append,
      walk_congr agree.toAgreeExceptAt agree.before (.inl parent) walked]
    refine walk_cons_eq_ok_iff.mpr ⟨(agree.elsewhere _ parent).trans reached, ?_⟩
    simp [nonempty, not_here, not_above, short, written, walk]
  refine ⟨directory ++ [name], agree.toAgreeExceptAt, leads, ?_, fun other names away => ?_⟩
  · exact lookup_eq_ok_iff.mpr ⟨checked, _, leads, FileEntry.kind?_eq_file_iff.mp written⟩
  · rw [agree.start]
    exact ⟨walk_congr agree.symm.toAgreeExceptAt agree.behind (.inl away),
      walk_congr agree.toAgreeExceptAt agree.before (.inl away)⟩

lemma isFile_iff : tree.isFile path = true ↔ ∃ bytes, tree.lookup path = .ok (.file bytes) := by
  unfold isFile
  split
  next bytes found => exact ⟨fun _ => ⟨bytes, found⟩, fun _ => rfl⟩
  next other => exact ⟨nofun, fun ⟨bytes, found⟩ => (other bytes found).elim⟩

/-- A file is created, replaced or removed. -/
inductive Touched (path : String) (tree after : FileTree) : Prop where
  | written (bytes : ByteArray) (done : tree.write path bytes = .ok after)
  | removed (there : tree.isFile path = true) (done : tree.remove? path = some after)

/-- A walk that gets through leads where the pieces say by themselves. -/
lemma foldl_of_walk {here there : List String} {pieces : List String}
    (walked : tree.walk here pieces = .ok there) :
    pieces.foldl (fun names piece =>
      if piece = "" ∨ piece = "." then names
      else if piece = ".." then names.dropLast
      else names ++ [piece]) here = there := by
  induction pieces generalizing here with
  | nil => exact Except.ok.inj walked
  | cons piece pieces ih =>
    obtain ⟨-, walked⟩ := walk_cons_eq_ok_iff.mp walked
    rw [List.foldl_cons]
    split
    next stays =>
      rw [if_pos stays] at walked
      exact ih walked
    next moves =>
      rw [if_neg moves] at walked
      split
      next up =>
        rw [if_pos up] at walked
        exact ih walked
      next down =>
        rw [if_neg down] at walked
        exact ih walked.2.2

/-- A file that is touched under a plain name lies in a directory, and all else stays as it is. -/
lemma beside_of_touched {directory name : String}
    (touched : Touched (Path.join directory name) tree after) (plain : '/' ∉ name.toList)
    (special : name ≠ "" ∧ name ≠ "." ∧ name ≠ "..") :
    ∃ above, AgreeBeside (above ++ [name]) tree after := by
  have last : (Path.pieces (Path.join directory name)).getLast? = some name := by
    rw [Path.getLast?_pieces_join _ (Path.isAbsolute_of_not_mem plain),
      Path.pieces_of_not_mem plain]
    rfl
  cases touched with
  | written bytes done =>
    obtain ⟨-, front, above, file, entries, split, -, found, -, -, no_directory, made⟩ :=
      write_eq_ok done
    rw [split, List.getLast?_concat] at last
    cases last
    obtain ⟨-, agree⟩ := kind?_put (some bytes) found no_directory
    exact ⟨above, made ▸ agree⟩
  | removed there done =>
    obtain ⟨bytes, found⟩ := isFile_iff.mp there
    obtain ⟨-, names, walked, reached⟩ := lookup_eq_ok_iff.mp found
    have made : after = tree.put names none := by
      have plainNames : tree.plainNames (Path.join directory name) = names := foldl_of_walk walked
      rw [remove?, found, plainNames] at done
      exact (Option.some.inj done).symm
    obtain ⟨front, split⟩ := List.getLast?_eq_some_iff.mp last
    rw [split, walk_append] at walked
    cases gone : tree.walk (tree.start (Path.join directory name)) front with
    | error e =>
      rw [gone] at walked
      cases walked
    | ok above =>
      rw [gone] at walked
      obtain ⟨inside, step⟩ := walk_cons_eq_ok_iff.mp walked
      obtain ⟨nonempty, not_here, not_above⟩ := special
      rw [if_neg (not_or.mpr ⟨nonempty, not_here⟩), if_neg not_above] at step
      obtain ⟨-, -, arrived⟩ := step
      cases arrived
      obtain ⟨entries, above_found⟩ := FileEntry.kind?_eq_directory_iff.mp inside
      rw [at?_append_singleton above_found] at reached
      have no_directory : ∀ below, Entries.find? entries name ≠ some (.directory below) := by
        rw [reached]
        exact nofun
      obtain ⟨-, agree⟩ := kind?_put none above_found no_directory
      exact ⟨above, made ▸ agree⟩

/-- What a plain name in a directory leads to, told by the kinds of entries. -/
lemma map_kind_lookup_join {place name : String} {here : List String}
    (plain : '/' ∉ name.toList) (special : name ≠ "" ∧ name ≠ "." ∧ name ≠ "..")
    (nonempty : place ≠ "")
    (walked : tree.walk (tree.start place) (Path.pieces place) = .ok here)
    (directory : tree.kind? here = some .directory) :
    (tree.lookup (Path.join place name)).map FileEntry.kind =
      checkPath (Path.join place name) >>= fun _ =>
        if longestName < name.utf8ByteSize then .error .nameTooLong
        else match tree.kind? (here ++ [name]) with
          | some kind => .ok kind
          | none => .error .notFound := by
  have relative := Path.isAbsolute_of_not_mem plain
  obtain ⟨entries, found⟩ := FileEntry.kind?_eq_directory_iff.mp directory
  obtain ⟨stem, shape, split⟩ := Path.join_eq nonempty relative
  have pieces : Path.pieces (Path.join place name) = Path.pieces stem ++ [name] := by
    rw [split, Path.pieces_append_slash, Path.pieces_of_not_mem plain]
  have reached := (walk_stem_iff shape found).mp walked
  have below := at?_append_singleton found name
  obtain ⟨not_empty, not_here, not_above⟩ := special
  unfold lookup kind? FileEntry.kind?
  rw [start_join nonempty relative, pieces, walk_append, reached, below]
  cases checkPath (Path.join place name) with
  | error e => rfl
  | ok u =>
    by_cases long : longestName < name.utf8ByteSize
    · simp [bind, Except.bind, Except.map, walk, found, not_empty, not_here, not_above, long]
    · cases entry : Entries.find? entries name with
      | none =>
        simp [bind, Except.bind, Except.map, walk, found, not_empty, not_here, not_above, long,
          entry]
      | some entry' =>
        rw [entry] at below
        simp [bind, Except.bind, Except.map, walk, found, not_empty, not_here, not_above, long,
          entry, below]

section Beside

variable {target : List String} (agree : AgreeBeside target tree after)
include agree

/-- No directory is made or unmade. -/
lemma isDir_of_beside (path : String) : after.isDir path = tree.isDir path := by
  have kept {tree after : FileTree} (agree : AgreeBeside target tree after)
      (directory : tree.isDir path = true) : after.isDir path = true := by
    obtain ⟨entries, found⟩ := isDir_iff.mp directory
    obtain ⟨checked, names, walked, reached⟩ := lookup_eq_ok_iff.mp found
    have kind : tree.kind? names = some .directory :=
      FileEntry.kind?_eq_directory_iff.mpr ⟨entries, reached⟩
    have away : names ≠ target := fun same => agree.before (same ▸ kind)
    rw [← agree.elsewhere names away] at kind
    obtain ⟨entries', reached'⟩ := FileEntry.kind?_eq_directory_iff.mp kind
    refine isDir_iff.mpr ⟨entries', lookup_eq_ok_iff.mpr ⟨checked, names, ?_, reached'⟩⟩
    rw [agree.start]
    exact walk_congr agree.toAgreeExceptAt agree.before (.inl away) walked
  exact Bool.eq_iff_iff.mpr ⟨kept agree.symm, kept agree⟩

/-- Another plain name in a directory leads to what it led to. -/
lemma lookup_join_of_beside {place name : String} (other : target.getLast? ≠ some name)
    (there : tree.isDir place = true) (plain : '/' ∉ name.toList)
    (special : name ≠ "" ∧ name ≠ "." ∧ name ≠ "..") :
    (after.lookup (Path.join place name)).map FileEntry.kind =
      (tree.lookup (Path.join place name)).map FileEntry.kind := by
  obtain ⟨entries, found⟩ := isDir_iff.mp there
  obtain ⟨-, here, walked, reached⟩ := lookup_eq_ok_iff.mp found
  have nonempty := ne_empty_of_isDir there
  have kind : tree.kind? here = some .directory :=
    FileEntry.kind?_eq_directory_iff.mpr ⟨entries, reached⟩
  have away : here ≠ target := fun same => agree.before (same ▸ kind)
  have walked' : after.walk (after.start place) (Path.pieces place) = .ok here := by
    rw [agree.start]
    exact walk_congr agree.toAgreeExceptAt agree.before (.inl away) walked
  have apart : here ++ [name] ≠ target := by
    rintro rfl
    exact other List.getLast?_concat
  rw [map_kind_lookup_join plain special nonempty walked kind,
    map_kind_lookup_join plain special nonempty walked' ((agree.elsewhere here away).trans kind),
    agree.elsewhere _ apart]

end Beside

/-- The text that is read is told by the kind of what a path leads to. -/
lemma readText_congr (same : (after.lookup path).map FileEntry.kind =
    (tree.lookup path).map FileEntry.kind) : after.readText path = tree.readText path := by
  have told (tree : FileTree) : tree.readText path =
      (tree.lookup path).map FileEntry.kind >>= fun
        | .file bytes => decode bytes
        | .directory => .error .isDirectory := by
    unfold readText
    cases tree.lookup path with
    | error e => rfl
    | ok entry => cases entry <;> rfl
  rw [told, told, same]

end FileTree

end Quire
