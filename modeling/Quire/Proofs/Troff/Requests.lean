import Mathlib.Tactic.Lemma
import Quire.Troff.ManPage

/-!
# Request lines

The lines of a man page and the requests among them. Text of a document never makes up a request,
and a row of a table only joins lines: where a line ends a cell and the next one begins a cell, a
bar takes the place of the line end.

* `requests`: the lines that start with a control character.
* `not_startsRequest_of_mem_escapeLines`: escaped text holds no request.
* `outputLines_tableRow`: the lines of a row are those of its content, joined between cells.
-/

namespace Quire

lemma Text.toList_join (separator : String) (pieces : List String) :
    (join separator pieces).toList =
      separator.toList.intercalate (pieces.map String.toList) := by
  induction pieces with
  | nil => rfl
  | cons s rest ih =>
    cases rest with
    | nil => simp [join]
    | cons t rest => simp [join, ih]

/-- The line that is being read and those behind it hold no line feed. -/
lemma Text.not_mem_linesFrom {line cs : List Char} (plain : '\n' ∉ line) :
    ∀ l ∈ linesFrom line cs, '\n' ∉ l := by
  induction cs generalizing line with
  | nil =>
    intro l mem
    unfold linesFrom at mem
    split at mem
    · cases mem
    · rw [List.mem_singleton.mp mem, List.mem_reverse]
      exact plain
  | cons c rest ih =>
    unfold linesFrom
    split
    next =>
      rintro l (_ | ⟨_, mem⟩)
      · rw [List.mem_reverse]
        intro mem
        unfold dropReturn at mem
        split at mem
        · exact plain (List.mem_cons_of_mem _ mem)
        · exact plain mem
      · exact ih List.not_mem_nil l mem
    next other => exact ih (List.not_mem_cons_of_ne_of_not_mem (Ne.symm other) plain)

namespace Troff

/-- The lines of an output. -/
def outputLines (s : String) : List (List Char) :=
  s.toList.splitOn '\n'

/-- The lines of an output that are requests. -/
def requests (s : String) : List (List Char) :=
  (outputLines s).filter startsRequest

/-- Outputs on lines of their own have the lines of the one and then those of the other. -/
lemma outputLines_append (s t : String) :
    outputLines (s ++ "\n" ++ t) = outputLines s ++ outputLines t := by
  have newline : "\n".toList = ['\n'] := rfl
  rw [outputLines, String.toList_append, String.toList_append, newline, List.append_assoc]
  exact List.splitOn_append_cons_self ..

section Escaping

lemma mem_escapeChar {c d : Char} (mem : c ∈ escapeChar d) :
    c = d ∨ c ∈ ['\\', '(', 'r', 's', '-'] := by
  unfold escapeChar at mem
  split at mem
  · exact .inr (List.mem_append_left ['-'] mem)
  · split at mem
    · exact .inr (by grind)
    · exact .inl (List.mem_singleton.mp mem)

/-- Escaping adds no character of its own but those of the escapes. -/
lemma mem_escapeChars {c : Char} {cs : List Char} (mem : c ∈ escapeChars cs) :
    c ∈ cs ∨ c ∈ ['\\', '(', 'r', 's', '-'] := by
  obtain ⟨d, listed, written⟩ := List.mem_flatMap.mp mem
  rcases mem_escapeChar written with rfl | escape
  · exact .inl listed
  · exact .inr escape

lemma not_mem_escapeLine {line : List Char} (plain : '\n' ∉ line) : '\n' ∉ escapeLine line := by
  have escaped : '\n' ∉ escapeChars line := fun mem =>
    (mem_escapeChars mem).elim plain (by decide)
  unfold escapeLine
  dsimp only
  split
  · simpa using escaped
  · exact escaped

lemma startsRequest_escapeLine (line : List Char) : startsRequest (escapeLine line) = false := by
  unfold escapeLine
  dsimp only
  split
  next => rfl
  next other => exact Bool.eq_false_iff.mpr other

/-- The lines of an escaped text are its lines, escaped; a text without lines still makes up an
empty one. -/
lemma outputLines_escapeLines (s : String) :
    outputLines (escapeLines s) =
      if Text.lines s.toList = [] then [[]] else (Text.lines s.toList).map escapeLine := by
  have newline : "\n".toList = ['\n'] := rfl
  have pieces : ((Text.lines s.toList).map fun line => String.ofList (escapeLine line)).map
      String.toList = (Text.lines s.toList).map escapeLine := by
    simp [Function.comp_def]
  rw [outputLines, escapeLines, Text.toList_join, pieces, newline]
  split
  next none => rw [none]; rfl
  next some =>
    apply List.splitOn_intercalate
    · intro l mem
      obtain ⟨line, listed, rfl⟩ := List.mem_map.mp mem
      exact not_mem_escapeLine (Text.not_mem_linesFrom List.not_mem_nil line listed)
    · simpa using some

/-- Escaped text holds no request. -/
lemma not_startsRequest_of_mem_escapeLines {s : String} {line : List Char}
    (mem : line ∈ outputLines (escapeLines s)) : startsRequest line = false := by
  rw [outputLines_escapeLines] at mem
  split at mem
  · rw [List.mem_singleton.mp mem]
    rfl
  · obtain ⟨line, -, rfl⟩ := List.mem_map.mp mem
    exact startsRequest_escapeLine line

end Escaping

section Rows

/-- A line begins a cell. -/
def startsCell (line : List Char) : Bool :=
  ['T', '\x7b'].isPrefixOf line

/-- A line ends a cell. -/
def endsCell (line : List Char) : Bool :=
  ['T', '\x7d'].isSuffixOf line

/-- Lines with a bar in place of each line end between cells. -/
def joinCells : List (List Char) → List (List Char)
  | [] => []
  | line :: rest =>
    if endsCell line && rest.head?.any startsCell then
      (joinCells rest).modifyHead fun next => line ++ '|' :: next
    else line :: joinCells rest

variable {line rest : List Char}

/-- The line end between two cells. -/
def cellBreak : List Char := ['T', '\x7d', '\n', 'T', '\x7b']

/-- What takes the place of the line end between two cells. -/
def cellBar : List Char := ['T', '\x7d', '|', 'T', '\x7b']

lemma startsCell_iff : startsCell line = true ↔ ∃ rest, line = 'T' :: '\x7b' :: rest := by
  rw [startsCell, List.isPrefixOf_iff_prefix]
  exact ⟨fun ⟨rest, same⟩ => ⟨rest, same.symm⟩, fun ⟨rest, same⟩ => ⟨rest, same.symm⟩⟩

lemma endsCell_cons (c : Char) (line : List Char) :
    endsCell (c :: line) = true ↔ c :: line = ['T', '\x7d'] ∨ endsCell line = true := by
  simp only [endsCell, List.isSuffixOf_iff_suffix, List.suffix_cons_iff]
  exact or_congr_left eq_comm

/-- A line end stands between two cells if a cell is all that is left of the line before it, and the
next line begins a cell. -/
lemma cellBreak_prefix_iff (plain : '\n' ∉ line) :
    cellBreak <+: line ++ '\n' :: rest ↔ line = ['T', '\x7d'] ∧ startsCell rest = true := by
  rw [startsCell, List.isPrefixOf_iff_prefix, cellBreak]
  match line with
  | [] => simp
  | [c] => simp [List.cons_prefix_cons]
  | [c, d] => simp only [List.cons_append, List.nil_append, List.cons_prefix_cons]; grind
  | c :: d :: e :: line =>
    have inside : '\n' ≠ e := by grind
    simp [List.cons_prefix_cons, inside]

lemma replaceFrom_of_not_mem (plain : '\n' ∉ line) :
    Text.replaceFrom cellBreak cellBar 0 line = line := by
  induction line with
  | nil => rfl
  | cons c line ih =>
    have inside : cellBreak.isPrefixOf (c :: line) = false := by
      rw [Bool.eq_false_iff, ne_eq, List.isPrefixOf_iff_prefix]
      exact fun starts => plain (starts.subset (by decide))
    rw [Text.replaceFrom, inside, if_neg Bool.false_ne_true,
      ih fun mem => plain (List.mem_cons_of_mem _ mem)]

/-- The line end behind a line is replaced if the line ends a cell and the next one begins one. -/
lemma replaceFrom_line (plain : '\n' ∉ line) :
    Text.replaceFrom cellBreak cellBar 0 (line ++ '\n' :: rest) =
      line ++ (if endsCell line && startsCell rest then '|' else '\n') ::
        Text.replaceFrom cellBreak cellBar 0 rest := by
  induction line with
  | nil => rfl
  | cons c line ih =>
    -- the line end is replaced from where a mark of a cell is all that is left of the line
    by_cases here : c :: line = ['T', '\x7d'] ∧ startsCell rest = true
    · obtain ⟨same, starts⟩ := here
      obtain ⟨behind, rfl⟩ := startsCell_iff.mp starts
      rw [same]
      rfl
    · have inside : cellBreak.isPrefixOf (c :: (line ++ '\n' :: rest)) = false := by
        rw [Bool.eq_false_iff, ne_eq, List.isPrefixOf_iff_prefix, ← List.cons_append,
          cellBreak_prefix_iff plain]
        exact here
      have ends : (endsCell (c :: line) && startsCell rest) =
          (endsCell line && startsCell rest) := by
        grind [endsCell_cons]
      rw [List.cons_append, Text.replaceFrom, inside, if_neg Bool.false_ne_true,
        ih fun mem => plain (List.mem_cons_of_mem _ mem), ends]
      rfl

lemma startsCell_intercalate (line : List Char) (rest : List (List Char)) :
    startsCell (['\n'].intercalate (line :: rest)) = startsCell line := by
  cases rest with
  | nil => simp
  | cons next rest =>
    match line with
    | [] => rfl
    | [c] => simp [startsCell, List.isPrefixOf]
    | c :: d :: line => simp [startsCell, List.isPrefixOf]

lemma joinCells_cons_cons (line next : List Char) (rest : List (List Char)) :
    joinCells (line :: next :: rest) =
      if endsCell line && startsCell next then
        (joinCells (next :: rest)).modifyHead fun joined => line ++ '|' :: joined
      else line :: joinCells (next :: rest) :=
  rfl

lemma joinCells_singleton (line : List Char) : joinCells [line] = [line] := by
  simp [joinCells]

lemma joinCells_ne_nil (line : List Char) (rest : List (List Char)) :
    joinCells (line :: rest) ≠ [] := by
  induction rest generalizing line with
  | nil => simp [joinCells_singleton]
  | cons next rest ih =>
    rw [joinCells_cons_cons]
    split
    · simpa using ih next
    · exact List.cons_ne_nil _ _

/-- Replacing the line ends between cells joins lines. -/
lemma replaceFrom_intercalate {lines : List (List Char)} (plain : ∀ line ∈ lines, '\n' ∉ line) :
    Text.replaceFrom cellBreak cellBar 0 (['\n'].intercalate lines) =
      ['\n'].intercalate (joinCells lines) := by
  induction lines with
  | nil => rfl
  | cons line rest ih =>
    have here : '\n' ∉ line := plain line List.mem_cons_self
    have ih := ih fun l mem => plain l (List.mem_cons_of_mem _ mem)
    cases rest with
    | nil =>
      rw [joinCells_singleton, List.intercalate_singleton, replaceFrom_of_not_mem here]
    | cons next rest =>
      obtain ⟨first, later, joined⟩ := List.exists_cons_of_ne_nil (joinCells_ne_nil next rest)
      rw [List.intercalate_cons_cons, List.append_assoc, List.singleton_append,
        replaceFrom_line here, startsCell_intercalate, ih, joinCells_cons_cons, joined]
      split
      · cases later <;> simp
      · simp

lemma not_mem_joinCells {lines : List (List Char)} (plain : ∀ line ∈ lines, '\n' ∉ line) :
    ∀ line ∈ joinCells lines, '\n' ∉ line := by
  induction lines with
  | nil => exact nofun
  | cons line rest ih =>
    have here : '\n' ∉ line := plain line List.mem_cons_self
    have ih := ih fun l mem => plain l (List.mem_cons_of_mem _ mem)
    unfold joinCells
    split
    · cases joined : joinCells rest with
      | nil => simp
      | cons next later =>
        rw [joined] at ih
        rintro l (_ | ⟨_, mem⟩)
        · have behind := ih next List.mem_cons_self
          simp [here, behind]
        · exact ih l (List.mem_cons_of_mem _ mem)
    · rintro l (_ | ⟨_, mem⟩)
      · exact here
      · exact ih l mem

lemma not_mem_of_mem_splitOn {cs line : List Char} (mem : line ∈ cs.splitOn '\n') :
    '\n' ∉ line := by
  induction cs generalizing line with
  | nil => simp_all
  | cons c rest ih =>
    rw [List.splitOn_cons_eq_if_modifyHead] at mem
    split at mem
    next =>
      rcases List.mem_cons.mp mem with rfl | mem
      · exact List.not_mem_nil
      · exact ih mem
    next other =>
      obtain ⟨first, later, lines⟩ := List.exists_cons_of_ne_nil (List.splitOn_ne_nil '\n' rest)
      rw [lines] at mem ih
      rcases List.mem_cons.mp mem with rfl | mem
      · exact List.not_mem_cons_of_ne_of_not_mem (fun same => other (beq_iff_eq.mpr same.symm))
          (ih List.mem_cons_self)
      · exact ih (List.mem_cons_of_mem _ mem)

/-- The lines of a row are those of its content, joined between cells. -/
lemma outputLines_tableRow (content : String) :
    outputLines (ManPage.tableRow content) = joinCells (outputLines content) := by
  have lines : content.toList = ['\n'].intercalate (outputLines content) :=
    (List.intercalate_splitOn '\n').symm
  have row : (ManPage.tableRow content).toList =
      Text.replaceFrom cellBreak cellBar 0 content.toList := by
    rw [ManPage.tableRow, Text.replace, String.toList_ofList]
    rfl
  have plain : ∀ line ∈ outputLines content, '\n' ∉ line := fun _ => not_mem_of_mem_splitOn
  obtain ⟨first, later, split⟩ :=
    List.exists_cons_of_ne_nil (List.splitOn_ne_nil '\n' content.toList)
  rw [outputLines, row, lines, replaceFrom_intercalate plain]
  apply List.splitOn_intercalate _ (not_mem_joinCells plain)
  rw [outputLines, split]
  exact joinCells_ne_nil first later

end Rows

end Troff

end Quire
