import Quire.Proofs.Converter.Rendering
import Quire.Proofs.Troff.Alike
import Quire.Proofs.Troff.Arguments

/-!
# Environments of a man page

Requests that open something for a later request to close: indented and unfilled text, tables, and a
changed line length. A man page closes each of them in the order of brackets, whatever texts it
holds, as long as no title and no attribute breaks its line.

* `Troff.Paired`: the bracket language of environments, and what it says of their depth.
* `Troff.marks`: the requests of an output that open or close something; the rules for putting
  outputs together, of which `marks_tableRow` is the one for rows of a table.
* `ManPage.closes_render`: one rendering.
* `ManPage.document_closes`: a whole tree, by induction over it.
-/

namespace Quire

namespace Troff

/-- What a request opens until another one closes it. -/
inductive Environment where
  | indent
  | unfilled
  | table
  | lineLength
deriving DecidableEq

/-- A request that opens or closes something. -/
inductive Mark where
  | start (environment : Environment)
  | stop (environment : Environment)
deriving DecidableEq

/-- What a mark opens or closes. -/
def Mark.environment : Mark → Environment
  | start environment => environment
  | stop environment => environment

section Pairs

/-- Marks in pairs, each pair around others or behind them. -/
inductive Paired : List Mark → Prop where
  | nil : Paired []
  | pair (environment : Environment) {inner rest : List Mark} (inside : Paired inner)
    (behind : Paired rest) :
    Paired (.start environment :: (inner ++ .stop environment :: rest))

/-- How many environments are open behind marks. -/
def depth : List Mark → Int
  | [] => 0
  | .start _ :: marks => depth marks + 1
  | .stop _ :: marks => depth marks - 1

variable {ms ns pre : List Mark}

lemma depth_append (ms ns : List Mark) : depth (ms ++ ns) = depth ms + depth ns := by
  induction ms with
  | nil => simp [depth]
  | cons mark ms ih => cases mark <;> simp only [List.cons_append, depth, ih] <;> omega

namespace Paired

lemma append (left : Paired ms) (right : Paired ns) : Paired (ms ++ ns) := by
  induction left with
  | nil => exact right
  | pair environment inside _ _ ih =>
    rw [List.cons_append, List.append_assoc, List.cons_append]
    exact .pair environment inside ih

/-- Behind pairs nothing is open. -/
lemma depth_eq_zero (paired : Paired ms) : depth ms = 0 := by
  induction paired with
  | nil => rfl
  | pair environment _ _ inside behind =>
    rw [depth, depth_append, depth, inside, behind]
    rfl

/-- Nothing is closed that is not open. -/
lemma depth_nonneg (paired : Paired ms) (front : pre <+: ms) : 0 ≤ depth pre := by
  induction paired generalizing pre with
  | nil =>
    rw [List.prefix_nil.mp front]
    exact Int.le_refl 0
  | @pair environment inner rest closed _ inside behind =>
    rcases List.prefix_cons_iff.mp front with rfl | ⟨opened, rfl, begins⟩
    · exact Int.le_refl 0
    · rw [depth]
      rcases List.prefix_or_prefix_of_prefix begins (List.prefix_append inner _)
        with within | beyond
      · have := inside within
        omega
      · obtain ⟨back, rfl⟩ := beyond
        rw [depth_append, closed.depth_eq_zero]
        rw [List.prefix_append_right_inj, List.prefix_cons_iff] at begins
        rcases begins with rfl | ⟨later, rfl, begins⟩
        · decide
        · have := behind begins
          rw [depth]
          omega

end Paired

/-- The marks of indents, unfilled text and tables. -/
def brackets (ms : List Mark) : List Mark :=
  ms.filter fun mark => mark.environment != .lineLength

/-- The marks of line lengths. -/
def lengths (ms : List Mark) : List Mark :=
  ms.filter fun mark => mark.environment == .lineLength

/-- Whatever is opened is closed; line lengths need not nest with the rest. -/
structure Closes (ms : List Mark) : Prop where
  brackets : Paired (brackets ms)
  lengths : Paired (lengths ms)

namespace Closes

lemma nil : Closes [] := ⟨.nil, .nil⟩

lemma append (left : Closes ms) (right : Closes ns) : Closes (ms ++ ns) := by
  constructor
  · rw [Troff.brackets, List.filter_append]
    exact left.brackets.append right.brackets
  · rw [Troff.lengths, List.filter_append]
    exact left.lengths.append right.lengths

/-- Marks of one environment around others. -/
lemma around (environment : Environment) (bracket : environment ≠ .lineLength) (inner : Closes ms) :
    Closes ([.start environment] ++ ms ++ [.stop environment]) := by
  have kept : (environment != .lineLength) = true := by simpa using bracket
  have other : (environment == .lineLength) = false := by simpa using bracket
  constructor
  · simpa [Troff.brackets, Mark.environment, kept] using Paired.pair environment inner.brackets .nil
  · simpa [Troff.lengths, Mark.environment, other] using inner.lengths

/-- An indent with a line length of its own, which is reset behind the indent. -/
lemma quoted (inner : Closes ms) :
    Closes ([.start .indent, .start .lineLength] ++ ms ++ [.stop .indent, .stop .lineLength]) := by
  constructor
  · simpa [Troff.brackets, Mark.environment] using Paired.pair .indent inner.brackets .nil
  · simpa [Troff.lengths, Mark.environment] using Paired.pair .lineLength inner.lengths .nil

end Closes

end Pairs

section Lines

/-- Whether a request has a name, alone or in front of arguments. -/
def calls (name line : List Char) : Bool :=
  line == name || (name ++ [' ']).isPrefixOf line

/-- What the line of a request opens or closes; the line length is reset where none is given. -/
def mark? (line : List Char) : Option Mark :=
  if !startsRequest line then none
  else if calls ['R', 'S'] line.tail || calls "if n .RS".toList line.tail then
    some (.start .indent)
  else if calls ['R', 'E'] line.tail || calls "if n .RE".toList line.tail then
    some (.stop .indent)
  else if calls ['n', 'f'] line.tail then some (.start .unfilled)
  else if calls ['f', 'i'] line.tail then some (.stop .unfilled)
  else if calls ['T', 'S'] line.tail then some (.start .table)
  else if calls ['T', 'E'] line.tail then some (.stop .table)
  else if line.tail = ['l', 'l'] then some (.stop .lineLength)
  else if calls ['l', 'l'] line.tail then some (.start .lineLength)
  else none

/-- What the requests of an output open or close. -/
def marks (s : String) : List Mark :=
  (requests s).filterMap mark?

lemma marks_eq (s : String) : marks s = (outputLines s).filterMap mark? := by
  rw [marks, requests, List.filterMap_filter]
  congr 1
  funext line
  unfold mark?
  cases startsRequest line with
  | true => rw [if_pos rfl]
  | false => simp

example : marks ".sp\n.if n .RS 4\n.nf\n.RSx\n.fi\n.if n .RE\n.ll -1i\n.ll" =
    [.start .indent, .start .unfilled, .stop .unfilled, .stop .indent, .start .lineLength,
      .stop .lineLength] := by
  decide

variable {s p q v content : String} {line next : List Char}

/-- Outputs on lines of their own have the marks of the one and then those of the other. -/
lemma marks_line (s t : String) : marks (s ++ "\n" ++ t) = marks s ++ marks t := by
  rw [marks_eq, marks_eq, marks_eq, outputLines_append, List.filterMap_append]

lemma marks_newline (s : String) : marks (s ++ "\n") = marks s := by
  have line := marks_line s ""
  rwa [String.append_empty, show marks "" = [] from rfl, List.append_nil] at line

lemma marks_behind (ends : endsLine p.toList = true) (s : String) :
    marks (p ++ s) = marks p ++ marks s := by
  obtain ⟨q, rfl, -⟩ := eq_append_of_endsLine ends
  rw [marks_line, marks_newline]

lemma marks_before (starts : p.toList.head? = some '\n') (s : String) :
    marks (s ++ p) = marks s ++ marks p := by
  obtain ⟨rest, same⟩ := List.head?_eq_some_iff.mp starts
  have split : p = "" ++ "\n" ++ String.ofList rest := by
    rw [← String.toList_inj, String.toList_append, String.toList_ofList, same]
    simp
  have alone : marks p = marks (String.ofList rest) := by
    rw [split, marks_line]
    rfl
  rw [alone, split, String.empty_append, ← String.append_assoc, marks_line]

/-- The beginning of a line settles that it marks nothing. -/
lemma marks_begun (begun : OneLine q) (plain : OneLine v)
    (settled : mark? (q.toList ++ v.toList) = none) : marks (q ++ v) = [] := by
  have alone : outputLines (q ++ v) = [q.toList ++ v.toList] := by
    have whole : (q ++ v).toList = ['\n'].intercalate [q.toList ++ v.toList] := by
      rw [List.intercalate_singleton, String.toList_append]
    rw [outputLines, whole]
    apply List.splitOn_intercalate _ _ (List.cons_ne_nil _ _)
    rintro line (_ | ⟨_, ⟨⟩⟩)
    exact String.toList_append ▸ begun.append plain
  rw [marks_eq, alone, List.filterMap_cons, settled, List.filterMap_nil]

lemma marks_value (ends : endsLine p.toList = true) (begun : OneLine q) (plain : OneLine v)
    (settled : mark? (q.toList ++ v.toList) = none) : marks (p ++ q ++ v) = marks p := by
  rw [String.append_assoc, marks_behind ends, marks_begun begun plain settled, List.append_nil]

/-- Escaped text marks nothing. -/
lemma marks_escapeLines (s : String) : marks (escapeLines s) = [] := by
  rw [marks_eq, List.filterMap_eq_nil_iff]
  intro line mem
  rw [mark?, not_startsRequest_of_mem_escapeLines mem]
  rfl

lemma marks_contentLines (content : String) :
    (contentLines content).filterMap mark? = marks content := by
  unfold contentLines
  split
  next none => rw [none]; rfl
  next => exact (marks_eq content).symm

lemma marks_body (node : Node) (content : String) :
    marks (node.body escapeLines content) = marks content := by
  unfold Node.body
  cases node.text with
  | none => rfl
  | some text =>
    dsimp only
    rw [marks_eq, outputLines_behind, List.filterMap_append, ← marks_eq, marks_escapeLines,
      marks_contentLines, List.nil_append]

/-- Outputs put together line by line close what they open if each of them does. -/
lemma Closes.join {outputs : List String} (each : ∀ output ∈ outputs, Closes (marks output)) :
    Closes (marks (Text.join "\n" outputs)) := by
  refine Text.join_induction .nil (fun {s t} here behind => ?_) each
  rw [marks_line]
  exact here.append behind

end Lines

section Cells

variable {line next : List Char}

lemma prefix_bar {front : List Char} (other : '|' ∉ front) :
    front <+: line ++ '|' :: next ↔ front <+: line := by
  refine ⟨fun begins => ?_, fun begins => begins.trans (List.prefix_append _ _)⟩
  rcases List.prefix_or_prefix_of_prefix begins (List.prefix_append line _) with within | beyond
  · exact within
  · obtain ⟨back, rfl⟩ := beyond
    rw [List.prefix_append_right_inj, List.prefix_cons_iff] at begins
    rcases begins with rfl | ⟨later, rfl, -⟩
    · simp
    · simp at other

/-- A request is told by its front, which a cell does not end. -/
lemma calls_bar {name : List Char} (brace : '\x7d' ∈ line) (plain : '\x7d' ∉ name)
    (other : '|' ∉ name) : calls name (line ++ '|' :: next) = calls name line := by
  have here : (line == name) = false := by
    rw [beq_eq_false_iff_ne]
    rintro rfl
    exact plain brace
  have joined : (line ++ '|' :: next == name) = false := by
    rw [beq_eq_false_iff_ne]
    rintro rfl
    simp at other
  rw [calls, calls, here, joined, Bool.false_or, Bool.false_or, Bool.eq_iff_iff,
    List.isPrefixOf_iff_prefix, List.isPrefixOf_iff_prefix, prefix_bar (by simpa using other)]

/-- What ends a cell and is joined with the next line opens or closes what it did. -/
lemma mark?_bar (ends : endsCell line = true) (next : List Char) :
    mark? (line ++ '|' :: next) = mark? line := by
  have starts := startsRequest_bar ends next
  rw [endsCell, List.isSuffixOf_iff_suffix] at ends
  obtain ⟨front, rfl⟩ := ends
  have tail : (front ++ ['T', '\x7d'] ++ '|' :: next).tail =
      (front ++ ['T', '\x7d']).tail ++ '|' :: next := by
    cases front <;> simp
  have brace : '\x7d' ∈ (front ++ ['T', '\x7d']).tail := by
    cases front <;> simp
  have whole : (front ++ ['T', '\x7d']).tail ++ '|' :: next ≠ ['l', 'l'] := fun same => by
    have : '|' ∈ ['l', 'l'] := same ▸ List.mem_append_right _ List.mem_cons_self
    exact absurd this (by decide)
  have alone : (front ++ ['T', '\x7d']).tail ≠ ['l', 'l'] := fun same =>
    absurd (same ▸ brace) (by decide)
  rw [mark?, mark?, starts, tail, if_neg whole, if_neg alone]
  simp (disch := decide) only [calls_bar brace]

lemma filterMap_joinCells (lines : List (List Char)) :
    (joinCells lines).filterMap mark? = lines.filterMap mark? := by
  induction lines with
  | nil => rfl
  | cons line rest ih =>
    cases rest with
    | nil => rw [joinCells_singleton]
    | cons next rest =>
      rw [joinCells_cons_cons, List.filterMap_cons, ← ih]
      split
      next cells =>
        obtain ⟨ends, starts⟩ := (Bool.and_eq_true _ _).mp cells
        obtain ⟨first, later, joined⟩ := List.exists_cons_of_ne_nil (joinCells_ne_nil next rest)
        -- the first of the lines behind begins a cell and marks nothing
        have silent : mark? first = none := by
          rw [mark?, startsRequest_of_startsCell ((startsCell_of_joinCells joined).trans starts)]
          rfl
        rw [joined, List.modifyHead_cons, List.filterMap_cons, mark?_bar ends,
          List.filterMap_cons (a := first), silent]
      next => rw [List.filterMap_cons]

lemma marks_tableRow (content : String) : marks (ManPage.tableRow content) = marks content := by
  rw [marks_eq, marks_eq, outputLines_tableRow, filterMap_joinCells]

end Cells

end Troff

/-- No title and no attribute of a node breaks its line. -/
structure Node.OneLined (node : Node) : Prop where
  title : ∀ title ∈ node.title, Troff.OneLine title
  attr : ∀ key, ∀ value ∈ node.attr key, Troff.OneLine value

/-- It is enough to look at the attributes that are there. -/
lemma Node.oneLined_iff {node : Node} :
    node.OneLined ↔ (∀ title ∈ node.title, Troff.OneLine title) ∧
      ∀ entry ∈ node.attributes.entries, ∀ value ∈ node.attr entry.1, Troff.OneLine value := by
  refine ⟨fun plain => ⟨plain.title, fun _ _ => plain.attr _⟩, fun ⟨title, each⟩ => ⟨title, ?_⟩⟩
  intro key value given
  cases found : node.attributes.get? key with
  | none =>
    rw [Node.attr, found] at given
    cases given
  | some stored =>
    obtain ⟨before, behind, listed, -⟩ := List.lookup_eq_some_iff.mp found
    exact each (key, stored) (listed ▸ List.mem_append_right _ List.mem_cons_self) value given

instance (node : Node) : Decidable node.OneLined :=
  decidable_of_iff _ Node.oneLined_iff.symm

namespace ManPage

open Troff

variable {node : Node} {content : String}

lemma marks_titled (plain : node.OneLined) (s : String) :
    marks (titleLines node ++ s) = marks s := by
  unfold titleLines
  cases given : node.title with
  | none => rw [String.empty_append]
  | some title =>
    have line : marks (".sp\n.B " ++ escape title) = [] :=
      marks_value (p := ".sp\n") (q := ".B ") (by decide) (by decide)
        (plain.title title given).escape rfl
    dsimp only
    rw [marks_behind (endsLine_append (by decide)), marks_before (by decide), line]
    rfl

lemma marks_document (plain : node.OneLined) (content : String) :
    marks (document node content) = marks content := by
  have title : OneLine (escape (Text.upper (node.title.getD ""))) :=
    (OneLine.getD plain.title (by decide)).upper.escape
  have volume : OneLine (escape ((node.attr "manvolnum").getD "1")) :=
    (OneLine.getD (plain.attr _) (by decide)).escape
  have named := (title.append (by decide : OneLine "\" \"")).append volume |>.append
    (by decide : OneLine "\"")
  have line (date : String) (plain : OneLine date) :
      marks ("'\\\" t\n.TH \"" ++ escape (Text.upper (node.title.getD "")) ++ "\" \"" ++
        escape ((node.attr "manvolnum").getD "1") ++ "\"" ++ date) = [] := by
    have whole : marks ("'\\\" t\n.TH \"" ++ (escape (Text.upper (node.title.getD "")) ++ "\" \"" ++
        escape ((node.attr "manvolnum").getD "1") ++ "\"" ++ date)) = [] :=
      marks_value (p := "'\\\" t\n") (q := ".TH \"") (by decide) (by decide)
        (named.append plain) rfl
    simpa only [String.append_assoc] using whole
  unfold document
  rw [marks_behind (endsLine_append (by decide)), marks_before (by decide), line]
  · rfl
  · cases given : node.attr "date" with
    | none => decide
    | some date =>
      exact ((by decide : OneLine " \"").append (plain.attr _ date given).escape).append (by decide)

lemma marks_sect (plain : node.OneLined) (content : String) :
    marks (sect node content) = marks content := by
  have title : OneLine (node.title.getD "") := .getD plain.title (by decide)
  unfold sect
  dsimp only
  rw [marks_line]
  split
  · rw [String.append_assoc, marks_begun (by decide) (title.upper.escape.append (by decide)) rfl,
      List.nil_append]
  · rw [String.append_assoc, marks_begun (by decide) (title.escape.append (by decide)) rfl,
      List.nil_append]

lemma closes_verbatim (plain : node.OneLined) : Closes (marks (verbatim node)) := by
  have apart : verbatim node = titleLines node ++ (".sp\n.if n .RS 4\n.nf\n.fam C\n" ++
      escapeLines (node.text.getD "") ++ "\n.fam\n.fi\n.if n .RE") := by
    simp only [verbatim, String.append_assoc]
  rw [apart, marks_titled plain, marks_before (by decide), marks_behind (by decide),
    marks_escapeLines]
  exact (Closes.nil.around .unfilled (by decide)).around .indent (by decide)

lemma closes_listItem (plain : node.OneLined) (inner : Closes (marks content)) :
    Closes (marks (listItem node content)) := by
  have lines (text : String) (silent : ∀ s, marks (text ++ s) = marks s) :
      marks (text ++ ((if content = "" then "" else content ++ "\n") ++ ".RE")) =
        marks content ++ [.stop .indent] := by
    rw [silent, marks_eq, outputLines_before, List.filterMap_append, marks_contentLines]
    rfl
  have apart (front marker text behind : String) :
      front ++ marker ++ "\n" ++ text ++ behind ++ ".RE" =
        front ++ marker ++ "\n" ++ (text ++ (behind ++ ".RE")) := by
    simp only [String.append_assoc]
  unfold listItem
  dsimp only
  rw [apart, marks_line, lines]
  · have opened (marker : String) (plain : OneLine marker) :
        marks (".sp\n.RS 4\n.IP " ++ marker) = [.start .indent] :=
      marks_value (p := ".sp\n.RS 4\n") (q := ".IP ") (by decide) (by decide) plain rfl
    rw [opened, ← List.append_assoc]
    · exact inner.around .indent (by decide)
    · cases given : node.attr "marker" with
      | none => decide
      | some marker =>
        exact ((by decide : OneLine "\"").append (plain.attr _ marker given).escape).append
          (by decide)
  · intro s
    cases node.text with
    | none => rw [String.empty_append]
    | some text =>
      dsimp only
      rw [marks_line, marks_escapeLines, List.nil_append]

lemma closes_admonition (plain : node.OneLined) (inner : Closes (marks content)) :
    Closes (marks (admonition node content)) := by
  have label : OneLine (escape (Text.upper ((node.attr "name").getD "note"))) :=
    (OneLine.getD (plain.attr _) (by decide)).upper.escape
  have opened : marks (".if n .sp\n.RS 4\n.B " ++
      escape (Text.upper ((node.attr "name").getD "note"))) = [.start .indent] :=
    marks_value (p := ".if n .sp\n.RS 4\n") (q := ".B ") (by decide) (by decide) label rfl
  unfold admonition
  rw [marks_before (by decide), marks_behind (endsLine_append (by decide)),
    marks_before (by decide), opened, marks_body]
  exact inner.around .indent (by decide)

lemma closes_quote (plain : node.OneLined) (inner : Closes (marks content)) :
    Closes (marks (quote node content)) := by
  have quoted : Closes (marks (".RS 3\n.ll -.6i\n" ++ node.body escapeLines content ++
      "\n.br\n.RE\n.ll")) := by
    rw [marks_before (by decide), marks_behind (by decide), marks_body]
    exact inner.quoted
  unfold quote
  cases given : node.attr "attribution" with
  | none =>
    dsimp only
    rwa [String.append_empty]
  | some attribution =>
    have opened : marks (".RS 5\n.ll -.10i\n\\(em " ++ escape attribution) =
        [.start .indent, .start .lineLength] :=
      marks_value (p := ".RS 5\n.ll -.10i\n") (q := "\\(em ") (by decide) (by decide)
        (plain.attr _ attribution given).escape rfl
    have source : marks (".RS 5\n.ll -.10i\n\\(em " ++ escape attribution ++ "\n.RE\n.ll") =
        [.start .indent, .start .lineLength] ++ [] ++ [.stop .indent, .stop .lineLength] := by
      rw [marks_before (by decide), opened]
      rfl
    have opening : "\n.RS 5\n.ll -.10i\n\\(em " = "\n" ++ ".RS 5\n.ll -.10i\n\\(em " := by decide
    have apart (s : String) :
        s ++ ("\n.RS 5\n.ll -.10i\n\\(em " ++ escape attribution ++ "\n.RE\n.ll") =
          s ++ "\n" ++ (".RS 5\n.ll -.10i\n\\(em " ++ escape attribution ++ "\n.RE\n.ll") := by
      rw [opening]
      simp only [String.append_assoc]
    dsimp only
    rw [apart, marks_line, source]
    exact quoted.append Closes.nil.quoted

/-- The line that tells the columns of a table is no request. -/
lemma marks_columns (n : Nat) : marks (Text.join " " (List.replicate n "lt") ++ ".\n") = [] := by
  have plain : OneLine (Text.join " " (List.replicate n "lt")) :=
    .join (by decide) fun piece mem => List.eq_of_mem_replicate mem ▸ (by decide)
  have apart (s : String) : s ++ ".\n" = s ++ "." ++ "\n" := by
    rw [String.append_assoc]
    rfl
  rw [apart, marks_newline]
  apply marks_begun plain (by decide)
  match n with
  | 0 => rfl
  | 1 => rfl
  | n + 2 =>
    rw [List.replicate_succ, List.replicate_succ, Text.join, String.toList_append,
      String.toList_append]
    rfl

lemma closes_table (plain : node.OneLined) (inner : Closes (marks content)) :
    Closes (marks (table node content)) := by
  have opened : marks (titleLines node ++ ".TS\nallbox tab(|);\n" ++
      Text.join " " (List.replicate (columns node) "lt") ++ ".\n") = [.start .table] := by
    have apart (title front columns : String) :
        title ++ front ++ columns ++ ".\n" = title ++ (front ++ (columns ++ ".\n")) := by
      simp only [String.append_assoc]
    rw [apart, marks_titled plain, marks_behind (by decide), marks_columns]
    rfl
  unfold table
  rw [marks_before (by decide), marks_behind (endsLine_append (by decide)), opened]
  exact inner.around .table (by decide)

lemma marks_image (plain : node.OneLined) : marks (image node) = [] := by
  have label : OneLine (escape (((node.attr "alt").or (node.attr "target")).getD "")) :=
    (OneLine.or_getD (plain.attr _) (plain.attr _)).escape
  unfold image
  rw [String.append_assoc]
  exact marks_value (p := ".sp\n") (q := "[") (by decide) (by decide) (label.append (by decide)) rfl

/-- A node of any kind around content that closes what it opens. -/
theorem closes_render (kind : Kind) (plain : node.OneLined) (inner : Closes (marks content)) :
    Closes (marks (render kind node content)) := by
  have body : Closes (marks (node.body escapeLines content)) :=
    (marks_body node content).symm ▸ inner
  cases kind with
  | document => exact (marks_document plain content).symm ▸ inner
  | preamble => exact inner
  | sect => exact (marks_sect plain content).symm ▸ inner
  | paragraph =>
    unfold render
    rw [String.append_assoc, marks_titled plain, marks_behind (by decide)]
    exact body
  | listing => exact closes_verbatim plain
  | literal => exact closes_verbatim plain
  | admonition => exact closes_admonition plain inner
  | quote => exact closes_quote plain inner
  | unorderedList => exact (marks_titled plain content).symm ▸ inner
  | orderedList => exact (marks_titled plain content).symm ▸ inner
  | listItem => exact closes_listItem plain inner
  | table => exact closes_table plain inner
  | tableRow => exact (marks_tableRow content).symm ▸ inner
  | tableCell =>
    unfold render tableCell
    rw [marks_before (by decide), marks_behind (by decide)]
    exact (Closes.nil.append body).append .nil
  | image => exact (marks_image plain).symm ▸ .nil
  | thematicBreak =>
    rw [render, show marks _ = [] by decide]
    exact .nil
  | pageBreak =>
    rw [render, show marks _ = [] by decide]
    exact .nil
  | text => exact body

/-- The rendering of a tree closes what it opens. -/
lemma closes_rendering {root : Node} (known : root.Known)
    (plain : ∀ entry ∈ root.postOrder, entry.node.OneLined) :
    Closes (marks (Builtin.manPage.rendering root)) := by
  induction root using Node.byChildren with
  | step node ih =>
    obtain ⟨kind, found⟩ := Kind.exists_ofName? known.root
    rw [Builtin.rendering_eq _ found]
    apply closes_render kind (plain _ node.root_mem_postOrder)
    apply Closes.join
    intro output mem
    obtain ⟨child, below, rfl⟩ := List.mem_map.mp mem
    exact ih child below (known.child below)
      (Node.forall_postOrder_of_child Node.OneLined plain below)

/-- A man page closes every environment that it opens. For a tree of known kinds, of which no title
and no attribute breaks its line, indents, unfilled text and tables are opened and closed in the
order of brackets, and each line length is reset. None of them is closed before it is opened, and
none is left open at the end. -/
theorem document_closes {μ : Type} {root : Node} (known : root.Known)
    (plain : ∀ entry ∈ root.postOrder, entry.node.OneLined) (files : FileTree) (memory : μ) :
    ∃ output,
      (Builtin.manPage.converter.document files root).run memory = (.ok output, memory) ∧
      Paired (brackets (marks output)) ∧ Paired (lengths (marks output)) ∧
      (∀ pre, pre <+: brackets (marks output) → 0 ≤ depth pre) ∧
      (∀ pre, pre <+: lengths (marks output) → 0 ≤ depth pre) ∧
      depth (brackets (marks output)) = 0 ∧ depth (lengths (marks output)) = 0 := by
  obtain ⟨paired, reset⟩ := closes_rendering known plain
  exact ⟨_, Builtin.manPage.run_document known files memory, paired, reset,
    fun _ => paired.depth_nonneg, fun _ => reset.depth_nonneg, paired.depth_eq_zero,
    reset.depth_eq_zero⟩

/-- Neither the texts of a table nor what is around it leave a quotation open. -/
theorem quoted_table_closes :
    let row := (Node.named "table_row").withChildren
      [(Node.named "table_cell").withText "T\x7d\n.RE",
        (Node.named "table_cell").withText ".if n .RS 4\n.ll 3"]
    let root := ((Node.named "quote").withAttribute "attribution" (.string ".RS")).withChild
      ((Node.named "table").withChild row)
    ∃ output,
      (Builtin.manPage.converter.document (.rooted []) root).run () = (.ok output, ()) ∧
      Paired (brackets (marks output)) ∧ Paired (lengths (marks output)) ∧
      (∀ pre, pre <+: brackets (marks output) → 0 ≤ depth pre) ∧
      (∀ pre, pre <+: lengths (marks output) → 0 ≤ depth pre) ∧
      depth (brackets (marks output)) = 0 ∧ depth (lengths (marks output)) = 0 := by
  apply document_closes
  · unfold Node.Known
    decide
  · decide

end ManPage

end Quire
