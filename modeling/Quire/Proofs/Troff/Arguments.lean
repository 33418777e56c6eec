import Quire.Converter.Builtin
import Quire.Proofs.Text.Capitals
import Quire.Proofs.Troff.Requests

/-!
# Values inside requests

Titles and some attributes stand on the lines of requests, some of them in quotes. They do not
change how many requests an output has or how many quotes stand on them, as long as they hold
neither line feeds nor quotes. Both pass unescaped, so that a value with one of them does break out.

* `Reader`: what goes through an output and counts the requests and the quotes on them.
* `read_output`: it counts what it should.
* `ManPage.inline_values_add_nothing`: the values of an output that are inline add nothing.
-/

namespace Quire

namespace Troff

/-- The number of quotes on some lines. -/
def quotesOn (lines : List (List Char)) : Nat :=
  lines.flatten.count '"'

lemma quotesOn_append (ls ms : List (List Char)) :
    quotesOn (ls ++ ms) = quotesOn ls + quotesOn ms := by
  rw [quotesOn, List.flatten_append, List.count_append]
  rfl

/-- Where a reader stands. -/
inductive Position where
  | lineStart
  | request
  | text
deriving DecidableEq

/-- What goes through an output and counts the requests and the quotes on them. -/
structure Reader where
  position : Position
  requests : Nat
  quotes : Nat

namespace Reader

/-- The reader before an output. -/
def start : Reader := ⟨.lineStart, 0, 0⟩

/-- The reader behind one more character. -/
def step (r : Reader) (c : Char) : Reader where
  position :=
    if c = '\n' then .lineStart
    else
      match r.position with
      | .lineStart => if startsRequest [c] then .request else .text
      | position => position
  requests := if r.position = .lineStart ∧ startsRequest [c] then r.requests + 1 else r.requests
  quotes := if r.position = .request ∧ c = '"' then r.quotes + 1 else r.quotes

/-- The reader behind more characters. -/
def read (r : Reader) (cs : List Char) : Reader :=
  cs.foldl step r

variable (r : Reader)

@[simp]
lemma read_nil : r.read [] = r := rfl

@[simp]
lemma read_cons (c : Char) (cs : List Char) : r.read (c :: cs) = (r.step c).read cs := rfl

lemma read_append (cs ds : List Char) : r.read (cs ++ ds) = (r.read cs).read ds :=
  List.foldl_append

lemma step_newline : r.step '\n' = ⟨.lineStart, r.requests, r.quotes⟩ := by
  simp [step, startsRequest]

variable {r} {cs : List Char}

/-- On a line of text nothing is counted. -/
lemma read_of_text (plain : '\n' ∉ cs) (here : r.position = .text) : r.read cs = r := by
  induction cs with
  | nil => rfl
  | cons c cs ih =>
    obtain ⟨other, plain⟩ := List.ne_and_not_mem_of_not_mem_cons plain
    have stays : r.step c = r := by
      obtain ⟨position, requests, quotes⟩ := r
      cases here
      simp [step, Ne.symm other]
    rw [read_cons, stays, ih plain]

/-- On a request only quotes are counted. -/
lemma read_of_request (plain : '\n' ∉ cs) (here : r.position = .request) :
    r.read cs = { r with quotes := r.quotes + cs.count '"' } := by
  induction cs generalizing r with
  | nil => rfl
  | cons c cs ih =>
    obtain ⟨other, plain⟩ := List.ne_and_not_mem_of_not_mem_cons plain
    obtain ⟨position, requests, quotes⟩ := r
    cases here
    have moved : step ⟨.request, requests, quotes⟩ c =
        ⟨.request, requests, if c = '"' then quotes + 1 else quotes⟩ := by
      simp [step, Ne.symm other]
    rw [read_cons, moved, ih plain rfl, List.count_cons]
    by_cases quote : c = '"'
    · simp only [quote, if_true, beq_self_eq_true]
      rw [Nat.add_right_comm, Nat.add_assoc]
    · simp only [quote, if_false, beq_iff_eq, Nat.add_zero]

/-- A line is counted if it is a request, with its quotes. -/
lemma read_line (plain : '\n' ∉ cs) (here : r.position = .lineStart) :
    (r.read cs).requests = r.requests + ([cs].filter startsRequest).length ∧
      (r.read cs).quotes = r.quotes + quotesOn ([cs].filter startsRequest) := by
  obtain ⟨position, requests, quotes⟩ := r
  cases here
  cases cs with
  | nil => exact ⟨rfl, rfl⟩
  | cons c cs =>
    obtain ⟨other, plain⟩ := List.ne_and_not_mem_of_not_mem_cons plain
    -- the first character tells what the rest of the line counts for
    have whole : startsRequest (c :: cs) = startsRequest [c] := rfl
    rw [read_cons, List.filter_cons, whole, List.filter_nil]
    cases starts : startsRequest [c] with
    | true =>
      have moved : step ⟨.lineStart, requests, quotes⟩ c = ⟨.request, requests + 1, quotes⟩ := by
        simp [step, Ne.symm other, starts]
      have control : c ≠ '"' := by
        rintro rfl
        cases starts
      rw [moved, read_of_request plain rfl]
      simp [quotesOn, List.count_cons_of_ne control]
    | false =>
      have moved : step ⟨.lineStart, requests, quotes⟩ c = ⟨.text, requests, quotes⟩ := by
        simp [step, Ne.symm other, starts]
      rw [moved, read_of_text plain rfl]
      exact ⟨rfl, rfl⟩

/-- Lines are counted one after the other. -/
lemma read_lines {lines : List (List Char)} (plain : ∀ line ∈ lines, '\n' ∉ line)
    (here : r.position = .lineStart) :
    (r.read (['\n'].intercalate lines)).requests =
        r.requests + (lines.filter startsRequest).length ∧
      (r.read (['\n'].intercalate lines)).quotes =
        r.quotes + quotesOn (lines.filter startsRequest) := by
  induction lines generalizing r with
  | nil => exact ⟨rfl, rfl⟩
  | cons line rest ih =>
    obtain ⟨counted, quoted⟩ := read_line (plain line List.mem_cons_self) here
    cases rest with
    | nil =>
      rw [List.intercalate_singleton]
      exact ⟨counted, quoted⟩
    | cons next rest =>
      have behind : ∀ l ∈ next :: rest, '\n' ∉ l := fun l mem =>
        plain l (List.mem_cons_of_mem _ mem)
      have apart : line :: next :: rest = [line] ++ next :: rest := rfl
      rw [List.intercalate_cons_cons, List.append_assoc, read_append, List.singleton_append,
        read_cons, step_newline, apart, List.filter_append, List.length_append, quotesOn_append,
        ← Nat.add_assoc, ← Nat.add_assoc, ← counted, ← quoted]
      exact ih behind rfl

end Reader

/-- A reader counts the requests of an output and the quotes on them. -/
lemma read_output (s : String) :
    (Reader.start.read s.toList).requests = (requests s).length ∧
      (Reader.start.read s.toList).quotes = quotesOn (requests s) := by
  have lines : s.toList = ['\n'].intercalate (outputLines s) :=
    (List.intercalate_splitOn '\n').symm
  have plain : ∀ line ∈ outputLines s, '\n' ∉ line := fun _ => not_mem_of_mem_splitOn
  obtain ⟨counted, quoted⟩ := Reader.read_lines plain (rfl : Reader.start.position = .lineStart)
  rw [← lines] at counted quoted
  exact ⟨counted.trans (Nat.zero_add _), quoted.trans (Nat.zero_add _)⟩

/-- Outputs that a reader goes through in the same way. -/
def SameToReader (s t : String) : Prop :=
  ∀ r : Reader, r.read s.toList = r.read t.toList

/-- Text is over on a line that has begun. -/
def isInside (s : String) : Bool :=
  s.toList.getLast?.any (· != '\n')

/-- A value of one line. -/
def OneLine (s : String) : Prop :=
  '\n' ∉ s.toList

/-- A value of one line without quotes. -/
def Inline (s : String) : Prop :=
  OneLine s ∧ '"' ∉ s.toList

instance (s : String) : Decidable (OneLine s) :=
  inferInstanceAs (Decidable (¬_))

instance (s : String) : Decidable (Inline s) :=
  inferInstanceAs (Decidable (_ ∧ _))

lemma isInside_append {s t : String} (inside : isInside t = true) : isInside (s ++ t) = true := by
  obtain ⟨c, last, other⟩ := (Option.any_eq_true _ _).mp inside
  rw [isInside, String.toList_append, List.getLast?_append, last]
  exact other

namespace Reader

variable {s : String}

/-- A reader that has left the start of a line behind stands inside a line. -/
lemma position_ne_lineStart (inside : isInside s = true) (r : Reader) :
    (r.read s.toList).position ≠ .lineStart := by
  obtain ⟨c, last, other⟩ := (Option.any_eq_true _ _).mp inside
  obtain ⟨front, whole⟩ := List.getLast?_eq_some_iff.mp last
  rw [whole, read_append, read_cons, read_nil, step, if_neg (by simpa using other)]
  split
  · split <;> simp
  next behind => exact behind

/-- A value inside a line leaves a reader where it is. -/
lemma read_inline {r : Reader} (inline : Inline s) (here : r.position ≠ .lineStart) :
    r.read s.toList = r := by
  obtain ⟨plain, bare⟩ := inline
  cases position : r.position with
  | lineStart => exact absurd position here
  | request => rw [read_of_request plain position, List.count_eq_zero_of_not_mem bare, Nat.add_zero]
  | text => exact read_of_text plain position

end Reader

namespace SameToReader

variable {s t s' t' v w : String}

lemma refl (s : String) : SameToReader s s := fun _ => rfl

lemma append (same : SameToReader s t) (same' : SameToReader s' t') :
    SameToReader (s ++ s') (t ++ t') := by
  intro r
  rw [String.toList_append, String.toList_append, Reader.read_append, Reader.read_append, same,
    same']

lemma before (same : SameToReader s t) (p : String) : SameToReader (s ++ p) (t ++ p) :=
  same.append (refl p)

/-- Values inside a line, which may be that of a request. -/
lemma value (same : SameToReader s t) (inside : isInside s = true) (inline : Inline v)
    (inline' : Inline w) : SameToReader (s ++ v) (t ++ w) := by
  intro r
  have here := Reader.position_ne_lineStart inside r
  rw [String.toList_append, String.toList_append, Reader.read_append, Reader.read_append, ← same,
    Reader.read_inline inline here, Reader.read_inline inline' here]

/-- Values on a line of text. -/
lemma label (same : SameToReader s t) (here : ∀ r : Reader, (r.read s.toList).position = .text)
    (plain : OneLine v) (plain' : OneLine w) : SameToReader (s ++ v) (t ++ w) := by
  intro r
  rw [String.toList_append, String.toList_append, Reader.read_append, Reader.read_append, ← same,
    Reader.read_of_text plain (here r), Reader.read_of_text plain' (here r)]

end SameToReader

variable {s : String}

lemma mem_escape {c : Char} (sign : c = '\n' ∨ c = '"') (mem : c ∈ (escape s).toList) :
    c ∈ s.toList := by
  rw [escape, String.toList_ofList] at mem
  refine (mem_escapeChars mem).resolve_right ?_
  rcases sign with rfl | rfl <;> decide

lemma OneLine.append {t : String} (plain : OneLine s) (plain' : OneLine t) : OneLine (s ++ t) := by
  rw [OneLine, String.toList_append, List.mem_append]
  exact not_or.mpr ⟨plain, plain'⟩

lemma OneLine.join {separator : String} {pieces : List String} (apart : OneLine separator)
    (plain : ∀ piece ∈ pieces, OneLine piece) : OneLine (Text.join separator pieces) :=
  Text.join_induction (by decide) (fun here behind => (here.append apart).append behind) plain

lemma OneLine.escape (plain : OneLine s) : OneLine (Troff.escape s) :=
  fun mem => plain (mem_escape (.inl rfl) mem)

lemma Inline.escape (inline : Inline s) : Inline (Troff.escape s) :=
  ⟨inline.1.escape, fun mem => inline.2 (mem_escape (.inr rfl) mem)⟩

lemma Inline.getD {value : Option String} (inline : ∀ s ∈ value, Inline s) {default : String}
    (otherwise : Inline default) : Inline (value.getD default) := by
  cases value with
  | none => exact otherwise
  | some s => exact inline s rfl

lemma OneLine.getD {value : Option String} (plain : ∀ s ∈ value, OneLine s) {default : String}
    (otherwise : OneLine default) : OneLine (value.getD default) := by
  cases value with
  | none => exact otherwise
  | some s => exact plain s rfl

lemma OneLine.or_getD {value value' : Option String} (plain : ∀ s ∈ value, OneLine s)
    (plain' : ∀ s ∈ value', OneLine s) : OneLine ((value.or value').getD "") := by
  cases value with
  | some s => exact plain s rfl
  | none => exact .getD plain' (by decide)

lemma OneLine.upper (plain : OneLine s) : OneLine (Text.upper s) :=
  fun mem => plain (Text.mem_upper (by decide) mem)

lemma Inline.upper (inline : Inline s) : Inline (Text.upper s) :=
  ⟨inline.1.upper, fun mem => inline.2 (Text.mem_upper (by decide) mem)⟩

end Troff

/-- The attributes whose values stand inside the line of a request. -/
def ManPage.arguments : List String :=
  ["name", "marker", "manvolnum", "date"]

/-- The attributes whose values stand on a line of text. -/
def ManPage.labels : List String :=
  ["attribution", "alt", "target"]

/-- Nodes that tell the same except for their titles and the values of some attributes. -/
structure Node.SameButValues (node node' : Node) : Prop where
  name : node.name = node'.name
  title : node.title.isSome = node'.title.isSome
  text : node.text = node'.text
  children : node.children = node'.children
  value : ∀ key ∈ ManPage.arguments ++ ManPage.labels,
    (node.attr key).isSome = (node'.attr key).isSome
  attr : ∀ key, key ∉ ManPage.arguments ++ ManPage.labels → node.attr key = node'.attr key

/-- No title or attribute of a node breaks out of its line or out of its quotes. -/
structure Node.Inline (node : Node) : Prop where
  title : ∀ title ∈ node.title, Troff.Inline title
  argument : ∀ key ∈ ManPage.arguments, ∀ value ∈ node.attr key, Troff.Inline value
  label : ∀ key ∈ ManPage.labels, ∀ value ∈ node.attr key, Troff.OneLine value

namespace ManPage

open Troff

variable {node node' : Node}

lemma same_titleLines (same : node.SameButValues node') (inline : node.Inline)
    (inline' : node'.Inline) : SameToReader (titleLines node) (titleLines node') := by
  unfold titleLines
  rcases isSome_cases same.title with ⟨title, title', here, there⟩ | ⟨here, there⟩
  · rw [here, there]
    have opened := (SameToReader.refl ".sp\n.B ").value (by decide)
      (inline.title title here).escape (inline'.title title' there).escape
    exact opened.before _
  · rw [here, there]
    exact .refl ""

lemma same_body (same : node.SameButValues node') (content : String) :
    node.body escapeLines content = node'.body escapeLines content := by
  rw [Node.body, Node.body, same.text]

lemma same_document (same : node.SameButValues node') (inline : node.Inline)
    (inline' : node'.Inline) (content : String) :
    SameToReader (document node content) (document node' content) := by
  have title : Troff.Inline (escape (Text.upper (node.title.getD ""))) :=
    (Inline.getD inline.title (by decide)).upper.escape
  have title' : Troff.Inline (escape (Text.upper (node'.title.getD ""))) :=
    (Inline.getD inline'.title (by decide)).upper.escape
  have volume : Troff.Inline (escape ((node.attr "manvolnum").getD "1")) :=
    (Inline.getD (inline.argument _ (by decide)) (by decide)).escape
  have volume' : Troff.Inline (escape ((node'.attr "manvolnum").getD "1")) :=
    (Inline.getD (inline'.argument _ (by decide)) (by decide)).escape
  have opened := (SameToReader.refl "'\\\" t\n.TH \"").value (by decide) title title'
  have named := (opened.before "\" \"").value (isInside_append (by decide)) volume volume'
  unfold document
  rcases isSome_cases (same.value "date" (by decide)) with
    ⟨date, date', here, there⟩ | ⟨here, there⟩
  · rw [here, there]
    have dated := (SameToReader.refl " \"").value (by decide)
      (inline.argument _ (by decide) date here).escape
      (inline'.argument _ (by decide) date' there).escape
    apply SameToReader.before
    apply SameToReader.before
    exact (named.before _).append (dated.before _)
  · rw [here, there]
    apply SameToReader.before
    apply SameToReader.before
    exact (named.before _).append (.refl _)

lemma same_sect (same : node.SameButValues node') (inline : node.Inline)
    (inline' : node'.Inline) (content : String) :
    SameToReader (sect node content) (sect node' content) := by
  have level : node.level = node'.level := by
    rw [Node.level, Node.level, same.attr "level" (by decide)]
  have title : Troff.Inline (node.title.getD "") := .getD inline.title (by decide)
  have title' : Troff.Inline (node'.title.getD "") := .getD inline'.title (by decide)
  unfold sect
  rw [level]
  dsimp only
  refine SameToReader.before (.before ?_ _) content
  -- only headings of the first level are in capitals
  split
  · exact ((SameToReader.refl _).value (by decide) title.upper.escape title'.upper.escape).before _
  · exact ((SameToReader.refl _).value (by decide) title.escape title'.escape).before _

lemma same_verbatim (same : node.SameButValues node') (inline : node.Inline)
    (inline' : node'.Inline) : SameToReader (verbatim node) (verbatim node') := by
  unfold verbatim
  rw [same.text]
  apply SameToReader.before
  apply SameToReader.before
  exact (same_titleLines same inline inline').before _

lemma same_listItem (same : node.SameButValues node') (inline : node.Inline)
    (inline' : node'.Inline) (content : String) :
    SameToReader (listItem node content) (listItem node' content) := by
  unfold listItem
  rw [same.text]
  dsimp only
  -- behind the marker nothing differs
  iterate 4 apply SameToReader.before
  apply SameToReader.append (.refl _)
  rcases isSome_cases (same.value "marker" (by decide)) with
    ⟨marker, marker', here, there⟩ | ⟨here, there⟩
  · rw [here, there]
    have marked := (SameToReader.refl "\"").value (by decide)
      (inline.argument _ (by decide) marker here).escape
      (inline'.argument _ (by decide) marker' there).escape
    exact marked.before _
  · rw [here, there]
    exact .refl _

lemma same_admonition (same : node.SameButValues node') (inline : node.Inline)
    (inline' : node'.Inline) (content : String) :
    SameToReader (admonition node content) (admonition node' content) := by
  have label : Troff.Inline (escape (Text.upper ((node.attr "name").getD "note"))) :=
    (Inline.getD (inline.argument _ (by decide)) (by decide)).upper.escape
  have label' : Troff.Inline (escape (Text.upper ((node'.attr "name").getD "note"))) :=
    (Inline.getD (inline'.argument _ (by decide)) (by decide)).upper.escape
  have opened := (SameToReader.refl ".if n .sp\n.RS 4\n.B ").value (by decide) label label'
  unfold admonition
  rw [same_body same]
  exact ((opened.before _).before _).before _

lemma same_quote (same : node.SameButValues node') (inline : node.Inline)
    (inline' : node'.Inline) (content : String) :
    SameToReader (quote node content) (quote node' content) := by
  unfold quote
  rw [same_body same]
  dsimp only
  refine .append (.refl _) ?_
  rcases isSome_cases (same.value "attribution" (by decide)) with
    ⟨source, source', here, there⟩ | ⟨here, there⟩
  · rw [here, there]
    -- the dash puts the source on a line of text, so that quotes in it do no harm
    have cited := (SameToReader.refl "\n.RS 5\n.ll -.10i\n\\(em ").label (fun _ => rfl)
      (inline.label _ (by decide) source here).escape
      (inline'.label _ (by decide) source' there).escape
    exact cited.before _
  · rw [here, there]
    exact .refl _

lemma same_table (same : node.SameButValues node') (inline : node.Inline)
    (inline' : node'.Inline) (content : String) :
    SameToReader (table node content) (table node' content) := by
  have columns : columns node = columns node' := by
    rw [ManPage.columns, ManPage.columns, same.children]
  unfold table
  rw [columns]
  have titled := (same_titleLines same inline inline').before ".TS\nallbox tab(|);\n"
  apply SameToReader.before
  apply SameToReader.before
  exact (titled.before _).before _

lemma same_image (inline : node.Inline) (inline' : node'.Inline) :
    SameToReader (image node) (image node') := by
  have label {node : Node} (inline : node.Inline) :
      OneLine (((node.attr "alt").or (node.attr "target")).getD "") :=
    .or_getD (inline.label _ (by decide)) (inline.label _ (by decide))
  have opened := (SameToReader.refl ".sp\n[").label (fun _ => rfl) (label inline).escape
    (label inline').escape
  exact opened.before _

/-- A node of any kind is rendered in the same way to a reader. -/
theorem same_render (kind : Kind) (same : node.SameButValues node') (inline : node.Inline)
    (inline' : node'.Inline) (content : String) :
    SameToReader (render kind node content) (render kind node' content) := by
  have lines := same_titleLines same inline inline'
  have body := same_body same content
  cases kind with
  | document => exact same_document same inline inline' content
  | preamble => exact .refl _
  | sect => exact same_sect same inline inline' content
  | paragraph =>
    unfold render
    rw [body]
    exact (lines.before _).before _
  | listing => exact same_verbatim same inline inline'
  | literal => exact same_verbatim same inline inline'
  | admonition => exact same_admonition same inline inline' content
  | quote => exact same_quote same inline inline' content
  | unorderedList => exact lines.before _
  | orderedList => exact lines.before _
  | listItem => exact same_listItem same inline inline' content
  | table => exact same_table same inline inline' content
  | tableRow => exact .refl _
  | tableCell =>
    unfold render tableCell
    rw [body]
    exact .refl _
  | image => exact same_image inline inline'
  | thematicBreak => exact .refl _
  | pageBreak => exact .refl _
  | text =>
    unfold render
    rw [body]
    exact .refl _

/-- Titles and attributes that are inline neither make up requests nor end quotes. Two nodes that
differ in them only are rendered with the same number of requests, and with the same number of
quotes on these. -/
theorem inline_values_add_nothing {μ : Type} {node node' : Node} {content : String}
    {transform : Option String} (known : Task.name ⟨node, content, transform⟩ ∈ Kind.names)
    (same : node.SameButValues node') (inline : node.Inline) (inline' : node'.Inline)
    (files : FileTree) (memory : μ) :
    ∃ output output',
      (Builtin.manPage.converter.convert files ⟨node, content, transform⟩).run memory =
        (.ok output, memory) ∧
      (Builtin.manPage.converter.convert files ⟨node', content, transform⟩).run memory =
        (.ok output', memory) ∧
      (requests output).length = (requests output').length ∧
      quotesOn (requests output) = quotesOn (requests output') := by
  have names : Task.name ⟨node', content, transform⟩ = Task.name ⟨node, content, transform⟩ := by
    rw [Task.name, Task.name, same.name]
  obtain ⟨kind, found, run⟩ := Builtin.manPage.run_convert _ known files memory
  obtain ⟨kind', found', run'⟩ :=
    Builtin.manPage.run_convert ⟨node', content, transform⟩ (names ▸ known) files memory
  cases (found.symm.trans (names ▸ found') : some kind = some kind')
  obtain ⟨counted, quoted⟩ := read_output (render kind node content)
  obtain ⟨counted', quoted'⟩ := read_output (render kind node' content)
  have alike := same_render kind same inline inline' content Reader.start
  refine ⟨_, _, run, run', ?_, ?_⟩
  · exact counted.symm.trans ((congrArg Reader.requests alike).trans counted')
  · exact quoted.symm.trans ((congrArg Reader.quotes alike).trans quoted')

/-- Neither dots nor backslashes in a title make up a request. -/
theorem dotted_title_adds_nothing :
    ∃ output output',
      (Builtin.manPage.converter.convert (.rooted [])
        ⟨(Node.named "section").withTitle "a", ".sp\nx", none⟩).run () = (.ok output, ()) ∧
      (Builtin.manPage.converter.convert (.rooted [])
        ⟨(Node.named "section").withTitle ".so \\ 'x'", ".sp\nx", none⟩).run () =
          (.ok output', ()) ∧
      (requests output).length = (requests output').length ∧
      quotesOn (requests output) = quotesOn (requests output') := by
  apply inline_values_add_nothing
  · decide
  · exact ⟨rfl, rfl, rfl, rfl, fun _ _ => rfl, fun _ _ => rfl⟩
  · exact ⟨by decide, by decide, by decide⟩
  · exact ⟨by decide, by decide, by decide⟩

/-- A title that holds a line feed makes up a request of its own, and one that holds a quote ends
the argument it stands in. -/
theorem section_title_breaks_out :
    ∃ node node' node'' : Node, node.SameButValues node' ∧ node.SameButValues node'' ∧
    ∃ output output' output'',
      (Builtin.manPage.converter.convert (.rooted []) ⟨node, "", none⟩).run () =
        (.ok output, ()) ∧
      (Builtin.manPage.converter.convert (.rooted []) ⟨node', "", none⟩).run () =
        (.ok output', ()) ∧
      (Builtin.manPage.converter.convert (.rooted []) ⟨node'', "", none⟩).run () =
        (.ok output'', ()) ∧
      (requests output).length ≠ (requests output').length ∧
      quotesOn (requests output) ≠ quotesOn (requests output'') :=
  ⟨(Node.named "section").withTitle "a", (Node.named "section").withTitle "a\n.so x",
    (Node.named "section").withTitle "a\" \"b",
    ⟨rfl, rfl, rfl, rfl, fun _ _ => rfl, fun _ _ => rfl⟩,
    ⟨rfl, rfl, rfl, rfl, fun _ _ => rfl, fun _ _ => rfl⟩,
    _, _, _, rfl, rfl, rfl, by decide, by decide⟩

end ManPage

end Quire
