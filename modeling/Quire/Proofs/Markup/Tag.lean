import Mathlib.Tactic.Lemma
import Quire.Proofs.Markup.Inert
import Quire.Text.Lines

/-!
# Reading tags

Markup read from left to right as text and tags, and the bracket language of its start and end tags.
A reader that keeps the names of the open elements shows that markup is well nested.

* `Markup.WellNested`: text and tags, with the tags nested.
* `Markup.Reads`: how the reader gets along a text; `Reads.literal` runs it on a fixed text.
* `Markup.Balanced.wellNested`: what the reader reads with no element left open is well nested.
-/

namespace Quire.Markup

/-- A tag that starts or ends an element. -/
inductive Tag where
  | start (name : List Char)
  | stop (name : List Char)
deriving DecidableEq

/-- The bracket language of tags. -/
inductive Nested : List Tag → Prop where
  | nil : Nested []
  | element (name : List Char) {inner rest : List Tag} (inside : Nested inner)
    (behind : Nested rest) : Nested (.start name :: (inner ++ .stop name :: rest))

/-- Where in a start tag a reader stands: in the name, behind a blank, in the name of an attribute,
before, in or behind its value. -/
inductive Part where
  | name
  | blank
  | attribute
  | equals
  | value
  | closed
deriving DecidableEq

/-- Where in markup a reader stands: in text, behind the `<` of a tag, in the start tag of an
element, behind the slash at the end of an empty one, in an end tag, in a declaration, in a quoted
part of a declaration, in a processing instruction, or behind a question mark in one. -/
inductive Mode where
  | text
  | opened
  | start (name : List Char) (part : Part)
  | slash
  | stop (name : List Char)
  | declaration
  | quoted
  | instruction
  | question
deriving DecidableEq

/-- Whether the name of an element or of an attribute can have a character. -/
def isNameChar (c : Char) : Bool :=
  c.isAlphanum || c = ':' || c = '-'

/-- Reads on in a start tag, with `voids` the elements that have no end tag. -/
def readStart (voids : List (List Char)) (name : List Char) (part : Part) (c : Char) :
    Option (Mode × Option Tag) :=
  match part with
  | .name =>
    if isNameChar c then some (.start (name ++ [c]) .name, none) else behind
  | .blank => if isNameChar c then some (.start name .attribute, none) else none
  | .attribute =>
    if c = '=' then some (.start name .equals, none)
    else if isNameChar c then some (.start name .attribute, none)
    else none
  | .equals => if c = '"' then some (.start name .value, none) else none
  | .value =>
    if c = '"' then some (.start name .closed, none)
    else if c = '<' then none
    else some (.start name .value, none)
  | .closed => behind
where
  /-- Reads what may follow the name and each attribute. -/
  behind : Option (Mode × Option Tag) :=
    if c = ' ' then some (.start name .blank, none)
    else if c = '/' then some (.slash, none)
    else if c = '>' then some (.text, if name ∈ voids then none else some (.start name))
    else none

/-- Reads a character, and the tag that it ends, if it ends that of an element with content. -/
def readChar (voids : List (List Char)) (mode : Mode) (c : Char) : Option (Mode × Option Tag) :=
  match mode with
  | .text =>
    if c = '<' then some (.opened, none)
    else if c = '>' then none
    else some (.text, none)
  | .opened =>
    if c = '/' then some (.stop [], none)
    else if c = '!' then some (.declaration, none)
    else if c = '?' then some (.instruction, none)
    else if isNameChar c then some (.start [c] .name, none)
    else none
  | .start name part => readStart voids name part c
  | .slash => if c = '>' then some (.text, none) else none
  | .stop name =>
    if c = '>' then some (.text, some (.stop name))
    else if isNameChar c then some (.stop (name ++ [c]), none)
    else none
  | .declaration =>
    if c = '>' then some (.text, none)
    else if c = '"' then some (.quoted, none)
    else if c = '<' then none
    else some (.declaration, none)
  | .quoted => if c = '"' then some (.declaration, none) else some (.quoted, none)
  | .instruction => if c = '?' then some (.question, none) else some (.instruction, none)
  | .question =>
    if c = '>' then some (.text, none)
    else if c = '?' then some (.question, none)
    else some (.instruction, none)

/-- The tags among some characters that are read up to text. -/
def tagsFrom (voids : List (List Char)) (mode : Mode) : List Char → Option (List Tag)
  | [] => if mode = .text then some [] else none
  | c :: cs => do
    let (mode, tag) ← readChar voids mode c
    let tags ← tagsFrom voids mode cs
    return tag.toList ++ tags

example : tagsFrom [] .text "<a b=\"c\">d<e/></a>".toList = some [.start ['a'], .stop ['a']] := by
  decide

/-- A text that is text and tags, with the tags nested. -/
def WellNested (voids : List (List Char)) (s : String) : Prop :=
  ∃ tags, tagsFrom voids .text s.toList = some tags ∧ Nested tags

/-- A reader that keeps the names of the open elements, the innermost first. -/
structure Reader where
  mode : Mode
  names : List (List Char)

namespace Reader

/-- Opens or closes an element. -/
def follow (names : List (List Char)) : Option Tag → Option (List (List Char))
  | none => some names
  | some (.start name) => some (name :: names)
  | some (.stop name) =>
    match names with
    | innermost :: names => if innermost = name then some names else none
    | [] => none

/-- Reads a character. -/
def step (voids : List (List Char)) (reader : Reader) (c : Char) : Option Reader :=
  match readChar voids reader.mode c with
  | some (mode, tag) =>
    match follow reader.names tag with
    | some names => some ⟨mode, names⟩
    | none => none
  | none => none

/-- Reads characters. -/
def read (voids : List (List Char)) (reader : Reader) : List Char → Option Reader
  | [] => some reader
  | c :: cs =>
    match step voids reader c with
    | some reader => read voids reader cs
    | none => none

variable {voids : List (List Char)} {reader reader' : Reader} {c : Char}

/-- A step reads a character and follows the tag that it ends. -/
lemma follow_of_step (stepped : reader.step voids c = some reader') :
    ∃ tag, readChar voids reader.mode c = some (reader'.mode, tag) ∧
      follow reader.names tag = some reader'.names := by
  rw [step] at stepped
  cases read : readChar voids reader.mode c with
  | none => simp [read] at stepped
  | some ended =>
    obtain ⟨mode, tag⟩ := ended
    cases followed : follow reader.names tag with
    | none => simp [read, followed] at stepped
    | some names =>
      simp only [read, followed, Option.some.injEq] at stepped
      subst stepped
      exact ⟨tag, rfl, followed⟩

/-- Reading starts with a step. -/
lemma read_cons_eq_some_iff {cs : List Char} :
    reader.read voids (c :: cs) = some reader' ↔
      ∃ next, reader.step voids c = some next ∧ next.read voids cs = some reader' := by
  rw [read]
  cases reader.step voids c with
  | none => simp
  | some next => simp

/-- What is read in two parts is read in one. -/
lemma read_append {reader'' : Reader} {cs ds : List Char}
    (first : reader.read voids cs = some reader') (second : reader'.read voids ds = some reader'') :
    reader.read voids (cs ++ ds) = some reader'' := by
  induction cs generalizing reader with
  | nil =>
    cases first
    exact second
  | cons c cs ih =>
    obtain ⟨next, stepped, reads⟩ := read_cons_eq_some_iff.mp first
    exact read_cons_eq_some_iff.mpr ⟨next, stepped, ih reads⟩

end Reader

variable {voids : List (List Char)}

/-- Tags that end the given elements, the first one first, each behind nested tags. This is what is
still to come for a reader that has these elements open. -/
def Closes : List (List Char) → List Tag → Prop
  | [], tags => Nested tags
  | name :: names, tags =>
    ∃ inner rest, tags = inner ++ .stop name :: rest ∧ Nested inner ∧ Closes names rest

/-- An element may stand before tags that close others. -/
lemma Closes.element {names : List (List Char)} (name : List Char) {inner rest : List Tag}
    (inside : Nested inner) (closes : Closes names rest) :
    Closes names (.start name :: (inner ++ .stop name :: rest)) := by
  cases names with
  | nil => exact Nested.element name inside closes
  | cons outer names =>
    obtain ⟨before, rest, rfl, nested, behind⟩ := closes
    refine ⟨.start name :: (inner ++ .stop name :: before), rest, ?_,
      Nested.element name inside nested, behind⟩
    rw [List.cons_append, List.append_assoc, List.cons_append]

/-- Tags that the reader follows close what was open. -/
lemma Closes.follow {names names' : List (List Char)} {tag : Option Tag} {tags : List Tag}
    (followed : Reader.follow names tag = some names') (closes : Closes names' tags) :
    Closes names (tag.toList ++ tags) := by
  cases tag with
  | none =>
    cases followed
    exact closes
  | some tag =>
    cases tag with
    | start name =>
      cases followed
      obtain ⟨inner, rest, rfl, inside, behind⟩ := closes
      exact behind.element name inside
    | stop name =>
      cases names with
      | nil => cases followed
      | cons innermost names =>
        have same : innermost = name ∧ names = names' := by simpa [Reader.follow] using followed
        obtain ⟨rfl, rfl⟩ := same
        exact ⟨[], tags, rfl, .nil, closes⟩

/-- Characters that a reader reads up to text, with no element left open, hold tags that close the
elements that were open. -/
lemma Reader.closes_of_read {reader : Reader} {cs : List Char}
    (reads : reader.read voids cs = some ⟨.text, []⟩) :
    ∃ tags, tagsFrom voids reader.mode cs = some tags ∧ Closes reader.names tags := by
  induction cs generalizing reader with
  | nil =>
    cases reads
    exact ⟨[], rfl, .nil⟩
  | cons c cs ih =>
    obtain ⟨next, stepped, reads⟩ := Reader.read_cons_eq_some_iff.mp reads
    obtain ⟨tag, ended, followed⟩ := Reader.follow_of_step stepped
    obtain ⟨tags, found, closes⟩ := ih reads
    refine ⟨tag.toList ++ tags, ?_, closes.follow followed⟩
    simp [tagsFrom, ended, found]

/-- How a reader reads a text. -/
def Reads (voids : List (List Char)) (reader : Reader) (s : String) (reader' : Reader) : Prop :=
  reader.read voids s.toList = some reader'

/-- A text that a reader of text reads as text, with the same elements open afterwards. -/
def Balanced (voids : List (List Char)) (s : String) : Prop :=
  ∀ names, Reads voids ⟨.text, names⟩ s ⟨.text, names⟩

/-- Balanced texts are well nested. -/
lemma Balanced.wellNested {s : String} (balanced : Balanced voids s) : WellNested voids s :=
  Reader.closes_of_read (balanced [])

namespace Reads

variable {reader reader' reader'' reader''' : Reader} {s t : String}

lemma append (first : Reads voids reader s reader') (second : Reads voids reader' t reader'') :
    Reads voids reader (s ++ t) reader'' := by
  rw [Reads, String.toList_append]
  exact Reader.read_append first second

/-- A fixed text is read by evaluation; its characters are those of a literal. -/
lemma fixed {cs : List Char} (read : reader.read voids cs = some reader') :
    Reads voids reader (String.ofList cs) reader' := by
  rwa [Reads, String.toList_ofList]

/-- A text is read on where a fixed text follows. -/
lemma literal {cs : List Char} (first : Reads voids reader s reader')
    (read : reader'.read voids cs = some reader'') :
    Reads voids reader (s ++ String.ofList cs) reader'' :=
  first.append (fixed read)

/-- A text is read on where another one and then a fixed text follow. -/
lemma part {cs : List Char} (first : Reads voids reader s reader')
    (inner : Reads voids reader' t reader'') (read : reader''.read voids cs = some reader''') :
    Reads voids reader (s ++ t ++ String.ofList cs) reader''' :=
  (first.append inner).literal read

/-- A reader that takes no step but at markup characters reads on without one. -/
lemma of_unmarked (rests : ∀ c, isMark c = false → reader.step voids c = some reader)
    (unmarked : marks s = []) : Reads voids reader s reader := by
  have plain (c : Char) (mem : c ∈ s.toList) : isMark c = false :=
    Bool.eq_false_iff.mpr (List.filter_eq_nil_iff.mp unmarked c mem)
  rw [Reads]
  revert plain
  induction s.toList with
  | nil => exact fun _ => rfl
  | cons c cs ih =>
    intro plain
    rw [Reader.read, rests c (plain c List.mem_cons_self)]
    exact ih fun c mem => plain c (List.mem_cons_of_mem _ mem)

variable {names : List (List Char)} {name : List Char}

/-- Text without markup characters is text. -/
lemma text (unmarked : marks s = []) : Reads voids ⟨.text, names⟩ s ⟨.text, names⟩ := by
  apply of_unmarked _ unmarked
  intro c plain
  simp only [isMark, Bool.or_eq_false_iff, beq_eq_false_iff_ne] at plain
  obtain ⟨⟨⟨lt, gt⟩, -⟩, -⟩ := plain
  simp [Reader.step, readChar, Reader.follow, lt, gt]

/-- In the value of an attribute it belongs to the value. -/
lemma value (unmarked : marks s = []) :
    Reads voids ⟨.start name .value, names⟩ s ⟨.start name .value, names⟩ := by
  apply of_unmarked _ unmarked
  intro c plain
  simp only [isMark, Bool.or_eq_false_iff, beq_eq_false_iff_ne] at plain
  obtain ⟨⟨⟨lt, -⟩, quote⟩, -⟩ := plain
  simp [Reader.step, readChar, readStart, Reader.follow, lt, quote]

lemma escape_text (s : String) : Reads voids ⟨.text, names⟩ (escape s) ⟨.text, names⟩ :=
  .text (inert_escape s).unmarked

lemma escape_value (s : String) :
    Reads voids ⟨.start name .value, names⟩ (escape s) ⟨.start name .value, names⟩ :=
  .value (inert_escape s).unmarked

end Reads

/-- A text that is empty or an attribute. -/
def Attribute (voids : List (List Char)) (s : String) : Prop :=
  s = "" ∨ ∀ {name part names}, part = .name ∨ part = .closed →
    Reads voids ⟨.start name part, names⟩ s ⟨.start name .closed, names⟩

/-- What follows an attribute follows the name of an element alike. -/
lemma Reader.step_of_closed {name : List Char} {part : Part} {names : List (List Char)} {c : Char}
    {reader : Reader} (ends : part = .name ∨ part = .closed)
    (steps : step voids ⟨.start name .closed, names⟩ c = some reader) :
    step voids ⟨.start name part, names⟩ c = some reader := by
  rcases ends with rfl | rfl
  · -- behind a value no name goes on, so the character is none that the name could take
    have differs : isNameChar c = false := by
      apply Bool.eq_false_iff.mpr
      intro named
      have blank : c ≠ ' ' := by rintro rfl; cases named
      have slash : c ≠ '/' := by rintro rfl; cases named
      have gt : c ≠ '>' := by rintro rfl; cases named
      simp [step, readChar, readStart, readStart.behind, blank, slash, gt] at steps
    simpa [step, readChar, readStart, differs] using steps
  · exact steps

/-- A start tag is read on where an attribute may stand and a fixed text follows. -/
lemma Reads.optional {reader reader' : Reader} {s t : String} {name : List Char} {part : Part}
    {names : List (List Char)} {c : Char} {cs : List Char}
    (first : Reads voids reader s ⟨.start name part, names⟩)
    (ends : part = .name ∨ part = .closed) (extra : Attribute voids t)
    (read : Reader.read voids ⟨.start name .closed, names⟩ (c :: cs) = some reader') :
    Reads voids reader (s ++ t ++ String.ofList (c :: cs)) reader' := by
  rcases extra with rfl | given
  · rw [String.append_empty]
    obtain ⟨next, stepped, reads⟩ := Reader.read_cons_eq_some_iff.mp read
    apply first.literal
    exact Reader.read_cons_eq_some_iff.mpr ⟨next, Reader.step_of_closed ends stepped, reads⟩
  · exact (first.append (given ends)).literal read

/-- Balanced texts put together by line ends are balanced. -/
lemma Balanced.join {outputs : List String} (each : ∀ s ∈ outputs, Balanced voids s) :
    Balanced voids (Text.join "\n" outputs) :=
  Text.join_induction (fun _ => rfl)
    (fun here behind names => ((here names).literal rfl).append (behind names)) each

end Quire.Markup
