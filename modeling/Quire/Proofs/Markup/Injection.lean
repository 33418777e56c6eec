import Mathlib.Tactic.Lemma
import Quire.Converter.Builtin
import Quire.Proofs.Markup.Inert

/-!
# No markup in data

What the data of a node can do to the markup around it: nothing. Two nodes that have the same texts
and attributes, whatever these hold, are rendered with the same markup characters, and no rendering
has an ampersand that starts no entity.

* `Markup.Alike`: two renderings that differ in inert data and in their contents only.
* `Html5.alike_render`, `DocBook.alike_render`: each rendering is taken apart, from its end on, into
  fixed texts, data and content.
* `Builtin.data_adds_no_markup`: what this comes to for the converters.
-/

namespace Quire.Markup

/-- Two renderings of the same fixed texts around any data, the one with the content `content` and
the other one with `content'`. -/
inductive Alike (content content' : String) : String → String → Prop where
  | same {s : String} (written : Spelled s) : Alike content content' s s
  | data {s t : String} (left : Inert s) (right : Inert t) : Alike content content' s t
  | content : Alike content content' content content'
  | append {s t s' t' : String} (left : Alike content content' s t)
    (right : Alike content content' s' t') : Alike content content' (s ++ s') (t ++ t')

namespace Alike

variable {content content' s t s' t' : String}

/-- Renderings around contents with the same markup characters have the same markup characters. -/
lemma marks_eq (same : marks content = marks content') (alike : Alike content content' s t) :
    marks s = marks t := by
  induction alike with
  | same => rfl
  | data left right => rw [left.unmarked, right.unmarked]
  | content => exact same
  | append _ _ left right => rw [marks_append, marks_append, left, right]

/-- Renderings add no ampersand that starts no entity. -/
lemma spelled (written : Spelled content) (alike : Alike content content' s t) : Spelled s := by
  induction alike with
  | same here => exact here
  | data left _ => exact left.spelled
  | content => exact written
  | append _ _ left right => exact left.append right

/-- Fixed texts are alike; their characters are those of a literal. -/
lemma fixed {cs : List Char} (written : Markup.spelled cs = true) :
    Alike content content' (String.ofList cs) (String.ofList cs) :=
  .same (by rwa [← spelled_iff, String.toList_ofList])

/-- Renderings stay alike when a fixed text follows. -/
lemma literal {cs : List Char} (alike : Alike content content' s t)
    (written : Markup.spelled cs = true) :
    Alike content content' (s ++ String.ofList cs) (t ++ String.ofList cs) :=
  alike.append (fixed written)

/-- Renderings stay alike when alike texts and then a fixed text follow. -/
lemma part {cs : List Char} (alike : Alike content content' s t)
    (inner : Alike content content' s' t') (written : Markup.spelled cs = true) :
    Alike content content' (s ++ s' ++ String.ofList cs) (t ++ t' ++ String.ofList cs) :=
  (alike.append inner).literal written

/-- Escaped texts are alike. -/
lemma escape (s t : String) : Alike content content' (escape s) (escape t) :=
  .data (inert_escape s) (inert_escape t)

end Alike

end Quire.Markup

namespace Quire

open Markup (Alike)

/-- Two nodes have an id, a title, a text and attributes of the same names, whatever these are. -/
structure Node.SamePresence (left right : Node) : Prop where
  id : left.id.isSome = right.id.isSome
  title : left.title.isSome = right.title.isSome
  text : left.text.isSome = right.text.isSome
  attr : ∀ name, (left.attr name).isSome = (right.attr name).isSome

variable {content content' : String} {left right : Node}

/-- The text of a node in front of its content. -/
lemma Markup.alike_body (same : left.SamePresence right) (empty : content = "" ↔ content' = "") :
    Alike content content' (left.body escape content) (right.body escape content') := by
  unfold Node.body
  rcases isSome_cases same.text with ⟨x, y, hx, hy⟩ | ⟨hx, hy⟩
  · rw [hx, hy]
    by_cases h : content = ""
    · simp only [h, empty.mp h, if_true]
      exact .escape ..
    · simp only [h, mt empty.mpr h, if_false]
      exact ((Alike.escape x y).append (.fixed (by decide))).append .content
  · rw [hx, hy]
    exact .content

/-- The content of a node on a line of its own, if there is any. -/
lemma Markup.alike_lines (empty : content = "" ↔ content' = "") :
    Alike content content' (if content = "" then "" else content ++ "\n")
      (if content' = "" then "" else content' ++ "\n") := by
  by_cases h : content = ""
  · simp only [h, empty.mp h, if_true]
    exact .fixed (by decide)
  · simp only [h, mt empty.mpr h, if_false]
    exact Alike.content.append (.fixed (by decide))

namespace Html5

open Markup (escape)

section

variable (same : left.SamePresence right)
include same

lemma alike_idAttribute : Alike content content' (idAttribute left) (idAttribute right) := by
  unfold idAttribute
  rcases isSome_cases same.id with ⟨x, y, hx, hy⟩ | ⟨hx, hy⟩ <;> rw [hx, hy]
  · exact (Alike.fixed (by decide)).part (.escape x y) (by decide)
  · exact .fixed (by decide)

lemma alike_titleLine : Alike content content' (titleLine left) (titleLine right) := by
  unfold titleLine
  rcases isSome_cases same.title with ⟨x, y, hx, hy⟩ | ⟨hx, hy⟩ <;> rw [hx, hy]
  · exact (Alike.fixed (by decide)).part (.escape x y) (by decide)
  · exact .fixed (by decide)

lemma alike_document :
    Alike content content' (document left content) (document right content') := by
  unfold document
  extract_lets titled titled'
  have alike_titled (tag : String) (written : Markup.Spelled tag) :
      Alike content content' (titled tag) (titled' tag) := by
    unfold titled titled'
    rcases isSome_cases same.title with ⟨x, y, hx, hy⟩ | ⟨hx, hy⟩ <;> rw [hx, hy]
    · refine .part ?_ (.same written) (by decide)
      refine .part ?_ (.escape x y) (by decide)
      exact (Alike.fixed (by decide)).part (.same written) (by decide)
    · exact .fixed (by decide)
  refine .part ?_ .content (by decide)
  refine .append ?_ (alike_titled _ (by decide))
  exact (Alike.fixed (by decide)).part (alike_titled _ (by decide)) (by decide)

lemma alike_sect : Alike content content' (sect left content) (sect right content') := by
  have digits (m n : Nat) : Alike content content' (Decimal.text m) (Decimal.text n) :=
    .data (Markup.inert_digits m) (Markup.inert_digits n)
  have heading : Alike content content' ("h" ++ Decimal.text (left.level + 1))
      ("h" ++ Decimal.text (right.level + 1)) := (Alike.fixed (by decide)).append (digits _ _)
  unfold sect
  refine .part ?_ .content (by decide)
  refine .part ?_ heading (by decide)
  refine .part ?_ (.escape _ _) (by decide)
  refine .part ?_ (alike_idAttribute same) (by decide)
  refine .append ?_ heading
  exact (Alike.fixed (by decide)).part (digits _ _) (by decide)

lemma alike_verbatim (blockClass : String) (written : Markup.Spelled blockClass) :
    Alike content content' (verbatim blockClass left) (verbatim blockClass right) := by
  unfold verbatim
  refine .literal ?_ (by decide)
  refine .append ?_ ?_
  · refine .part ?_ (alike_titleLine same) (by decide)
    refine .part ?_ (.same written) (by decide)
    exact (Alike.fixed (by decide)).part (alike_idAttribute same) (by decide)
  · rcases isSome_cases (same.attr "language") with ⟨x, y, hx, hy⟩ | ⟨hx, hy⟩ <;> rw [hx, hy]
    · refine .part ?_ (.escape _ _) (by decide)
      refine .part ?_ (.escape x y) (by decide)
      exact (Alike.fixed (by decide)).part (.escape x y) (by decide)
    · exact (Alike.fixed (by decide)).part (.escape _ _) (by decide)

lemma alike_list (blockClass tag attributes : String) (classWritten : Markup.Spelled blockClass)
    (tagWritten : Markup.Spelled tag) (attributesWritten : Markup.Spelled attributes) :
    Alike content content' (list blockClass tag attributes left content)
      (list blockClass tag attributes right content') := by
  refine .part ?_ (.same tagWritten) (by decide)
  refine .part ?_ .content (by decide)
  refine .part ?_ (.same attributesWritten) (by decide)
  refine .append ?_ (.same tagWritten)
  refine .part ?_ (alike_titleLine same) (by decide)
  refine .part ?_ (.same classWritten) (by decide)
  exact (Alike.fixed (by decide)).part (alike_idAttribute same) (by decide)

lemma alike_table : Alike content content' (table left content) (table right content') := by
  unfold table
  refine .part ?_ .content (by decide)
  refine .literal ?_ (by decide)
  refine .append ?_ ?_
  · exact (Alike.fixed (by decide)).part (alike_idAttribute same) (by decide)
  · rcases isSome_cases same.title with ⟨x, y, hx, hy⟩ | ⟨hx, hy⟩ <;> rw [hx, hy]
    · exact (Alike.fixed (by decide)).part (.escape x y) (by decide)
    · exact .fixed (by decide)

lemma alike_image : Alike content content' (image left) (image right) := by
  unfold image
  refine .part ?_ (alike_titleLine same) (by decide)
  refine .part ?_ (.escape _ _) (by decide)
  refine .part ?_ (.escape _ _) (by decide)
  exact (Alike.fixed (by decide)).part (alike_idAttribute same) (by decide)

end

section

variable (same : left.SamePresence right) (empty : content = "" ↔ content' = "")
include same empty

lemma alike_admonition :
    Alike content content' (admonition left content) (admonition right content') := by
  unfold admonition
  refine .part ?_ (Markup.alike_body same empty) (by decide)
  refine .append ?_ (alike_titleLine same)
  refine .part ?_ (.escape _ _) (by decide)
  refine .part ?_ (.escape _ _) (by decide)
  exact (Alike.fixed (by decide)).part (alike_idAttribute same) (by decide)

lemma alike_quote : Alike content content' (quote left content) (quote right content') := by
  unfold quote
  refine .literal ?_ (by decide)
  refine .append ?_ ?_
  · refine .part ?_ (Markup.alike_body same empty) (by decide)
    refine .part ?_ (alike_titleLine same) (by decide)
    exact (Alike.fixed (by decide)).part (alike_idAttribute same) (by decide)
  · rcases isSome_cases (same.attr "attribution") with ⟨x, y, hx, hy⟩ | ⟨hx, hy⟩ <;> rw [hx, hy]
    · exact (Alike.fixed (by decide)).part (.escape x y) (by decide)
    · exact .fixed (by decide)

lemma alike_listItem :
    Alike content content' (listItem left content) (listItem right content') := by
  unfold listItem
  refine .part ?_ (Markup.alike_lines empty) (by decide)
  refine (Alike.fixed (by decide)).append ?_
  rcases isSome_cases same.text with ⟨x, y, hx, hy⟩ | ⟨hx, hy⟩ <;> rw [hx, hy]
  · exact (Alike.fixed (by decide)).part (.escape x y) (by decide)
  · exact .fixed (by decide)

lemma alike_tableCell :
    Alike content content' (tableCell left content) (tableCell right content') := by
  have tag (node : Node) : Markup.Inert
      (if node.attr "header" = some "true" ∨ node.attr "header" = some "" then "th" else "td") := by
    split <;> exact ⟨by decide, by decide⟩
  unfold tableCell
  refine .part ?_ (.data (tag left) (tag right)) (by decide)
  refine .part ?_ (Markup.alike_body same empty) (by decide)
  exact (Alike.fixed (by decide)).part (.data (tag left) (tag right)) (by decide)

lemma alike_paragraph :
    Alike content content' (paragraph left content) (paragraph right content') := by
  refine .part ?_ (Markup.alike_body same empty) (by decide)
  refine .part ?_ (alike_titleLine same) (by decide)
  exact (Alike.fixed (by decide)).part (alike_idAttribute same) (by decide)

/-- HTML5 renderings of nodes of the same presence are alike. -/
lemma alike_render (kind : Kind) :
    Alike content content' (render kind left content) (render kind right content') := by
  cases kind with
  | document => exact alike_document same
  | preamble => exact (Alike.fixed (by decide)).part .content (by decide)
  | sect => exact alike_sect same
  | paragraph => exact alike_paragraph same empty
  | listing => exact alike_verbatim same "listingblock" (by decide)
  | literal => exact alike_verbatim same "literalblock" (by decide)
  | admonition => exact alike_admonition same empty
  | quote => exact alike_quote same empty
  | unorderedList => exact alike_list same "ulist" "ul" "" (by decide) (by decide) (by decide)
  | orderedList =>
    exact alike_list same "olist arabic" "ol" " class=\"arabic\"" (by decide) (by decide)
      (by decide)
  | listItem => exact alike_listItem same empty
  | table => exact alike_table same
  | tableRow => exact (Alike.fixed (by decide)).part .content (by decide)
  | tableCell => exact alike_tableCell same empty
  | image => exact alike_image same
  | thematicBreak => exact .fixed (by decide)
  | pageBreak => exact .fixed (by decide)
  | text => exact Markup.alike_body same empty

end

end Html5

namespace DocBook

open Markup (escape)

variable (version : Version)

section

variable (same : left.SamePresence right)
include same

lemma alike_idAttribute :
    Alike content content' (idAttribute version left) (idAttribute version right) := by
  have named : Markup.Spelled version.idName := by cases version <;> decide
  unfold idAttribute
  rcases isSome_cases same.id with ⟨x, y, hx, hy⟩ | ⟨hx, hy⟩ <;> rw [hx, hy]
  · refine .part ?_ (.escape x y) (by decide)
    exact (Alike.fixed (by decide)).part (.same named) (by decide)
  · exact .fixed (by decide)

lemma alike_titleElement : Alike content content' (titleElement left) (titleElement right) := by
  unfold titleElement
  rcases isSome_cases same.title with ⟨x, y, hx, hy⟩ | ⟨hx, hy⟩ <;> rw [hx, hy]
  · exact (Alike.fixed (by decide)).part (.escape x y) (by decide)
  · exact .fixed (by decide)

lemma alike_document :
    Alike content content' (document version left content) (document version right content') := by
  have prologue (x y : String) :
      Alike content content' (prologue version x) (prologue version y) := by
    cases version with
    | v5 =>
      refine .part ?_ (.escape x y) (by decide)
      exact (Alike.fixed (by decide)).literal (by decide)
    | v45 =>
      refine .part ?_ (.escape x y) (by decide)
      refine .literal ?_ (by decide)
      exact (Alike.fixed (by decide)).literal (by decide)
  have named : Markup.Spelled (infoName version) := by cases version <;> decide
  unfold document
  refine .part ?_ .content (by decide)
  refine .append ((Alike.fixed (by decide)).append (prologue _ _)) ?_
  rcases isSome_cases same.title with ⟨x, y, hx, hy⟩ | ⟨hx, hy⟩ <;> rw [hx, hy]
  · refine .part ?_ (.same named) (by decide)
    refine .part ?_ (.escape x y) (by decide)
    exact (Alike.fixed (by decide)).part (.same named) (by decide)
  · exact .fixed (by decide)

lemma alike_formal {block block' : String} (inner : Alike content content' block block') :
    Alike content content' (formal left block) (formal right block') := by
  unfold formal
  rcases isSome_cases same.title with ⟨x, y, hx, hy⟩ | ⟨hx, hy⟩ <;> rw [hx, hy]
  · refine .part ?_ inner (by decide)
    exact (Alike.fixed (by decide)).part (.escape x y) (by decide)
  · exact inner

lemma alike_listing : Alike content content' (listing version left) (listing version right) := by
  unfold listing
  apply alike_formal same
  rcases isSome_cases (same.attr "language") with ⟨x, y, hx, hy⟩ | ⟨hx, hy⟩ <;> rw [hx, hy]
  · refine .part ?_ (.escape _ _) (by decide)
    refine .part ?_ (.escape x y) (by decide)
    exact (Alike.fixed (by decide)).part (alike_idAttribute version same) (by decide)
  · refine .part ?_ (.escape _ _) (by decide)
    exact (Alike.fixed (by decide)).part (alike_idAttribute version same) (by decide)

lemma alike_literal : Alike content content' (literal version left) (literal version right) := by
  unfold literal
  apply alike_formal same
  refine .part ?_ (.escape _ _) (by decide)
  exact (Alike.fixed (by decide)).part (alike_idAttribute version same) (by decide)

lemma alike_list (tag attributes : String) (tagWritten : Markup.Spelled tag)
    (attributesWritten : Markup.Spelled attributes) :
    Alike content content' (list version tag attributes left content)
      (list version tag attributes right content') := by
  unfold list
  refine .part ?_ (.same tagWritten) (by decide)
  refine .part ?_ .content (by decide)
  refine .append ?_ (alike_titleElement same)
  refine .part ?_ (alike_idAttribute version same) (by decide)
  refine .append ?_ (.same attributesWritten)
  exact (Alike.fixed (by decide)).append (.same tagWritten)

lemma alike_table :
    Alike content content' (table version left content) (table version right content') := by
  have named : Markup.Spelled (if right.title.isSome then "table" else "informaltable") := by
    split <;> decide
  unfold table
  dsimp only
  rw [same.title]
  refine .part ?_ (.same named) (by decide)
  refine .part ?_ .content (by decide)
  refine .part ?_ (.escape _ _) (by decide)
  refine .part ?_ (alike_titleElement same) (by decide)
  refine .part ?_ (alike_idAttribute version same) (by decide)
  exact (Alike.fixed (by decide)).append (.same named)

lemma alike_image : Alike content content' (image version left) (image version right) := by
  unfold image
  extract_lets phrase media phrase' media'
  have alike_phrase : Alike content content' phrase phrase' := by
    unfold phrase phrase'
    rcases isSome_cases (same.attr "alt") with ⟨x, y, hx, hy⟩ | ⟨hx, hy⟩ <;> rw [hx, hy]
    · exact (Alike.fixed (by decide)).part (.escape x y) (by decide)
    · exact .fixed (by decide)
  have alike_media : Alike content content' media media' := by
    refine .part ?_ alike_phrase (by decide)
    exact (Alike.fixed (by decide)).part (.escape _ _) (by decide)
  rcases isSome_cases same.title with ⟨x, y, hx, hy⟩ | ⟨hx, hy⟩ <;> rw [hx, hy]
  · refine .part ?_ alike_media (by decide)
    refine .part ?_ (.escape x y) (by decide)
    exact (Alike.fixed (by decide)).part (alike_idAttribute version same) (by decide)
  · refine .part ?_ alike_media (by decide)
    exact (Alike.fixed (by decide)).part (alike_idAttribute version same) (by decide)

end

section

variable (same : left.SamePresence right) (empty : content = "" ↔ content' = "")
include same empty

lemma alike_paragraph :
    Alike content content' (paragraph left content) (paragraph right content') := by
  have body := Markup.alike_body same empty
  unfold paragraph
  rcases isSome_cases same.title with ⟨x, y, hx, hy⟩ | ⟨hx, hy⟩ <;> rw [hx, hy]
  · refine .part ?_ body (by decide)
    exact (Alike.fixed (by decide)).part (.escape x y) (by decide)
  · exact (Alike.fixed (by decide)).part body (by decide)

lemma alike_blockBody :
    Alike content content' (blockBody left content) (blockBody right content') := by
  have body := Markup.alike_body same empty
  unfold blockBody
  by_cases h : content = ""
  · rw [if_pos h, if_pos (empty.mp h)]
    exact (Alike.fixed (by decide)).part body (by decide)
  · rw [if_neg h, if_neg (mt empty.mpr h)]
    exact body

lemma alike_admonition :
    Alike content content' (admonition version left content)
      (admonition version right content') := by
  have tag (name : String) : Markup.Inert (admonitionTag name) := by
    unfold admonitionTag
    split
    next listed => rcases listed with rfl | rfl | rfl | rfl <;> exact ⟨by decide, by decide⟩
    next => exact ⟨by decide, by decide⟩
  unfold admonition
  refine .part ?_ (.data (tag _) (tag _)) (by decide)
  refine .part ?_ (alike_blockBody same empty) (by decide)
  refine .append ?_ (alike_titleElement same)
  refine .part ?_ (alike_idAttribute version same) (by decide)
  exact (Alike.fixed (by decide)).append (.data (tag _) (tag _))

lemma alike_quote :
    Alike content content' (quote version left content) (quote version right content') := by
  unfold quote
  refine .part ?_ (alike_blockBody same empty) (by decide)
  refine .append ?_ ?_
  · refine .append ?_ (alike_titleElement same)
    exact (Alike.fixed (by decide)).part (alike_idAttribute version same) (by decide)
  · rcases isSome_cases (same.attr "attribution") with ⟨x, y, hx, hy⟩ | ⟨hx, hy⟩ <;> rw [hx, hy]
    · exact (Alike.fixed (by decide)).part (.escape x y) (by decide)
    · exact .fixed (by decide)

lemma alike_listItem :
    Alike content content' (listItem left content) (listItem right content') := by
  unfold listItem
  refine .part ?_ (Markup.alike_lines empty) (by decide)
  refine (Alike.fixed (by decide)).append ?_
  rcases isSome_cases same.text with ⟨x, y, hx, hy⟩ | ⟨hx, hy⟩ <;> rw [hx, hy]
  · exact (Alike.fixed (by decide)).part (.escape x y) (by decide)
  · exact .fixed (by decide)

/-- DocBook renderings of nodes of the same presence are alike. -/
lemma alike_render (kind : Kind) :
    Alike content content' (render version kind left content)
      (render version kind right content') := by
  cases kind with
  | document => exact alike_document version same
  | preamble => exact (Alike.fixed (by decide)).part .content (by decide)
  | sect =>
    refine .part ?_ .content (by decide)
    refine .append ?_ (alike_titleElement same)
    exact (Alike.fixed (by decide)).part (alike_idAttribute version same) (by decide)
  | paragraph => exact alike_paragraph same empty
  | listing => exact alike_listing version same
  | literal => exact alike_literal version same
  | admonition => exact alike_admonition version same empty
  | quote => exact alike_quote version same empty
  | unorderedList => exact alike_list version same "itemizedlist" "" (by decide) (by decide)
  | orderedList =>
    exact alike_list version same "orderedlist" " numeration=\"arabic\"" (by decide) (by decide)
  | listItem => exact alike_listItem same empty
  | table => exact alike_table version same
  | tableRow => exact (Alike.fixed (by decide)).part .content (by decide)
  | tableCell =>
    exact (Alike.fixed (by decide)).part (Markup.alike_body same empty) (by decide)
  | image => exact alike_image version same
  | thematicBreak => exact .fixed (by decide)
  | pageBreak => exact .fixed (by decide)
  | text => exact Markup.alike_body same empty

end

end DocBook

namespace Builtin

open Markup (marks Spelled)

/-- Renderings of nodes of the same presence are alike in each format that is markup. -/
lemma alike_render {format : Builtin} (markup : format ≠ .manPage) (kind : Kind)
    (same : left.SamePresence right) (empty : content = "" ↔ content' = "") :
    Alike content content' (format.render kind left content)
      (format.render kind right content') := by
  cases format with
  | html5 => exact Html5.alike_render same empty kind
  | docBook version => exact DocBook.alike_render version same empty kind
  | manPage => exact absurd rfl markup

/-- The data of a node adds no markup. Where two nodes are of the same kind and have the same texts
and attributes, whatever these hold, around contents of the same markup characters, they are
converted into outputs of the same markup characters. No ampersand is added that starts no
entity. -/
theorem data_adds_no_markup {μ : Type} (format : Builtin) (markup : format ≠ .manPage)
    {left right : Task} (known : left.name ∈ Kind.names) (kind : left.name = right.name)
    (same : left.node.SamePresence right.node) (empty : left.content = "" ↔ right.content = "")
    (contents : marks left.content = marks right.content) (files files' : FileTree)
    (memory memory' : μ) :
    ∃ output output',
      (format.converter.convert files left).run memory = (.ok output, memory) ∧
      (format.converter.convert files' right).run memory' = (.ok output', memory') ∧
      marks output = marks output' ∧ (Spelled left.content → Spelled output) := by
  obtain ⟨rendered, found, run⟩ := format.run_convert left known files memory
  obtain ⟨rendered', found', run'⟩ := format.run_convert right (kind ▸ known) files' memory'
  have agree : rendered = rendered' := by
    rw [kind, found'] at found
    exact (Option.some.inj found).symm
  subst agree
  have alike := alike_render markup rendered same empty
  exact ⟨_, _, run, run', alike.marks_eq contents, alike.spelled⟩

/-- The target of an image ends no attribute, be it a text with quotes or a number. -/
theorem hostile_target_adds_no_markup :
    ∃ output output',
      (Builtin.html5.converter.convert (.rooted []) ⟨(Node.named "image").withAttribute "target"
        (.string "\"><script>&"), "", none⟩).run () = (.ok output, ()) ∧
      (Builtin.html5.converter.convert (.rooted []) ⟨(Node.named "image").withAttribute "target"
        (.int 7), "", none⟩).run () = (.ok output', ()) ∧
      marks output = marks output' ∧ (Spelled "" → Spelled output) :=
  data_adds_no_markup .html5 (by decide) (by decide) (by rfl)
    ⟨by rfl, by rfl, by rfl, fun name => by
      by_cases target : name = "target" <;> simp [Node.attr, Node.withAttribute, target]⟩
    (by rfl) (by rfl) _ _ _ _

end Builtin

end Quire
