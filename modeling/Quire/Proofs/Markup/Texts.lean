import Quire.Proofs.Converter.Rendering
import Quire.Proofs.Node.Shown

/-!
# Texts in markup

Nothing of a document is lost, repeated or moved by the formats that are markup. A rendering writes
the node's text, escaped once, and behind it the content as it is. So the texts of a tree stand in
its output in the order of the nodes, a node before its children.

* `Markup.InOrder`: texts that stand in another one after the other.
* `Markup.Wraps`: what is written around a content; a rule for each way to write more around it.
* `Html5.wraps_render`, `DocBook.wraps_render`: one rendering of a kind that shows its children.
* `Builtin.document_keeps_texts`: a whole tree, by induction over it.
-/

namespace Quire

/-- Whether nodes of a kind show their text. -/
def Kind.showsText : Kind → Bool
  | .paragraph | .listing | .literal | .admonition | .quote | .listItem | .tableCell | .text => true
  | .document | .preamble | .sect | .unorderedList | .orderedList | .table | .tableRow | .image
  | .thematicBreak | .pageBreak => false

/-- The text that a node shows. -/
def Node.shownText? (node : Node) : Option String :=
  match Kind.ofName? node.name with
  | some kind => if kind.showsText then node.text else none
  | none => none

namespace Markup

/-- Pieces stand in a text one behind the other, no two of them over the same part of it. -/
def InOrder : List String → String → Prop
  | [], _ => True
  | piece :: rest, s => ∃ before behind, s = before ++ piece ++ behind ∧ InOrder rest behind

namespace InOrder

variable {pieces pieces' : List String} {s t : String}

/-- More text in front leaves pieces in order. -/
lemma behind (ordered : InOrder pieces s) (front : String) : InOrder pieces (front ++ s) := by
  cases pieces with
  | nil => trivial
  | cons piece rest =>
    obtain ⟨before, behind, rfl, rest⟩ := ordered
    exact ⟨front ++ before, behind, by simp only [String.append_assoc], rest⟩

/-- Pieces of a text stand before those of the text behind it. -/
lemma append (ordered : InOrder pieces s) (ordered' : InOrder pieces' t) :
    InOrder (pieces ++ pieces') (s ++ t) := by
  induction pieces generalizing s with
  | nil => exact ordered'.behind s
  | cons piece rest ih =>
    obtain ⟨before, behind, rfl, ordered⟩ := ordered
    exact ⟨before, behind ++ t, String.append_assoc .., ih ordered⟩

/-- More text behind leaves pieces in order. -/
lemma before (ordered : InOrder pieces s) (back : String) : InOrder pieces (s ++ back) := by
  have both : InOrder (pieces ++ []) (s ++ back) := ordered.append trivial
  rwa [List.append_nil] at both

/-- A piece stands in the text that ends with it. -/
lemma single (s : String) : InOrder [s] s :=
  ⟨"", "", by simp, trivial⟩

/-- Where the empty text is all there is, every piece is empty and stands in any text. -/
lemma of_empty (ordered : InOrder pieces "") (s : String) : InOrder pieces s := by
  induction pieces with
  | nil => trivial
  | cons piece rest ih =>
    obtain ⟨before, behind, same, ordered⟩ := ordered
    obtain ⟨⟨rfl, rfl⟩, rfl⟩ : (before = "" ∧ piece = "") ∧ behind = "" := by
      simpa [String.append_eq_empty_iff] using same.symm
    exact ⟨"", s, by simp, ih ordered⟩

/-- The pieces of texts that are put together. -/
lemma join {α : Type} {items : List α} {pieces : α → List String} {text : α → String}
    (each : ∀ item ∈ items, InOrder (pieces item) (text item)) (separator : String) :
    InOrder (items.flatMap pieces) (Text.join separator (items.map text)) := by
  induction items with
  | nil => trivial
  | cons item rest ih =>
    have here := each item List.mem_cons_self
    have ih := ih fun item mem => each item (List.mem_cons_of_mem _ mem)
    cases rest with
    | nil => simpa [Text.join] using here
    | cons next rest => exact (here.before separator).append ih

end InOrder

/-- Something is written around every content that is not empty, with `shown` before it; without
content `shown` is written all the same. -/
structure Wraps (write : String → String) (shown : List String) : Prop where
  around : ∃ pre post, (∀ content, content ≠ "" → write content = pre ++ content ++ post) ∧
    InOrder shown pre
  bare : InOrder shown (write "")

namespace Wraps

variable {write : String → String} {shown pieces : List String}

/-- A content with nothing around it. -/
lemma content : Wraps (fun content => content) [] :=
  ⟨⟨"", "", by simp, trivial⟩, trivial⟩

/-- The content on a line of its own, if there is any. -/
lemma lines : Wraps (fun content => if content = "" then "" else content ++ "\n") [] :=
  ⟨⟨"", "\n", by simp +contextual, trivial⟩, trivial⟩

/-- More is written before it, which shows something. -/
lemma showing {front : String} (wraps : Wraps write shown) (first : InOrder pieces front) :
    Wraps (fun content => front ++ write content) (pieces ++ shown) := by
  obtain ⟨⟨pre, post, around, ordered⟩, bare⟩ := wraps
  refine ⟨⟨front ++ pre, post, fun content some => ?_, first.append ordered⟩, first.append bare⟩
  rw [around content some, ← String.append_assoc, ← String.append_assoc]

/-- More is written before it. -/
lemma behind (wraps : Wraps write shown) (front : String) :
    Wraps (fun content => front ++ write content) shown := by
  have first : InOrder [] front := trivial
  exact wraps.showing first

/-- More is written behind it. -/
lemma before (wraps : Wraps write shown) (back : String) :
    Wraps (fun content => write content ++ back) shown := by
  obtain ⟨⟨pre, post, around, ordered⟩, bare⟩ := wraps
  refine ⟨⟨pre, post ++ back, fun content some => ?_, ordered⟩, bare.before back⟩
  rw [around content some, String.append_assoc]

/-- More is written behind it, in three parts: an end tag, say, with a name in the middle. -/
lemma before_parts (wraps : Wraps write shown) (left middle right : String) :
    Wraps (fun content => write content ++ left ++ middle ++ right) shown := by
  have opened := wraps.before left
  have named := opened.before middle
  exact named.before right

/-- More is written on both sides of it. -/
lemma between (wraps : Wraps write shown) (front back : String) :
    Wraps (fun content => front ++ write content ++ back) shown := by
  have opened := wraps.behind front
  exact opened.before back

/-- What is written around a content shows what stands in order in the content. -/
lemma keeps (wraps : Wraps write shown) {content : String} (ordered : InOrder pieces content) :
    InOrder (shown ++ pieces) (write content) := by
  obtain ⟨⟨pre, post, around, first⟩, bare⟩ := wraps
  by_cases none : content = ""
  · subst none
    have whole := bare.append (ordered.of_empty "")
    rwa [String.append_empty] at whole
  · rw [around content none]
    exact (first.append ordered).before post

/-- The text of a node in front of its content. -/
lemma body (node : Node) : Wraps (node.body escape) (node.text.toList.map escape) := by
  unfold Node.body
  cases node.text with
  | none => exact .content
  | some text =>
    refine ⟨⟨escape text ++ "\n", "", fun content some => ?_, (InOrder.single _).before _⟩, ?_⟩
    · simp [some]
    · exact .single _

end Wraps

end Markup

open Markup (InOrder Wraps escape)

/-- What a rendering of a kind shows of a node's own text. -/
def Node.shownAs (node : Node) (kind : Kind) : List String :=
  if kind.showsText then node.text.toList.map escape else []

/-- Verbatim text is shown. -/
lemma Node.inOrder_verbatim (node : Node) :
    InOrder (node.text.toList.map escape) (escape (node.text.getD "")) := by
  cases node.text with
  | none => trivial
  | some text => exact .single _

namespace Html5

variable (node : Node)

lemma wraps_listItem : Wraps (listItem node) (node.text.toList.map escape) := by
  unfold listItem
  cases node.text with
  | none => exact Wraps.lines.between _ _
  | some text =>
    have shown : InOrder [escape text] ("<li>\n" ++ ("<p>" ++ escape text ++ "</p>\n")) := by
      apply InOrder.behind
      apply InOrder.before
      exact (InOrder.single _).behind _
    exact (Wraps.lines.showing shown).before _

/-- HTML5 renderings of kinds that show their children write around the content. -/
lemma wraps_render (kind : Kind) (container : kind.isContainer = true) :
    Wraps (render kind node) (node.shownAs kind) := by
  cases kind with
  | document => exact Wraps.content.between _ _
  | preamble => exact Wraps.content.between _ _
  | sect => exact Wraps.content.between _ _
  | paragraph => exact (Wraps.body node).between _ _
  | listing => cases container
  | literal => cases container
  | admonition => exact (Wraps.body node).between _ _
  | quote =>
    apply Wraps.before_parts
    exact (Wraps.body node).behind _
  | unorderedList =>
    apply Wraps.before_parts
    exact Wraps.content.behind _
  | orderedList =>
    apply Wraps.before_parts
    exact Wraps.content.behind _
  | listItem => exact wraps_listItem node
  | table => exact Wraps.content.between _ _
  | tableRow => exact Wraps.content.between _ _
  | tableCell =>
    apply Wraps.before_parts
    exact (Wraps.body node).behind _
  | image => cases container
  | thematicBreak => cases container
  | pageBreak => cases container
  | text => exact Wraps.body node

lemma inOrder_verbatim (blockClass : String) :
    InOrder (node.text.toList.map escape) (verbatim blockClass node) := by
  unfold verbatim
  apply InOrder.before
  apply InOrder.behind
  cases node.attr "language" with
  | none => exact (node.inOrder_verbatim.behind _).before _
  | some language => exact (node.inOrder_verbatim.behind _).before _

/-- HTML5 renderings of other kinds show the text of the node. -/
lemma inOrder_render (kind : Kind) (leaf : kind.isContainer = false) (content : String) :
    InOrder (node.shownAs kind) (render kind node content) := by
  cases kind with
  | listing => exact inOrder_verbatim node "listingblock"
  | literal => exact inOrder_verbatim node "literalblock"
  | image => trivial
  | thematicBreak => trivial
  | pageBreak => trivial
  | _ => cases leaf

end Html5

namespace DocBook

variable (version : Version) (node : Node)

lemma wraps_paragraph : Wraps (paragraph node) (node.text.toList.map escape) := by
  unfold paragraph
  cases node.title with
  | none => exact (Wraps.body node).between _ _
  | some title => exact (Wraps.body node).between _ _

lemma wraps_blockBody : Wraps (blockBody node) (node.text.toList.map escape) := by
  obtain ⟨⟨pre, post, around, ordered⟩, bare⟩ := Wraps.body node
  refine ⟨⟨pre, post, fun content some => ?_, ordered⟩, (bare.behind _).before _⟩
  rw [blockBody, if_neg some, around content some]

lemma wraps_listItem : Wraps (listItem node) (node.text.toList.map escape) := by
  unfold listItem
  cases node.text with
  | none => exact Wraps.lines.between _ _
  | some text =>
    have shown : InOrder [escape text]
        ("<listitem>\n" ++ ("<simpara>" ++ escape text ++ "</simpara>\n")) := by
      apply InOrder.behind
      apply InOrder.before
      exact (InOrder.single _).behind _
    exact (Wraps.lines.showing shown).before _

/-- DocBook renderings of kinds that show their children write around the content. -/
lemma wraps_render (kind : Kind) (container : kind.isContainer = true) :
    Wraps (render version kind node) (node.shownAs kind) := by
  cases kind with
  | document => exact Wraps.content.between _ _
  | preamble => exact Wraps.content.between _ _
  | sect => exact Wraps.content.between _ _
  | paragraph => exact wraps_paragraph node
  | listing => cases container
  | literal => cases container
  | admonition =>
    apply Wraps.before_parts
    exact (wraps_blockBody node).behind _
  | quote => exact (wraps_blockBody node).between _ _
  | unorderedList =>
    apply Wraps.before_parts
    exact Wraps.content.behind _
  | orderedList =>
    apply Wraps.before_parts
    exact Wraps.content.behind _
  | listItem => exact wraps_listItem node
  | table =>
    apply Wraps.before_parts
    exact Wraps.content.behind _
  | tableRow => exact Wraps.content.between _ _
  | tableCell => exact (Wraps.body node).between _ _
  | image => cases container
  | thematicBreak => cases container
  | pageBreak => cases container
  | text => exact Wraps.body node

lemma inOrder_formal {pieces : List String} {block : String} (ordered : InOrder pieces block) :
    InOrder pieces (formal node block) := by
  unfold formal
  cases node.title with
  | none => exact ordered
  | some title => exact (ordered.behind _).before _

lemma inOrder_listing : InOrder (node.text.toList.map escape) (listing version node) := by
  apply inOrder_formal
  cases node.attr "language" with
  | none => exact (node.inOrder_verbatim.behind _).before _
  | some language => exact (node.inOrder_verbatim.behind _).before _

/-- DocBook renderings of other kinds show the text of the node. -/
lemma inOrder_render (kind : Kind) (leaf : kind.isContainer = false) (content : String) :
    InOrder (node.shownAs kind) (render version kind node content) := by
  cases kind with
  | listing => exact inOrder_listing version node
  | literal => exact inOrder_formal node ((node.inOrder_verbatim.behind _).before _)
  | image => trivial
  | thematicBreak => trivial
  | pageBreak => trivial
  | _ => cases leaf

end DocBook

namespace Builtin

variable {format : Builtin}

/-- Renderings of kinds that show their children write around the content. -/
lemma wraps_render (markup : format ≠ .manPage) (node : Node) {kind : Kind}
    (container : kind.isContainer = true) :
    Wraps (format.render kind node) (node.shownAs kind) := by
  cases format with
  | html5 => exact Html5.wraps_render node kind container
  | docBook version => exact DocBook.wraps_render version node kind container
  | manPage => exact absurd rfl markup

/-- Renderings show the text of the node, and behind it what the content shows, if there is any. -/
lemma inOrder_render (markup : format ≠ .manPage) (node : Node) (kind : Kind)
    {pieces : List String} {content : String} (ordered : InOrder pieces content)
    (below : kind.isContainer = true ∨ pieces = []) :
    InOrder (node.shownAs kind ++ pieces) (format.render kind node content) := by
  cases container : kind.isContainer with
  | true => exact (wraps_render markup node container).keeps ordered
  | false =>
    obtain rfl : pieces = [] := below.resolve_left (by simp [container])
    rw [List.append_nil]
    cases format with
    | html5 => exact Html5.inOrder_render node kind container content
    | docBook version => exact DocBook.inOrder_render version node kind container content
    | manPage => exact absurd rfl markup

end Builtin

/-- The texts that a tree shows, escaped, a node's own before those below it. -/
def Node.shownTexts (root : Node) : List String :=
  (root.preOrder.filterMap shownText?).map escape

lemma Node.shownTexts_eq {node : Node} {kind : Kind} (found : Kind.ofName? node.name = some kind) :
    node.shownTexts = node.shownAs kind ++ node.children.flatMap shownTexts := by
  have own : (node.shownText?.toList).map escape = node.shownAs kind := by
    rw [shownText?, shownAs, found]
    dsimp only
    split <;> rfl
  have below : ((node.children.flatMap preOrder).filterMap shownText?).map escape =
      node.children.flatMap shownTexts := by
    rw [List.filterMap_flatMap, List.map_flatMap]
    rfl
  rw [← below, ← own, shownTexts, preOrder_eq, List.filterMap_cons]
  cases node.shownText? with
  | none => rfl
  | some text => rfl

/-- Every node of a tree that has children is of a kind that shows them. -/
def Node.ShowsChildren (root : Node) : Prop :=
  ∀ node ∈ root.preOrder, node.children ≠ [] → node.isContainer = true

lemma Node.ShowsChildren.child {node child : Node} (shows : node.ShowsChildren)
    (mem : child ∈ node.children) : child.ShowsChildren := by
  intro inner listed
  apply shows
  rw [preOrder_eq]
  exact List.mem_cons_of_mem _ (List.mem_flatMap_of_mem mem listed)

namespace Builtin

variable {format : Builtin}

/-- The rendering of a tree of known kinds shows the texts of the tree in their order. -/
lemma inOrder_rendering (markup : format ≠ .manPage) {root : Node} (known : root.Known)
    (shows : root.ShowsChildren) : InOrder root.shownTexts (format.rendering root) := by
  induction root using Node.byChildren with
  | step node ih =>
    obtain ⟨kind, found⟩ := Kind.exists_ofName? known.root
    have content : InOrder (node.children.flatMap Node.shownTexts)
        (Text.join "\n" (node.children.map format.rendering)) :=
      .join (fun child mem => ih child mem (known.child mem) (shows.child mem)) "\n"
    rw [format.rendering_eq found, Node.shownTexts_eq found]
    apply inOrder_render markup node kind content
    -- a kind that shows no children has none
    by_cases leaf : node.children = []
    · rw [leaf]
      exact .inr rfl
    · have root : node ∈ node.preOrder := by
        rw [Node.preOrder_eq]
        exact List.mem_cons_self
      have container := shows node root leaf
      rw [Node.isContainer, found, Option.any_some] at container
      exact .inl container

/-- Nothing of a document is lost, repeated or moved. A node of a kind that shows its children is
converted into the content between two texts that depend on the node only, and the first of them
holds the node's text, escaped once. The texts of a whole tree stand in its output in order. -/
theorem document_keeps_texts {μ : Type} (format : Builtin) (markup : format ≠ .manPage) :
    (∀ (kind : Kind) (node : Node), kind.isContainer = true →
      ∃ pre post : String,
        (∀ (content : String) (transform : Option String) (files : FileTree) (memory : μ),
          content ≠ "" → Task.name ⟨node, content, transform⟩ = kind.name →
          (format.converter.convert files ⟨node, content, transform⟩).run memory =
            (.ok (pre ++ content ++ post), memory)) ∧
        (kind.showsText = true → ∀ text ∈ node.text,
          ∃ before behind, pre = before ++ escape text ++ behind)) ∧
    ∀ root : Node, root.Known → root.ShowsChildren → ∀ (files : FileTree) (memory : μ),
      ∃ output, (format.converter.document files root).run memory = (.ok output, memory) ∧
        InOrder root.shownTexts output := by
  constructor
  · intro kind node container
    obtain ⟨⟨pre, post, around, ordered⟩, -⟩ := wraps_render markup node container
    refine ⟨pre, post, fun content transform files memory some named => ?_,
      fun shows text here => ?_⟩
    · have known : Task.name ⟨node, content, transform⟩ ∈ Kind.names := by
        rw [named]
        cases kind <;> decide
      obtain ⟨rendered, found, run⟩ := format.run_convert _ known files memory
      rw [named, Kind.ofName?_name] at found
      cases found
      rw [run, ← around content some]
    · rw [Node.shownAs, if_pos shows, here] at ordered
      obtain ⟨before, behind, same, -⟩ := ordered
      exact ⟨before, behind, same⟩
  · intro root known shows files memory
    exact ⟨_, format.run_document known files memory, inOrder_rendering markup known shows⟩

/-- An item keeps a text that looks like its end tag, and so does the list around it. -/
theorem nested_item_keeps_texts :
    (∃ pre post : String,
      (html5.converter.convert (.rooted [])
        ⟨(Node.named "note").withText "</li>", "<p>b</p>", some "list_item"⟩).run () =
          (.ok (pre ++ "<p>b</p>" ++ post), ()) ∧
      ∃ before behind, pre = before ++ escape "</li>" ++ behind) ∧
    ∃ output,
      (html5.converter.document (.rooted [])
        ((Node.named "ulist").withChild (((Node.named "list_item").withText "</li>").withChild
          ((Node.named "listing").withText "a & b")))).run () = (.ok output, ()) ∧
      InOrder [escape "</li>", escape "a & b"] output := by
  obtain ⟨single, whole⟩ := document_keeps_texts (μ := Unit) html5 (by decide)
  constructor
  · obtain ⟨pre, post, around, texts⟩ :=
      single .listItem ((Node.named "note").withText "</li>") rfl
    exact ⟨pre, post, around _ _ _ _ (by decide) rfl, texts rfl _ rfl⟩
  · apply whole
    · unfold Node.Known
      decide
    · unfold Node.ShowsChildren
      decide

end Builtin

end Quire
