import Quire.Proofs.Converter.Rendering
import Quire.Proofs.Markup.Tag

/-!
# Nested tags

Whole documents come out well nested. Each rendering around balanced content is balanced, and so are
the renderings of a node's children put together.

* `Html5.balanced_render`, `DocBook.balanced_render`: one rendering, read from left to right.
* `Builtin.rendering_balanced`: a whole tree, by induction over it.
-/

namespace Quire

open Markup (Balanced Attribute Reads)

variable {content : String}

section

variable {voids : List (List Char)}

/-- The text of a node in front of balanced content. -/
lemma Node.balanced_body (node : Node) (balanced : Balanced voids content) :
    Balanced voids (node.body Markup.escape content) := by
  intro names
  unfold body
  cases node.text with
  | none => exact balanced names
  | some text =>
    dsimp only
    split
    · exact .escape_text text
    · exact (Reads.escape_text text).literal (by rfl) |>.append (balanced names)

/-- Balanced content on a line of its own, if there is any. -/
lemma Markup.balanced_lines (balanced : Balanced voids content) :
    Balanced voids (if content = "" then "" else content ++ "\n") := by
  intro names
  split
  · rfl
  · exact (balanced names).literal (by rfl)

end

namespace Html5

/-- The elements that have no end tag. -/
def voids : List (List Char) :=
  [['m', 'e', 't', 'a'], ['i', 'm', 'g'], ['h', 'r']]

variable (node : Node)

lemma attribute_idAttribute : Attribute voids (idAttribute node) := by
  unfold idAttribute
  cases node.id with
  | none => exact .inl rfl
  | some id =>
    right
    rintro name part names (rfl | rfl)
    · exact (Reads.fixed (by rfl)).part (.escape_value id) (by rfl)
    · exact (Reads.fixed (by rfl)).part (.escape_value id) (by rfl)

lemma balanced_titleLine : Balanced voids (titleLine node) := by
  intro names
  unfold titleLine
  cases node.title with
  | none => rfl
  | some title => exact (Reads.fixed (by rfl)).part (.escape_text title) (by rfl)

lemma balanced_verbatim (blockClass : String) (unmarked : Markup.marks blockClass = []) :
    Balanced voids (verbatim blockClass node) := by
  intro names
  unfold verbatim
  extract_lets text pre
  have balanced_pre : Balanced voids pre := by
    intro names
    unfold pre
    cases node.attr "language" with
    | none => exact (Reads.fixed (by rfl)).part (.escape_text _) (by rfl)
    | some language =>
      exact (Reads.fixed (by rfl)).part (.escape_value language) (by rfl)
        |>.part (.escape_value language) (by rfl) |>.part (.escape_text _) (by rfl)
  exact (Reads.fixed (by rfl)).optional (.inl rfl) (attribute_idAttribute node) (by rfl)
    |>.part (.value unmarked) (by rfl) |>.part (balanced_titleLine node _) (by rfl)
    |>.part (balanced_pre _) (by rfl)

lemma balanced_image : Balanced voids (image node) := by
  intro names
  unfold image
  exact (Reads.fixed (by rfl)).optional (.inl rfl) (attribute_idAttribute node) (by rfl)
    |>.part (.escape_value _) (by rfl) |>.part (.escape_value _) (by rfl)
    |>.part (balanced_titleLine node _) (by rfl)

/-- The headings of sections. -/
lemma heading_listed :
    "h" ++ Decimal.text (node.level + 1) ∈ ["h2", "h3", "h4", "h5", "h6"] := by
  have low : 1 ≤ node.level := by
    unfold Node.level
    split <;> omega
  have high : node.level ≤ 5 := by
    unfold Node.level
    split <;> omega
  have level : node.level = 1 ∨ node.level = 2 ∨ node.level = 3 ∨ node.level = 4 ∨
      node.level = 5 := by
    omega
  rcases level with same | same | same | same | same <;> rw [same] <;> decide

section

variable {node} (balanced : Balanced voids content)
include balanced

lemma balanced_document : Balanced voids (document node content) := by
  intro names
  unfold document
  extract_lets titled
  have balanced_titled (tag : String) (listed : tag = "title" ∨ tag = "h1") :
      Balanced voids (titled tag) := by
    intro names
    unfold titled
    cases node.title with
    | none => rfl
    | some title =>
      rcases listed with rfl | rfl
      all_goals
        exact (Reads.fixed (by rfl)).literal (by rfl) |>.literal (by rfl)
          |>.part (.escape_text title) (by rfl) |>.literal (by rfl) |>.literal (by rfl)
  exact (Reads.fixed (by rfl)).part (balanced_titled _ (.inl rfl) _) (by rfl)
    |>.append (balanced_titled _ (.inr rfl) _) |>.part (balanced _) (by rfl)

lemma balanced_sect : Balanced voids (sect node content) := by
  intro names
  unfold sect
  extract_lets heading
  -- the reader runs on closed names only
  have listed : heading ∈ ["h2", "h3", "h4", "h5", "h6"] := heading_listed node
  clear_value heading
  simp only [List.mem_cons, List.not_mem_nil, or_false] at listed
  rcases listed with rfl | rfl | rfl | rfl | rfl
  all_goals
    exact (Reads.fixed (by rfl)).part (.value (Markup.inert_digits _).unmarked) (by rfl)
      |>.literal (by rfl) |>.optional (.inl rfl) (attribute_idAttribute node) (by rfl)
      |>.part (.escape_text _) (by rfl) |>.literal (by rfl) |>.literal (by rfl)
      |>.part (balanced _) (by rfl)

lemma balanced_admonition : Balanced voids (admonition node content) := by
  intro names
  unfold admonition
  exact (Reads.fixed (by rfl)).optional (.inl rfl) (attribute_idAttribute node) (by rfl)
    |>.part (.escape_value _) (by rfl) |>.part (.escape_text _) (by rfl)
    |>.append (balanced_titleLine node _) |>.part (node.balanced_body balanced _) (by rfl)

lemma balanced_quote : Balanced voids (quote node content) := by
  intro names
  unfold quote
  extract_lets source
  have balanced_source : Balanced voids source := by
    intro names
    unfold source
    cases node.attr "attribution" with
    | none => rfl
    | some attribution =>
      exact (Reads.fixed (by rfl)).part (.escape_text attribution) (by rfl)
  exact (Reads.fixed (by rfl)).optional (.inl rfl) (attribute_idAttribute node) (by rfl)
    |>.part (balanced_titleLine node _) (by rfl) |>.part (node.balanced_body balanced _) (by rfl)
    |>.part (balanced_source _) (by rfl)

lemma balanced_list {blockClass tag attributes : String}
    (listed : (blockClass, tag, attributes) ∈
      [("ulist", "ul", ""), ("olist arabic", "ol", " class=\"arabic\"")]) :
    Balanced voids (list blockClass tag attributes node content) := by
  intro names
  unfold list
  simp only [List.mem_cons, Prod.mk.injEq, List.not_mem_nil, or_false] at listed
  rcases listed with ⟨rfl, rfl, rfl⟩ | ⟨rfl, rfl, rfl⟩
  all_goals
    exact (Reads.fixed (by rfl)).optional (.inl rfl) (attribute_idAttribute node) (by rfl)
      |>.literal (by rfl) |>.literal (by rfl) |>.part (balanced_titleLine node _) (by rfl)
      |>.literal (by rfl) |>.literal (by rfl) |>.literal (by rfl) |>.part (balanced _) (by rfl)
      |>.literal (by rfl) |>.literal (by rfl)

lemma balanced_listItem : Balanced voids (listItem node content) := by
  intro names
  unfold listItem
  extract_lets text
  have balanced_text : Balanced voids text := by
    intro names
    unfold text
    cases node.text with
    | none => rfl
    | some text => exact (Reads.fixed (by rfl)).part (.escape_text text) (by rfl)
  exact (Reads.fixed (by rfl)).append (balanced_text _)
    |>.part (Markup.balanced_lines balanced _) (by rfl)

lemma balanced_table : Balanced voids (table node content) := by
  intro names
  unfold table
  extract_lets caption
  have balanced_caption : Balanced voids caption := by
    intro names
    unfold caption
    cases node.title with
    | none => rfl
    | some title => exact (Reads.fixed (by rfl)).part (.escape_text title) (by rfl)
  exact (Reads.fixed (by rfl)).optional (.inl rfl) (attribute_idAttribute node) (by rfl)
    |>.part (balanced_caption _) (by rfl) |>.part (balanced _) (by rfl)

lemma balanced_tableCell : Balanced voids (tableCell node content) := by
  intro names
  unfold tableCell
  extract_lets header tag
  have listed : tag = "th" ∨ tag = "td" := by
    unfold tag
    split
    · exact .inl rfl
    · exact .inr rfl
  clear_value tag
  rcases listed with rfl | rfl
  all_goals
    exact (Reads.fixed (by rfl)).literal (by rfl) |>.literal (by rfl)
      |>.part (node.balanced_body balanced _) (by rfl) |>.literal (by rfl) |>.literal (by rfl)

lemma balanced_paragraph : Balanced voids (paragraph node content) := by
  intro names
  unfold paragraph
  exact (Reads.fixed (by rfl)).optional (.inl rfl) (attribute_idAttribute node) (by rfl)
    |>.part (balanced_titleLine node _) (by rfl) |>.part (node.balanced_body balanced _) (by rfl)

/-- HTML5 renderings around balanced content are balanced. -/
lemma balanced_render (kind : Kind) : Balanced voids (render kind node content) := by
  cases kind with
  | document => exact balanced_document balanced
  | preamble =>
    exact fun names => (Reads.fixed (by rfl)).part (balanced _) (by rfl)
  | sect => exact balanced_sect balanced
  | paragraph => exact balanced_paragraph balanced
  | listing => exact balanced_verbatim node "listingblock" (by rfl)
  | literal => exact balanced_verbatim node "literalblock" (by rfl)
  | admonition => exact balanced_admonition balanced
  | quote => exact balanced_quote balanced
  | unorderedList => exact balanced_list balanced List.mem_cons_self
  | orderedList => exact balanced_list balanced (List.mem_cons_of_mem _ List.mem_cons_self)
  | listItem => exact balanced_listItem balanced
  | table => exact balanced_table balanced
  | tableRow =>
    exact fun names => (Reads.fixed (by rfl)).part (balanced _) (by rfl)
  | tableCell => exact balanced_tableCell balanced
  | image => exact balanced_image node
  | thematicBreak => exact fun names => .fixed (by rfl)
  | pageBreak => exact fun names => .fixed (by rfl)
  | text => exact node.balanced_body balanced

end

end Html5

namespace DocBook

/-- No element lacks its end tag. -/
def voids : List (List Char) := []

variable (version : Version) (node : Node)

lemma attribute_idAttribute : Attribute voids (idAttribute version node) := by
  unfold idAttribute
  cases node.id with
  | none => exact .inl rfl
  | some id =>
    right
    rintro name part names (rfl | rfl) <;> cases version
    all_goals
      exact (Reads.fixed (by rfl)).literal (by rfl) |>.literal (by rfl)
        |>.part (.escape_value id) (by rfl)

lemma balanced_titleElement : Balanced voids (titleElement node) := by
  intro names
  unfold titleElement
  cases node.title with
  | none => rfl
  | some title => exact (Reads.fixed (by rfl)).part (.escape_text title) (by rfl)

lemma balanced_formal {block : String} (balanced : Balanced voids block) :
    Balanced voids (formal node block) := by
  intro names
  unfold formal
  cases node.title with
  | none => exact balanced names
  | some title =>
    exact (Reads.fixed (by rfl)).part (.escape_text title) (by rfl) |>.part (balanced _) (by rfl)

lemma balanced_listing : Balanced voids (listing version node) := by
  apply balanced_formal
  intro names
  cases node.attr "language" with
  | none =>
    exact (Reads.fixed (by rfl)).optional (.inl rfl) (attribute_idAttribute version node) (by rfl)
      |>.part (.escape_text _) (by rfl)
  | some language =>
    exact (Reads.fixed (by rfl)).optional (.inl rfl) (attribute_idAttribute version node) (by rfl)
      |>.part (.escape_value language) (by rfl) |>.part (.escape_text _) (by rfl)

lemma balanced_literal : Balanced voids (literal version node) := by
  apply balanced_formal
  intro names
  exact (Reads.fixed (by rfl)).optional (.inl rfl) (attribute_idAttribute version node) (by rfl)
    |>.part (.escape_text _) (by rfl)

lemma balanced_image : Balanced voids (image version node) := by
  intro names
  unfold image
  extract_lets phrase media
  have balanced_phrase : Balanced voids phrase := by
    intro names
    unfold phrase
    cases node.attr "alt" with
    | none => rfl
    | some alt => exact (Reads.fixed (by rfl)).part (.escape_text alt) (by rfl)
  have balanced_media : Balanced voids media := by
    intro names
    unfold media
    exact (Reads.fixed (by rfl)).part (.escape_value _) (by rfl)
      |>.part (balanced_phrase _) (by rfl)
  cases node.title with
  | none =>
    exact (Reads.fixed (by rfl)).optional (.inl rfl) (attribute_idAttribute version node) (by rfl)
      |>.part (balanced_media _) (by rfl)
  | some title =>
    exact (Reads.fixed (by rfl)).optional (.inl rfl) (attribute_idAttribute version node) (by rfl)
      |>.part (.escape_text title) (by rfl) |>.part (balanced_media _) (by rfl)

section

variable {node} (balanced : Balanced voids content)
include balanced

lemma balanced_document : Balanced voids (document version node content) := by
  have opens (language : String) (names : List (List Char)) :
      Reads voids ⟨.text, names⟩ (prologue version language)
        ⟨.text, ['a', 'r', 't', 'i', 'c', 'l', 'e'] :: names⟩ := by
    cases version with
    | v5 =>
      exact (Reads.fixed (by rfl)).literal (by rfl) |>.part (.escape_value language) (by rfl)
    | v45 =>
      exact (Reads.fixed (by rfl)).literal (by rfl) |>.literal (by rfl)
        |>.part (.escape_value language) (by rfl)
  intro names
  unfold document
  extract_lets info
  have balanced_info : Balanced voids info := by
    intro names
    unfold info
    cases node.title with
    | none => rfl
    | some title =>
      cases version
      all_goals
        exact (Reads.fixed (by rfl)).literal (by rfl) |>.literal (by rfl)
          |>.part (.escape_text title) (by rfl) |>.literal (by rfl) |>.literal (by rfl)
  exact (Reads.fixed (by rfl)).append (opens _ _) |>.append (balanced_info _)
    |>.part (balanced _) (by rfl)

lemma balanced_paragraph : Balanced voids (paragraph node content) := by
  intro names
  unfold paragraph
  cases node.title with
  | none =>
    exact (Reads.fixed (by rfl)).part (node.balanced_body balanced _) (by rfl)
  | some title =>
    exact (Reads.fixed (by rfl)).part (.escape_text title) (by rfl)
      |>.part (node.balanced_body balanced _) (by rfl)

lemma balanced_blockBody : Balanced voids (blockBody node content) := by
  intro names
  unfold blockBody
  split
  · exact (Reads.fixed (by rfl)).part (node.balanced_body balanced _) (by rfl)
  · exact node.balanced_body balanced names

lemma balanced_admonition : Balanced voids (admonition version node content) := by
  intro names
  unfold admonition
  extract_lets tag
  have listed : tag ∈ ["tip", "important", "warning", "caution", "note"] := by
    unfold tag admonitionTag
    split
    next known => rcases known with known | known | known | known <;> simp [known]
    next => decide
  clear_value tag
  simp only [List.mem_cons, List.not_mem_nil, or_false] at listed
  rcases listed with rfl | rfl | rfl | rfl | rfl
  all_goals
    exact (Reads.fixed (by rfl)).literal (by rfl)
      |>.optional (.inl rfl) (attribute_idAttribute version node) (by rfl)
      |>.append (balanced_titleElement node _) |>.part (balanced_blockBody balanced _) (by rfl)
      |>.literal (by rfl) |>.literal (by rfl)

lemma balanced_quote : Balanced voids (quote version node content) := by
  intro names
  unfold quote
  extract_lets source
  have balanced_source : Balanced voids source := by
    intro names
    unfold source
    cases node.attr "attribution" with
    | none => rfl
    | some attribution =>
      exact (Reads.fixed (by rfl)).part (.escape_text attribution) (by rfl)
  exact (Reads.fixed (by rfl)).optional (.inl rfl) (attribute_idAttribute version node) (by rfl)
    |>.append (balanced_titleElement node _) |>.append (balanced_source _)
    |>.part (balanced_blockBody balanced _) (by rfl)

lemma balanced_list {tag attributes : String}
    (listed : (tag, attributes) ∈
      [("itemizedlist", ""), ("orderedlist", " numeration=\"arabic\"")]) :
    Balanced voids (list version tag attributes node content) := by
  intro names
  unfold list
  simp only [List.mem_cons, Prod.mk.injEq, List.not_mem_nil, or_false] at listed
  rcases listed with ⟨rfl, rfl⟩ | ⟨rfl, rfl⟩
  all_goals
    exact (Reads.fixed (by rfl)).literal (by rfl) |>.literal (by rfl)
      |>.optional (by decide) (attribute_idAttribute version node) (by rfl)
      |>.append (balanced_titleElement node _) |>.part (balanced _) (by rfl) |>.literal (by rfl)
      |>.literal (by rfl)

lemma balanced_listItem : Balanced voids (listItem node content) := by
  intro names
  unfold listItem
  extract_lets text
  have balanced_text : Balanced voids text := by
    intro names
    unfold text
    cases node.text with
    | none => rfl
    | some text => exact (Reads.fixed (by rfl)).part (.escape_text text) (by rfl)
  exact (Reads.fixed (by rfl)).append (balanced_text _)
    |>.part (Markup.balanced_lines balanced _) (by rfl)

lemma balanced_table : Balanced voids (table version node content) := by
  intro names
  unfold table
  extract_lets tag
  have listed : tag = "table" ∨ tag = "informaltable" := by
    unfold tag
    split
    · exact .inl rfl
    · exact .inr rfl
  clear_value tag
  rcases listed with rfl | rfl
  all_goals
    exact (Reads.fixed (by rfl)).literal (by rfl)
      |>.optional (.inl rfl) (attribute_idAttribute version node) (by rfl)
      |>.part (balanced_titleElement node _) (by rfl) |>.part (.escape_value _) (by rfl)
      |>.part (balanced _) (by rfl) |>.literal (by rfl) |>.literal (by rfl)

/-- DocBook renderings around balanced content are balanced. -/
lemma balanced_render (kind : Kind) : Balanced voids (render version kind node content) := by
  cases kind with
  | document => exact balanced_document version balanced
  | preamble =>
    exact fun names => (Reads.fixed (by rfl)).part (balanced _) (by rfl)
  | sect =>
    exact fun names => (Reads.fixed (by rfl)).optional (.inl rfl)
        (attribute_idAttribute version node) (by rfl) |>.append (balanced_titleElement node _)
          |>.part (balanced _) (by rfl)
  | paragraph => exact balanced_paragraph balanced
  | listing => exact balanced_listing version node
  | literal => exact balanced_literal version node
  | admonition => exact balanced_admonition version balanced
  | quote => exact balanced_quote version balanced
  | unorderedList => exact balanced_list version balanced List.mem_cons_self
  | orderedList =>
    exact balanced_list version balanced (List.mem_cons_of_mem _ List.mem_cons_self)
  | listItem => exact balanced_listItem balanced
  | table => exact balanced_table version balanced
  | tableRow =>
    exact fun names => (Reads.fixed (by rfl)).part (balanced _) (by rfl)
  | tableCell =>
    exact fun names => (Reads.fixed (by rfl)).part (node.balanced_body balanced _) (by rfl)
  | image => exact balanced_image version node
  | thematicBreak => exact fun names => .fixed (by rfl)
  | pageBreak => exact fun names => .fixed (by rfl)
  | text => exact node.balanced_body balanced

end

end DocBook

namespace Builtin

/-- The elements that have no end tag in a format. -/
def voids : Builtin → List (List Char)
  | html5 => Html5.voids
  | docBook _ => DocBook.voids
  | manPage => []

variable {μ : Type} {format : Builtin}

/-- Renderings around balanced content are balanced in each format that is markup. -/
lemma balanced_render (markup : format ≠ .manPage) (kind : Kind) {node : Node}
    (balanced : Balanced format.voids content) :
    Balanced format.voids (format.render kind node content) := by
  cases format with
  | html5 => exact Html5.balanced_render balanced kind
  | docBook version => exact DocBook.balanced_render version balanced kind
  | manPage => exact absurd rfl markup

/-- The rendering of a tree of nodes of known kinds is balanced. -/
lemma rendering_balanced (markup : format ≠ .manPage) {root : Node} (known : root.Known) :
    Balanced format.voids (format.rendering root) := by
  induction root using Node.byChildren with
  | step node ih =>
    obtain ⟨kind, found⟩ := Kind.exists_ofName? known.root
    rw [format.rendering_eq found]
    apply balanced_render markup kind
    apply Balanced.join
    intro output listed
    obtain ⟨child, mem, rfl⟩ := List.mem_map.mp listed
    exact ih child mem (known.child mem)

/-- A tree of nodes of known kinds is converted into balanced output. -/
lemma document_balanced (markup : format ≠ .manPage) {root : Node}
    (known : ∀ entry ∈ root.postOrder, entry.node.name ∈ Kind.names) (files : FileTree)
    (memory : μ) :
    ∃ output, (format.converter.document files root).run memory = (.ok output, memory) ∧
      Balanced format.voids output :=
  ⟨format.rendering root, format.run_document known files memory, rendering_balanced markup known⟩

/-- Whole documents come out well nested. A tree of nodes of known kinds, whatever their texts and
attributes, is converted, and the output is text and tags, with the tags nested. -/
theorem document_wellNested (format : Builtin) (markup : format ≠ .manPage) (root : Node)
    (known : ∀ entry ∈ root.postOrder, entry.node.name ∈ Kind.names) (files : FileTree)
    (memory : μ) :
    ∃ output, (format.converter.document files root).run memory = (.ok output, memory) ∧
      Markup.WellNested format.voids output := by
  obtain ⟨output, run, balanced⟩ := document_balanced markup known files memory
  exact ⟨output, run, balanced.wellNested⟩

/-- No title or text ends an element early. -/
theorem hostile_section_wellNested :
    ∃ output,
      ((docBook .v45).converter.document (.rooted [])
        (((Node.named "document").withTitle "</article>").withChild
          (((Node.named "section").withId "\"><x y=\"").withChild
            ((Node.named "paragraph").withText "</section> & <")))).run () = (.ok output, ()) ∧
      Markup.WellNested (docBook .v45).voids output :=
  document_wellNested (docBook .v45) (by decide) _ (by decide) _ _

end Builtin

end Quire
