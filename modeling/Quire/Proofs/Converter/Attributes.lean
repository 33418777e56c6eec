import Quire.Converter.Builtin
import Quire.Converter.Document
import Quire.Proofs.Node.Order

/-!
# Attributes are texts

Built-in converters see an attribute as a text, whatever its value is, and a null attribute not at
all. A tree is converted like the one in which every attribute is the text that it is seen as.

* `Node.SameView`: nodes that look the same to built-in converters.
* `Builtin.render_congr`: such nodes have the same rendering, whatever their kind.
* `Node.normalized`, `Node.Respelled`: trees with other values for the same texts.
* `Builtin.document_sees_texts`: what this comes to for whole documents.
-/

namespace Quire

/-- The text that an attribute of this value is seen as. -/
def Json.asText? : Json → Option String
  | .null => none
  | .string s => some s
  | value => some value.compact

lemma Json.asText?_compact {value : Json} (present : value ≠ .null)
    (other : ∀ s, value ≠ .string s) : value.asText? = some value.compact := by
  cases value with
  | null => exact (present rfl).elim
  | string s => exact (other s rfl).elim
  | bool _ | int _ | double _ | array _ | object _ => rfl

namespace Dictionary

variable {α β : Type}

/-- The dictionary with other values, less the keys that have none. -/
def filterMap (f : α → Option β) (d : Dictionary α) : Dictionary β where
  entries := d.entries.filterMap fun (key, value) => (f value).map (key, ·)
  sorted := by
    refine List.Pairwise.filterMap _ ?_ d.sorted
    intro a b before a' here b' there
    obtain ⟨_, -, rfl⟩ := Option.map_eq_some_iff.mp here
    obtain ⟨_, -, rfl⟩ := Option.map_eq_some_iff.mp there
    exact before

@[simp]
lemma get?_filterMap (f : α → Option β) (d : Dictionary α) (key : String) :
    (d.filterMap f).get? key = (d.get? key).bind f := by
  obtain ⟨entries, sorted⟩ := d
  unfold get? filterMap
  dsimp only
  induction entries with
  | nil => rfl
  | cons entry rest ih =>
    obtain ⟨k, v⟩ := entry
    obtain ⟨before, sorted⟩ := List.pairwise_cons.mp sorted
    rw [Entries.find?_cons]
    cases kept : f v with
    | some w =>
      rw [List.filterMap_cons_some (by rw [kept]; rfl), Entries.find?_cons, ih sorted]
      split
      · exact kept.symm
      · rfl
    | none =>
      rw [List.filterMap_cons_none (by rw [kept]; rfl), ih sorted]
      split
      next same =>
        -- the key is not behind the entry that is left out either
        rw [same, Entries.find?_eq_none_of_lt before]
        exact kept.symm
      next => rfl

end Dictionary

/-- Where no attribute tells the columns of a table, DocBook counts them as man pages do. -/
lemma DocBook.columns_eq (node : Node) :
    columns node = (node.attr "cols").getD (Decimal.text (ManPage.columns node)) := by
  unfold columns ManPage.columns
  cases node.attr "cols" with
  | some cols => rfl
  | none =>
    cases node.children with
    | nil => rfl
    | cons row rest => rfl

namespace Node

lemma attr_eq (node : Node) (key : String) :
    node.attr key = (node.attributes.get? key).bind Json.asText? := by
  unfold attr
  cases node.attributes.get? key with
  | none => rfl
  | some value => cases value <;> rfl

lemma attr_withAttribute (node : Node) (key other : String) (value : Json) :
    (node.withAttribute key value).attr other =
      if other = key then value.asText? else node.attr other := by
  rw [attr_eq, attr_eq, withAttribute, Dictionary.get?_insert]
  split
  · rfl
  · rfl

/-- The node less an attribute. -/
def withoutAttribute (node : Node) (key : String) : Node :=
  { node with attributes := node.attributes.erase key }

lemma attr_withoutAttribute (node : Node) (key other : String) :
    (node.withoutAttribute key).attr other = if other = key then none else node.attr other := by
  rw [attr_eq, attr_eq, withoutAttribute, Dictionary.get?_erase]
  split
  · rfl
  · rfl

/-- Nodes that look the same to built-in converters. Of the children only the number of cells in
each row is seen, next to what they are converted into. -/
structure SameView (node node' : Node) : Prop where
  id : node.id = node'.id
  title : node.title = node'.title
  text : node.text = node'.text
  attr : node.attr = node'.attr
  cells : node.children.map (·.children.length) = node'.children.map (·.children.length)

namespace SameView

variable {node node' : Node}

lemma body (same : node.SameView node') (escape : String → String) (content : String) :
    node.body escape content = node'.body escape content := by
  rw [Node.body, Node.body, same.text]

lemma level (same : node.SameView node') : node.level = node'.level := by
  rw [Node.level, Node.level, same.attr]

lemma manPage_columns (same : node.SameView node') :
    ManPage.columns node = ManPage.columns node' := by
  have cells := same.cells
  unfold ManPage.columns
  cases here : node.children with
  | nil =>
    rw [here, List.map_nil, eq_comm, List.map_eq_nil_iff] at cells
    rw [cells]
  | cons row rest =>
    rw [here, List.map_cons, eq_comm, List.map_eq_cons_iff] at cells
    obtain ⟨row', rest', there, length, -⟩ := cells
    rw [there]
    dsimp only
    rw [length]

lemma docBook_columns (same : node.SameView node') :
    DocBook.columns node = DocBook.columns node' := by
  rw [DocBook.columns_eq, DocBook.columns_eq, same.attr, same.manPage_columns]

end SameView

end Node

section

variable {node node' : Node}

lemma Html5.render_congr (kind : Kind) (same : node.SameView node') (content : String) :
    render kind node content = render kind node' content := by
  have id : idAttribute node = idAttribute node' := by
    unfold idAttribute
    rw [same.id]
  have title : titleLine node = titleLine node' := by
    unfold titleLine
    rw [same.title]
  have verbatims (blockClass : String) : verbatim blockClass node = verbatim blockClass node' := by
    unfold verbatim
    rw [same.text, same.attr, id, title]
  have lists (blockClass tag attributes : String) :
      list blockClass tag attributes node content =
        list blockClass tag attributes node' content := by
    unfold list
    rw [id, title]
  cases kind with
  | document =>
    unfold render document
    rw [same.title]
  | sect =>
    unfold render sect
    rw [same.level, same.title, id]
  | paragraph =>
    unfold render paragraph
    rw [same.body, id, title]
  | listing => exact verbatims "listingblock"
  | literal => exact verbatims "literalblock"
  | admonition =>
    unfold render admonition
    rw [same.attr, same.body, id, title]
  | quote =>
    unfold render quote
    rw [same.attr, same.body, id, title]
  | unorderedList => exact lists "ulist" "ul" ""
  | orderedList => exact lists "olist arabic" "ol" " class=\"arabic\""
  | listItem =>
    unfold render listItem
    rw [same.text]
  | table =>
    unfold render table
    rw [same.title, id]
  | tableCell =>
    unfold render tableCell
    rw [same.attr, same.body]
  | image =>
    unfold render image
    rw [same.attr, id, title]
  | text => exact same.body _ content
  | preamble | tableRow | thematicBreak | pageBreak => rfl

lemma DocBook.render_congr (version : Version) (kind : Kind) (same : node.SameView node')
    (content : String) : render version kind node content = render version kind node' content := by
  have id : idAttribute version node = idAttribute version node' := by
    unfold idAttribute
    rw [same.id]
  have title : titleElement node = titleElement node' := by
    unfold titleElement
    rw [same.title]
  have formals (block : String) : formal node block = formal node' block := by
    unfold formal
    rw [same.title]
  have body : blockBody node content = blockBody node' content := by
    unfold blockBody
    rw [same.body]
  have lists (tag attributes : String) :
      list version tag attributes node content = list version tag attributes node' content := by
    unfold list
    rw [id, title]
  cases kind with
  | document =>
    unfold render document
    rw [same.attr, same.title]
  | sect =>
    unfold render
    rw [id, title]
  | paragraph =>
    unfold render paragraph
    rw [same.title, same.body]
  | listing =>
    unfold render listing
    rw [formals, same.text, same.attr, id]
  | literal =>
    unfold render literal
    rw [formals, same.text, id]
  | admonition =>
    unfold render admonition
    rw [same.attr, body, id, title]
  | quote =>
    unfold render quote
    rw [same.attr, body, id, title]
  | unorderedList => exact lists "itemizedlist" ""
  | orderedList => exact lists "orderedlist" " numeration=\"arabic\""
  | listItem =>
    unfold render listItem
    rw [same.text]
  | table =>
    unfold render table
    rw [same.docBook_columns, same.title, id, title]
  | tableCell =>
    unfold render
    rw [same.body]
  | image =>
    unfold render image
    rw [same.attr, same.title, id]
  | text => exact same.body _ content
  | preamble | tableRow | thematicBreak | pageBreak => rfl

lemma ManPage.render_congr (kind : Kind) (same : node.SameView node') (content : String) :
    render kind node content = render kind node' content := by
  have title : titleLines node = titleLines node' := by
    unfold titleLines
    rw [same.title]
  have verbatims : verbatim node = verbatim node' := by
    unfold verbatim
    rw [same.text, title]
  cases kind with
  | document =>
    unfold render document
    rw [same.attr, same.title]
  | sect =>
    unfold render sect
    rw [same.level, same.title]
  | paragraph =>
    unfold render
    rw [same.body, title]
  | listing | literal => exact verbatims
  | admonition =>
    unfold render admonition
    rw [same.attr, same.body]
  | quote =>
    unfold render quote
    rw [same.attr, same.body]
  | unorderedList | orderedList =>
    unfold render
    rw [title]
  | listItem =>
    unfold render listItem
    rw [same.attr, same.text]
  | table =>
    unfold render table
    rw [same.manPage_columns, title]
  | tableCell =>
    unfold render tableCell
    rw [same.body]
  | image =>
    unfold render image
    rw [same.attr]
  | text => exact same.body _ content
  | preamble | tableRow | thematicBreak | pageBreak => rfl

namespace Builtin

variable (format : Builtin)

/-- No rendering sees more of a node than its view. -/
lemma render_congr (kind : Kind) (same : node.SameView node') (content : String) :
    format.render kind node content = format.render kind node' content := by
  cases format with
  | html5 => exact Html5.render_congr kind same content
  | docBook version => exact DocBook.render_congr version kind same content
  | manPage => exact ManPage.render_congr kind same content

lemma output_congr (name : node.name = node'.name) (same : node.SameView node') (content : String)
    (transform : Option String) :
    format.output ⟨node, content, transform⟩ = format.output ⟨node', content, transform⟩ := by
  have names : Task.name ⟨node, content, transform⟩ = Task.name ⟨node', content, transform⟩ := by
    rw [Task.name, Task.name, name]
  unfold output
  rw [names]
  cases Kind.ofName? (Task.name ⟨node', content, transform⟩) with
  | none => rfl
  | some kind => exact congrArg Except.ok (format.render_congr kind same content)

end Builtin

end

namespace Node

mutual

/-- The tree in which every attribute is the text that it is seen as, and none is null. -/
def normalized : Node → Node
  | { name, id, title, text, attributes, children } =>
    ⟨name, id, title, text, attributes.filterMap fun value => value.asText?.map .string,
      normalizedAll children⟩

/-- Trees in a row with texts for attributes. -/
def normalizedAll : List Node → List Node
  | [] => []
  | node :: rest => node.normalized :: normalizedAll rest

end

lemma normalizedAll_eq_map (nodes : List Node) : normalizedAll nodes = nodes.map normalized := by
  induction nodes with
  | nil => rfl
  | cons node rest ih => rw [normalizedAll, ih, List.map_cons]

lemma normalized_eq (node : Node) :
    node.normalized = { node with
      attributes := node.attributes.filterMap fun value => value.asText?.map .string
      children := node.children.map normalized } := by
  cases node with
  | mk => rw [normalized, normalizedAll_eq_map]

/-- An attribute of the normalized tree is what is seen of it in the tree. -/
lemma get?_normalized (node : Node) (key : String) :
    node.normalized.attributes.get? key = (node.attr key).map .string := by
  rw [normalized_eq, Dictionary.get?_filterMap, attr_eq]
  cases node.attributes.get? key <;> rfl

lemma attr_normalized (node : Node) (key : String) : node.normalized.attr key = node.attr key := by
  rw [attr_eq, get?_normalized]
  cases node.attr key <;> rfl

lemma sameView_normalized (node : Node) : node.normalized.SameView node where
  id := by rw [normalized_eq]
  title := by rw [normalized_eq]
  text := by rw [normalized_eq]
  attr := funext node.attr_normalized
  cells := by
    rw [normalized_eq, List.map_map]
    refine List.map_congr_left fun child _ => ?_
    rw [Function.comp_apply, normalized_eq, List.length_map]

/-- Trees that are the same but for one attribute of one node, where a value stands in place of its
compact text or null in place of no attribute. -/
inductive Respelled : Node → Node → Prop
  | printed (node : Node) (key : String) (value : Json) :
    value ≠ .null → (∀ s, value ≠ .string s) →
    Respelled (node.withAttribute key value) (node.withAttribute key (.string value.compact))
  | dropped (node : Node) (key : String) :
    Respelled (node.withAttribute key .null) (node.withoutAttribute key)
  | inside (node : Node) (before after : List Node) {child child' : Node} :
    Respelled child child' →
    Respelled { node with children := before ++ child :: after }
      { node with children := before ++ child' :: after }

/-- Nodes with the same texts for attributes become the same node. -/
lemma normalized_congr {node : Node} {attributes attributes' : Dictionary Json}
    (same : Node.attr { node with attributes } =
      Node.attr { node with attributes := attributes' }) :
    normalized { node with attributes } = normalized { node with attributes := attributes' } := by
  have texts : (normalized { node with attributes }).attributes =
      (normalized { node with attributes := attributes' }).attributes := by
    apply Dictionary.ext_get?
    intro key
    rw [get?_normalized, get?_normalized, same]
  rw [normalized_eq, normalized_eq] at texts ⊢
  dsimp only at texts ⊢
  rw [texts]

/-- Respelling is undone by normalization. -/
lemma Respelled.normalized_eq {root root' : Node} (respelled : root.Respelled root') :
    root.normalized = root'.normalized := by
  induction respelled with
  | printed node key value present other =>
    have seen : (node.withAttribute key value).attr =
        (node.withAttribute key (.string value.compact)).attr := by
      funext name
      rw [attr_withAttribute, attr_withAttribute, Json.asText?_compact present other]
      rfl
    exact normalized_congr seen
  | dropped node key =>
    have seen : (node.withAttribute key .null).attr = (node.withoutAttribute key).attr := by
      funext name
      rw [attr_withAttribute, attr_withoutAttribute]
      rfl
    exact normalized_congr seen
  | inside node before after _ ih =>
    rw [Node.normalized_eq, Node.normalized_eq]
    dsimp only
    rw [List.map_append, List.map_append, List.map_cons, List.map_cons, ih]

end Node

/-- Trees in a row are converted alike if each of them is. -/
lemma Converter.documents_map {μ : Type} {converter : Converter μ} {files : FileTree}
    {f : Node → Node} {nodes : List Node}
    (each : ∀ node ∈ nodes, converter.document files (f node) = converter.document files node) :
    converter.documents files (nodes.map f) = converter.documents files nodes := by
  induction nodes with
  | nil => rfl
  | cons node rest ih =>
    rw [List.map_cons, documents, documents, each node List.mem_cons_self,
      ih fun node mem => each node (List.mem_cons_of_mem _ mem)]

namespace Builtin

/-- A tree is converted like the normalized one. -/
lemma document_normalized {μ : Type} (format : Builtin) (files : FileTree) (root : Node) :
    format.converter.document (μ := μ) files root.normalized =
      format.converter.document files root := by
  induction root using Node.byChildren with
  | step node ih =>
    have children : node.normalized.children = node.children.map Node.normalized := by
      rw [Node.normalized_eq]
    have name : node.normalized.name = node.name := by rw [Node.normalized_eq]
    have root (content : String) :
        format.output ⟨node.normalized, content, none⟩ = format.output ⟨node, content, none⟩ :=
      format.output_congr name node.sameView_normalized content none
    rw [Converter.document_eq, Converter.document_eq, children, Converter.documents_map ih]
    congr 1
    funext below
    cases below with
    | error e => rfl
    | ok outputs =>
      show (return format.output _ : StateM μ _) = return format.output _
      rw [root]

/-- Built-in converters see attributes as texts. A document is converted like the one in which every
attribute is the text that it is seen as and no attribute is null, into the same output or with the
same error; so a value in place of its compact text makes no difference at any node of a document,
nor does null in place of no attribute. -/
theorem document_sees_texts {μ : Type} (format : Builtin) (files : FileTree) (root : Node) :
    let converts (root : Node) : StateM μ (Except ConvertError String) :=
      format.converter.document files root
    converts root.normalized = converts root ∧
    ∀ root', root.Respelled root' → converts root = converts root' := by
  intro converts
  refine ⟨format.document_normalized files root, ?_⟩
  intro root' respelled
  calc converts root
      = converts root.normalized := (format.document_normalized files root).symm
    _ = converts root'.normalized := by rw [respelled.normalized_eq]
    _ = converts root' := format.document_normalized files root'

/-- In a section of the second level, a table may have the number of its columns as an integer or as
a text, and one that is null is none. -/
theorem document_sees_texts_table :
    let table := (Node.named "table").withTitle "a"
    let sect (child : Node) :=
      ((Node.named "section").withAttribute "level" (.int 2)).withChild child
    let converts (root : Node) : StateM Unit (Except ConvertError String) :=
      (docBook .v5).converter.document (.rooted []) root
    converts (sect (table.withAttribute "cols" (.int 3))) =
        converts (sect (table.withAttribute "cols" (.string "3"))) ∧
    converts (sect (table.withAttribute "cols" .null)) = converts (sect table) := by
  intro table sect converts
  have around {child child' : Node} (respelled : child.Respelled child') :
      (sect child).Respelled (sect child') :=
    .inside (sect child) [] [] respelled
  have printed : (table.withAttribute "cols" (.int 3)).Respelled
      (table.withAttribute "cols" (.string "3")) :=
    .printed table "cols" (.int 3) Json.noConfusion fun _ => Json.noConfusion
  have dropped : (table.withAttribute "cols" .null).Respelled table := .dropped table "cols"
  exact ⟨(document_sees_texts (docBook .v5) (.rooted []) _).2 _ (around printed),
    (document_sees_texts (docBook .v5) (.rooted []) _).2 _ (around dropped)⟩

end Builtin

end Quire
