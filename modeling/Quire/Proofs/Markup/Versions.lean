import Mathlib.Algebra.GroupWithZero.Nat
import Mathlib.Data.List.Basic
import Quire.Proofs.Converter.Rendering
import Quire.Proofs.Node.Shown

/-!
# The two versions of DocBook

Outside the document element the versions of DocBook differ in nothing but the name of the id
attribute. Both renderings of a tree take the same branches, so that they are the same but for that
name, which stands in either of them once for each id that is shown.

* `DocBook.Versioned`: texts of the two versions, with the number of id attributes in them.
* `DocBook.versioned_render`: one rendering.
* `DocBook.versions_differ_in_ids`: a whole tree, by induction over it.
-/

namespace Quire

/-- Whether the element of a kind has the id of the node. -/
def Kind.bearsId : Kind → Bool
  | .sect | .listing | .literal | .admonition | .quote | .unorderedList | .orderedList | .table
  | .image => true
  | .document | .preamble | .paragraph | .listItem | .tableRow | .tableCell | .thematicBreak
  | .pageBreak | .text => false

/-- Whether a node has an id that its element shows. -/
def Node.bearsId (node : Node) : Bool :=
  node.id.isSome && (Kind.ofName? node.name).any Kind.bearsId

namespace DocBook

open Markup (escape)

/-- Texts of the two versions that are the same but for the names of so many id attributes. -/
inductive Versioned : Nat → String → String → Prop where
  | same (s : String) : Versioned 0 s s
  | name : Versioned 1 " xml:id=" " id="
  | append {m n : Nat} {s t s' t' : String} (left : Versioned m s t) (right : Versioned n s' t') :
    Versioned (m + n) (s ++ s') (t ++ t')

/-- What stands before a separator and what stands behind it is put together around it. -/
lemma join_append_join (separator s t : String) (before behind : List String) :
    Text.join separator (before ++ [s]) ++ Text.join separator (t :: behind) =
      Text.join separator (before ++ (s ++ t) :: behind) := by
  induction before with
  | nil => cases behind <;> simp [Text.join, String.append_assoc]
  | cons first before ih =>
    cases before with
    | nil => simpa [Text.join, String.append_assoc] using ih
    | cons next before => simpa [Text.join, String.append_assoc] using ih

namespace Versioned

variable {k m n : Nat} {s t s' t' : String}

/-- The parts between the id attributes are the same. -/
lemma segments (versioned : Versioned k s t) :
    ∃ segments : List String, segments.length = k + 1 ∧
      s = Text.join " xml:id=" segments ∧ t = Text.join " id=" segments := by
  induction versioned with
  | same s => exact ⟨[s], rfl, rfl, rfl⟩
  | name => exact ⟨["", ""], rfl, by decide, by decide⟩
  | append _ _ left right =>
    obtain ⟨parts, length, rfl, rfl⟩ := left
    obtain ⟨parts', length', rfl, rfl⟩ := right
    obtain ⟨before, last, rfl⟩ := (List.eq_nil_or_concat' parts).resolve_left <| by
      rintro rfl
      cases length
    obtain ⟨first, behind, rfl⟩ := List.exists_cons_of_length_eq_add_one length'
    refine ⟨before ++ (last ++ first) :: behind, ?_, ?_, ?_⟩
    · simp at length length' ⊢
      omega
    · exact join_append_join ..
    · exact join_append_join ..

/-- Both texts are empty, and then there is no id attribute, or neither is. -/
lemma empty_or (versioned : Versioned k s t) :
    (k = 0 ∧ s = "" ∧ t = "") ∨ (s ≠ "" ∧ t ≠ "") := by
  induction versioned with
  | same s =>
    by_cases empty : s = ""
    · exact .inl ⟨rfl, empty, empty⟩
    · exact .inr ⟨empty, empty⟩
  | name => exact .inr (by decide)
  | append _ _ left right =>
    simp only [ne_eq, String.append_eq_empty_iff]
    rcases left with ⟨rfl, rfl, rfl⟩ | ⟨some, some'⟩
    · simpa using right
    · exact .inr ⟨fun none => some none.1, fun none => some' none.1⟩

lemma behind (versioned : Versioned k s t) (front : String) :
    Versioned k (front ++ s) (front ++ t) :=
  Nat.zero_add k ▸ (same front).append versioned

lemma before (versioned : Versioned k s t) (back : String) :
    Versioned k (s ++ back) (t ++ back) :=
  versioned.append (same back)

/-- More stands behind them, in three parts: an end tag, say, with a name in the middle. -/
lemma before_parts (versioned : Versioned k s t) (left middle right : String) :
    Versioned k (s ++ left ++ middle ++ right) (t ++ left ++ middle ++ right) := by
  have opened := versioned.before left
  have named := opened.before middle
  exact named.before right

end Versioned

section

variable (node : Node) {k : Nat} {content content' : String}

lemma versioned_idAttribute :
    Versioned node.id.toList.length (idAttribute .v5 node) (idAttribute .v45 node) := by
  unfold idAttribute
  cases node.id with
  | none => exact .same ""
  | some id => exact Versioned.name.before_parts "\"" (escape id) "\""

/-- A start tag with the id of the node. -/
lemma versioned_tag (front back : String) :
    Versioned node.id.toList.length (front ++ idAttribute .v5 node ++ back)
      (front ++ idAttribute .v45 node ++ back) := by
  have opened := (versioned_idAttribute node).behind front
  exact opened.before back

/-- A start tag with the id of the node, and the title of the node behind it. -/
lemma versioned_titled (front back : String) :
    Versioned node.id.toList.length
      (front ++ idAttribute .v5 node ++ back ++ titleElement node)
      (front ++ idAttribute .v45 node ++ back ++ titleElement node) :=
  (versioned_tag node front back).before (titleElement node)

lemma versioned_formal {block block' : String} (versioned : Versioned k block block') :
    Versioned k (formal node block) (formal node block') := by
  unfold formal
  cases node.title with
  | none => exact versioned
  | some title => exact (versioned.behind _).before _

lemma versioned_body (versioned : Versioned k content content') :
    Versioned k (node.body escape content) (node.body escape content') := by
  unfold Node.body
  cases node.text with
  | none => exact versioned
  | some text =>
    dsimp only
    rcases versioned.empty_or with ⟨rfl, rfl, rfl⟩ | ⟨some, some'⟩
    · exact .same _
    · rw [if_neg some, if_neg some']
      exact versioned.behind _

lemma versioned_blockBody (versioned : Versioned k content content') :
    Versioned k (blockBody node content) (blockBody node content') := by
  unfold blockBody
  rcases versioned.empty_or with ⟨rfl, rfl, rfl⟩ | ⟨some, some'⟩
  · exact .same _
  · rw [if_neg some, if_neg some']
    exact versioned_body node versioned

lemma versioned_lines (versioned : Versioned k content content') :
    Versioned k (if content = "" then "" else content ++ "\n")
      (if content' = "" then "" else content' ++ "\n") := by
  rcases versioned.empty_or with ⟨rfl, rfl, rfl⟩ | ⟨some, some'⟩
  · exact .same _
  · rw [if_neg some, if_neg some']
    exact versioned.before _

lemma versioned_paragraph (versioned : Versioned k content content') :
    Versioned k (paragraph node content) (paragraph node content') := by
  have body := versioned_body node versioned
  unfold paragraph
  cases node.title with
  | none => exact (body.behind _).before _
  | some title => exact (body.behind _).before _

lemma versioned_listing :
    Versioned node.id.toList.length (listing .v5 node) (listing .v45 node) := by
  apply versioned_formal
  cases node.attr "language" with
  | none =>
    apply Versioned.before
    apply Versioned.before
    exact versioned_tag node _ _
  | some language =>
    apply Versioned.before
    apply Versioned.before_parts
    exact versioned_tag node _ _

lemma versioned_image : Versioned node.id.toList.length (image .v5 node) (image .v45 node) := by
  unfold image
  cases node.title with
  | none =>
    apply Versioned.before
    apply Versioned.before
    exact versioned_tag node _ _
  | some title =>
    apply Versioned.before
    apply Versioned.before_parts
    exact versioned_tag node _ _

lemma versioned_list (tag attributes : String) (versioned : Versioned k content content') :
    Versioned (node.id.toList.length + k) (list .v5 tag attributes node content)
      (list .v45 tag attributes node content') := by
  apply Versioned.before_parts
  exact (versioned_titled node _ _).append versioned

/-- The id attributes that the rendering of a node adds. -/
def ownIds (node : Node) (kind : Kind) : Nat :=
  if kind.bearsId then node.id.toList.length else 0

/-- The renderings of a node in the two versions are the same but for the names of the id attributes
in them and in the content. -/
lemma versioned_render (kind : Kind) (inside : kind ≠ .document)
    (versioned : Versioned k content content') :
    Versioned (ownIds node kind + if kind.isContainer then k else 0)
      (render .v5 kind node content) (render .v45 kind node content') := by
  have alone : Versioned (0 + k) content content' := (Nat.zero_add k).symm ▸ versioned
  cases kind with
  | document => exact absurd rfl inside
  | preamble => exact (alone.behind _).before _
  | sect =>
    apply Versioned.before
    exact (versioned_titled node _ _).append versioned
  | paragraph => exact versioned_paragraph node alone
  | listing => exact versioned_listing node
  | literal =>
    apply versioned_formal
    apply Versioned.before
    apply Versioned.before
    exact versioned_tag node _ _
  | admonition =>
    apply Versioned.before_parts
    exact (versioned_titled node _ _).append (versioned_blockBody node versioned)
  | quote =>
    have opened (source : String) := (versioned_titled node "<blockquote" ">\n").before source
    apply Versioned.before
    exact (opened _).append (versioned_blockBody node versioned)
  | unorderedList => exact versioned_list node "itemizedlist" "" versioned
  | orderedList => exact versioned_list node "orderedlist" " numeration=\"arabic\"" versioned
  | listItem => exact ((versioned_lines alone).behind _).before _
  | table =>
    apply Versioned.before_parts
    apply Versioned.append _ versioned
    apply Versioned.before_parts
    exact versioned_titled node _ _
  | tableRow => exact (alone.behind _).before _
  | tableCell => exact ((versioned_body node alone).behind _).before _
  | image => exact versioned_image node
  | thematicBreak => exact .same _
  | pageBreak => exact .same _
  | text => exact versioned_body node alone

end

/-- Texts in a row, put together, have the id attributes of all of them. -/
lemma Versioned.join {nodes : List Node} {count : Node → Nat} {s t : Node → String}
    (each : ∀ node ∈ nodes, Versioned (count node) (s node) (t node)) (separator : String) :
    Versioned (nodes.map count).sum (Text.join separator (nodes.map s))
      (Text.join separator (nodes.map t)) := by
  induction nodes with
  | nil => exact .same ""
  | cons node rest ih =>
    have here := each node List.mem_cons_self
    have ih := ih fun node mem => each node (List.mem_cons_of_mem _ mem)
    cases rest with
    | nil => simpa [Text.join] using here
    | cons next rest => exact (here.before separator).append ih

end DocBook

/-- The number of ids of a tree that are shown. -/
def Node.shownIds (root : Node) : Nat :=
  root.shown.countP bearsId

/-- A node shows its own id, if its element has one, and those below it, if it shows them. -/
lemma Node.shownIds_eq {node : Node} {kind : Kind} (found : Kind.ofName? node.name = some kind) :
    node.shownIds = DocBook.ownIds node kind +
      if kind.isContainer then (node.children.map shownIds).sum else 0 := by
  have own : (if node.bearsId = true then 1 else 0) = DocBook.ownIds node kind := by
    rw [bearsId, DocBook.ownIds, found, Option.any_some]
    cases node.id <;> simp
  have below : (node.children.flatMap shown).countP bearsId = (node.children.map shownIds).sum :=
    List.countP_flatMap
  rw [shownIds, shown_eq, List.countP_cons, own, Nat.add_comm, isContainer, found, Option.any_some]
  split
  · rw [below]
  · rfl

namespace DocBook

/-- The renderings of a tree in the two versions. -/
lemma versioned_rendering {root : Node} (known : root.Known)
    (inside : ∀ entry ∈ root.postOrder, entry.node.name ≠ "document") :
    Versioned root.shownIds ((Builtin.docBook .v5).rendering root)
      ((Builtin.docBook .v45).rendering root) := by
  induction root using Node.byChildren with
  | step node ih =>
    obtain ⟨kind, found⟩ := Kind.exists_ofName? known.root
    have other : kind ≠ .document := by
      rintro rfl
      exact inside _ node.root_mem_postOrder (Kind.name_of_ofName? found).symm
    have content : Versioned (node.children.map Node.shownIds).sum
        (Text.join "\n" (node.children.map (Builtin.docBook .v5).rendering))
        (Text.join "\n" (node.children.map (Builtin.docBook .v45).rendering)) :=
      .join (fun child mem => ih child mem (known.child mem)
        (Node.forall_postOrder_of_child (·.name ≠ "document") inside mem)) "\n"
    rw [Builtin.rendering_eq _ found, Builtin.rendering_eq _ found, Node.shownIds_eq found]
    exact versioned_render node kind other content

/-- A tree without ids shows none. -/
lemma shownIds_eq_zero {root : Node} (bare : ∀ entry ∈ root.postOrder, entry.node.id = none) :
    root.shownIds = 0 := by
  rw [Node.shownIds, List.countP_eq_zero]
  intro node listed
  obtain ⟨entry, mem, rfl⟩ := Node.exists_mem_postOrder_of_shown listed
  rw [Node.bearsId, bare entry mem]
  exact Bool.false_ne_true

/-- The versions of DocBook differ in ids. A tree without document element fails in both versions at
the same node, or it is converted in both, and the outputs are the same but for the names of the id
attributes, of which there is one for each id that is shown. -/
theorem versions_differ_in_ids {μ : Type} (root : Node)
    (inside : ∀ entry ∈ root.postOrder, entry.node.name ≠ "document") (files : FileTree)
    (memory : μ) :
    (∃ name, ∀ version,
      ((Builtin.docBook version).converter.document files root).run memory =
        (.error (.unsupportedNode (Builtin.docBook version).backend.name name), memory)) ∨
    ∃ output output' : String,
      ((Builtin.docBook .v5).converter.document files root).run memory = (.ok output, memory) ∧
      ((Builtin.docBook .v45).converter.document files root).run memory = (.ok output', memory) ∧
      (∃ segments : List String, segments.length = root.shownIds + 1 ∧
        output = Text.join " xml:id=" segments ∧ output' = Text.join " id=" segments) ∧
      ((∀ entry ∈ root.postOrder, entry.node.id = none) → output = output') := by
  cases found : root.unknown? with
  | some unknown =>
    exact .inl ⟨unknown.name, fun version => Builtin.run_document_of_unknown _ found files memory⟩
  | none =>
    right
    have known := Node.known_of_unknown?_eq_none found
    have versioned := versioned_rendering known inside
    refine ⟨_, _, Builtin.run_document _ known files memory,
      Builtin.run_document _ known files memory, versioned.segments, fun bare => ?_⟩
    rw [shownIds_eq_zero bare] at versioned
    obtain ⟨segments, length, same, same'⟩ := versioned.segments
    obtain ⟨whole, rfl⟩ := List.length_eq_one_iff.mp length
    rw [same, same']
    rfl

/-- A section and the listing in it show their ids; the table below the listing does not. -/
theorem hidden_id_of_versions :
    let hidden := (Node.named "table").withId "c"
    let root := ((Node.named "section").withId "a").withChild
      (((Node.named "listing").withId "b").withChild hidden)
    ∃ output output' : String,
      ((Builtin.docBook .v5).converter.document (.rooted []) root).run () = (.ok output, ()) ∧
      ((Builtin.docBook .v45).converter.document (.rooted []) root).run () = (.ok output', ()) ∧
      ∃ segments : List String, segments.length = 3 ∧
        output = Text.join " xml:id=" segments ∧ output' = Text.join " id=" segments := by
  intro hidden root
  have inside : ∀ entry ∈ root.postOrder, entry.node.name ≠ "document" := by decide
  have known : root.Known := by
    unfold Node.Known
    decide
  rcases versions_differ_in_ids root inside (.rooted []) () with
    ⟨name, fails⟩ | ⟨output, output', run, run', segments, -⟩
  · have run := (Builtin.docBook .v5).run_document known (.rooted []) ()
    rw [fails .v5] at run
    cases run
  · exact ⟨output, output', run, run', segments⟩

end DocBook

end Quire
