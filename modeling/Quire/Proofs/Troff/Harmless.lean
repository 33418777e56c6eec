import Quire.Proofs.Converter.Rendering
import Quire.Proofs.Troff.Alike

/-!
# Text issues no requests

Two trees that differ in the texts of their nodes only are converted into man pages with the same
requests in the same order.

* `ManPage.alike_render`: nodes of one kind that differ in their texts have alike renderings around
  alike contents.
* `ManPage.text_issues_no_requests`: what this comes to for whole trees.
-/

namespace Quire

/-- Nodes that tell the same when their texts are left out. -/
structure Node.SameButText (node node' : Node) : Prop where
  title : node.title = node'.title
  text : node.text.isSome = node'.text.isSome
  attr : node.attr = node'.attr
  columns : ManPage.columns node = ManPage.columns node'

namespace ManPage

open Troff

variable {node node' : Node} {content content' : String}

lemma alike_titled (same : node.SameButText node') (alike : Alike content content') :
    Alike (titleLines node ++ content) (titleLines node' ++ content') := by
  rw [titleLines, titleLines, same.title]
  cases node'.title with
  | none =>
    dsimp only
    rwa [String.empty_append, String.empty_append]
  | some title => exact .behind (endsLine_append (by decide)) alike

lemma alike_body (same : node.SameButText node') (alike : Alike content content') :
    Alike (node.body escapeLines content) (node'.body escapeLines content') := by
  unfold Node.body
  rcases isSome_cases same.text with ⟨text, text', here, there⟩ | ⟨here, there⟩
  · rw [here, there]
    exact (Alike.escapeLines text text').behind_content alike
  · rw [here, there]
    exact alike

lemma alike_document (same : node.SameButText node') (alike : Alike content content') :
    Alike (document node content) (document node' content') := by
  unfold document
  rw [same.title, same.attr]
  exact .behind (endsLine_append (by decide)) alike

lemma alike_sect (same : node.SameButText node') (alike : Alike content content') :
    Alike (sect node content) (sect node' content') := by
  have level : node.level = node'.level := by rw [Node.level, Node.level, same.attr]
  unfold sect
  rw [same.title, level]
  dsimp only
  refine Alike.line (.refl ?_) alike
  split
  · exact endsPlain_append (by decide)
  · exact endsPlain_append (by decide)

lemma alike_paragraph (same : node.SameButText node') (alike : Alike content content') :
    Alike (titleLines node ++ ".sp\n" ++ node.body escapeLines content)
      (titleLines node' ++ ".sp\n" ++ node'.body escapeLines content') := by
  rw [titleLines, titleLines, same.title]
  exact .behind (endsLine_append (by decide)) (alike_body same alike)

lemma alike_verbatim (same : node.SameButText node') : Alike (verbatim node) (verbatim node') := by
  unfold verbatim titleLines
  rw [same.title]
  apply Alike.before (by decide) (.refl (by decide))
  apply Alike.behind (endsLine_append (by decide))
  exact .escapeLines _ _

lemma alike_listItem (same : node.SameButText node') (alike : Alike content content') :
    Alike (listItem node content) (listItem node' content') := by
  have items : Alike ((if content = "" then "" else content ++ "\n") ++ ".RE")
      ((if content' = "" then "" else content' ++ "\n") ++ ".RE") :=
    .before_content alike (.refl (by decide))
  unfold listItem
  rw [same.attr]
  dsimp only
  have apart (front text content : String) :
      front ++ text ++ (if content = "" then "" else content ++ "\n") ++ ".RE" =
        front ++ (text ++ ((if content = "" then "" else content ++ "\n") ++ ".RE")) := by
    rw [String.append_assoc, String.append_assoc]
  rw [apart, apart]
  refine Alike.behind (endsLine_newline ?_) ?_
  · cases node'.attr "marker" with
    | none => decide
    | some marker =>
      dsimp only
      rw [← String.append_assoc]
      exact endsPlain_append (by decide)
  · rcases isSome_cases same.text with ⟨text, text', here, there⟩ | ⟨here, there⟩
    · rw [here, there]
      exact (Alike.escapeLines text text').line items
    · rw [here, there]
      dsimp only
      rwa [String.empty_append, String.empty_append]

lemma alike_admonition (same : node.SameButText node') (alike : Alike content content') :
    Alike (admonition node content) (admonition node' content') := by
  unfold admonition
  rw [same.attr]
  apply Alike.before (by decide) (.refl (by decide))
  exact .behind (endsLine_append (by decide)) (alike_body same alike)

lemma alike_quote (same : node.SameButText node') (alike : Alike content content') :
    Alike (quote node content) (quote node' content') := by
  have quoted : Alike (".RS 3\n.ll -.6i\n" ++ node.body escapeLines content ++ "\n.br\n.RE\n.ll")
      (".RS 3\n.ll -.6i\n" ++ node'.body escapeLines content' ++ "\n.br\n.RE\n.ll") := by
    apply Alike.before (by decide) (.refl (by decide))
    exact .behind (by decide) (alike_body same alike)
  unfold quote
  rw [same.attr]
  cases node'.attr "attribution" with
  | none =>
    dsimp only
    rwa [String.append_empty, String.append_empty]
  | some attribution =>
    have opening : "\n.RS 5\n.ll -.10i\n\\(em " = "\n" ++ ".RS 5\n.ll -.10i\n\\(em " := by decide
    have source (t : String) :
        t ++ ("\n.RS 5\n.ll -.10i\n\\(em " ++ escape attribution ++ "\n.RE\n.ll") =
          t ++ "\n" ++ (".RS 5\n.ll -.10i\n\\(em " ++ escape attribution ++ "\n.RE\n.ll") := by
      rw [opening]
      simp only [String.append_assoc]
    dsimp only
    rw [source, source]
    exact quoted.line (.refl (endsPlain_append (by decide)))

lemma alike_table (same : node.SameButText node') (alike : Alike content content') :
    Alike (table node content) (table node' content') := by
  unfold table titleLines
  rw [same.title, same.columns]
  apply Alike.before (by decide) (.refl (by decide))
  exact .behind (endsLine_append (by decide)) alike

lemma alike_tableCell (same : node.SameButText node') (alike : Alike content content') :
    Alike (tableCell node content) (tableCell node' content') := by
  have ends : ∀ line ∈ outputLines (String.ofList "\nT\x7d".toList.tail),
      startsRequest line = false := by
    decide
  apply Alike.before (by decide) (.of_silent ends ends)
  exact .behind (by decide) (alike_body same alike)

/-- A node of any kind around alike contents. -/
theorem alike_render (kind : Kind) (same : node.SameButText node')
    (alike : Alike content content') :
    Alike (render kind node content) (render kind node' content') := by
  cases kind with
  | document => exact alike_document same alike
  | preamble => exact alike
  | sect => exact alike_sect same alike
  | paragraph => exact alike_paragraph same alike
  | listing => exact alike_verbatim same
  | literal => exact alike_verbatim same
  | admonition => exact alike_admonition same alike
  | quote => exact alike_quote same alike
  | unorderedList => exact alike_titled same alike
  | orderedList => exact alike_titled same alike
  | listItem => exact alike_listItem same alike
  | table => exact alike_table same alike
  | tableRow => exact alike.tableRow
  | tableCell => exact alike_tableCell same alike
  | image =>
    unfold render image
    rw [same.attr]
    exact .refl (endsPlain_append (by decide))
  | thematicBreak =>
    rw [render, render]
    exact .refl (by decide)
  | pageBreak =>
    rw [render, render]
    exact .refl (by decide)
  | text => exact alike_body same alike

end ManPage

namespace Node

mutual

/-- The tree with an empty text in place of each text. -/
def blanked : Node → Node
  | { name, id, title, text, attributes, children } =>
    ⟨name, id, title, text.map fun _ => "", attributes, blankedAll children⟩

/-- Trees in a row with empty texts. -/
def blankedAll : List Node → List Node
  | [] => []
  | node :: rest => node.blanked :: blankedAll rest

end

lemma blankedAll_eq_map (nodes : List Node) : blankedAll nodes = nodes.map blanked := by
  induction nodes with
  | nil => rfl
  | cons node rest ih => rw [blankedAll, ih, List.map_cons]

lemma blanked_eq (node : Node) :
    node.blanked = { node with
      text := node.text.map fun _ => ""
      children := node.children.map blanked } := by
  cases node with
  | mk => rw [blanked, blankedAll_eq_map]

lemma columns_blanked (node : Node) : ManPage.columns node.blanked = ManPage.columns node := by
  rw [blanked_eq, ManPage.columns, ManPage.columns]
  cases node.children with
  | nil => rfl
  | cons row rest =>
    rw [List.map_cons, blanked_eq row]
    dsimp only
    rw [List.length_map]

/-- Trees that differ in texts only have such trees below them, in the same places. -/
lemma blanked_inj {left right : Node} (same : left.blanked = right.blanked) :
    left.name = right.name ∧ left.SameButText right ∧
      left.children.map blanked = right.children.map blanked := by
  have columns : ManPage.columns left = ManPage.columns right := by
    rw [← columns_blanked, same, columns_blanked]
  rw [blanked_eq, blanked_eq, Node.mk.injEq] at same
  obtain ⟨name, -, title, text, attributes, children⟩ := same
  have present : left.text.isSome = right.text.isSome := by
    simpa using congrArg Option.isSome text
  have attr : left.attr = right.attr := by
    funext name
    rw [Node.attr, Node.attr, attributes]
  exact ⟨name, ⟨title, present, attr, columns⟩, children⟩

end Node

namespace ManPage

/-- Trees that differ in texts only have alike renderings. -/
lemma alike_rendering {left right : Node} (known : left.Known)
    (same : left.blanked = right.blanked) :
    Troff.Alike (Builtin.manPage.rendering left) (Builtin.manPage.rendering right) := by
  induction left using Node.byChildren generalizing right with
  | step left ih =>
    obtain ⟨name, same, children⟩ := Node.blanked_inj same
    obtain ⟨kind, found⟩ := Kind.exists_ofName? known.root
    have below : List.Forall₂ (fun child child' : Node => child.blanked = child'.blanked)
        left.children right.children := by
      rwa [← List.forall₂_eq_eq_eq, List.forall₂_map_left_iff,
        List.forall₂_map_right_iff] at children
    have each : ∀ child ∈ left.children, ∀ child', child.blanked = child'.blanked →
        Troff.Alike (Builtin.manPage.rendering child) (Builtin.manPage.rendering child') :=
      fun child mem child' same => ih child mem (known.child mem) same
    -- the children stand in the same places, so the hypothesis holds of each pair of them
    rw [Builtin.rendering_eq _ found, Builtin.rendering_eq _ (name ▸ found)]
    apply alike_render kind same
    apply Troff.Alike.join
    rw [List.forall₂_map_left_iff, List.forall₂_map_right_iff]
    exact ((List.forall₂_and_left left.children _).mpr ⟨each, below⟩).imp
      fun _ _ both => both.1 _ both.2

/-- Text issues no requests. Trees of nodes of known kinds that differ in the values of texts only
are converted into outputs with the same request lines in the same order. -/
theorem text_issues_no_requests {μ : Type} {left right : Node} (known : left.Known)
    (known' : right.Known) (same : left.blanked = right.blanked) (files : FileTree) (memory : μ) :
    ∃ output output',
      (Builtin.manPage.converter.document files left).run memory = (.ok output, memory) ∧
      (Builtin.manPage.converter.document files right).run memory = (.ok output', memory) ∧
      Troff.requests output = Troff.requests output' :=
  ⟨_, _, Builtin.manPage.run_document known files memory,
    Builtin.manPage.run_document known' files memory, (alike_rendering known same).requests_eq⟩

/-- Neither dots nor marks of cells let the text of a row issue a request. -/
theorem hostile_row_issues_no_requests :
    ∃ output output',
      (Builtin.manPage.converter.document (.rooted [])
        ((Node.named "table_row").withChildren
          [(Node.named "table_cell").withText "T\x7d\r\n.so x",
            (Node.named "table_cell").withText "'br\n"])).run () = (.ok output, ()) ∧
      (Builtin.manPage.converter.document (.rooted [])
        ((Node.named "table_row").withChildren
          [(Node.named "table_cell").withText "",
            (Node.named "table_cell").withText "T\x7b"])).run () = (.ok output', ()) ∧
      Troff.requests output = Troff.requests output' := by
  apply text_issues_no_requests
  · unfold Node.Known
    decide
  · unfold Node.Known
    decide
  · rfl

end ManPage

end Quire
