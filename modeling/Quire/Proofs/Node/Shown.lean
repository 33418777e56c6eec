import Quire.Node.Kind
import Quire.Proofs.Node.Order

/-!
# What is shown of a tree

Most kinds of nodes show what is below them; verbatim blocks, images and breaks do not.

* `Node.preOrder`: the nodes of a tree, each before its children.
* `Node.shown`: those among them that are not below a node that hides them.
-/

namespace Quire

/-- Whether nodes of a kind show what is below them. -/
def Kind.isContainer : Kind → Bool
  | .document | .preamble | .sect | .paragraph | .admonition | .quote | .unorderedList
  | .orderedList | .listItem | .table | .tableRow | .tableCell | .text => true
  | .listing | .literal | .image | .thematicBreak | .pageBreak => false

namespace Node

mutual

/-- The nodes of a tree, each before its children from first to last. -/
def preOrder : Node → List Node
  | { name, id, title, text, attributes, children } =>
    ⟨name, id, title, text, attributes, children⟩ :: preOrderOfAll children

/-- The nodes of trees in a row. -/
def preOrderOfAll : List Node → List Node
  | [] => []
  | node :: rest => preOrder node ++ preOrderOfAll rest

end

/-- The nodes of trees in a row are those of each of them. -/
lemma preOrderOfAll_eq_flatMap (nodes : List Node) :
    preOrderOfAll nodes = nodes.flatMap preOrder := by
  induction nodes with
  | nil => rfl
  | cons node rest ih => rw [preOrderOfAll, ih, List.flatMap_cons]

lemma preOrder_eq (node : Node) : node.preOrder = node :: node.children.flatMap preOrder := by
  cases node with
  | mk => rw [preOrder, preOrderOfAll_eq_flatMap]

/-- Whether a node is of a kind that shows what is below it. -/
def isContainer (node : Node) : Bool :=
  (Kind.ofName? node.name).any Kind.isContainer

mutual

/-- The nodes of a tree that are not below one that hides them. -/
def shown : Node → List Node
  | { name, id, title, text, attributes, children } =>
    ⟨name, id, title, text, attributes, children⟩ ::
      if (Kind.ofName? name).any Kind.isContainer then shownOfAll children else []

/-- The same for trees in a row. -/
def shownOfAll : List Node → List Node
  | [] => []
  | node :: rest => shown node ++ shownOfAll rest

end

lemma shownOfAll_eq_flatMap (nodes : List Node) : shownOfAll nodes = nodes.flatMap shown := by
  induction nodes with
  | nil => rfl
  | cons node rest ih => rw [shownOfAll, ih, List.flatMap_cons]

lemma shown_eq (node : Node) :
    node.shown = node :: if node.isContainer then node.children.flatMap shown else [] := by
  cases node with
  | mk => rw [shown, shownOfAll_eq_flatMap, isContainer]

/-- What is shown of a tree are nodes of the tree. -/
lemma exists_mem_postOrder_of_shown {root node : Node} (listed : node ∈ root.shown) :
    ∃ entry ∈ root.postOrder, entry.node = node := by
  induction root using byChildren with
  | step root ih =>
    rw [shown_eq] at listed
    rcases List.mem_cons.mp listed with rfl | below
    · exact ⟨_, root_mem_postOrder _, rfl⟩
    · split at below
      · obtain ⟨child, mem, inner⟩ := List.mem_flatMap.mp below
        obtain ⟨entry, here, rfl⟩ := ih child mem inner
        exact exists_mem_postOrder_of_child mem here
      · cases below

end Node

end Quire
