import Mathlib.Tactic.Lemma
import Quire.Converter.Builtin
import Quire.Converter.Document
import Quire.Proofs.Node.Order

/-!
# Renderings of whole trees

A tree of nodes of known kinds is converted by a built-in converter without failure, and the output
is a function of the tree alone: each node is rendered around the renderings of its children, which
stand on lines of their own. In any other tree the first node of another kind is the failure.

* `Builtin.rendering`: the output for a tree.
* `Builtin.run_document`: a tree of known kinds is converted into its rendering.
* `Builtin.run_document_of_unknown`: the failure of any other tree.
-/

namespace Quire

/-- All nodes of a tree are of kinds that built-in converters know. -/
def Node.Known (root : Node) : Prop :=
  ∀ entry ∈ root.postOrder, entry.node.name ∈ Kind.names

namespace Node.Known

/-- The root of a tree of known kinds is of a known kind. -/
lemma root {node : Node} (known : node.Known) : node.name ∈ Kind.names :=
  known _ node.root_mem_postOrder

/-- So are the trees below it. -/
lemma child {node child : Node} (known : node.Known) (mem : child ∈ node.children) :
    child.Known :=
  Node.forall_postOrder_of_child (·.name ∈ Kind.names) known mem

end Node.Known

namespace Node

/-- The first node of a tree, in post-order, that is of no kind built-in converters know. -/
def unknown? (root : Node) : Option Node :=
  (root.postOrder.map (·.node)).find? fun node => !Kind.isKnown node.name

/-- The nodes of trees in a row are those of each of them. -/
lemma postOrderOfAll_nodes (first : Nat) (nodes : List Node) :
    (postOrderOfAll first nodes).map (·.node) =
      nodes.flatMap fun node => node.postOrder.map (·.node) := by
  induction nodes generalizing first with
  | nil => rfl
  | cons node rest ih =>
    rw [postOrderOfAll, List.map_append, ih, List.map_map, List.flatMap_cons]
    rfl

/-- It is one below the children if there is one, else it can be the root only. -/
lemma unknown?_eq (node : Node) :
    node.unknown? = (node.children.findSome? unknown?).or
      (if Kind.isKnown node.name then none else some node) := by
  have below (nodes : List Node) : (nodes.flatMap fun node => node.postOrder.map (·.node)).find?
      (fun node => !Kind.isKnown node.name) = nodes.findSome? unknown? :=
    List.find?_flatMap ..
  rw [unknown?, postOrder_eq, List.map_append, List.find?_append, postOrderOfAll_nodes, below]
  cases known : Kind.isKnown node.name <;> simp [known]

lemma known_of_unknown?_eq_none {root : Node} (none : root.unknown? = none) : root.Known := by
  intro entry mem
  have known := List.find?_eq_none.mp none entry.node (List.mem_map_of_mem mem)
  simpa [Kind.isKnown] using known

end Node

/-- Nodes in a row that are converted into outputs of their own are converted into all of these. -/
lemma Converter.run_documents {μ : Type} {converter : Converter μ} {files : FileTree} {memory : μ}
    {nodes : List Node} {output : Node → String}
    (each : ∀ node ∈ nodes,
      (converter.document files node).run memory = (.ok (output node), memory)) :
    (converter.documents files nodes).run memory = (.ok (nodes.map output), memory) := by
  induction nodes with
  | nil => rfl
  | cons node rest ih =>
    rw [Converter.documents, StateT.run_bind, each node List.mem_cons_self]
    show ((converter.documents files rest >>= _).run memory) = _
    rw [StateT.run_bind, ih fun node mem => each node (List.mem_cons_of_mem _ mem)]
    rfl

namespace Builtin

/-- A format has an output for a node of a known kind. -/
lemma output_of_known (format : Builtin) {task : Task} (known : task.name ∈ Kind.names) :
    ∃ output, format.output task = .ok output := by
  obtain ⟨kind, named⟩ := Kind.exists_ofName? known
  rw [Builtin.output, named]
  exact ⟨_, rfl⟩

/-- A format refuses a node of another name. -/
lemma output_of_unknown (format : Builtin) {task : Task} (unknown : task.name ∉ Kind.names) :
    format.output task = .error (.unsupportedNode format.backend.name task.name) := by
  have no_kind : Kind.ofName? task.name = none := by
    rw [← Option.not_isSome_iff_eq_none, ← Kind.isKnown_eq_isSome]
    exact fun known => unknown (List.contains_iff_mem.mp known)
  rw [Builtin.output, no_kind]

mutual

/-- The output for a tree of known kinds. -/
def rendering (format : Builtin) : Node → String
  | { name, id, title, text, attributes, children } =>
    match Kind.ofName? name with
    | some kind =>
      format.render kind ⟨name, id, title, text, attributes, children⟩
        (Text.join "\n" (renderings format children))
    | none => ""

/-- The outputs for trees of known kinds in a row. -/
def renderings (format : Builtin) : List Node → List String
  | [] => []
  | node :: rest => rendering format node :: renderings format rest

end

variable (format : Builtin)

/-- The outputs for trees in a row are those for each of them. -/
lemma renderings_eq_map (nodes : List Node) :
    format.renderings nodes = nodes.map format.rendering := by
  induction nodes with
  | nil => rfl
  | cons node rest ih => rw [renderings, ih, List.map_cons]

/-- A node of a known kind is rendered around the outputs for its children. -/
lemma rendering_eq {node : Node} {kind : Kind} (found : Kind.ofName? node.name = some kind) :
    format.rendering node =
      format.render kind node (Text.join "\n" (node.children.map format.rendering)) := by
  obtain ⟨name, id, title, text, attributes, children⟩ := node
  rw [rendering, ← renderings_eq_map]
  dsimp only at found ⊢
  rw [found]

/-- A tree of known kinds is converted into its rendering. -/
lemma run_document {μ : Type} {root : Node} (known : root.Known) (files : FileTree) (memory : μ) :
    (format.converter.document files root).run memory = (.ok (format.rendering root), memory) := by
  induction root using Node.byChildren with
  | step node ih =>
    have runs : (format.converter.documents files node.children).run memory =
        (.ok (node.children.map format.rendering), memory) :=
      Converter.run_documents fun child mem => ih child mem (known.child mem)
    obtain ⟨kind, found, run⟩ :=
      format.run_convert ⟨node, Text.join "\n" (node.children.map format.rendering), none⟩
        known.root files memory
    rw [Converter.document_eq, StateT.run_bind, runs, format.rendering_eq found]
    exact run

/-- In a row of trees the first failure is the failure of all. -/
lemma run_documents_of_unknown {μ : Type} {nodes : List Node} {unknown : Node} (files : FileTree)
    (memory : μ) (each : ∀ node ∈ nodes, node.unknown? = some unknown →
      (format.converter.document files node).run memory =
        (.error (.unsupportedNode format.backend.name unknown.name), memory))
    (found : nodes.findSome? Node.unknown? = some unknown) :
    (format.converter.documents files nodes).run memory =
      (.error (.unsupportedNode format.backend.name unknown.name), memory) := by
  induction nodes with
  | nil => cases found
  | cons node rest ih =>
    have ih := ih fun node mem => each node (List.mem_cons_of_mem _ mem)
    rw [Converter.documents, StateT.run_bind]
    rw [List.findSome?_cons] at found
    cases here : node.unknown? with
    | some other =>
      rw [here] at found
      cases found
      rw [each node List.mem_cons_self here]
      rfl
    | none =>
      rw [here] at found
      rw [format.run_document (Node.known_of_unknown?_eq_none here)]
      show ((format.converter.documents files rest >>= _).run memory) = _
      rw [StateT.run_bind, ih found]
      rfl

/-- A tree with a node of no known kind fails at the first of them. -/
lemma run_document_of_unknown {μ : Type} {root unknown : Node}
    (found : root.unknown? = some unknown) (files : FileTree) (memory : μ) :
    (format.converter.document files root).run memory =
      (.error (.unsupportedNode format.backend.name unknown.name), memory) := by
  induction root using Node.byChildren with
  | step node ih =>
    rw [Node.unknown?_eq] at found
    rw [Converter.document_eq, StateT.run_bind]
    cases below : node.children.findSome? Node.unknown? with
    | some other =>
      rw [below] at found
      cases found
      rw [format.run_documents_of_unknown files memory ih below]
      rfl
    | none =>
      have known (child : Node) (mem : child ∈ node.children) : child.Known :=
        Node.known_of_unknown?_eq_none (List.findSome?_eq_none_iff.mp below child mem)
      have runs : (format.converter.documents files node.children).run memory =
          (.ok (node.children.map format.rendering), memory) :=
        Converter.run_documents fun child mem => format.run_document (known child mem) files memory
      rw [below, Option.none_or] at found
      split at found
      next => cases found
      next unlisted =>
        rw [runs, ← Option.some.inj found]
        exact congrArg (·, memory) (format.output_of_unknown
          fun listed => unlisted (List.contains_iff_mem.mpr listed))

end Builtin

end Quire
