import Mathlib.Tactic.Lemma
import Quire.Node.Basic

/-!
# The order of a document's nodes

The nodes of a tree, each with its place: the numbers of the children on the way down to it. In
post-order the children of a node come from first to last before the node itself.

* `Node.byChildren`: induction over a tree.
* `Node.mem_postOrder_iff`, `Node.nodup_postOrder`: post-order lists every place of a tree once,
  with the node there.
-/

namespace Quire

/-- The way from the root of a tree down to a node: the number of the child at each step. -/
abbrev Place := List Nat

/-- A node and its place in a tree. -/
structure Located where
  place : Place
  node : Node

/-- A node's place as seen from the parent of the root, of which the root is the given child. -/
def Located.under (i : Nat) (entry : Located) : Located :=
  ⟨i :: entry.place, entry.node⟩

namespace Node

/-- The node at a place. -/
def at? : Node → Place → Option Node
  | node, [] => some node
  | node, i :: place =>
    match node.children[i]? with
    | some child => child.at? place
    | none => none
termination_by structural _ place => place

mutual

/-- The nodes of a tree with their places, children from first to last before their parent. -/
def postOrder : Node → List Located
  | { name, id, title, text, attributes, children } =>
    postOrderOfAll 0 children ++ [⟨[], name, id, title, text, attributes, children⟩]

/-- The nodes of trees in a row, of which the first is the child of the given number. -/
def postOrderOfAll (first : Nat) : List Node → List Located
  | [] => []
  | node :: rest => node.postOrder.map (.under first) ++ postOrderOfAll (first + 1) rest

end

/-- What holds of a node as soon as it holds of its children holds of all nodes. -/
@[elab_as_elim]
theorem byChildren {motive : Node → Prop}
    (step : ∀ node, (∀ child ∈ node.children, motive child) → motive node) :
    ∀ node, motive node
  | ⟨_, _, _, _, _, children⟩ => step _ fun child _ => byChildren step child
termination_by node => sizeOf node
decreasing_by
  have smaller : sizeOf child < sizeOf children := List.sizeOf_lt_of_mem ‹_›
  simp only [Node.mk.sizeOf_spec]
  omega

/-- A tree's nodes are those below its children, and its root. -/
lemma postOrder_eq (node : Node) :
    node.postOrder = postOrderOfAll 0 node.children ++ [⟨[], node⟩] := by
  cases node with
  | mk => rw [postOrder]

/-- What is listed for trees in a row is listed for one of them, and seen from their parent. -/
lemma mem_postOrderOfAll_iff {first : Nat} {nodes : List Node} {entry : Located} :
    entry ∈ postOrderOfAll first nodes ↔
      ∃ (i : Nat) (child : Node) (inner : Located), nodes[i]? = some child ∧
        inner ∈ child.postOrder ∧ inner.under (first + i) = entry := by
  induction nodes generalizing first with
  | nil => simp [postOrderOfAll]
  | cons node rest ih =>
    rw [postOrderOfAll, List.mem_append, List.mem_map, ih]
    constructor
    · rintro (⟨inner, mem, same⟩ | ⟨i, child, inner, there, mem, same⟩)
      · exact ⟨0, node, inner, rfl, mem, same⟩
      · refine ⟨i + 1, child, inner, there, mem, ?_⟩
        rw [← same, Nat.add_assoc, Nat.add_comm 1 i]
    · rintro ⟨i, child, inner, there, mem, same⟩
      cases i with
      | zero =>
        cases there
        exact .inl ⟨inner, mem, same⟩
      | succ i =>
        refine .inr ⟨i, child, inner, there, mem, ?_⟩
        rw [← same, Nat.add_assoc, Nat.add_comm 1 i]

/-- Post-order lists the nodes of a tree, each at its place. -/
lemma mem_postOrder_iff {node : Node} {entry : Located} :
    entry ∈ node.postOrder ↔ node.at? entry.place = some entry.node := by
  induction node using byChildren generalizing entry with
  | step node ih =>
    obtain ⟨place, found⟩ := entry
    rw [postOrder_eq, List.mem_append, mem_postOrderOfAll_iff, List.mem_singleton]
    cases place with
    | nil =>
      constructor
      · rintro (⟨i, child, inner, _, _, same⟩ | same)
        · cases same
        · cases same
          rfl
      · intro same
        cases same
        exact .inr rfl
    | cons i place =>
      constructor
      · rintro (⟨j, child, inner, there, mem, same⟩ | same)
        · have listed := (ih child (List.mem_of_getElem? there)).mp mem
          cases same
          simp only [at?, Nat.zero_add, there]
          exact listed
        · cases same
      · intro reached
        simp only [at?] at reached
        split at reached
        next child there =>
          have listed : ⟨place, found⟩ ∈ child.postOrder :=
            (ih child (List.mem_of_getElem? there)).mpr reached
          exact .inl ⟨i, child, _, there, listed, by rw [Nat.zero_add]; rfl⟩
        next => cases reached

/-- What holds of all nodes of a tree holds of its root. -/
lemma root_mem_postOrder (node : Node) : ⟨[], node⟩ ∈ node.postOrder :=
  mem_postOrder_iff.mpr rfl

/-- The nodes below a child are nodes of the tree. -/
lemma exists_mem_postOrder_of_child {node child : Node} (mem : child ∈ node.children)
    {inner : Located} (listed : inner ∈ child.postOrder) :
    ∃ entry ∈ node.postOrder, entry.node = inner.node := by
  obtain ⟨i, there⟩ := List.mem_iff_getElem?.mp mem
  refine ⟨inner.under (0 + i), ?_, rfl⟩
  rw [postOrder_eq, List.mem_append, mem_postOrderOfAll_iff]
  exact .inl ⟨i, child, inner, there, listed, rfl⟩

/-- What holds of all nodes of a tree holds of those below a child. -/
lemma forall_postOrder_of_child (p : Node → Prop) {node child : Node}
    (all : ∀ entry ∈ node.postOrder, p entry.node) (mem : child ∈ node.children) :
    ∀ entry ∈ child.postOrder, p entry.node := by
  intro inner listed
  obtain ⟨entry, above, same⟩ := exists_mem_postOrder_of_child mem listed
  exact same ▸ all entry above

/-- In trees in a row no place is listed twice, if none is in each of them. -/
lemma nodup_postOrderOfAll {nodes : List Node}
    (each : ∀ node ∈ nodes, (node.postOrder.map (·.place)).Nodup) (first : Nat) :
    ((postOrderOfAll first nodes).map (·.place)).Nodup := by
  induction nodes generalizing first with
  | nil => exact List.nodup_nil
  | cons node rest ih =>
    rw [postOrderOfAll, List.map_append, List.map_map, List.nodup_append]
    refine ⟨?_, ?_, ?_⟩
    · have shifted : node.postOrder.map (Located.place ∘ Located.under first) =
          (node.postOrder.map (·.place)).map (first :: ·) := by
        rw [List.map_map]
        rfl
      rw [shifted]
      apply List.Pairwise.map _ _ (each node List.mem_cons_self)
      exact fun _ _ differ same => differ (List.cons.inj same).2
    · exact ih (fun node mem => each node (List.mem_cons_of_mem _ mem)) (first + 1)
    · -- the first step down tells the trees apart
      intro place mem place' mem' same
      obtain ⟨inner, _, rfl⟩ := List.mem_map.mp mem
      obtain ⟨entry, listed, rfl⟩ := List.mem_map.mp mem'
      obtain ⟨i, _, inner', _, _, rfl⟩ := mem_postOrderOfAll_iff.mp listed
      have numbers : first = first + 1 + i := (List.cons.inj same).1
      omega

/-- Post-order lists no place twice. -/
lemma nodup_postOrder (node : Node) : (node.postOrder.map (·.place)).Nodup := by
  induction node using byChildren with
  | step node ih =>
    rw [postOrder_eq, List.map_append, List.nodup_append]
    refine ⟨nodup_postOrderOfAll ih 0, List.pairwise_singleton .., ?_⟩
    intro place mem root is_root same
    obtain ⟨entry, listed, rfl⟩ := List.mem_map.mp mem
    obtain ⟨i, _, inner, _, _, rfl⟩ := mem_postOrderOfAll_iff.mp listed
    rw [List.map_singleton, List.mem_singleton] at is_root
    rw [is_root] at same
    cases same

example :
    let root := ((named "a").withChild (named "b")).withChild ((named "c").withChild (named "d"))
    root.postOrder.map (·.place) = [[0], [1, 0], [1], []] := by
  decide

end Node

end Quire
