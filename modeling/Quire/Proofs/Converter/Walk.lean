import Quire.Proofs.Converter.Recording
import Quire.Proofs.Node.Order

/-!
# The walk over a document

Converting a document calls the converter once for each node in post-order, with the outputs of the
node's children as its content, and stops behind the first call that fails. The converter may
remember anything and answer as it likes.

* `Located.task`: the call for a node, given the outputs of the nodes below it.
* `Walked`: calls for nodes in a row, up to the first failure, and the rules to put walks together.
* `document_logs`: the calls of a document.
* `document_walk`: the same as a statement about a whole run.
-/

namespace Quire

/-- The call for a node, where the nodes of the tree give the outputs `output`. -/
def Located.task (output : Place → String) (entry : Located) : Task where
  node := entry.node
  content := Text.join "\n" <|
    (List.range entry.node.children.length).map fun i => output (entry.place ++ [i])
  transform := none

/-- The call for a node with the node's own output as the answer. -/
def Event.converted (output : Place → String) (entry : Located) : Event Unit :=
  .convert () (entry.task output) (.ok (output entry.place))

/-- The call for a node that fails. -/
def Event.failed (output : Place → String) (e : ConvertError) (entry : Located) : Event Unit :=
  .convert () (entry.task output) (.error e)

/-- One call for each of some nodes in their order, or a first part of these calls of which the last
one fails. -/
def Walked (output : Place → String) (entries : List Located) (events : List (Event Unit)) :
    Option ConvertError → Prop
  | none => events = entries.map (.converted output)
  | some e => ∃ earlier entry later, entries = earlier ++ entry :: later ∧
      events = earlier.map (.converted output) ++ [Event.failed output e entry]

variable {output output' : Place → String} {entry : Located} {entries entries' : List Located}
  {events events' : List (Event Unit)} {failure : Option ConvertError} {e : ConvertError}

/-- The call for a node depends on the outputs at the places below it only. -/
lemma Located.task_congr
    (same : ∀ place, output (entry.place ++ place) = output' (entry.place ++ place)) :
    entry.task output = entry.task output' := by
  unfold Located.task
  congr 2
  exact List.map_congr_left fun i _ => same [i]

lemma Event.converted_congr
    (same : ∀ place, output (entry.place ++ place) = output' (entry.place ++ place)) :
    Event.converted output entry = Event.converted output' entry := by
  have here : output entry.place = output' entry.place := by
    have here := same []
    rwa [List.append_nil] at here
  rw [Event.converted, Event.converted, Located.task_congr same, here]

namespace Walked

/-- A walk depends on the outputs at the places below its nodes only. -/
lemma congr (walked : Walked output entries events failure)
    (same : ∀ entry ∈ entries, ∀ place,
      output (entry.place ++ place) = output' (entry.place ++ place)) :
    Walked output' entries events failure := by
  have calls {part : List Located} (sub : ∀ entry ∈ part, entry ∈ entries) :
      part.map (Event.converted output) = part.map (Event.converted output') :=
    List.map_congr_left fun entry mem => Event.converted_congr (same entry (sub entry mem))
  cases failure with
  | none =>
    rw [Walked, ← calls fun _ mem => mem]
    exact walked
  | some e =>
    obtain ⟨earlier, entry, later, rfl, rfl⟩ := walked
    refine ⟨earlier, entry, later, rfl, ?_⟩
    have last : entry ∈ earlier ++ entry :: later :=
      List.mem_append_right _ List.mem_cons_self
    rw [calls fun _ mem => List.mem_append_left _ mem, Event.failed, Event.failed,
      Located.task_congr (same entry last)]

/-- A walk over a tree is a walk over the same tree as a child of a node. -/
lemma under (walked : Walked output entries events failure) {i : Nat}
    (same : ∀ place, output' (i :: place) = output place) :
    Walked output' (entries.map (.under i)) events failure := by
  have shifted : output = fun place => output' (i :: place) := funext fun place => (same place).symm
  subst shifted
  cases failure with
  | none =>
    rw [Walked, List.map_map]
    exact walked
  | some e =>
    obtain ⟨earlier, entry, later, rfl, rfl⟩ := walked
    refine ⟨earlier.map (.under i), entry.under i, later.map (.under i), ?_, ?_⟩
    · rw [List.map_append, List.map_cons]
    · rw [List.map_map]
      rfl

/-- A whole walk can be continued. -/
lemma append (walked : Walked output entries events none)
    (walked' : Walked output entries' events' failure) :
    Walked output (entries ++ entries') (events ++ events') failure := by
  obtain rfl : events = _ := walked
  cases failure with
  | none =>
    obtain rfl : events' = _ := walked'
    exact List.map_append.symm
  | some e =>
    obtain ⟨earlier, entry, later, rfl, rfl⟩ := walked'
    refine ⟨entries ++ earlier, entry, later, (List.append_assoc ..).symm, ?_⟩
    rw [List.map_append, List.append_assoc]

/-- Behind a failure nothing is called. -/
lemma stop (walked : Walked output entries events (some e)) (entries' : List Located) :
    Walked output (entries ++ entries') events (some e) := by
  obtain ⟨earlier, entry, later, rfl, rfl⟩ := walked
  exact ⟨earlier, entry, later ++ entries', List.append_assoc .., rfl⟩

end Walked

/-- Why a conversion failed, if it did. -/
def failure? {α : Type} : Except ConvertError α → Option ConvertError
  | .ok _ => none
  | .error e => some e

/-- What a document's conversion comes to: a walk over the nodes, and the root's output unless a
call failed. -/
def WalksTree (node : Node) (answer : Except ConvertError String) (events : List (Event Unit)) :
    Prop :=
  ∃ output, Walked output node.postOrder events (failure? answer) ∧
    ∀ s, answer = .ok s → s = output []

/-- The same for trees in a row, of which the first is the child of the given number. -/
def WalksTrees (first : Nat) (nodes : List Node) (answer : Except ConvertError (List String))
    (events : List (Event Unit)) : Prop :=
  ∃ output, Walked output (Node.postOrderOfAll first nodes) events (failure? answer) ∧
    ∀ outputs, answer = .ok outputs →
      outputs = (List.range nodes.length).map fun i => output [first + i]

variable {first : Nat} {node : Node} {rest : List Node}

/-- If a tree fails, the trees behind it are not looked at. -/
lemma WalksTree.stop (walks : WalksTree node (.error e) events) (first : Nat)
    (rest : List Node) : WalksTrees first (node :: rest) (.error e) events := by
  obtain ⟨output, walked, _⟩ := walks
  have shifted : Walked (fun place => output place.tail) (node.postOrder.map (.under first))
      events (some e) := walked.under fun _ => rfl
  exact ⟨_, shifted.stop _, nofun⟩

/-- A tree that is converted comes before the trees behind it. -/
lemma WalksTree.append {s : String} {answer : Except ConvertError (List String)}
    (walks : WalksTree node (.ok s) events) (walks' : WalksTrees (first + 1) rest answer events') :
    WalksTrees first (node :: rest) (answer.map (s :: ·)) (events ++ events') := by
  obtain ⟨output, walked, root⟩ := walks
  obtain ⟨output', walked', roots⟩ := walks'
  -- the first step down tells which of the two walks gave the output at a place
  let joint : Place → String := fun place =>
    match place with
    | i :: below => if i = first then output below else output' (i :: below)
    | [] => ""
  have left : Walked joint (node.postOrder.map (.under first)) events none :=
    walked.under fun _ => if_pos rfl
  have right : Walked joint (Node.postOrderOfAll (first + 1) rest) events' (failure? answer) := by
    refine walked'.congr fun entry mem place => ?_
    obtain ⟨i, _, inner, _, _, rfl⟩ := Node.mem_postOrderOfAll_iff.mp mem
    have other : first + 1 + i ≠ first := by omega
    exact (if_neg other).symm
  refine ⟨joint, ?_, ?_⟩
  · have same : failure? (answer.map (s :: ·)) = failure? answer := by cases answer <;> rfl
    rw [same]
    exact left.append right
  · intro outputs converted
    cases answer with
    | error e => cases converted
    | ok tail =>
      cases converted
      have here : joint [first + 0] = s := (if_pos rfl).trans (root s rfl).symm
      have behind (i : Nat) : joint [first + (i + 1)] = output' [first + 1 + i] := by
        have other : first + (i + 1) ≠ first := by omega
        have number : first + 1 + i = first + (i + 1) := by omega
        rw [number]
        exact if_neg other
      rw [List.length_cons, List.range_succ_eq_map, List.map_cons, List.map_map, here,
        roots tail rfl]
      exact congrArg (s :: ·) (List.map_congr_left fun i _ => (behind i).symm)

/-- If a node's children fail, the node itself is not converted. -/
lemma WalksTrees.stop (walks : WalksTrees 0 node.children (.error e) events) :
    WalksTree node (.error e) events := by
  obtain ⟨output, walked, _⟩ := walks
  refine ⟨output, ?_, nofun⟩
  rw [Node.postOrder_eq]
  exact walked.stop _

/-- A node comes after its children, with their outputs as its content. -/
lemma WalksTrees.append {outputs : List String}
    (walks : WalksTrees 0 node.children (.ok outputs) events)
    (answer : Except ConvertError String) :
    WalksTree node answer
      (events ++ [.convert () ⟨node, Text.join "\n" outputs, none⟩ answer]) := by
  obtain ⟨output, walked, roots⟩ := walks
  -- the output of the root is the one that no child gave
  let joint (s : String) : Place → String := fun place =>
    match place with
    | [] => s
    | i :: below => output (i :: below)
  have children (s : String) :
      Walked (joint s) (Node.postOrderOfAll 0 node.children) events none := by
    refine walked.congr fun entry mem place => ?_
    obtain ⟨i, _, inner, _, _, rfl⟩ := Node.mem_postOrderOfAll_iff.mp mem
    rfl
  have task (s : String) :
      Located.task (joint s) ⟨[], node⟩ = ⟨node, Text.join "\n" outputs, none⟩ := by
    rw [roots outputs rfl, Located.task]
    simp only [Nat.zero_add]
    rfl
  cases answer with
  | ok s =>
    refine ⟨joint s, ?_, fun _ converted => by cases converted; rfl⟩
    have root : Walked (joint s) [⟨[], node⟩]
        [.convert () ⟨node, Text.join "\n" outputs, none⟩ (.ok s)] none := by
      rw [← task s]
      rfl
    rw [Node.postOrder_eq]
    exact (children s).append root
  | error e =>
    refine ⟨joint "", ?_, nofun⟩
    have root : Walked (joint "") [⟨[], node⟩]
        [.convert () ⟨node, Text.join "\n" outputs, none⟩ (.error e)] (some e) := by
      rw [← task ""]
      exact ⟨[], _, [], rfl, rfl⟩
    rw [Node.postOrder_eq]
    exact (children "").append root

namespace Converter

variable {μ : Type}

/-- The calls for trees in a row are those for each tree. -/
lemma documents_logs (converter : Converter μ) (files : FileTree) {nodes : List Node}
    (each : ∀ node ∈ nodes, ∀ memory,
      Logs ((converter.recorded ()).document files node) memory fun answer _ added =>
        WalksTree node answer added)
    (first : Nat) (memory : μ) :
    Logs ((converter.recorded ()).documents files nodes) memory fun answer _ added =>
      WalksTrees first nodes answer added := by
  induction nodes generalizing first memory with
  | nil =>
    refine .pure ⟨fun _ => "", rfl, ?_⟩
    rintro _ ⟨⟩
    rfl
  | cons node rest ih =>
    apply (each node List.mem_cons_self memory).bind
    intro answer memory' added walks
    cases answer with
    | error e =>
      apply Logs.pure
      rw [List.append_nil]
      exact walks.stop first rest
    | ok s =>
      apply (ih (fun node mem => each node (List.mem_cons_of_mem _ mem)) (first + 1) memory').bind
      intro answer memory'' added' walks'
      have walks := walks.append walks'
      cases answer <;>
      · apply Logs.pure
        rw [List.append_nil]
        exact walks

/-- The calls for a document are a walk over its nodes. -/
lemma document_logs (converter : Converter μ) (files : FileTree) (node : Node) (memory : μ) :
    Logs ((converter.recorded ()).document files node) memory fun answer _ added =>
      WalksTree node answer added := by
  induction node using Node.byChildren generalizing memory with
  | step node ih =>
    have children := documents_logs converter files ih 0 memory
    rw [document_eq]
    apply children.bind
    intro answer memory' added walks
    cases answer with
    | error e =>
      apply Logs.pure
      rw [List.append_nil]
      exact walks.stop
    | ok outputs => exact .record (walks.append _)

/-- Converting a document is a walk over its nodes in post-order, whatever the converter remembers
and answers. Each node is converted at most once, without a transform and with the outputs of its
children, one below the other, as its content. If no call fails, there is one for each node and the
result is the root's output. Else the calls are those up to the first one that fails, and its error
is the result. -/
theorem document_walk (converter : Converter μ) (files : FileTree) (root : Node) (memory : μ) :
    let run := ((converter.recorded ()).document files root).run ⟨memory, []⟩
    (converter.document files root).run memory = (run.1, run.2.memory) ∧
    (∀ entry, entry ∈ root.postOrder ↔ root.at? entry.place = some entry.node) ∧
    (root.postOrder.map (·.place)).Nodup ∧
    ∃ output : Place → String,
      (run.1 = .ok (output []) ∧
        run.2.events = root.postOrder.map fun entry =>
          .convert () (entry.task output) (.ok (output entry.place))) ∨
      ∃ earlier entry later e, root.postOrder = earlier ++ entry :: later ∧
        run.1 = .error e ∧
        run.2.events = (earlier.map fun entry =>
            .convert () (entry.task output) (.ok (output entry.place))) ++
          [.convert () (entry.task output) (.error e)] := by
  intro run
  have plays := ((Converter.Plays.recorded converter ()).document files root) ⟨memory, []⟩
  refine ⟨plays, fun _ => Node.mem_postOrder_iff, root.nodup_postOrder, ?_⟩
  obtain ⟨added, grows, output, walked, answered⟩ := document_logs converter files root memory []
  have events : run.2.events = added := grows
  refine ⟨output, ?_⟩
  rw [events]
  cases answer : run.1 with
  | ok s =>
    have all : Walked output root.postOrder added (failure? run.1) := walked
    rw [answer] at all
    exact .inl ⟨congrArg _ (answered s answer), all⟩
  | error e =>
    have cut : Walked output root.postOrder added (failure? run.1) := walked
    rw [answer] at cut
    obtain ⟨earlier, entry, later, split, calls⟩ := cut
    exact .inr ⟨earlier, entry, later, e, split, rfl, calls⟩

end Converter

end Quire
