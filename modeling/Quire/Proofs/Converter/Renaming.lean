import Quire.Proofs.Converter.Attributes
import Quire.Proofs.Converter.Routing
import Quire.Proofs.Node.RoundTrip
import Quire.Proofs.Template.Search

/-!
# Transforms as new names

A transform stands in for the name of a node. Which leaf of a graph converts the node is decided by
the name that is left, and so is the template of a layer. Built-in converters and stand-ins see
nothing else of either, so that for them a transform is a new name; what a template sees is the node
with the name that it has.

* `Converter.Settled.steady`, `Converter.Settled.fixed`: settled converters in an ordered search.
* `Graph.outcome_eq`: what a graph comes to is what one of its leaves comes to.
* `Builtin.output_renamed`, `Leaf.outcome_renamed`: leaves without template.
* `Template.Layer.converted_of_view`: layers with a template.
* `Graph.transform_renames`: whole graphs.
-/

namespace Quire

open Template (Layer Memory Loaded Found Compiled)

namespace Converter

variable {μ : Type} {kept : μ → Prop} {converter : Converter μ} {files : FileTree} {task : Task}
  {handled : Bool} {outcome : Except ConvertError String}

/-- A settled converter tries what it would try if it asked itself first. -/
lemma Settled.steady (settled : Settled kept converter files task handled outcome) :
    Steady kept converter files task handled := by
  have asking : Settled kept converter.asking files task handled outcome :=
    .ofHandles settled.handles settled.convert settled.declines
  refine ⟨settled.handles, ?_, ?_⟩
  · intro memory holds
    rw [(settled.tryConvert memory holds).1, (asking.tryConvert memory holds).1]
  · rintro - memory holds
    exact (settled.tryConvert memory holds).2

lemma Settled.fixed (settled : Settled kept converter files task handled outcome) :
    converter.Fixed kept files task := by
  intro memory memory' holds holds'
  rw [(settled.convert memory holds).1, (settled.convert memory' holds').1]

end Converter

namespace Graph

/-- A graph leaves a node to one of its leaves, if to any. -/
lemma mem_leaves_of_last {ι : Type} {graph : Graph ι} {i : ι} (last : graph.last = .ok i) :
    i ∈ graph.leaves := by
  induction graph with
  | leaf j =>
    cases last
    exact List.mem_cons_self
  | overridesOnly backend overrides => cases last
  | composite backend overrides base _ below => exact List.mem_append_right _ (below last)

lemma mem_leaves_of_route {ι : Type} {handled : ι → Bool} {graph : Graph ι} {i : ι}
    (way : graph.route handled = .ok i) : i ∈ graph.leaves := by
  unfold route at way
  split at way
  next j found =>
    cases way
    exact List.mem_of_find?_eq_some found
  next => exact mem_leaves_of_last way

variable {κ : Type} (layers : Nat → Layer) (files : FileTree) (start : Memory κ)

/-- After any calls in the same files, what a graph comes to is what the leaf comes to that the node
is left to. -/
lemma outcome_eq (graph : Graph Leaf) (earlier : List Converter.Call) (task : Task) :
    let converter := graph.converter (Leaf.converter layers)
    ((converter.convert files task).run (converter.after files earlier start)).1 =
      match graph.route (Leaf.handled layers files start task.name) with
      | .ok i => i.outcome layers files start task
      | .error backend => .error (.noConverter backend task.name) := by
  intro converter
  have settled (task : Task) := graph.settled (Leaf.settled layers files start task)
  have kept : SameViews layers files start (converter.after files earlier start) :=
    Converter.kept_after settled earlier fun _ _ => rfl
  rw [convert_eq (fun i => (i.settles layers files start task).steady) graph
    (fun i _ => (i.settles layers files start task).fixed) kept kept]
  cases graph.route (Leaf.handled layers files start task.name) with
  | error backend => rfl
  | ok i => exact ((i.settles layers files start task).convert _ kept).1

end Graph

/-- No rendering sees the name of a node. -/
lemma Builtin.render_named (format : Builtin) (kind : Kind) (node : Node) (content name : String) :
    format.render kind { node with name } content = format.render kind node content := by
  have same : Node.SameView { node with name } node := ⟨rfl, rfl, rfl, rfl, rfl⟩
  exact format.render_congr kind same content

/-- A task whose node bears the name that chooses how it is converted. -/
def Task.renamed (task : Task) : Task :=
  ⟨{ task.node with name := task.name }, task.content, none⟩

/-- To a format a transform is a new name. -/
lemma Builtin.output_renamed (format : Builtin) (task : Task) :
    format.output task.renamed = format.output task := by
  have named : task.renamed.name = task.name := rfl
  unfold Builtin.output
  rw [named]
  cases Kind.ofName? task.name with
  | none => rfl
  | some kind =>
    exact congrArg Except.ok (format.render_named kind task.node task.content task.name)

namespace Template.Layer

/-- So it is to a layer that has no template for the task. -/
lemma convertedIn_renamed (layer : Layer) (task : Task) {seen : Except LookupError (Option Loaded)}
    (missing : ∀ loaded, seen ≠ .ok (some loaded)) :
    layer.convertedIn task.renamed seen = layer.convertedIn task seen := by
  cases seen with
  | error e => rfl
  | ok found =>
    cases found with
    | none => rfl
    | some loaded => exact (missing loaded rfl).elim

/-- What a template comes to with the value that it sees of a node. -/
def rendered (layer : Layer) (name : String) (loaded : Loaded) (value : Json) :
    Except ConvertError String :=
  match loaded.compiled with
  | .error cause => .error (.badTemplate name layer.backend loaded.template.path cause)
  | .ok compiled => (compiled value).mapError (.render name layer.backend loaded.template.path)

lemma render_eq (layer : Layer) (loaded : Loaded) (task : Task) :
    layer.render loaded task = layer.rendered task.name loaded (layer.context task) := by
  unfold render rendered
  cases loaded.compiled with
  | error cause => rfl
  | ok compiled =>
    dsimp only
    cases compiled (layer.context task) <;> rfl

/-- The template that is shown for a name is the one that is seen under it. -/
lemma resolves_iff {layer : Layer} {files : FileTree} {state : LayerState} {name : String}
    {template : Found} :
    ((layer.resolve files name).run state).1 = .ok (some template) ↔
      ∃ loaded, layer.view files state name = .ok (some loaded) ∧ loaded.template = template := by
  rw [run_resolve]
  cases layer.view files state name with
  | error e => simp [Except.map]
  | ok found => cases found <;> simp [Except.map]

end Template.Layer

/-- What a leaf comes to is the same under a new name, but for layers with a template. -/
lemma Leaf.outcome_renamed {κ : Type} {layers : Nat → Layer} {files : FileTree} {start : Memory κ}
    {task : Task} {i : Leaf}
    (missing : ∀ id, i = .layer id → ∀ template,
      (((layers id).resolve files task.name).run (start.layers id)).1 ≠ .ok (some template)) :
    i.outcome layers files start task.renamed = i.outcome layers files start task := by
  cases i with
  | builtin format => exact format.output_renamed task
  | unsupported backend => rfl
  | layer id =>
    apply Layer.convertedIn_renamed
    intro loaded seen
    exact missing id rfl loaded.template (Layer.resolves_iff.mpr ⟨loaded, seen, rfl⟩)

namespace Node

variable (node : Node)

/-- The name of a node is written first. -/
lemma members_eq : node.members = ("node_name", .string node.name) :: node.members.tail := by
  cases node
  simp only [members, List.append_assoc, List.cons_append, List.nil_append, List.tail_cons]

/-- Nothing else that is written hangs on the name. -/
lemma tail_members_named (name : String) :
    (members { node with name }).tail = node.members.tail := by
  cases node
  simp only [members, List.append_assoc, List.cons_append, List.nil_append, List.tail_cons]

end Node

/-- A template sees a node under the name that it has. -/
lemma Template.Layer.context_eq (layer : Layer) (task : Task) :
    layer.context task =
      .object [("backend", .string layer.backend),
        ("node", (Json.object (("node_name", .string task.node.name) ::
          (task.node.members.tail ++ [("content", .string task.content)]))).sorted)] := by
  rw [context, Task.toJson, ← List.cons_append, ← task.node.members_eq]

/-- This name is what it finds under `node_name`. -/
lemma Template.Layer.follow_node_name (layer : Layer) (task : Task) :
    Template.Language.follow (layer.context task) ["node", "node_name"] =
      some (.string task.node.name) := by
  rw [Node.follow_context, task.node.members_eq, List.cons_append, Entries.find?_cons, if_pos rfl]
  rfl

/-- A layer that finds a template shows it the node. -/
lemma Template.Layer.converted_of_view {κ : Type} {layers : Nat → Layer} {files : FileTree}
    {start : Memory κ} {id : Nat} {task : Task} {loaded : Loaded}
    (seen : (layers id).view files (start.layers id) task.name = .ok (some loaded)) :
    ((((layers id).converter id).convert files task).run start).1 =
      (layers id).rendered task.name loaded ((layers id).context task) := by
  have settled := (Leaf.layer id).settles layers files start task
  have outcome : ((((layers id).converter id).convert files task).run start).1 =
      (layers id).convertedIn task ((layers id).view files (start.layers id) task.name) :=
    (settled.convert start fun _ _ => rfl).1
  rw [outcome, seen]
  exact (layers id).render_eq loaded task

/-- A transform stands in for the name of a node wherever no template is found for it: a graph comes
to the same with the transform and without it for the node of that name, after any calls in the same
files. In either case the node is left to the same leaf. A layer that finds a template for the
transform renders that template in either case, as it has loaded it, and the template sees the node
under the name that it has, with its other members and its content. -/
theorem Graph.transform_renames {κ : Type} (layers : Nat → Layer) (files : FileTree)
    (start : Memory κ) (graph : Graph Leaf) (node : Node) (content t : String) :
    let converter := graph.converter (Leaf.converter layers)
    let given : Task := ⟨node, content, some t⟩
    let renamed : Task := ⟨{ node with name := t }, content, none⟩
    let comes (task : Task) (earlier : List Converter.Call) :=
      ((converter.convert files task).run (converter.after files earlier start)).1
    let finds (id : Nat) (template : Found) :=
      (((layers id).resolve files t).run (start.layers id)).1 = .ok (some template)
    ((∀ id, Leaf.layer id ∈ graph.leaves → ∀ template, ¬finds id template) →
      ∀ earlier earlier', comes given earlier = comes renamed earlier') ∧
    (∃ way : Except String Leaf,
      (∀ i, way = .ok i → i ∈ graph.leaves) ∧
      ∀ task, task = given ∨ task = renamed → ∀ earlier, comes task earlier =
        match way with
        | .ok i => (((i.converter layers).convert files task).run start).1
        | .error backend => .error (.noConverter backend t)) ∧
    ∀ id template, finds id template → ∃ loaded,
      (((layers id).load files t).run (start.layers id)).1 = .ok (some loaded) ∧
      loaded.template = template ∧
      ∀ task shown, (task = given ∧ shown = node.name) ∨ (task = renamed ∧ shown = t) →
        let seen : Json := .object [("backend", .string (layers id).backend),
          ("node", (Json.object (("node_name", .string shown) ::
            (node.members.tail ++ [("content", .string content)]))).sorted)]
        Template.Language.follow seen ["node", "node_name"] = some (.string shown) ∧
        ((((layers id).converter id).convert files task).run start).1 =
          (layers id).rendered t loaded seen := by
  intro converter given renamed comes finds
  have comesBy (task : Task) (named : task.name = t) (earlier : List Converter.Call) :
      comes task earlier =
        match graph.route (Leaf.handled layers files start t) with
        | .ok i => i.outcome layers files start task
        | .error backend => .error (.noConverter backend t) := by
    rw [← named]
    exact graph.outcome_eq layers files start earlier task
  refine ⟨?_, ?_, ?_⟩
  · intro nowhere earlier earlier'
    rw [comesBy given rfl, comesBy renamed rfl]
    cases way : graph.route (Leaf.handled layers files start t) with
    | error backend => rfl
    | ok i =>
      have missing : ∀ id, i = .layer id → ∀ template, ¬finds id template := by
        rintro id rfl template
        exact nowhere id (mem_leaves_of_route way) template
      have same : i.outcome layers files start given.renamed =
          i.outcome layers files start given := Leaf.outcome_renamed missing
      exact same.symm
  · refine ⟨graph.route (Leaf.handled layers files start t), ?_, ?_⟩
    · intro i way
      exact mem_leaves_of_route way
    · intro task either earlier
      have named : task.name = t := by rcases either with rfl | rfl <;> rfl
      rw [comesBy task named]
      cases graph.route (Leaf.handled layers files start t) with
      | error backend => rfl
      | ok i => exact ((i.settles layers files start task).convert start fun _ _ => rfl).1.symm
  · intro id template found
    obtain ⟨loaded, view, same⟩ := Layer.resolves_iff.mp found
    refine ⟨loaded, by rw [Layer.run_load, view], same, ?_⟩
    rintro task shown (⟨rfl, rfl⟩ | ⟨rfl, rfl⟩)
    · have context := (layers id).context_eq given
      rw [Layer.converted_of_view view]
      rw [← context]
      exact ⟨(layers id).follow_node_name given, rfl⟩
    · have context := (layers id).context_eq renamed
      rw [node.tail_members_named] at context
      rw [Layer.converted_of_view view]
      rw [← context]
      exact ⟨(layers id).follow_node_name renamed, rfl⟩

/-- A cached layer with a template for listings, in an engine that writes what it sees, in front of
the built-in converter. A table that is converted as a paragraph is a paragraph; one that is
converted as a listing goes to the template for listings and is still a table there. -/
theorem Graph.transform_renames_table :
    let engine : Template.Engine := ⟨"plain", "txt", fun _ _ => .ok fun value => .ok value.compact⟩
    let layers : Nat → Layer := fun _ => .inDirectories "html5" ["t"] "/w" engine true
    let files : FileTree :=
      { root := .directory
          [("w", .directory [("t", .directory [("listing.txt", .file ⟨#[120]⟩)])])]
        workingDir := ["w"] }
    let graph : Graph Leaf := .composite "html5" (.leaf (.layer 0)) (.leaf (.builtin .html5))
    let converter := graph.converter (Leaf.converter (κ := Unit) layers)
    let node := (Node.named "table").withText "a"
    let comes (task : Task) := ((converter.convert files task).run (Memory.fresh ())).1
    let finds (name : String) (id : Nat) (template : Found) :=
      (((layers id).resolve files name).run ((Memory.fresh ()).layers id)).1 = .ok (some template)
    (∀ id, Leaf.layer id ∈ graph.leaves → ∀ template, ¬finds "paragraph" id template) ∧
    comes ⟨node, "", some "paragraph"⟩ = comes ⟨{ node with name := "paragraph" }, "", none⟩ ∧
    finds "listing" 0 ⟨"listing", "/w/t/listing.txt", "x"⟩ ∧
    ((((layers 0).converter 0).convert files ⟨node, "", some "listing"⟩).run
      (Memory.fresh ())).1 =
      .ok ("\x7b\"backend\":\"html5\",\"node\":\x7b\"content\":\"\"," ++
        "\"node_name\":\"table\",\"text\":\"a\"\x7d\x7d") := by
  intro engine layers files graph converter node comes finds
  have seen (id : Nat) (name : String) : (layers id).view files ((Memory.fresh ()).layers id) name =
      (layers id).loading files name := Layer.view_of_unknown rfl
  have nowhere : ∀ id, Leaf.layer id ∈ graph.leaves → ∀ template,
      ¬finds "paragraph" id template := by
    intro id _ template found
    have missing : (layers id).search.resolve files "paragraph" = .ok none := by decide +kernel
    obtain ⟨loaded, there, -⟩ := Layer.resolves_iff.mp found
    rw [seen, Layer.loading, missing] at there
    cases there
  have there : (layers 0).view files ((Memory.fresh ()).layers 0) "listing" =
      .ok (some ⟨⟨"listing", "/w/t/listing.txt", "x"⟩,
        engine.compile "/w/t/listing.txt" "x"⟩) := by
    have resolved : (layers 0).search.resolve files "listing" =
        .ok (some ⟨"listing", "/w/t/listing.txt", "x"⟩) := by decide +kernel
    rw [seen, Layer.loading, resolved]
    rfl
  have found : finds "listing" 0 ⟨"listing", "/w/t/listing.txt", "x"⟩ :=
    Layer.resolves_iff.mpr ⟨_, there, rfl⟩
  obtain ⟨same, -, -⟩ := transform_renames layers files (Memory.fresh ()) graph node "" "paragraph"
  obtain ⟨-, -, sees⟩ := transform_renames layers files (Memory.fresh ()) graph node "" "listing"
  obtain ⟨loaded, load, -, each⟩ := sees 0 _ found
  rw [Layer.run_load, there] at load
  cases load
  obtain ⟨-, outcome⟩ := each _ "table" (.inl ⟨rfl, rfl⟩)
  exact ⟨nowhere, same nowhere [] [], found, outcome.trans (congrArg Except.ok (by decide +kernel))⟩

end Quire
