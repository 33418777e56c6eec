import Mathlib.Tactic.Lemma
import Quire.Converter.Builtin
import Quire.Proofs.Template.Layer

/-!
# Graphs of converters

Composites of any shape over given leaves. A step of a converter gives a value under a condition on
the memory that the step keeps; for as long as the files do not change, what the layers of a graph
see is such a condition. A converter is settled on a task if each of its three entry points gives a
value and the three values fit together.

* `Settled.composite`, `Settled.overridesOnly`: composites of settled converters are settled.
* `Leaf.settled`, `Graph.settled`: so is every graph of built-in converters, stand-ins and layers.
* `handles_exact`: what `handles` says is what the other two entry points do.
-/

namespace Quire

/-- The errors of a converter that has nothing for a node. -/
def ConvertError.Declines : ConvertError → Prop
  | noTemplate _ _ => True
  | noConverter _ _ => True
  | unsupportedNode _ _ => True
  | badTemplate _ _ _ _ => False
  | render _ _ _ _ => False
  | lookup _ _ _ => False

namespace Converter

variable {μ : Type}

/-- From every memory that meets a condition, a step gives the value and keeps the condition. -/
def Gives {α : Type} (kept : μ → Prop) (step : StateM μ α) (value : α) : Prop :=
  ∀ memory, kept memory → (step.run memory).1 = value ∧ kept (step.run memory).2

/-- A step without effect gives its value. -/
lemma Gives.pure {α : Type} {kept : μ → Prop} {value : α} :
    Gives kept (Pure.pure value) value :=
  fun _ holds => ⟨rfl, holds⟩

/-- Steps in a row give what the last one gives. -/
lemma Gives.bind {α β : Type} {kept : μ → Prop} {step : StateM μ α} {value : α}
    {next : α → StateM μ β} {result : β} (first : Gives kept step value)
    (second : Gives kept (next value) result) : Gives kept (step >>= next) result := by
  intro memory holds
  obtain ⟨same, holds'⟩ := first memory holds
  have passed := second _ holds'
  rw [← same] at passed
  exact passed

/-- What the entry points of a converter give for a task: whether it is handled, and the outcome of
converting it. -/
structure Settled (kept : μ → Prop) (converter : Converter μ) (files : FileTree) (task : Task)
    (handled : Bool) (outcome : Except ConvertError String) : Prop where
  handles : Gives kept (converter.handles files task.name) handled
  convert : Gives kept (converter.convert files task) outcome
  tryConvert : Gives kept (converter.tryConvert files task)
    (if handled then outcome.map some else .ok none)
  declines : handled = false ↔ ∃ e, outcome = .error e ∧ e.Declines

/-- A call of a converter. -/
inductive Call where
  | handles (name : String)
  | convert (task : Task)
  | tryConvert (task : Task)

/-- The memory after a call. -/
def afterCall (converter : Converter μ) (files : FileTree) (memory : μ) : Call → μ
  | .handles name => ((converter.handles files name).run memory).2
  | .convert task => ((converter.convert files task).run memory).2
  | .tryConvert task => ((converter.tryConvert files task).run memory).2

/-- The memory after calls between which the files stay the same. -/
def after (converter : Converter μ) (files : FileTree) (calls : List Call) (memory : μ) : μ :=
  calls.foldl (converter.afterCall files) memory

/-- What `handles` said fits the outcome of converting and of trying to. -/
structure Exact (handled : Bool) (outcome : Except ConvertError String)
    (attempt : Except ConvertError (Option String)) : Prop where
  declines : handled = false ↔ ∃ e, outcome = .error e ∧ e.Declines
  attempts : handled = false ↔ attempt = .ok none
  agrees : handled = true → attempt = outcome.map some

variable {kept : μ → Prop} {files : FileTree} {task : Task} {handled handled' : Bool}
  {outcome outcome' : Except ConvertError String}

/-- The condition under which a converter is settled on everything outlasts all calls. -/
lemma kept_after {converter : Converter μ}
    (settled : ∀ task, ∃ handled outcome, Settled kept converter files task handled outcome)
    (calls : List Call) {memory : μ} (holds : kept memory) :
    kept (converter.after files calls memory) := by
  induction calls generalizing memory with
  | nil => exact holds
  | cons call rest ih =>
    apply ih
    cases call with
    | handles name =>
      obtain ⟨_, _, one⟩ := settled ⟨Node.named name, "", none⟩
      exact (one.handles memory holds).2
    | convert task =>
      obtain ⟨_, _, one⟩ := settled task
      exact (one.convert memory holds).2
    | tryConvert task =>
      obtain ⟨_, _, one⟩ := settled task
      exact (one.tryConvert memory holds).2

/-- The entry points of a settled converter fit together, each from a memory of its own. -/
lemma Settled.exact {converter : Converter μ} {first second third : μ}
    (settled : Settled kept converter files task handled outcome) (holds : kept first)
    (holds' : kept second) (holds'' : kept third) :
    Exact ((converter.handles files task.name).run first).1
      ((converter.convert files task).run second).1
      ((converter.tryConvert files task).run third).1 := by
  rw [(settled.handles first holds).1, (settled.convert second holds').1,
    (settled.tryConvert third holds'').1]
  refine ⟨settled.declines, ?_, ?_⟩
  · cases handled with
    | false => exact ⟨fun _ => rfl, fun _ => rfl⟩
    | true => cases outcome <;> exact ⟨nofun, nofun⟩
  · intro same
    rw [if_pos same]

/-- A converter that asks itself before it converts is settled if its two other entry points are. -/
lemma Settled.ofHandles {backend : String} {handles : FileTree → String → StateM μ Bool}
    {convert : FileTree → Task → StateM μ (Except ConvertError String)}
    (answers : Gives kept (handles files task.name) handled)
    (converts : Gives kept (convert files task) outcome)
    (declines : handled = false ↔ ∃ e, outcome = .error e ∧ e.Declines) :
    Settled kept (.ofHandles backend handles convert) files task handled outcome where
  handles := answers
  convert := converts
  tryConvert := by
    cases handled with
    | true => exact answers.bind (converts.bind .pure)
    | false => exact answers.bind .pure
  declines := declines

/-- A composite whose base is absent is settled on what its overrides are settled on. -/
lemma Settled.overridesOnly {backend : String} {overrides : Converter μ}
    (above : Settled kept overrides files task handled outcome) :
    Settled kept (.composite backend overrides none) files task handled
      (if handled then outcome else .error (.noConverter backend task.name)) := by
  refine .ofHandles ?_ ?_ ?_
  · apply above.handles.bind
    cases handled <;> exact .pure
  · apply above.tryConvert.bind
    cases handled with
    | true => cases outcome <;> exact .pure
    | false => exact .pure
  · cases handled with
    | true => exact above.declines
    | false => exact ⟨fun _ => ⟨_, rfl, trivial⟩, fun _ => rfl⟩

/-- A composite is settled on what its overrides handle as they are, and on the rest as its base. -/
lemma Settled.composite {backend : String} {overrides base : Converter μ}
    (above : Settled kept overrides files task handled outcome)
    (below : Settled kept base files task handled' outcome') :
    Settled kept (.composite backend overrides (some base)) files task (handled || handled')
      (if handled then outcome else outcome') := by
  refine .ofHandles ?_ ?_ ?_
  · apply above.handles.bind
    cases handled with
    | true => exact .pure
    | false => exact below.handles
  · apply above.tryConvert.bind
    cases handled with
    | true => cases outcome <;> exact .pure
    | false => exact below.convert
  · cases handled with
    | true => exact above.declines
    | false => exact below.declines

end Converter

/-- Composites of any shape over leaves. -/
inductive Graph (ι : Type) where
  | leaf (converter : ι)
  | overridesOnly (backend : String) (overrides : Graph ι)
  | composite (backend : String) (overrides base : Graph ι)

namespace Graph

open Converter (Settled)

variable {ι μ : Type}

/-- The converter of a graph, given the converters of its leaves. -/
def converter (leaf : ι → Converter μ) : Graph ι → Converter μ
  | .leaf i => leaf i
  | .overridesOnly backend overrides => .composite backend (overrides.converter leaf) none
  | .composite backend overrides base =>
    .composite backend (overrides.converter leaf) (some (base.converter leaf))

/-- A graph is settled on what its leaves are settled on. -/
lemma settled {leaf : ι → Converter μ} {kept : μ → Prop} {files : FileTree} {task : Task}
    (leaves : ∀ i, ∃ handled outcome, Settled kept (leaf i) files task handled outcome)
    (graph : Graph ι) :
    ∃ handled outcome, Settled kept (graph.converter leaf) files task handled outcome := by
  induction graph with
  | leaf i => exact leaves i
  | overridesOnly backend overrides above =>
    obtain ⟨_, _, above⟩ := above
    exact ⟨_, _, above.overridesOnly⟩
  | composite backend overrides base above below =>
    obtain ⟨_, _, above⟩ := above
    obtain ⟨_, _, below⟩ := below
    exact ⟨_, _, above.composite below⟩

end Graph

/-- A format declines exactly the nodes whose name is not listed. -/
lemma Builtin.declines_iff (format : Builtin) (task : Task) :
    Kind.isKnown task.name = false ↔ ∃ e, format.output task = .error e ∧ e.Declines := by
  rw [Kind.isKnown_eq_isSome]
  unfold Builtin.output
  cases Kind.ofName? task.name with
  | none => exact ⟨fun _ => ⟨_, rfl, trivial⟩, fun _ => rfl⟩
  | some kind => exact ⟨nofun, fun ⟨_, failed, _⟩ => nomatch failed⟩

/-- Built-in converters are settled, whatever the memory. -/
lemma Builtin.settled {μ : Type} (format : Builtin) (kept : μ → Prop) (files : FileTree)
    (task : Task) :
    format.converter.Settled kept files task (Kind.isKnown task.name) (format.output task) :=
  .ofHandles .pure .pure (format.declines_iff task)

/-- A stand-in is settled, whatever the memory. -/
lemma Converter.settled_unsupported {μ : Type} (backend : String) (kept : μ → Prop)
    (files : FileTree) (task : Task) :
    (Converter.unsupported backend).Settled kept files task false
      (.error (.noConverter backend task.name)) :=
  .ofHandles .pure .pure ⟨fun _ => ⟨_, rfl, trivial⟩, fun _ => rfl⟩

namespace Template.Layer

/-- The output of a loaded template may fail, but is never declined. -/
lemma not_declines_render (layer : Layer) (loaded : Loaded) (task : Task)
    {e : ConvertError} (failed : layer.render loaded task = .error e) : ¬e.Declines := by
  unfold render at failed
  split at failed
  next => cases failed; exact id
  next =>
    split at failed
    next => cases failed
    next => cases failed; exact id

/-- A layer declines exactly the nodes without template; a template that is there and cannot be read
or rendered is not declined. -/
lemma declines_iff (layer : Layer) (task : Task)
    (seen : Except LookupError (Option Loaded)) :
    handledIn seen = false ↔ ∃ e, layer.convertedIn task seen = .error e ∧ e.Declines := by
  cases seen with
  | error e =>
    refine ⟨nofun, ?_⟩
    rintro ⟨_, failed, declines⟩
    cases failed
    exact declines.elim
  | ok found =>
    cases found with
    | none => exact ⟨fun _ => ⟨_, rfl, trivial⟩, fun _ => rfl⟩
    | some loaded =>
      refine ⟨nofun, ?_⟩
      rintro ⟨_, failed, declines⟩
      exact (not_declines_render layer loaded task failed declines).elim

/-- What a layer does with a node hangs on whether it counts as handled. -/
lemma triedIn_eq (layer : Layer) (task : Task)
    (seen : Except LookupError (Option Loaded)) :
    layer.triedIn task seen =
      if handledIn seen then (layer.convertedIn task seen).map some else .ok none := by
  cases seen with
  | error e => rfl
  | ok found => cases found <;> rfl

/-- A layer is settled by what it sees under the name of the task, if settling its state keeps the
condition. -/
lemma settled {κ : Type} {kept : Memory κ → Prop} {layer : Layer} {id : Nat} {files : FileTree}
    {task : Task} {seen : Except LookupError (Option Loaded)}
    (sees : ∀ memory, kept memory → layer.view files (memory.layers id) task.name = seen)
    (keeps : ∀ memory, kept memory →
      kept (memory.withLayer id (layer.settle files (memory.layers id) task.name))) :
    (layer.converter id).Settled kept files task (handledIn seen)
      (layer.convertedIn task seen) where
  handles memory holds := by
    have answer : ((layer.converter id).handles files task.name).run memory =
        (Memory.onLayer id (layer.handles files task.name)).run memory := rfl
    rw [answer, Memory.run_onLayer, run_handles, sees memory holds]
    refine ⟨rfl, ?_⟩
    cases layer.cached with
    | true => exact keeps memory holds
    | false =>
      rw [if_neg Bool.false_ne_true, Memory.withLayer_self]
      exact holds
  convert memory holds := by
    have answer : ((layer.converter id).convert files task).run memory =
        (Memory.onLayer id (layer.convert files task)).run memory := rfl
    rw [answer, Memory.run_onLayer, run_convert, sees memory holds]
    exact ⟨rfl, keeps memory holds⟩
  tryConvert memory holds := by
    have answer : ((layer.converter id).tryConvert files task).run memory =
        (Memory.onLayer id (layer.tryConvert files task)).run memory := rfl
    rw [answer, Memory.run_onLayer, run_tryConvert, sees memory holds, triedIn_eq]
    exact ⟨rfl, keeps memory holds⟩
  declines := declines_iff ..

/-- A layer without cache is settled, whatever the memory. -/
lemma settled_of_uncached {κ : Type} {layer : Layer} (uncached : layer.cached = false) (id : Nat)
    (files : FileTree) (task : Task) :
    (layer.converter (κ := κ) id).Settled (fun _ => True) files task
      (handledIn (layer.loading files task.name))
      (layer.convertedIn task (layer.loading files task.name)) :=
  settled (fun _ _ => view_of_uncached uncached) fun _ _ => trivial

end Template.Layer

open Template (Layer Memory)

variable {κ : Type}

/-- The memories in which the layers see the same as in a given one. -/
def SameViews (layers : Nat → Layer) (files : FileTree) (start memory : Memory κ) : Prop :=
  ∀ id name, (layers id).view files (memory.layers id) name =
    (layers id).view files (start.layers id) name

/-- No look-up in the same files changes what any layer sees. -/
lemma SameViews.settle {layers : Nat → Layer} {files : FileTree} {start memory : Memory κ}
    (same : SameViews layers files start memory) (id : Nat) (name : String) :
    SameViews layers files start
      (memory.withLayer id ((layers id).settle files (memory.layers id) name)) := by
  intro other name'
  rw [Memory.layers_withLayer]
  by_cases own : other = id
  · subst own
    rw [if_pos rfl, Layer.view_settle]
    exact same other name'
  · rw [if_neg own]
    exact same other name'

/-- A converter that is not a composite; a layer is told by its number. -/
inductive Leaf where
  | builtin (format : Builtin)
  | unsupported (backend : String)
  | layer (id : Nat)

namespace Leaf

open Converter (Settled Gives)

/-- The converter of a leaf, given which layer remembers under which number. -/
def converter (layers : Nat → Layer) : Leaf → Converter (Memory κ)
  | .builtin format => format.converter
  | .unsupported backend => .unsupported backend
  | .layer id => (layers id).converter id

section

variable (layers : Nat → Layer) (files : FileTree) (start : Memory κ)

/-- Whether a leaf handles nodes of a name. -/
def handled (name : String) : Leaf → Bool
  | builtin _ => Kind.isKnown name
  | unsupported _ => false
  | layer id => Layer.handledIn ((layers id).view files (start.layers id) name)

/-- What a leaf comes to. -/
def outcome (task : Task) : Leaf → Except ConvertError String
  | builtin format => format.output task
  | unsupported backend => .error (.noConverter backend task.name)
  | layer id => (layers id).convertedIn task ((layers id).view files (start.layers id) task.name)

/-- Leaves are settled as long as the layers see the same. -/
lemma settles (task : Task) (leaf : Leaf) :
    Settled (SameViews layers files start) (leaf.converter layers) files task
      (leaf.handled layers files start task.name) (leaf.outcome layers files start task) := by
  cases leaf with
  | builtin format => exact format.settled _ files task
  | unsupported backend => exact Converter.settled_unsupported backend _ files task
  | layer id =>
    exact Layer.settled (fun _ same => same id task.name) fun _ same => same.settle id task.name

lemma settled (task : Task) (leaf : Leaf) :
    ∃ handled outcome,
      Settled (SameViews layers files start) (leaf.converter layers) files task handled outcome :=
  ⟨_, _, leaf.settles layers files start task⟩

end

end Leaf

/-- A graph of built-in converters, stand-ins, layers and composites handles exactly what it does
not decline, and tries to convert exactly what it handles. The three calls may come after any calls
of the graph in the same files, so in any order, and the layers may remember anything. The built-in
converters know exactly the listed names, and a template that cannot be read is handled. -/
theorem Graph.handles_exact (layers : Nat → Layer) (files : FileTree) (start : Memory κ) :
    (∀ (graph : Graph Leaf) (earlier earlier' earlier'' : List Converter.Call) (task : Task),
      let converter := graph.converter (Leaf.converter (κ := κ) layers)
      Converter.Exact
        ((converter.handles files task.name).run (converter.after files earlier start)).1
        ((converter.convert files task).run (converter.after files earlier' start)).1
        ((converter.tryConvert files task).run (converter.after files earlier'' start)).1) ∧
    (∀ (format : Builtin) (task : Task),
      task.name ∈ Kind.names ↔ ∃ output, format.output task = .ok output) ∧
    ∀ (id : Nat) (name : String) (e : Template.LookupError),
      (((layers id).load files name).run (start.layers id)).1 = .error e →
        ((((layers id).converter id).handles files name).run start).1 = true := by
  refine ⟨?_, ?_, ?_⟩
  · intro graph earlier earlier' earlier'' task converter
    have settled (task : Task) := graph.settled (Leaf.settled layers files start task)
    have kept (calls : List Converter.Call) := Converter.kept_after settled calls fun _ _ => rfl
    obtain ⟨_, _, one⟩ := settled task
    exact one.exact (kept earlier) (kept earlier') (kept earlier'')
  · intro format task
    have listed : task.name ∈ Kind.names ↔ Kind.isKnown task.name = true :=
      List.contains_iff_mem.symm
    rw [listed, Kind.isKnown_eq_isSome]
    unfold Builtin.output
    cases Kind.ofName? task.name with
    | none => exact ⟨nofun, nofun⟩
    | some kind => exact ⟨fun _ => ⟨_, rfl⟩, fun _ => rfl⟩
  · intro id name e failed
    rw [Layer.run_load] at failed
    have unreadable : (layers id).view files (start.layers id) name = .error e := failed
    calc ((((layers id).converter id).handles files name).run start).1
        = (((layers id).handles files name).run (start.layers id)).1 := rfl
      _ = Layer.handledIn ((layers id).view files (start.layers id) name) := by
          rw [Layer.run_handles]
      _ = true := by rw [unreadable]; rfl

end Quire
