import Mathlib.Tactic.Lemma
import Quire.Template.Layer

/-!
# What a layer answers and remembers

The operations of a template layer share one way of getting at a template. `view` is what it comes
to in a given state, without a change of the state, and `settle` is the state afterwards; each
operation is then an answer read off the view, next to a state that is settled or left alone.

* `run_load`, `run_resolve`, `run_handles`, `run_tryConvert`, `run_convert`: the operations as pairs
  of an answer and a state.
* `find?_settle`: a layer with cache remembers what it saw, and changes nothing under other names.
* `view_settle`: as long as the files stay the same, no look-up changes what a later one sees.
-/

/-- The compiler for templates that are texts and nothing else: what they render is their source. -/
def Quire.Template.Compiler.verbatim : Quire.Template.Compiler :=
  fun _ _ source => .ok fun _ => .ok source

namespace Quire.Template.Layer

section Definitions

variable (layer : Layer) (files : FileTree) (state : LayerState) (name : String)

/-- The template for a name in the files, with the outcome of compiling it. -/
def loading : Except LookupError (Option Loaded) :=
  (layer.search.resolve files name).map fun found =>
    found.map fun template => ⟨template, layer.engine.compile template.path template.source⟩

/-- The template for a name as a layer in the given state has it. -/
def view : Except LookupError (Option Loaded) :=
  match layer.cached, state.loaded.find? name with
  | true, some known => .ok known
  | _, _ => layer.loading files name

/-- The state after a look-up in the files, which a layer with cache remembers unless it failed. -/
def store (result : Except LookupError (Option Loaded)) : LayerState :=
  match layer.cached, result with
  | true, .ok found => { state with loaded := state.loaded.insert name found }
  | _, _ => state

/-- The state after a look-up. -/
def settle : LayerState :=
  match layer.cached, state.loaded.find? name with
  | true, some _ => state
  | _, _ => layer.store state name (layer.loading files name)

/-- Whether a template counts as there. -/
def handledIn : Except LookupError (Option Loaded) → Bool
  | .ok found => found.isSome
  | .error _ => true

/-- The outcome of converting a node with what was found for it, if anything was. -/
def triedIn (task : Task) :
    Except LookupError (Option Loaded) → Except ConvertError (Option String)
  | .error e => .error (.lookup task.name layer.backend e)
  | .ok none => .ok none
  | .ok (some loaded) => (layer.render loaded task).map some

/-- The outcome of converting a node with what has to be found for it. -/
def convertedIn (task : Task) : Except LookupError (Option Loaded) → Except ConvertError String
  | .error e => .error (.lookup task.name layer.backend e)
  | .ok none => .error (.noTemplate task.name layer.backend)
  | .ok (some loaded) => layer.render loaded task

end Definitions

variable {layer : Layer} {files : FileTree} {state : LayerState} {name : String}

/-- A layer without cache sees what is in the files. -/
lemma view_of_uncached (uncached : layer.cached = false) :
    layer.view files state name = layer.loading files name := by
  simp only [view, uncached]

/-- A layer with cache sees what it remembers. -/
lemma view_of_known {known : Option Loaded} (cached : layer.cached = true)
    (hit : state.loaded.find? name = some known) : layer.view files state name = .ok known := by
  simp only [view, cached, hit]

/-- Under a name that is not remembered, every layer sees what is in the files. -/
lemma view_of_unknown (miss : state.loaded.find? name = none) :
    layer.view files state name = layer.loading files name := by
  cases cached : layer.cached <;> simp only [view, cached, miss]

/-- A layer without cache looks into the files each time. -/
lemma settle_of_uncached (uncached : layer.cached = false) :
    layer.settle files state name = layer.store state name (layer.loading files name) := by
  simp only [settle, uncached]

/-- A look-up that is answered from the cache changes nothing. -/
lemma settle_of_known {known : Option Loaded} (cached : layer.cached = true)
    (hit : state.loaded.find? name = some known) : layer.settle files state name = state := by
  simp only [settle, cached, hit]

/-- Under a name that is not remembered, every layer looks into the files. -/
lemma settle_of_unknown (miss : state.loaded.find? name = none) :
    layer.settle files state name = layer.store state name (layer.loading files name) := by
  cases cached : layer.cached <;> simp only [settle, cached, miss]

variable (layer files state name)

/-- A look-up in the files compiles the template if there is one. -/
lemma run_loadNow :
    (layer.loadNow files name).run state = (layer.loading files name, state) := by
  unfold loadNow loading
  cases layer.search.resolve files name with
  | error e => rfl
  | ok found => cases found <;> rfl

/-- A look-up gives the view and settles the state. -/
lemma run_load :
    (layer.load files name).run state =
      (layer.view files state name, layer.settle files state name) := by
  cases cached : layer.cached with
  | false =>
    rw [view_of_uncached cached, settle_of_uncached cached]
    have same : layer.load files name = layer.loadNow files name := by
      simp [load, cached]
    rw [same, run_loadNow]
    simp only [store, cached]
  | true =>
    cases hit : state.loaded.find? name with
    | some known =>
      rw [view_of_known cached hit, settle_of_known cached hit]
      simp only [load, cached, if_true, StateT.run_bind, StateT.run_get, pure_bind, hit]
      rfl
    | none =>
      rw [view_of_unknown hit, settle_of_unknown hit]
      simp only [load, cached, if_true, StateT.run_bind, StateT.run_get, pure_bind, hit,
        run_loadNow]
      cases layer.loading files name with
      | error e =>
        simp only [store, cached]
        rfl
      | ok found =>
        simp only [store, cached]
        rfl

/-- Looking for the file of a template shows the template of the view. Only a layer with cache
settles its state for that. -/
lemma run_resolve :
    (layer.resolve files name).run state =
      ((layer.view files state name).map (·.map (·.template)),
        if layer.cached then layer.settle files state name else state) := by
  cases cached : layer.cached with
  | false =>
    rw [view_of_uncached cached]
    simp only [resolve, loading, cached]
    cases layer.search.resolve files name with
    | error e => rfl
    | ok found => cases found <;> rfl
  | true =>
    simp only [resolve, cached, if_true, StateT.run_bind, run_load]
    rfl

/-- A layer handles a name by what it sees under it, in the state that resolving leaves. -/
lemma run_handles :
    (layer.handles files name).run state =
      (handledIn (layer.view files state name),
        if layer.cached then layer.settle files state name else state) := by
  simp only [handles, StateT.run_bind, run_resolve]
  cases layer.view files state name with
  | error e => rfl
  | ok found => cases found <;> rfl

/-- Trying to convert a node answers by the view and settles the state. -/
lemma run_tryConvert (task : Task) :
    (layer.tryConvert files task).run state =
      (layer.triedIn task (layer.view files state task.name),
        layer.settle files state task.name) := by
  simp only [tryConvert, StateT.run_bind, run_load]
  cases layer.view files state task.name with
  | error e => rfl
  | ok found => cases found <;> rfl

/-- Converting a node answers by the view and settles the state. -/
lemma run_convert (task : Task) :
    (layer.convert files task).run state =
      (layer.convertedIn task (layer.view files state task.name),
        layer.settle files state task.name) := by
  simp only [convert, StateT.run_bind, run_tryConvert]
  cases layer.view files state task.name with
  | error e => rfl
  | ok found =>
    cases found with
    | none => rfl
    | some loaded =>
      simp only [triedIn, convertedIn]
      cases layer.render loaded task <;> rfl

/-- A layer with cache remembers what it saw, unless the look-up failed, and what it remembers under
other names stays. -/
lemma find?_settle (cached : layer.cached = true) (other : String) :
    (layer.settle files state name).loaded.find? other =
      if other = name then (layer.view files state name).toOption
      else state.loaded.find? other := by
  cases hit : state.loaded.find? name with
  | some known =>
    rw [settle_of_known cached hit, view_of_known cached hit]
    split
    next same => rw [same, hit]; rfl
    next => rfl
  | none =>
    rw [settle_of_unknown hit, view_of_unknown hit]
    cases layer.loading files name with
    | error e =>
      have kept : layer.store state name (.error e) = state := by simp only [store, cached]
      rw [kept]
      split
      next same => rw [same, hit]; rfl
      next => rfl
    | ok found =>
      simp only [store, cached, Entries.find?_insert]
      cases found <;> rfl

/-- As long as the files stay the same, no look-up changes what a later one sees. -/
lemma view_settle (other : String) :
    layer.view files (layer.settle files state name) other = layer.view files state other := by
  cases cached : layer.cached with
  | false => rw [view_of_uncached cached, view_of_uncached cached]
  | true =>
    have found := layer.find?_settle files state name cached other
    by_cases same : other = name
    · subst same
      rw [if_pos rfl] at found
      cases seen : layer.view files state other with
      | ok known =>
        rw [seen] at found
        exact view_of_known cached found
      | error e =>
        -- a failed look-up is not remembered, so the name was unknown and still is
        have miss : state.loaded.find? other = none := by
          cases hit : state.loaded.find? other with
          | none => rfl
          | some known =>
            rw [view_of_known cached hit] at seen
            cases seen
        rw [view_of_unknown miss] at seen
        rw [view_of_unknown (by rw [found, view_of_unknown miss, seen]; rfl), seen]
    · rw [if_neg same] at found
      simp only [view, cached, found]

end Quire.Template.Layer

namespace Quire.Template.Memory

variable {κ α : Type} (memory : Memory κ) (id : Nat)

/-- The memory with another state of one layer. -/
def withLayer (state : LayerState) : Memory κ :=
  { memory with layers := fun other => if other = id then state else memory.layers other }

/-- The states of the other layers stay as they are. -/
lemma layers_withLayer (state : LayerState) (other : Nat) :
    (memory.withLayer id state).layers other =
      if other = id then state else memory.layers other :=
  rfl

/-- A step of one layer is made in the state of the layer and replaces it. -/
lemma run_onLayer (step : StateM LayerState α) :
    (onLayer id step).run memory =
      ((step.run (memory.layers id)).1, memory.withLayer id (step.run (memory.layers id)).2) :=
  rfl

/-- A layer whose state is replaced by itself leaves the memory as it is. -/
lemma withLayer_self : memory.withLayer id (memory.layers id) = memory := by
  unfold withLayer
  congr 1
  funext other
  by_cases own : other = id
  · rw [if_pos own, own]
  · rw [if_neg own]

end Quire.Template.Memory
