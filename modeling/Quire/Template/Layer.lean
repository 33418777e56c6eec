import Quire.Converter.Basic
import Quire.Node.Json
import Quire.Template.Engine

/-!
# Template layers

The converter that renders a node through the template found for its name. A layer with a cache
remembers for each name what it found first, a missing or a refused template included, but never a
failed look-up.
-/

namespace Quire.Template

/-- A template with the outcome of compiling it. -/
structure Loaded where
  template : Found
  compiled : Except String Compiled

/-- What a layer remembers from call to call. -/
structure LayerState where
  /-- What was loaded for each name, in a layer with a cache. -/
  loaded : Entries (Option Loaded) := []

/-- A converter over template files. -/
structure Layer (m : Type → Type := Id) where
  backend : String
  engine : Engine m
  search : Search
  cached : Bool

namespace Layer

variable {m : Type → Type}

/-- A layer over the given directories, relative ones below `base`. -/
def inDirectories (backend : String) (directories : List String) (base : String) (engine : Engine m)
    (cached : Bool) : Layer m where
  backend := backend
  engine := engine
  search := .inDirectories directories base engine.name backend engine.extension
  cached := cached

/-- Compiles a template under its path. -/
def compile [Monad m] (layer : Layer m) (template : Found) : m Loaded := do
  let compiled ← layer.engine.compile template.path template.source
  return ⟨template, compiled⟩

/-- Looks a template up and compiles it. -/
def loadNow [Monad m] (layer : Layer m) (files : FileTree) (name : String) :
    StateT LayerState m (Except LookupError (Option Loaded)) := do
  match layer.search.resolve files name with
  | .error e => return .error e
  | .ok none => return .ok none
  | .ok (some template) => return .ok (some (← layer.compile template))

/-- The template for a name, from the cache if it is there. -/
def load [Monad m] (layer : Layer m) (files : FileTree) (name : String) :
    StateT LayerState m (Except LookupError (Option Loaded)) := do
  if layer.cached then
    match (← get).loaded.find? name with
    | some known => return .ok known
    | none =>
      match ← layer.loadNow files name with
      | .error e => return .error e
      | .ok found =>
        modify fun state => { state with loaded := state.loaded.insert name found }
        return .ok found
  else layer.loadNow files name

/-- The template file for a name; a layer without cache compiles nothing for that. -/
def resolve [Monad m] (layer : Layer m) (files : FileTree) (name : String) :
    StateT LayerState m (Except LookupError (Option Found)) := do
  if layer.cached then
    let loaded ← layer.load files name
    return loaded.map (·.map (·.template))
  else return layer.search.resolve files name

/-- Whether there is a template for a name; one that cannot be read counts, so that converting
reports it. -/
def handles [Monad m] (layer : Layer m) (files : FileTree) (name : String) :
    StateT LayerState m Bool := do
  match ← layer.resolve files name with
  | .ok found => return found.isSome
  | .error _ => return true

/-- What a template sees: the node with its content, and the backend. -/
def context (layer : Layer m) (task : Task) : Json :=
  .object [("backend", .string layer.backend), ("node", task.toJson.sorted)]

/-- The output of a loaded template. -/
def render (layer : Layer m) (loaded : Loaded) (task : Task) : Except ConvertError String :=
  match loaded.compiled with
  | .error cause => .error (.badTemplate task.name layer.backend loaded.template.path cause)
  | .ok compiled =>
    match compiled (layer.context task) with
    | .ok output => .ok output
    | .error cause => .error (.render task.name layer.backend loaded.template.path cause)

/-- Converts a node, or declines one without template. -/
def tryConvert [Monad m] (layer : Layer m) (files : FileTree) (task : Task) :
    StateT LayerState m (Except ConvertError (Option String)) := do
  match ← layer.load files task.name with
  | .error e => return .error (.lookup task.name layer.backend e)
  | .ok none => return .ok none
  | .ok (some loaded) => return (layer.render loaded task).map some

/-- Converts a node; one without template is an error. -/
def convert [Monad m] (layer : Layer m) (files : FileTree) (task : Task) :
    StateT LayerState m (Except ConvertError String) := do
  match ← layer.tryConvert files task with
  | .error e => return .error e
  | .ok (some output) => return .ok output
  | .ok none => return .error (.noTemplate task.name layer.backend)

end Layer

/-- The memory of all layers by number, next to what their user remembers. -/
structure Memory (κ : Type) where
  layers : Nat → LayerState
  user : κ

namespace Memory

variable {κ : Type}

/-- The memory before the first call. -/
def fresh (user : κ) : Memory κ :=
  ⟨fun _ => {}, user⟩

/-- Runs a step of one layer. -/
def onLayer {α : Type} (id : Nat) (step : StateM LayerState α) : StateM (Memory κ) α :=
  fun memory =>
    let (value, state) := step.run (memory.layers id)
    (value, { memory with
      layers := fun other => if other = id then state else memory.layers other })

end Memory

/-- The converter of a layer that remembers under the number `id`. -/
def Layer.converter {κ : Type} (layer : Layer) (id : Nat) : Converter (Memory κ) where
  backend := layer.backend
  handles files name := Memory.onLayer id (layer.handles files name)
  convert files task := Memory.onLayer id (layer.convert files task)
  tryConvert files task := Memory.onLayer id (layer.tryConvert files task)

end Quire.Template
