import Mathlib.Data.List.Induction
import Quire.Proofs.Converter.Agreement
import Quire.Proofs.Converter.Override

/-!
# Registered and canonical names

What a registry holds after a history of changes, and what is made for a name. The last change under
exactly the name decides; where it leaves nothing, a converter is made for the canonical name, which
an alias and the name it stands for have in common.

* `Registry.get?_after`: look-ups after a history of changes.
* `Converter.Agree.afterHistory`: agreeing converters after any calls in any files.
* `agree_assembled`: converters that differ in the number of their layer only.
* `registrations_win`: what is made for a name.
-/

namespace Quire

open Template (Layer Memory)

namespace Backend

/-- Only a name that is not known stands for a backend of its own. -/
lemma eq_of_ofName_eq_custom {s name : String} (unknown : ofName s = custom name) : name = s := by
  unfold ofName at unknown
  repeat' split at unknown
  all_goals cases unknown
  rfl

/-- A canonical name stands for what it is the name of. -/
lemma ofName_name_ofName (s : String) : ofName (ofName s).name = ofName s := by
  cases known : ofName s with
  | custom name =>
    have same := eq_of_ofName_eq_custom known
    subst same
    exact known
  | _ => decide

/-- The names that are not canonical. -/
lemma name_ofName_ne_iff {s : String} : (ofName s).name ≠ s ↔ s = "html" ∨ s = "docbook" := by
  constructor
  · intro changed
    unfold ofName at changed
    split at changed
    next html => exact .inl (html.resolve_left (Ne.symm changed))
    next =>
      split at changed
      next docbook => exact .inr (docbook.resolve_left (Ne.symm changed))
      next =>
        -- Each name left stands for itself.
        exfalso
        apply changed
        repeat' split
        all_goals first | rfl | (symm; assumption)
  · rintro (rfl | rfl) <;> decide

end Backend

namespace Registry

/-- A change to the registered converters. -/
inductive Change (μ : Type) where
  | register (name : String) (converter : Converter μ)
  | registerMaker (name : String) (make : String → Options → Converter μ)
  | unregister (name : String)

variable {μ : Type}

namespace Change

/-- The name that a change is about. -/
def name : Change μ → String
  | register name _ => name
  | registerMaker name _ => name
  | unregister name => name

/-- What is registered under the name afterwards. -/
def leaves : Change μ → Option (Registration μ)
  | register _ converter => some (.ready converter)
  | registerMaker _ make => some (.maker make)
  | unregister _ => none

/-- Makes a change. -/
def apply (registry : Registry μ) : Change μ → Registry μ
  | register name converter => registry.insert name (.ready converter)
  | registerMaker name make => registry.insert name (.maker make)
  | unregister name => registry.erase name

/-- A change is seen under its own name and under no other. -/
lemma get?_apply (registry : Registry μ) (change : Change μ) (key : String) :
    (change.apply registry).get? key =
      if key = change.name then change.leaves else registry.get? key := by
  cases change with
  | register name converter => exact Dictionary.get?_insert ..
  | registerMaker name make => exact Dictionary.get?_insert ..
  | unregister name => exact Dictionary.get?_erase ..

end Change

/-- The registry after changes to the empty one. -/
def after (changes : List (Change μ)) : Registry μ :=
  changes.foldl Change.apply Dictionary.empty

/-- The last change under exactly the name. -/
def last? (name : String) (changes : List (Change μ)) : Option (Change μ) :=
  (changes.filter (·.name = name)).getLast?

lemma last?_concat (name : String) (changes : List (Change μ)) (change : Change μ) :
    last? name (changes ++ [change]) =
      if change.name = name then some change else last? name changes := by
  unfold last?
  by_cases same : change.name = name <;> simp [same]

/-- After any changes, the last one under a name decides what is registered there. -/
lemma get?_after (changes : List (Change μ)) (name : String) :
    (after changes).get? name = (last? name changes).bind Change.leaves := by
  -- the history is taken apart at its last change, which decides if it is about the name
  induction changes using List.reverseRecOn with
  | nil => rfl
  | append_singleton changes change ih =>
    have step : after (changes ++ [change]) = change.apply (after changes) := List.foldl_append
    rw [step, Change.get?_apply, last?_concat, ih]
    by_cases same : name = change.name
    · rw [if_pos same, if_pos same.symm]
      rfl
    · rw [if_neg same, if_neg (Ne.symm same)]

end Registry

namespace Converter

variable {μ ν : Type}

/-- The memory after calls, for each of which the files may be other ones. -/
def afterHistory (converter : Converter μ) (history : List (FileTree × Call)) (memory : μ) : μ :=
  history.foldl (fun memory (files, call) => converter.afterCall files memory call) memory

/-- Two converters say the same of every name and make the same of every node. -/
structure SameAnswers (converter : Converter μ) (converter' : Converter ν) (memory : μ)
    (memory' : ν) : Prop where
  handles : ∀ files name, ((converter.handles files name).run memory).1 =
    ((converter'.handles files name).run memory').1
  convert : ∀ files task, ((converter.convert files task).run memory).1 =
    ((converter'.convert files task).run memory').1
  tryConvert : ∀ files task, ((converter.tryConvert files task).run memory).1 =
    ((converter'.tryConvert files task).run memory').1

namespace Agree

variable {related : μ → ν → Prop} {converter : Converter μ} {converter' : Converter ν}
  {memory : μ} {memory' : ν}

/-- From related memories, agreeing converters answer alike. -/
lemma sameAnswers (agree : Agree related converter converter') (holds : related memory memory') :
    SameAnswers converter converter' memory memory' where
  handles files name := (agree.handles files name memory memory' holds).1
  convert files task := (agree.convert files task memory memory' holds).1
  tryConvert files task := (agree.tryConvert files task memory memory' holds).1

/-- A call leaves related memories. -/
lemma afterCall (agree : Agree related converter converter') (files : FileTree) (call : Call)
    (holds : related memory memory') :
    related (converter.afterCall files memory call) (converter'.afterCall files memory' call) := by
  cases call with
  | handles name => exact (agree.handles files name memory memory' holds).2
  | convert task => exact (agree.convert files task memory memory' holds).2
  | tryConvert task => exact (agree.tryConvert files task memory memory' holds).2

/-- So do any calls in a row. -/
lemma afterHistory (agree : Agree related converter converter') (history : List (FileTree × Call))
    (holds : related memory memory') :
    related (converter.afterHistory history memory) (converter'.afterHistory history memory') := by
  induction history generalizing memory memory' with
  | nil => exact holds
  | cons call rest ih => exact ih (agree.afterCall call.1 call.2 holds)

end Agree

end Converter

/-- A built-in converter agrees with itself, whatever the memories. -/
lemma Builtin.agree {μ ν : Type} (related : μ → ν → Prop) (format : Builtin) :
    Converter.Agree related format.converter format.converter :=
  .ofHandles (fun _ _ => .pure _) fun _ _ => .pure _

/-- So does a stand-in. -/
lemma Converter.agree_unsupported {μ ν : Type} (related : μ → ν → Prop) (backend : String) :
    Converter.Agree related (.unsupported backend) (.unsupported backend) :=
  .ofHandles (fun _ _ => .pure _) fun _ _ => .pure _

namespace Template

variable {κ : Type}

/-- Two layers have the same memory. -/
def SameMemory (id id' : Nat) (memory memory' : Memory κ) : Prop :=
  memory.layers id = memory'.layers id'

/-- Steps of layers that have the same memory agree. -/
lemma SameMemory.agree_onLayer {α : Type} (id id' : Nat) (step : StateM LayerState α) :
    Agree (SameMemory (κ := κ) id id') (Memory.onLayer id step) (Memory.onLayer id' step) := by
  intro memory memory' same
  have state : memory.layers id = memory'.layers id' := same
  simp only [Memory.run_onLayer, state, SameMemory, Memory.layers_withLayer, if_true, and_self]

/-- A layer agrees with itself under another number. -/
lemma Layer.agree (layer : Layer) (id id' : Nat) :
    Converter.Agree (SameMemory (κ := κ) id id') (layer.converter id) (layer.converter id') :=
  ⟨fun _ _ => SameMemory.agree_onLayer _ _ _, fun _ _ => SameMemory.agree_onLayer _ _ _,
    fun _ _ => SameMemory.agree_onLayer _ _ _⟩

end Template

namespace Assembly

open Template (SameMemory)

variable {κ : Type}

/-- What is made for a backend says that it is for that backend. -/
lemma backend_assembled (id : Nat) (backend : Backend) (layer : Option Layer) :
    (assembled (κ := κ) id backend layer).backend = backend.name := by
  cases layer with
  | some layer => rfl
  | none =>
    unfold assembled builtin?
    cases known : Builtin.ofBackend? backend with
    | none => rfl
    | some format => exact congrArg Backend.name (Builtin.backend_of_ofBackend? known)

/-- Converters that differ in the number of their layer only agree. -/
lemma agree_assembled (id id' : Nat) (backend : Backend) (layer : Option Layer) :
    Converter.Agree (SameMemory (κ := κ) id id') (assembled id backend layer)
      (assembled id' backend layer) := by
  unfold assembled builtin?
  -- only the layer has a memory, and what is built around it is the same
  cases layer with
  | none =>
    cases Builtin.ofBackend? backend with
    | none => exact Converter.agree_unsupported _ _
    | some format => exact format.agree _
  | some layer =>
    cases Builtin.ofBackend? backend with
    | none => exact (layer.agree id id').overridesOnly
    | some format => exact (layer.agree id id').composite (format.agree _)

/-- There is an engine for each listed name and for no other. -/
lemma ofName?_eq_none_iff (compiler : Template.Compiler) (name : String) (escaping : Bool) :
    Template.Engine.ofName? compiler name escaping = none ↔ name ∉ Template.Engine.names := by
  simp [Template.Engine.ofName?, Template.Engine.names]

/-- Asking for a layer fails exactly if directories are in force and the engine is not there. -/
lemma layer?_eq_error_iff {compiler : Template.Compiler} {host : Host} {files : FileTree}
    {backend : Backend} {options : Options} {e : UnknownEngine} :
    layer? compiler host files backend options = .error e ↔
      (host.fillIn files backend options).templateDirs.isSome ∧
        options.templateEngine ∉ Template.Engine.names ∧ e = ⟨options.templateEngine⟩ := by
  rw [← ofName?_eq_none_iff compiler options.templateEngine options.autoescape]
  cases given : (host.fillIn files backend options).templateDirs with
  | none => simp [layer?_of_none given]
  | some directories =>
    cases known :
        Template.Engine.ofName? compiler options.templateEngine options.autoescape with
    | none => simp [layer?_of_unknown_engine given known, eq_comm]
    | some engine => simp [layer?_of_directories given known]

/-- The last change under exactly a name decides what is made for it: a registered converter is
returned as it is, a maker is called with the name and the options as they are, and everything else
is as with an empty registry. There, a name and the canonical name fail alike or give converters for
the canonical name with the same answers after any calls, and they fail exactly if template
directories are in force and the engine is not there. The canonical name of a name is its own
canonical name, and differs from the name for the two aliases only. -/
theorem registrations_win (compiler : Template.Compiler) (host : Host) (files : FileTree)
    (changes : List (Registry.Change (Memory κ))) (id : Nat) (name : String) (options : Options) :
    create ⟨Registry.after changes, compiler, host⟩ files id name options =
      (match Registry.last? name changes with
      | some (.register _ converter) => .ok converter
      | some (.registerMaker _ make) => .ok (make name options)
      | some (.unregister _) => (on compiler host).create files id name options
      | none => (on compiler host).create files id name options) ∧
    (∀ id',
      (∃ e, (on (κ := κ) compiler host).create files id name options = .error e ∧
        (on (κ := κ) compiler host).create files id' (Backend.ofName name).name options =
          .error e) ∨
      ∃ converter converter',
        (on (κ := κ) compiler host).create files id name options = .ok converter ∧
        (on (κ := κ) compiler host).create files id' (Backend.ofName name).name options =
          .ok converter' ∧
        converter.backend = (Backend.ofName name).name ∧
        converter'.backend = (Backend.ofName name).name ∧
        ∀ history user user', converter.SameAnswers converter'
          (converter.afterHistory history (Memory.fresh user))
          (converter'.afterHistory history (Memory.fresh user'))) ∧
    (∀ e, (on (κ := κ) compiler host).create files id name options = .error e ↔
      (host.fillIn files (Backend.ofName name) options).templateDirs.isSome ∧
        options.templateEngine ∉ Template.Engine.names ∧ e = ⟨options.templateEngine⟩) ∧
    (Backend.ofName (Backend.ofName name).name).name = (Backend.ofName name).name ∧
    ((Backend.ofName name).name ≠ name ↔ name = "html" ∨ name = "docbook") := by
  refine ⟨?_, ?_, ?_, ?_, Backend.name_ofName_ne_iff⟩
  · have registered := Registry.get?_after changes name
    unfold create
    rw [registered]
    cases Registry.last? name changes with
    | none => rfl
    | some change => cases change <;> rfl
  · intro id'
    simp only [create_on, Backend.ofName_name_ofName]
    cases layer? compiler host files (Backend.ofName name) options with
    | error e => exact .inl ⟨e, rfl, rfl⟩
    | ok layer =>
      refine .inr ⟨_, _, rfl, rfl, backend_assembled .., backend_assembled .., ?_⟩
      intro history user user'
      have agree := agree_assembled (κ := κ) id id' (Backend.ofName name) layer
      exact agree.sameAnswers (agree.afterHistory history rfl)
  · intro e
    rw [create_on, ← layer?_eq_error_iff]
    cases layer? compiler host files (Backend.ofName name) options <;> simp [Except.map]
  · rw [Backend.ofName_name_ofName]

end Assembly

end Quire
