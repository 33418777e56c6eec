import Mathlib.Tactic.Lemma
import Quire.Converter.Document

/-!
# Agreeing converters

Two programs over memories of different types agree under a relation between the memories if they
give the same from related memories and leave related ones. Everything that is built from agreeing
converters in the same way agrees.

* `Agree.bind`: steps in a row.
* `Converter.Agree.composite`, `Converter.Agree.overridesOnly`: composites.
* `Converter.Agree.document`: conversions of whole documents.
-/

namespace Quire

variable {μ ν α β : Type}

/-- From related memories, two steps give the same and leave related memories. -/
def Agree (related : μ → ν → Prop) (step : StateM μ α) (step' : StateM ν α) : Prop :=
  ∀ memory memory', related memory memory' →
    (step.run memory).1 = (step'.run memory').1 ∧
      related (step.run memory).2 (step'.run memory').2

/-- The entry points of two converters agree. -/
structure Converter.Agree (related : μ → ν → Prop) (converter : Converter μ)
    (converter' : Converter ν) : Prop where
  handles : ∀ files name,
    Quire.Agree related (converter.handles files name) (converter'.handles files name)
  convert : ∀ files task,
    Quire.Agree related (converter.convert files task) (converter'.convert files task)
  tryConvert : ∀ files task,
    Quire.Agree related (converter.tryConvert files task) (converter'.tryConvert files task)

variable {related : μ → ν → Prop}

namespace Agree

/-- Steps without effect that give the same agree. -/
lemma pure (value : α) : Agree related (Pure.pure value) (Pure.pure value) :=
  fun _ _ holds => ⟨rfl, holds⟩

/-- So do agreeing steps in a row. -/
lemma bind {step : StateM μ α} {step' : StateM ν α} {next : α → StateM μ β}
    {next' : α → StateM ν β} (first : Agree related step step')
    (second : ∀ value, Agree related (next value) (next' value)) :
    Agree related (step >>= next) (step' >>= next') := by
  intro memory memory' holds
  obtain ⟨same, holds'⟩ := first memory memory' holds
  have passed := second (step.run memory).1 _ _ holds'
  have same_next : (step' >>= next').run memory' =
      (next' (step.run memory).1).run (step'.run memory').2 := by
    rw [same]
    rfl
  rw [same_next]
  exact passed

end Agree

namespace Converter.Agree

/-- So do converters that ask themselves before they convert. -/
lemma ofHandles {backend backend' : String} {handles : FileTree → String → StateM μ Bool}
    {handles' : FileTree → String → StateM ν Bool}
    {convert : FileTree → Task → StateM μ (Except ConvertError String)}
    {convert' : FileTree → Task → StateM ν (Except ConvertError String)}
    (answers : ∀ files name, Quire.Agree related (handles files name) (handles' files name))
    (converts : ∀ files task, Quire.Agree related (convert files task) (convert' files task)) :
    Agree related (.ofHandles backend handles convert) (.ofHandles backend' handles' convert') := by
  refine ⟨answers, converts, fun files task => ?_⟩
  refine (answers files task.name).bind fun handled => ?_
  cases handled with
  | true => exact (converts files task).bind fun _ => .pure _
  | false => exact .pure _

/-- So do composites without base. -/
lemma overridesOnly {backend : String} {overrides : Converter μ} {overrides' : Converter ν}
    (above : Agree related overrides overrides') :
    Agree related (.composite backend overrides none) (.composite backend overrides' none) := by
  refine ofHandles (fun files name => ?_) fun files task => ?_
  · refine (above.handles files name).bind fun handled => ?_
    cases handled <;> exact .pure _
  · refine (above.tryConvert files task).bind fun outcome => ?_
    rcases outcome with e | output | output <;> exact .pure _

/-- So do composites with a base. -/
lemma composite {backend : String} {overrides base : Converter μ}
    {overrides' base' : Converter ν} (above : Agree related overrides overrides')
    (below : Agree related base base') :
    Agree related (.composite backend overrides (some base))
      (.composite backend overrides' (some base')) := by
  refine ofHandles (fun files name => ?_) fun files task => ?_
  · refine (above.handles files name).bind fun handled => ?_
    cases handled with
    | true => exact .pure _
    | false => exact below.handles files name
  · refine (above.tryConvert files task).bind fun outcome => ?_
    rcases outcome with e | output | output
    · exact .pure _
    · exact below.convert files task
    · exact .pure _

mutual

/-- So do conversions of whole documents. -/
lemma document {converter : Converter μ} {converter' : Converter ν}
    (agree : Agree related converter converter') (files : FileTree) :
    ∀ node : Node,
      Quire.Agree related (converter.document files node) (converter'.document files node)
  | ⟨name, id, title, text, attributes, children⟩ => by
    refine (agree.documents files children).bind fun outputs => ?_
    cases outputs with
    | error e => exact .pure _
    | ok outputs => exact agree.convert files _

/-- So do conversions of lists of documents. -/
lemma documents {converter : Converter μ} {converter' : Converter ν}
    (agree : Agree related converter converter') (files : FileTree) :
    ∀ nodes : List Node,
      Quire.Agree related (converter.documents files nodes) (converter'.documents files nodes)
  | [] => .pure _
  | node :: rest => by
    refine (agree.document files node).bind fun output => ?_
    cases output with
    | error e => exact .pure _
    | ok output =>
      refine (agree.documents files rest).bind fun outputs => ?_
      cases outputs <;> exact .pure _

end

end Converter.Agree

end Quire
