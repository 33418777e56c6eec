import Quire.Proofs.Converter.Agreement

/-!
# Recorded calls

A converter with a label can be made to write down each of its calls with the answer, in a memory
that holds the calls next to what the converter itself remembers. A program over recorded converters
does what it does over the plain ones.

* `Plays`: one step does next to a record what another one does without. That is an agreement
  (`plays_iff`), so that everything built from recorded converters plays what is built from the
  plain ones.
* `Logs`: which calls a step adds to the record, and the rules for steps in a row.
-/

namespace Quire

/-- A call of the converter with a label, and its answer. -/
inductive Event (ι : Type) where
  | handles (label : ι) (name : String) (answer : Bool)
  | convert (label : ι) (task : Task) (answer : Except ConvertError String)
  | tryConvert (label : ι) (task : Task) (answer : Except ConvertError (Option String))

/-- A memory next to the calls so far. -/
structure Recorded (ι μ : Type) where
  memory : μ
  events : List (Event ι)

variable {ι μ α β : Type}

/-- Makes a step and writes down what it was. -/
def record (event : α → Event ι) (step : StateM μ α) : StateM (Recorded ι μ) α :=
  fun before =>
    ((step.run before.memory).1,
      ⟨(step.run before.memory).2, before.events ++ [event (step.run before.memory).1]⟩)

/-- The converter that writes down its calls under a label. -/
def Converter.recorded (converter : Converter μ) (label : ι) : Converter (Recorded ι μ) where
  backend := converter.backend
  handles files name := record (.handles label name) (converter.handles files name)
  convert files task := record (.convert label task) (converter.convert files task)
  tryConvert files task := record (.tryConvert label task) (converter.tryConvert files task)

/-- A step with a record gives what a plain step gives, and leaves its memory. -/
def Plays (recorded : StateM (Recorded ι μ) α) (plain : StateM μ α) : Prop :=
  ∀ before, plain.run before.memory =
    ((recorded.run before).1, (recorded.run before).2.memory)

/-- To play is to agree on memories, the records left aside. -/
lemma plays_iff {recorded : StateM (Recorded ι μ) α} {plain : StateM μ α} :
    Plays recorded plain ↔ Agree (fun before memory => before.memory = memory) recorded plain := by
  constructor
  · rintro plays before _ rfl
    rw [plays before]
    exact ⟨rfl, rfl⟩
  · intro agree before
    obtain ⟨same, left⟩ := agree before before.memory rfl
    exact Prod.ext same.symm left.symm

lemma Plays.record (event : α → Event ι) (step : StateM μ α) : Plays (record event step) step :=
  fun _ => rfl

namespace Converter

/-- A converter with a record does what a plain one does. -/
structure Plays (recorded : Converter (Recorded ι μ)) (plain : Converter μ) : Prop where
  handles : ∀ files name, Quire.Plays (recorded.handles files name) (plain.handles files name)
  convert : ∀ files task, Quire.Plays (recorded.convert files task) (plain.convert files task)
  tryConvert : ∀ files task,
    Quire.Plays (recorded.tryConvert files task) (plain.tryConvert files task)

/-- So it is for the entry points of converters. -/
lemma plays_iff {recorded : Converter (Recorded ι μ)} {plain : Converter μ} :
    Plays recorded plain ↔ Agree (fun before memory => before.memory = memory) recorded plain := by
  constructor
  · intro plays
    exact ⟨fun files name => Quire.plays_iff.mp (plays.handles files name),
      fun files task => Quire.plays_iff.mp (plays.convert files task),
      fun files task => Quire.plays_iff.mp (plays.tryConvert files task)⟩
  · intro agree
    exact ⟨fun files name => Quire.plays_iff.mpr (agree.handles files name),
      fun files task => Quire.plays_iff.mpr (agree.convert files task),
      fun files task => Quire.plays_iff.mpr (agree.tryConvert files task)⟩

/-- A recorded converter does what the converter does. -/
lemma Plays.recorded (converter : Converter μ) (label : ι) :
    Plays (converter.recorded label) converter :=
  ⟨fun _ _ => .record _ _, fun _ _ => .record _ _, fun _ _ => .record _ _⟩

/-- So do conversions of whole documents. -/
lemma Plays.document {recorded : Converter (Recorded ι μ)} {plain : Converter μ}
    (plays : Plays recorded plain) (files : FileTree) (node : Node) :
    Quire.Plays (recorded.document files node) (plain.document files node) :=
  Quire.plays_iff.mpr ((plays_iff.mp plays).document files node)

end Converter

/-- From a memory, whatever the record so far, a step adds calls to the record such that its answer,
the memory it leaves and these calls meet a condition. -/
def Logs (step : StateM (Recorded ι μ) α) (memory : μ)
    (post : α → μ → List (Event ι) → Prop) : Prop :=
  ∀ events, ∃ added, (step.run ⟨memory, events⟩).2.events = events ++ added ∧
    post (step.run ⟨memory, events⟩).1 (step.run ⟨memory, events⟩).2.memory added

namespace Logs

variable {memory : μ} {post : α → μ → List (Event ι) → Prop}

/-- A step without effect adds nothing. -/
lemma pure {value : α} (holds : post value memory []) : Logs (Pure.pure value) memory post :=
  fun events => ⟨[], (List.append_nil events).symm, holds⟩

/-- A recorded step adds itself. -/
lemma record {event : α → Event ι} {step : StateM μ α}
    (holds : post (step.run memory).1 (step.run memory).2 [event (step.run memory).1]) :
    Logs (record event step) memory post :=
  fun _ => ⟨_, rfl, holds⟩

/-- A weaker condition is met as well. -/
lemma mono {post' : α → μ → List (Event ι) → Prop} {step : StateM (Recorded ι μ) α}
    (logs : Logs step memory post)
    (weaken : ∀ value memory added, post value memory added → post' value memory added) :
    Logs step memory post' := by
  intro events
  obtain ⟨added, grows, holds⟩ := logs events
  exact ⟨added, grows, weaken _ _ _ holds⟩

/-- Steps in a row add what the first one adds and then what the second one adds. -/
lemma bind {step : StateM (Recorded ι μ) α} {next : α → StateM (Recorded ι μ) β}
    {post' : β → μ → List (Event ι) → Prop} (first : Logs step memory post)
    (second : ∀ value memory added, post value memory added →
      Logs (next value) memory
        fun result memory' added' => post' result memory' (added ++ added')) :
    Logs (step >>= next) memory post' := by
  intro events
  obtain ⟨added, grows, holds⟩ := first events
  obtain ⟨added', grows', holds'⟩ := second _ _ _ holds (step.run ⟨memory, events⟩).2.events
  refine ⟨added ++ added', ?_, holds'⟩
  calc ((step >>= next).run ⟨memory, events⟩).2.events
      = (step.run ⟨memory, events⟩).2.events ++ added' := grows'
    _ = events ++ (added ++ added') := by rw [grows, List.append_assoc]

/-- What is so about a step that adds to a record is so about the plain step. -/
lemma plain {recorded : StateM (Recorded ι μ) α} {plain : StateM μ α}
    (logs : Logs recorded memory post) (plays : Plays recorded plain) :
    ∃ added, post (plain.run memory).1 (plain.run memory).2 added := by
  obtain ⟨added, _, holds⟩ := logs []
  refine ⟨added, ?_⟩
  rw [plays ⟨memory, []⟩]
  exact holds

end Logs

end Quire
