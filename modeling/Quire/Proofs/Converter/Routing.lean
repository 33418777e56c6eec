import Quire.Proofs.Converter.Graph
import Quire.Proofs.Converter.Recording

/-!
# Which leaf of a graph converts

Composites of any shape are an ordered search: of the leaves, overrides before bases, the first one
that handles a node converts it. Where none does, it is left to the leaf at the end of the bases, or
to nobody if a base is missing there. The leaves may be any converters that remember anything, as
long as what they say about the node's name stays the same until one of them converts.

* `Graph.leaves`, `Graph.route`: the order of the search and what it comes to.
* `Routed.overridesOnly`, `Routed.composite`: composites of graphs that search in order do so too.
* `Graph.first_leaf_converts`: all graphs search in order, one leaf converts at most, and how
  composites are nested changes only how often leaves are asked.
* `Graph.nesting_shows_in_count`: which a leaf that counts may show.
-/

namespace Quire

variable {ι μ : Type}

/-- A conversion by the leaf with a label. -/
structure Conversion (ι : Type) where
  label : ι
  task : Task
  outcome : Except ConvertError String

namespace Event

/-- The label of the converter that is called. -/
def label : Event ι → ι
  | handles label _ _ => label
  | convert label _ _ => label
  | tryConvert label _ _ => label

/-- The conversion that a call is; neither a question nor an attempt that is declined is one. -/
def conversion? : Event ι → Option (Conversion ι)
  | handles _ _ _ => none
  | convert label task outcome => some ⟨label, task, outcome⟩
  | tryConvert _ _ (.ok none) => none
  | tryConvert label task (.ok (some output)) => some ⟨label, task, .ok output⟩
  | tryConvert label task (.error e) => some ⟨label, task, .error e⟩

/-- The conversions among some calls. -/
def conversions (events : List (Event ι)) : List (Conversion ι) :=
  events.filterMap conversion?

end Event

namespace Converter

/-- The converter that asks itself before it tries. -/
def asking (converter : Converter μ) : Converter μ :=
  .ofHandles converter.backend converter.handles converter.convert

/-- For as long as a condition on the memory holds, a converter says the same about a task's name
and tries what it would try if it asked itself first. Questions keep the condition, and so do
attempts that are declined; a conversion need not keep it. -/
structure Steady (kept : μ → Prop) (converter : Converter μ) (files : FileTree) (task : Task)
    (handled : Bool) : Prop where
  handles : Gives kept (converter.handles files task.name) handled
  tries : ∀ memory, kept memory → ((converter.tryConvert files task).run memory).1 =
    ((converter.asking.tryConvert files task).run memory).1
  declines : handled = false → ∀ memory, kept memory →
    kept ((converter.tryConvert files task).run memory).2

variable {kept : μ → Prop} {files : FileTree} {task : Task} {handled : Bool}

/-- A converter that asks itself before it tries need only say the same each time. -/
lemma Steady.ofHandles {backend : String} {handles : FileTree → String → StateM μ Bool}
    {convert : FileTree → Task → StateM μ (Except ConvertError String)}
    (answers : Gives kept (handles files task.name) handled) :
    Steady kept (.ofHandles backend handles convert) files task handled := by
  refine ⟨answers, fun _ _ => rfl, ?_⟩
  rintro rfl memory holds
  have declined : Gives kept
      ((Converter.ofHandles backend handles convert).tryConvert files task) (.ok none) :=
    answers.bind .pure
  exact (declined memory holds).2

/-- An attempt of a steady converter is declined if it does not handle the task, and otherwise has
the outcome of a conversion. -/
lemma Steady.attempt {converter : Converter μ}
    (steady : Steady kept converter files task handled) {memory : μ} (holds : kept memory) :
    ∃ memory', kept memory' ∧ ((converter.tryConvert files task).run memory).1 =
      if handled then ((converter.convert files task).run memory').1.map some else .ok none := by
  obtain ⟨same, holds'⟩ := steady.handles memory holds
  refine ⟨_, holds', ?_⟩
  rw [steady.tries memory holds]
  have asked : ((converter.asking.tryConvert files task).run memory) =
      ((if ((converter.handles files task.name).run memory).1 then do
          let output ← converter.convert files task
          return output.map some
        else return .ok none : StateM μ (Except ConvertError (Option String)))).run
      ((converter.handles files task.name).run memory).2 := rfl
  rw [asked, same]
  cases handled <;> rfl

end Converter

/-- The entries of a list up to the first one that meets a condition. -/
def upTo {α : Type} (p : α → Bool) : List α → List α
  | [] => []
  | a :: rest => a :: if p a then [] else upTo p rest

lemma upTo_append_of_some {α : Type} {p : α → Bool} {l : List α} {a : α}
    (found : l.find? p = some a) (l' : List α) : upTo p (l ++ l') = upTo p l := by
  induction l with
  | nil => cases found
  | cons b rest ih =>
    rw [List.cons_append, upTo, upTo]
    cases meets : p b with
    | true => rfl
    | false =>
      rw [List.find?_cons, meets] at found
      simp only [Bool.false_eq_true, if_false, ih found]

lemma upTo_append_of_none {α : Type} {p : α → Bool} {l : List α}
    (missing : l.find? p = none) (l' : List α) : upTo p (l ++ l') = l ++ upTo p l' := by
  induction l with
  | nil => rfl
  | cons b rest ih =>
    rw [List.find?_cons] at missing
    cases meets : p b with
    | true =>
      rw [meets] at missing
      cases missing
    | false =>
      rw [meets] at missing
      rw [List.cons_append, upTo, meets]
      simp only [Bool.false_eq_true, if_false, ih missing, List.cons_append]

lemma upTo_of_none {α : Type} {p : α → Bool} {l : List α} (missing : l.find? p = none) :
    upTo p l = l := by
  have appended := upTo_append_of_none missing []
  rwa [List.append_nil, upTo, List.append_nil] at appended

namespace Graph

/-- The graph of some overrides with a base, which may be absent. -/
def onBase (backend : String) (overrides : Graph ι) : Option (Graph ι) → Graph ι
  | some base => .composite backend overrides base
  | none => .overridesOnly backend overrides

/-- The leaves from left to right, overrides before bases. -/
def leaves : Graph ι → List ι
  | leaf i => [i]
  | overridesOnly _ overrides => overrides.leaves
  | composite _ overrides base => overrides.leaves ++ base.leaves

/-- The leaf at the end of the bases, or the backend of the composite whose base is missing
there. -/
def last : Graph ι → Except String ι
  | leaf i => .ok i
  | overridesOnly backend _ => .error backend
  | composite _ _ base => base.last

/-- The first leaf that handles a node. -/
def first? (handled : ι → Bool) (graph : Graph ι) : Option ι :=
  graph.leaves.find? handled

/-- The leaf that a node is left to, if there is one. -/
def route (handled : ι → Bool) (graph : Graph ι) : Except String ι :=
  match graph.first? handled with
  | some i => .ok i
  | none => graph.last

/-- The leaves up to the first one that handles a node. -/
def reached (handled : ι → Bool) (graph : Graph ι) : List ι :=
  upTo handled graph.leaves

variable {handled : ι → Bool} {overrides : Graph ι}

/-- What the overrides of a composite handle is theirs. -/
lemma first?_composite_of_some {i : ι} (found : overrides.first? handled = some i)
    (backend : String) (base : Graph ι) :
    (composite backend overrides base).first? handled = some i := by
  rw [first?, leaves, List.find?_append, show overrides.leaves.find? handled = some i from found]
  rfl

/-- What the overrides of a composite do not handle is left to its base. -/
lemma first?_composite_of_none (missing : overrides.first? handled = none)
    (backend : String) (base : Graph ι) :
    (composite backend overrides base).first? handled = base.first? handled := by
  rw [first?, leaves, List.find?_append, show overrides.leaves.find? handled = none from missing]
  rfl

/-- Where the overrides of a composite handle a node, no leaf of its base is reached. -/
lemma reached_composite_of_some {i : ι} (found : overrides.first? handled = some i)
    (backend : String) (base : Graph ι) :
    (composite backend overrides base).reached handled = overrides.reached handled :=
  upTo_append_of_some found _

/-- Where they do not, all leaves of the overrides are reached, and then those of the base. -/
lemma reached_composite_of_none (missing : overrides.first? handled = none)
    (backend : String) (base : Graph ι) :
    (composite backend overrides base).reached handled =
      overrides.reached handled ++ base.reached handled := by
  have all : overrides.reached handled = overrides.leaves := upTo_of_none missing
  rw [all]
  exact upTo_append_of_none missing _

end Graph

section Definitions

variable (leaf : ι → Converter μ) (kept : μ → Prop) (files : FileTree) (task : Task)

/-- Calls of some leaves that convert nothing and keep a condition. -/
structure Asks (among : List ι) (memory : μ) (added : List (Event ι)) : Prop where
  kept : kept memory
  idle : Event.conversions added = []
  labels : ∀ event ∈ added, event.label ∈ among

/-- Calls of some leaves of which one is a conversion, by the leaf `i`; its outcome is what the leaf
comes to in a memory that meets the condition. -/
structure Converts (among : List ι) (i : ι) (outcome : Except ConvertError String)
    (added : List (Event ι)) : Prop where
  once : Event.conversions added = [⟨i, task, outcome⟩]
  labels : ∀ event ∈ added, event.label ∈ among
  genuine : ∃ memory, kept memory ∧ (((leaf i).convert files task).run memory).1 = outcome

/-- What converting comes to: the outcome of the one leaf that is called for, or an error without
any conversion. -/
def ConvertsBy (route : Except String ι) (among : List ι) (answer : Except ConvertError String)
    (memory : μ) (added : List (Event ι)) : Prop :=
  match route with
  | .ok i => Converts leaf kept files task among i answer added
  | .error backend =>
    answer = .error (.noConverter backend task.name) ∧ Asks kept among memory added

/-- What trying to convert comes to: the outcome of the first leaf that handles the node, or nothing
without any conversion. -/
def TriesBy (first : Option ι) (among : List ι) (answer : Except ConvertError (Option String))
    (memory : μ) (added : List (Event ι)) : Prop :=
  match first with
  | some i => ∃ outcome, answer = outcome.map some ∧
      Converts leaf kept files task among i outcome added
  | none => answer = .ok none ∧ Asks kept among memory added

/-- A converter searches the leaves of a graph in their order: no leaf behind the first one that
handles the node is called at all. -/
structure Routed (handled : ι → Bool) (graph : Graph ι) (converter : Converter (Recorded ι μ)) :
    Prop where
  handles : ∀ memory, kept memory → Logs (converter.handles files task.name) memory
    fun answer memory added => answer = (graph.first? handled).isSome ∧
      Asks kept (graph.reached handled) memory added
  convert : ∀ memory, kept memory → Logs (converter.convert files task) memory
    (ConvertsBy leaf kept files task (graph.route handled) (graph.reached handled))
  tryConvert : ∀ memory, kept memory → Logs (converter.tryConvert files task) memory
    (TriesBy leaf kept files task (graph.first? handled) (graph.reached handled))

end Definitions

variable {leaf : ι → Converter μ} {kept : μ → Prop} {files : FileTree} {task : Task}
  {handled : ι → Bool} {among among' : List ι} {memory memory' : μ}
  {added added' : List (Event ι)} {i : ι} {outcome : Except ConvertError String}

lemma Event.conversions_append (events events' : List (Event ι)) :
    conversions (events ++ events') = conversions events ++ conversions events' :=
  List.filterMap_append ..

/-- Calls that each are of some leaves are of these leaves together. -/
lemma Event.labels_append (labels : ∀ event ∈ added, event.label ∈ among)
    (labels' : ∀ event ∈ added', event.label ∈ among) :
    ∀ event ∈ added ++ added', event.label ∈ among := by
  intro event mem
  rcases List.mem_append.mp mem with mem | mem
  · exact labels event mem
  · exact labels' event mem

lemma Asks.mono (asks : Asks kept among memory added) (more : among ⊆ among') :
    Asks kept among' memory added :=
  ⟨asks.kept, asks.idle, fun event mem => more (asks.labels event mem)⟩

lemma Converts.mono (converts : Converts leaf kept files task among i outcome added)
    (more : among ⊆ among') : Converts leaf kept files task among' i outcome added :=
  ⟨converts.once, fun event mem => more (converts.labels event mem), converts.genuine⟩

/-- Questions after questions convert nothing. -/
lemma Asks.append (asks : Asks kept among memory added)
    (asks' : Asks kept among memory' added') : Asks kept among memory' (added ++ added') := by
  refine ⟨asks'.kept, ?_, Event.labels_append asks.labels asks'.labels⟩
  rw [Event.conversions_append, asks.idle, asks'.idle]
  rfl

/-- A conversion after questions is one conversion. -/
lemma Asks.converts (asks : Asks kept among memory added)
    (converts : Converts leaf kept files task among i outcome added') :
    Converts leaf kept files task among i outcome (added ++ added') := by
  refine ⟨?_, Event.labels_append asks.labels converts.labels, converts.genuine⟩
  rw [Event.conversions_append, asks.idle, converts.once]
  rfl

namespace Routed

variable {graph overrides base : Graph ι} {converter above below : Converter (Recorded ι μ)}
  {backend : String}

/-- A leaf alone is searched in order. -/
lemma ofLeaf (steady : (leaf i).Steady kept files task (handled i)) :
    Routed leaf kept files task handled (.leaf i) ((leaf i).recorded i) := by
  have here : i ∈ (Graph.leaf i).reached handled := List.mem_cons_self
  refine ⟨?_, ?_, ?_⟩
  · intro memory holds
    obtain ⟨same, holds'⟩ := steady.handles memory holds
    refine .record ⟨?_, holds', rfl, ?_⟩
    · rw [same, Graph.first?, Graph.leaves, List.find?_singleton]
      cases handled i <;> rfl
    · intro event mem
      cases List.mem_singleton.mp mem
      exact here
  · intro memory holds
    have route : (Graph.leaf i).route handled = .ok i := by
      unfold Graph.route Graph.first? Graph.leaves Graph.last
      rw [List.find?_singleton]
      cases handled i <;> rfl
    rw [route]
    refine .record ⟨rfl, ?_, memory, holds, rfl⟩
    intro event mem
    cases List.mem_singleton.mp mem
    exact here
  · intro memory holds
    obtain ⟨memory', holds', answer⟩ := steady.attempt holds
    have only : (Graph.leaf i).first? handled = if handled i then some i else none := by
      unfold Graph.first? Graph.leaves
      rw [List.find?_singleton]
    rw [only]
    have labels (event : Event ι) (mem : event ∈ [Event.tryConvert i task
        (((leaf i).tryConvert files task).run memory).1]) :
        event.label ∈ (Graph.leaf i).reached handled := by
      cases List.mem_singleton.mp mem
      exact here
    refine .record ?_
    cases handles : handled i with
    | true =>
      rw [handles, if_pos rfl] at answer
      refine ⟨_, answer, ?_, labels, memory', holds', rfl⟩
      rw [answer]
      cases (((leaf i).convert files task).run memory').1 <;> rfl
    | false =>
      rw [handles, if_neg Bool.false_ne_true] at answer
      refine ⟨answer, steady.declines handles memory holds, ?_, labels⟩
      rw [answer]
      rfl

/-- What a graph comes to where one of its leaves handles the node. -/
lemma route_of_some (found : graph.first? handled = some i) : graph.route handled = .ok i := by
  rw [Graph.route, found]

/-- What a graph comes to where none of its leaves handles the node. -/
lemma route_of_none (missing : graph.first? handled = none) : graph.route handled = graph.last := by
  rw [Graph.route, missing]

/-- A converter that asks itself before it tries searches in order if it does so when it is asked
and when it converts. -/
lemma ofHandles {handles : FileTree → String → StateM (Recorded ι μ) Bool}
    {convert : FileTree → Task → StateM (Recorded ι μ) (Except ConvertError String)}
    (answers : ∀ memory, kept memory → Logs (handles files task.name) memory
      fun answer memory added => answer = (graph.first? handled).isSome ∧
        Asks kept (graph.reached handled) memory added)
    (converts : ∀ memory, kept memory → Logs (convert files task) memory
      (ConvertsBy leaf kept files task (graph.route handled) (graph.reached handled))) :
    Routed leaf kept files task handled graph (.ofHandles backend handles convert) := by
  refine ⟨answers, converts, fun memory holds => ?_⟩
  apply (answers memory holds).bind
  rintro _ memory' added ⟨rfl, asks⟩
  cases first : graph.first? handled with
  | some i =>
    apply (converts memory' asks.kept).bind
    intro outcome _ added' converted
    rw [route_of_some first] at converted
    apply Logs.pure
    rw [List.append_nil]
    exact ⟨outcome, rfl, asks.converts converted⟩
  | none =>
    apply Logs.pure
    rw [List.append_nil]
    exact ⟨rfl, asks⟩

/-- Overrides without base are searched in order if the overrides are. -/
lemma overridesOnly (top : Routed leaf kept files task handled overrides above) :
    Routed leaf kept files task handled (.overridesOnly backend overrides)
      (.composite backend above none) := by
  have same : (Graph.overridesOnly backend overrides).first? handled =
    overrides.first? handled := rfl
  apply ofHandles
  · intro memory holds
    apply (top.handles memory holds).bind
    rintro _ memory' added ⟨rfl, asks⟩
    rw [same]
    cases first : overrides.first? handled <;>
      exact .pure ⟨rfl, by rw [List.append_nil]; exact asks⟩
  · intro memory holds
    apply (top.tryConvert memory holds).bind
    intro answer memory' added tried
    cases first : overrides.first? handled with
    | some i =>
      rw [first] at tried
      obtain ⟨outcome, rfl, converted⟩ := tried
      rw [route_of_some (same.trans first)]
      cases outcome <;> exact .pure (by rw [List.append_nil]; exact converted)
    | none =>
      rw [first] at tried
      obtain ⟨rfl, asks⟩ := tried
      rw [route_of_none (same.trans first)]
      exact .pure ⟨rfl, by rw [List.append_nil]; exact asks⟩

/-- A composite is searched in order if its two parts are. -/
lemma composite (top : Routed leaf kept files task handled overrides above)
    (bottom : Routed leaf kept files task handled base below) :
    Routed leaf kept files task handled (.composite backend overrides base)
      (.composite backend above (some below)) := by
  -- where the overrides handle the node, the base is not called; else its search is appended
  cases first : overrides.first? handled with
  | some i =>
    have here := Graph.first?_composite_of_some first backend base
    have there := Graph.reached_composite_of_some first backend base
    apply ofHandles
    · intro memory holds
      apply (top.handles memory holds).bind
      rintro _ memory' added ⟨rfl, asks⟩
      rw [first, here, there]
      exact .pure ⟨rfl, by rw [List.append_nil]; exact asks⟩
    · intro memory holds
      apply (top.tryConvert memory holds).bind
      intro answer memory' added tried
      rw [first] at tried
      obtain ⟨outcome, rfl, converted⟩ := tried
      rw [route_of_some here, there]
      cases outcome <;> exact .pure (by rw [List.append_nil]; exact converted)
  | none =>
    have here := Graph.first?_composite_of_none first backend base
    have there := Graph.reached_composite_of_none first backend base
    apply ofHandles
    · intro memory holds
      apply (top.handles memory holds).bind
      rintro _ memory' added ⟨rfl, asks⟩
      rw [first, here, there]
      apply (bottom.handles memory' asks.kept).mono
      rintro _ memory'' added' ⟨rfl, asks'⟩
      exact ⟨rfl, (asks.mono (List.subset_append_left ..)).append
        (asks'.mono (List.subset_append_right ..))⟩
    · intro memory holds
      apply (top.tryConvert memory holds).bind
      intro answer memory' added tried
      rw [first] at tried
      obtain ⟨rfl, asks⟩ := tried
      have route : (Graph.composite backend overrides base).route handled =
          base.route handled := by
        rw [Graph.route, here]
        rfl
      have asks := asks.mono (List.subset_append_left _ (base.reached handled))
      rw [route, there]
      apply (bottom.convert memory' asks.kept).mono
      intro answer memory'' added' converted
      cases way : base.route handled with
      | ok i =>
        rw [way] at converted
        exact asks.converts (converted.mono (List.subset_append_right ..))
      | error backend =>
        rw [way] at converted
        obtain ⟨rfl, asks'⟩ := converted
        exact ⟨rfl, asks.append (asks'.mono (List.subset_append_right ..))⟩

/-- All graphs of steady leaves are searched in order. -/
lemma ofGraph (steady : ∀ i, (leaf i).Steady kept files task (handled i)) (graph : Graph ι) :
    Routed leaf kept files task handled graph (graph.converter fun i => (leaf i).recorded i) := by
  induction graph with
  | leaf i => exact ofLeaf (steady i)
  | overridesOnly backend overrides top => exact top.overridesOnly
  | composite backend overrides base top bottom => exact top.composite bottom

end Routed

/-- From memories that meet a condition, a converter converts a task with the same outcome. -/
def Converter.Fixed (converter : Converter μ) (kept : μ → Prop) (files : FileTree) (task : Task) :
    Prop :=
  ∀ memory memory', kept memory → kept memory' →
    ((converter.convert files task).run memory).1 = ((converter.convert files task).run memory').1

namespace Graph

/-- A graph of recorded leaves does what the graph of the leaves does. -/
lemma plays (leaf : ι → Converter μ) (graph : Graph ι) :
    (graph.converter fun i => (leaf i).recorded i).Plays (graph.converter leaf) := by
  rw [Converter.plays_iff]
  induction graph with
  | leaf i => exact Converter.plays_iff.mp (.recorded (leaf i) i)
  | overridesOnly backend overrides above => exact above.overridesOnly
  | composite backend overrides base above below => exact above.composite below

section Answers

variable (steady : ∀ i, (leaf i).Steady kept files task (handled i)) (graph : Graph ι)
include steady

/-- A graph handles a node if one of its leaves does. -/
lemma handles_eq (holds : kept memory) :
    (((graph.converter leaf).handles files task.name).run memory).1 =
      (graph.first? handled).isSome := by
  obtain ⟨_, answer, _⟩ := ((Routed.ofGraph steady graph).handles memory holds).plain
    ((graph.plays leaf).handles files task.name)
  exact answer

/-- A graph converts a node as the leaf that the node is left to. -/
lemma convert_eq (fixed : ∀ i, graph.route handled = .ok i → (leaf i).Fixed kept files task)
    (holds : kept memory) (holds' : kept memory') :
    (((graph.converter leaf).convert files task).run memory).1 =
      match graph.route handled with
      | .ok i => (((leaf i).convert files task).run memory').1
      | .error backend => .error (.noConverter backend task.name) := by
  obtain ⟨_, converted⟩ := ((Routed.ofGraph steady graph).convert memory holds).plain
    ((graph.plays leaf).convert files task)
  cases route : graph.route handled with
  | ok i =>
    rw [route] at converted
    obtain ⟨start, started, genuine⟩ := converted.genuine
    rw [← genuine]
    exact fixed i route start memory' started holds'
  | error backend =>
    rw [route] at converted
    exact converted.1

/-- A graph tries to convert a node as the first leaf that handles it. -/
lemma tryConvert_eq (fixed : ∀ i, graph.route handled = .ok i → (leaf i).Fixed kept files task)
    (holds : kept memory) (holds' : kept memory') :
    (((graph.converter leaf).tryConvert files task).run memory).1 =
      match graph.first? handled with
      | some i => (((leaf i).convert files task).run memory').1.map some
      | none => .ok none := by
  obtain ⟨_, tried⟩ := ((Routed.ofGraph steady graph).tryConvert memory holds).plain
    ((graph.plays leaf).tryConvert files task)
  cases first : graph.first? handled with
  | some i =>
    rw [first] at tried
    obtain ⟨outcome, answer, converted⟩ := tried
    obtain ⟨start, started, genuine⟩ := converted.genuine
    rw [answer, ← genuine,
      fixed i (Routed.route_of_some first) start memory' started holds']
  | none =>
    rw [first] at tried
    exact tried.1

end Answers

/-- How composites are nested changes neither the order of the leaves nor the last one. -/
lemma leaves_onBase (backend : String) (a b : Graph ι) (c : Option (Graph ι)) :
    (onBase backend (.composite backend a b) c).leaves =
        (composite backend a (onBase backend b c)).leaves ∧
      (onBase backend (.composite backend a b) c).last =
        (composite backend a (onBase backend b c)).last := by
  cases c with
  | none => exact ⟨rfl, rfl⟩
  | some c => exact ⟨List.append_assoc .., rfl⟩

/-- Every graph is an ordered search among its leaves, whatever they remember, if each of them says
the same about the task's name until one converts: the task goes to the first leaf that says yes,
and if there is none to the last one of the bases; that leaf converts once and no other one
converts; no leaf behind the first one that says yes is called. The outcome is returned as it is,
and one that is an error ends the search.

So both ways of nesting composites leave a task to the same leaf and handle the same names. The two
outcomes can differ only if the leaf's own outcome hangs on how often leaves were asked, since an
override that is a composite is asked twice. -/
theorem first_leaf_converts (leaf : ι → Converter μ) (kept : μ → Prop) (files : FileTree)
    (task : Task) (handled : ι → Bool)
    (steady : ∀ i, (leaf i).Steady kept files task (handled i)) :
    (∀ graph : Graph ι,
      (graph.converter fun i => (leaf i).recorded i).Plays (graph.converter leaf) ∧
      Routed leaf kept files task handled graph
        (graph.converter fun i => (leaf i).recorded i)) ∧
    (∀ (ν : Type) (backend : String) (overrides : Converter ν) (base : Option (Converter ν))
      (memory memory' : ν) (e : ConvertError),
      (overrides.tryConvert files task).run memory = (.error e, memory') →
        ((Converter.composite backend overrides base).convert files task).run memory =
          (.error e, memory')) ∧
    ∀ (backend : String) (a b : Graph ι) (c : Option (Graph ι)),
      let left := onBase backend (.composite backend a b) c
      let right := composite backend a (onBase backend b c)
      (left.converter leaf).backend = (right.converter leaf).backend ∧
      left.route handled = right.route handled ∧
      left.first? handled = right.first? handled ∧
      ∀ memory memory', kept memory → kept memory' →
        (((left.converter leaf).handles files task.name).run memory).1 =
          (((right.converter leaf).handles files task.name).run memory').1 ∧
        ((∀ i, left.route handled = .ok i → (leaf i).Fixed kept files task) →
          (((left.converter leaf).convert files task).run memory).1 =
            (((right.converter leaf).convert files task).run memory').1 ∧
          (((left.converter leaf).tryConvert files task).run memory).1 =
            (((right.converter leaf).tryConvert files task).run memory').1) := by
  refine ⟨fun graph => ⟨graph.plays leaf, .ofGraph steady graph⟩, ?_, ?_⟩
  · intro ν backend overrides base memory memory' e failed
    rw [Converter.composite, Converter.ofHandles, StateT.run_bind, failed]
    rfl
  · intro backend a b c left right
    obtain ⟨leaves, last⟩ := leaves_onBase backend a b c
    have first : left.first? handled = right.first? handled :=
      congrArg (List.find? handled) leaves
    have route : left.route handled = right.route handled := by
      unfold Graph.route
      rw [first, show left.last = right.last from last]
    have named : (left.converter leaf).backend = (right.converter leaf).backend := by
      cases c <;> rfl
    refine ⟨named, route, first, fun memory memory' holds holds' => ⟨?_, fun fixed => ⟨?_, ?_⟩⟩⟩
    · rw [handles_eq steady left holds, handles_eq steady right holds', first]
    · rw [convert_eq steady left fixed holds holds, route]
      rw [route] at fixed
      rw [convert_eq steady right fixed holds' holds]
    · rw [tryConvert_eq steady left fixed holds holds, first]
      rw [route] at fixed
      rw [tryConvert_eq steady right fixed holds' holds]

/-- Three converters that handle a name each and count: one for a question, ten for a conversion.
The second one converts what bears its name, after the first one was asked twice and it once
itself. -/
theorem second_of_three_converts :
    let leaf (own : String) : Converter Nat :=
      .ofHandles "x" (fun _ name => do modify (· + 1); return name == own)
        (fun _ _ => do modify (· + 10); return .ok own)
    let task : Task := ⟨Node.named "b", "", none⟩
    let graph : Graph String :=
      .composite "x" (.composite "x" (.leaf "a") (.leaf "b")) (.leaf "c")
    (∀ own, (leaf own).Steady (fun _ => True) (.rooted []) task ("b" == own)) ∧
    Routed leaf (fun _ => True) (.rooted []) task ("b" == ·) graph
      (graph.converter fun own => (leaf own).recorded own) ∧
    graph.route ("b" == ·) = .ok "b" ∧
    ((graph.converter leaf).convert (.rooted []) task).run 0 = (.ok "b", 13) := by
  intro leaf task graph
  have steady (own : String) :
      (leaf own).Steady (fun _ => True) (.rooted []) task ("b" == own) :=
    .ofHandles fun _ _ => ⟨rfl, trivial⟩
  obtain ⟨routed, _⟩ :=
    first_leaf_converts leaf (fun _ => True) (.rooted []) task ("b" == ·) steady
  exact ⟨steady, (routed graph).2, rfl, rfl⟩

/-- A leaf that counts how often it is asked, and writes the count, tells the two ways of nesting
apart: the overrides of the one way are a composite, which asks the leaf before it leaves the node
to it, and the leaf then asks itself. No other leaf is called here. -/
theorem nesting_shows_in_count :
    let leaf (own : String) : Converter Nat :=
      .ofHandles "x" (fun _ name => do modify (· + 1); return name == own)
        (fun _ _ => do let asked ← get; return .ok (own ++ toString asked))
    let task : Task := ⟨Node.named "a", "", none⟩
    let left : Graph String :=
      onBase "x" (.composite "x" (.leaf "a") (.leaf "b")) (some (.leaf "c"))
    let right : Graph String :=
      .composite "x" (.leaf "a") (onBase "x" (.leaf "b") (some (.leaf "c")))
    (∀ own, (leaf own).Steady (fun _ => True) (.rooted []) task ("a" == own)) ∧
    ((left.converter leaf).convert (.rooted []) task).run 0 = (.ok "a2", 2) ∧
    ((right.converter leaf).convert (.rooted []) task).run 0 = (.ok "a1", 1) := by
  intro leaf task left right
  exact ⟨fun _ => .ofHandles fun _ _ => ⟨rfl, trivial⟩, rfl, rfl⟩

end Graph

end Quire
