import Mathlib.Data.Finset.Card
import Quire.Proofs.Template.Snapshot

/-!
# How often templates are compiled

A layer whose engine records what it is asked to compile does what the layer does (`Records`). A
layer without cache asks for each conversion whose look-up finds a template. One with cache asks at
the first call on a name whose look-up does not fail, if that call finds a template, and never again
for that name, whatever the call is and whether the template compiles or not.

* `records_perform`, `records_run`: calls and whole runs next to a record.
* `compilations_withoutCache_concat`, `compilations_withCache_concat`: what one more call asks for.
* `compiledNames_concat`: which name one more call adds.
* `compiled_after_run`: whole runs.
-/

namespace Quire.Template

/-- Whether a call is for an output. -/
def Call.isConversion : Call → Bool
  | convert _ | tryConvert _ => true
  | handles _ | resolve _ => false

/-- What an engine is asked to compile. -/
structure Compilation where
  path : String
  source : String
deriving DecidableEq

/-- A step that leaves a record of compilations. -/
abbrev Recording := StateM (List Compilation)

/-- The engine that records what it is asked to compile. -/
def Engine.recorded (engine : Engine) : Engine Recording where
  name := engine.name
  extension := engine.extension
  compile path source := do
    modify (· ++ [⟨path, source⟩])
    return engine.compile path source

/-- The layer with an engine that records what it is asked to compile. -/
def Layer.recorded (layer : Layer) : Layer Recording where
  backend := layer.backend
  engine := layer.engine.recorded
  search := layer.search
  cached := layer.cached

/-- From a state, a step that records does what a plain one does, and adds what was asked for to the
record. -/
def Records {α : Type} (state : LayerState) (asked : List Compilation)
    (recording : StateT LayerState Recording α) (plain : StateM LayerState α) : Prop :=
  ∀ record, (recording.run state).run record = (plain.run state, record ++ asked)

namespace Records

variable {α β : Type} {state : LayerState} {asked asked' : List Compilation}

/-- A step without effect asks for nothing. -/
lemma pure (value : α) : Records state [] (Pure.pure value) (Pure.pure value) := by
  intro record
  rw [List.append_nil]
  rfl

/-- Steps in a row ask for what the first one asks for and then for what the second one does. -/
lemma bind {recording : StateT LayerState Recording α} {plain : StateM LayerState α}
    {next : α → StateT LayerState Recording β} {next' : α → StateM LayerState β}
    (first : Records state asked recording plain)
    (second : Records (plain.run state).2 asked' (next (plain.run state).1)
      (next' (plain.run state).1)) :
    Records state (asked ++ asked') (recording >>= next) (plain >>= next') := by
  intro record
  have whole : ((recording >>= next).run state).run record =
      ((next ((recording.run state).run record).1.1).run
        ((recording.run state).run record).1.2).run ((recording.run state).run record).2 := rfl
  rw [whole, first record, second, List.append_assoc]
  rfl

/-- Steps behind one that asks may ask for nothing. -/
lemma bind_idle {recording : StateT LayerState Recording α} {plain : StateM LayerState α}
    {next : α → StateT LayerState Recording β} {next' : α → StateM LayerState β}
    (first : Records state asked recording plain)
    (second : ∀ value state, Records state [] (next value) (next' value)) :
    Records state asked (recording >>= next) (plain >>= next') := by
  have both := first.bind (second (plain.run state).1 (plain.run state).2)
  rwa [List.append_nil] at both

/-- Looking at what is remembered asks for nothing. -/
lemma look {next : LayerState → StateT LayerState Recording β}
    {next' : LayerState → StateM LayerState β}
    (behind : Records state asked (next state) (next' state)) :
    Records state asked (get >>= next) (get >>= next') :=
  behind

/-- Remembering something asks for nothing. -/
lemma remember (change : LayerState → LayerState) {next : StateT LayerState Recording β}
    {next' : StateM LayerState β} (behind : Records (change state) asked next next') :
    Records state asked (do modify change; next) (do modify change; next') :=
  behind

end Records

namespace Layer

variable (layer : Layer)

/-- What a look-up in the files asks to compile. -/
def sought (files : FileTree) (name : String) : List Compilation :=
  match layer.search.resolve files name with
  | .ok (some template) => [⟨template.path, template.source⟩]
  | _ => []

/-- What a look-up in a given state asks to compile: nothing if it is answered from the cache. -/
def asked (files : FileTree) (state : LayerState) (name : String) : List Compilation :=
  match layer.cached, state.loaded.find? name with
  | true, some _ => []
  | _, _ => layer.sought files name

/-- What a call asks to compile. A layer without cache looks into the files for the file of a
template as well, but it only loads what it converts with. -/
def askedBy (state : LayerState) (step : Step) : List Compilation :=
  if layer.cached || step.call.isConversion then layer.asked step.files state step.call.name else []

/-- What calls ask to compile, one after the other. -/
def askedByAll : LayerState → List Step → List Compilation
  | _, [] => []
  | state, step :: rest =>
    layer.askedBy state step ++ askedByAll ((layer.perform step).run state).2 rest

/-- What a new layer asks its engine to compile in the course of a run. -/
def compilations (steps : List Step) : List Compilation :=
  (((layer.recorded.run steps).run {}).run []).2

variable {layer : Layer} {files : FileTree} {state : LayerState} {name : String}

lemma asked_of_uncached (uncached : layer.cached = false) :
    layer.asked files state name = layer.sought files name := by
  simp only [asked, uncached]

lemma asked_of_known {known : Option Loaded} (cached : layer.cached = true)
    (hit : state.loaded.find? name = some known) : layer.asked files state name = [] := by
  simp only [asked, cached, hit]

lemma asked_of_unknown (miss : state.loaded.find? name = none) :
    layer.asked files state name = layer.sought files name := by
  cases cached : layer.cached <;> simp only [asked, cached, miss]

variable (layer files state name)

/-- A look-up in the files asks for the template that it finds. -/
lemma records_loadNow :
    Records state (layer.sought files name) (layer.recorded.loadNow files name)
      (layer.loadNow files name) := by
  have same : layer.recorded.search = layer.search := rfl
  unfold loadNow sought
  rw [same]
  cases layer.search.resolve files name with
  | error e => exact .pure _
  | ok found =>
    cases found with
    | none => exact .pure _
    | some template => exact fun _ => rfl

/-- A look-up asks for a template unless it is answered from the cache. -/
lemma records_load :
    Records state (layer.asked files state name) (layer.recorded.load files name)
      (layer.load files name) := by
  cases cached : layer.cached with
  | false =>
    have uncached : layer.recorded.cached = false := cached
    rw [asked_of_uncached cached]
    simp only [load, cached, uncached, Bool.false_eq_true, if_false]
    exact layer.records_loadNow files state name
  | true =>
    have same : layer.recorded.cached = true := cached
    simp only [load, cached, same, if_true]
    cases hit : state.loaded.find? name with
    | some known =>
      rw [asked_of_known cached hit]
      apply Records.look
      rw [hit]
      exact .pure _
    | none =>
      rw [asked_of_unknown hit]
      apply Records.look
      rw [hit]
      apply (layer.records_loadNow files state name).bind_idle
      intro value state
      cases value with
      | error e => exact .pure _
      | ok found => exact .remember _ (.pure _)

/-- The file of a template is looked up as the template is, in a layer with a cache; without one
nothing is compiled for it. -/
lemma records_resolve :
    Records state (if layer.cached then layer.asked files state name else [])
      (layer.recorded.resolve files name) (layer.resolve files name) := by
  cases cached : layer.cached with
  | false =>
    have uncached : layer.recorded.cached = false := cached
    simp only [resolve, cached, uncached, Bool.false_eq_true, if_false]
    exact .pure _
  | true =>
    have same : layer.recorded.cached = true := cached
    simp only [resolve, cached, same, if_true]
    exact (layer.records_load files state name).bind_idle fun _ _ => .pure _

lemma records_handles :
    Records state (if layer.cached then layer.asked files state name else [])
      (layer.recorded.handles files name) (layer.handles files name) := by
  apply (layer.records_resolve files state name).bind_idle
  intro value state
  cases value <;> exact .pure _

lemma records_tryConvert (task : Task) :
    Records state (layer.asked files state task.name) (layer.recorded.tryConvert files task)
      (layer.tryConvert files task) := by
  apply (layer.records_load files state task.name).bind_idle
  intro value state
  cases value with
  | error e => exact .pure _
  | ok found => cases found <;> exact .pure _

lemma records_convert (task : Task) :
    Records state (layer.asked files state task.name) (layer.recorded.convert files task)
      (layer.convert files task) := by
  apply (layer.records_tryConvert files state task).bind_idle
  intro value state
  cases value with
  | error e => exact .pure _
  | ok output => cases output <;> exact .pure _

/-- A call of a recorded layer does what the call does, and asks for what it has to look up. -/
lemma records_perform (step : Step) :
    Records state (layer.askedBy state step) (layer.recorded.perform step)
      (layer.perform step) := by
  obtain ⟨files, call⟩ := step
  cases call with
  | handles name =>
    rw [askedBy, Call.isConversion, Bool.or_false]
    exact (layer.records_handles files state name).bind_idle fun _ _ => .pure _
  | resolve name =>
    rw [askedBy, Call.isConversion, Bool.or_false]
    exact (layer.records_resolve files state name).bind_idle fun _ _ => .pure _
  | convert task =>
    rw [askedBy, Call.isConversion, Bool.or_true, if_pos rfl]
    exact (layer.records_convert files state task).bind_idle fun _ _ => .pure _
  | tryConvert task =>
    rw [askedBy, Call.isConversion, Bool.or_true, if_pos rfl]
    exact (layer.records_tryConvert files state task).bind_idle fun _ _ => .pure _

/-- So does a run. -/
lemma records_run (steps : List Step) :
    Records state (layer.askedByAll state steps) (layer.recorded.run steps) (layer.run steps) := by
  induction steps generalizing state with
  | nil => exact .pure _
  | cons step rest ih =>
    apply (layer.records_perform state step).bind
    apply (ih _).bind_idle
    exact fun _ _ => .pure _

lemma compilations_eq (steps : List Step) :
    layer.compilations steps = layer.askedByAll {} steps := by
  rw [compilations, layer.records_run {} steps, List.nil_append]

lemma askedByAll_append (first second : List Step) :
    layer.askedByAll state (first ++ second) =
      layer.askedByAll state first ++ layer.askedByAll ((layer.run first).run state).2 second := by
  induction first generalizing state with
  | nil => rfl
  | cons step rest ih =>
    rw [List.cons_append, askedByAll, askedByAll, ih, List.append_assoc]
    rfl

/-- One more call asks for what it asks for in the state that the others left. -/
lemma compilations_concat (past : List Step) (now : Step) :
    layer.compilations (past ++ [now]) =
      layer.compilations past ++ layer.askedBy (layer.after past) now := by
  rw [compilations_eq, compilations_eq, askedByAll_append, askedByAll, askedByAll, List.append_nil]
  rfl

variable {name}

/-- Whether a look-up in the files of a call finds a template. -/
def finds (name : String) (step : Step) : Bool :=
  match layer.search.resolve step.files name with
  | .ok (some _) => true
  | _ => false

/-- The names of a run whose first look-up that did not fail found a template. -/
def compiledNames (past : List Step) : Finset String :=
  (past.map fun step => step.call.name).toFinset.filter fun name =>
    (past.find? (layer.settles name)).any (layer.finds name) = true

/-- A look-up that finds a template does not fail. -/
lemma settles_of_finds {step : Step} (found : layer.finds step.call.name step = true) :
    layer.settles step.call.name step = true := by
  unfold finds at found
  unfold settles
  rw [beq_self_eq_true, Bool.true_and]
  cases looked : layer.search.resolve step.files step.call.name with
  | ok template => rfl
  | error e =>
    rw [looked] at found
    cases found

lemma settles_of_ne {name : String} {step : Step} (other : name ≠ step.call.name) :
    layer.settles name step = false := by
  unfold settles
  rw [beq_eq_false_iff_ne.mpr other.symm, Bool.false_and]

/-- A look-up asks for a template if it finds one. -/
lemma length_sought (name : String) (step : Step) :
    (layer.sought step.files name).length = if layer.finds name step then 1 else 0 := by
  unfold sought finds
  cases layer.search.resolve step.files name with
  | error e => rfl
  | ok found => cases found <;> rfl

lemma sought_of_missing {step : Step} (missing : layer.finds name step = false) :
    layer.sought step.files name = [] := by
  rw [← List.length_eq_zero_iff, length_sought, missing, if_neg Bool.false_ne_true]

/-- A layer without cache asks for what it converts with. -/
lemma compilations_withoutCache_concat (past : List Step) (now : Step) :
    layer.withoutCache.compilations (past ++ [now]) =
      layer.withoutCache.compilations past ++
        if now.call.isConversion then layer.sought now.files now.call.name else [] := by
  have uncached : layer.withoutCache.cached = false := rfl
  rw [compilations_concat, askedBy, uncached, Bool.false_or, asked_of_uncached uncached]
  rfl

/-- What a layer with cache remembers under a name was there at a call that settled it. -/
lemma find?_after_eq_none_iff (past : List Step) (name : String) :
    (layer.withCache.after past).loaded.find? name = none ↔
      past.find? (layer.settles name) = none := by
  rw [find?_after]
  cases earlier : past.find? (layer.settles name) with
  | none => exact iff_of_true rfl rfl
  | some step =>
    obtain ⟨known, loaded⟩ := layer.loading_of_settles (List.find?_some earlier)
    rw [Option.bind_some, loaded]
    exact iff_of_false nofun nofun

/-- Whether a layer with cache compiles at a call: no earlier call has settled the name, and this
one finds a template. -/
def firstFinds (past : List Step) (now : Step) : Bool :=
  (past.find? (layer.settles now.call.name)).isNone && layer.finds now.call.name now

/-- A layer with cache asks for the template that settles a name. -/
lemma compilations_withCache_concat (past : List Step) (now : Step) :
    layer.withCache.compilations (past ++ [now]) =
      layer.withCache.compilations past ++
        if layer.firstFinds past now then layer.sought now.files now.call.name else [] := by
  have cached : layer.withCache.cached = true := rfl
  rw [compilations_concat, askedBy, cached, Bool.true_or, if_pos rfl, firstFinds]
  congr 1
  cases hit : (layer.withCache.after past).loaded.find? now.call.name with
  | some known =>
    have earlier : (past.find? (layer.settles now.call.name)).isNone = false := by
      rw [Option.isNone_eq_false_iff, Option.isSome_iff_ne_none, ne_eq, ← find?_after_eq_none_iff,
        hit]
      nofun
    rw [asked_of_known cached hit, earlier]
    rfl
  | none =>
    rw [asked_of_unknown hit, (layer.find?_after_eq_none_iff past _).mp hit, Option.isNone_none,
      Bool.true_and]
    have same : layer.withCache.sought now.files now.call.name =
        layer.sought now.files now.call.name := rfl
    rw [same]
    cases found : layer.finds now.call.name now with
    | true => rfl
    | false => rw [layer.sought_of_missing found, if_neg Bool.false_ne_true]

lemma mem_compiledNames_iff {past : List Step} {name : String} :
    name ∈ layer.compiledNames past ↔
      ∃ step, past.find? (layer.settles name) = some step ∧ layer.finds name step = true := by
  rw [compiledNames, Finset.mem_filter, List.mem_toFinset, Option.any_eq_true]
  constructor
  · rintro ⟨-, step, earlier, found⟩
    exact ⟨step, earlier, found⟩
  · rintro ⟨step, earlier, found⟩
    have settled : layer.settles name step = true := List.find?_some earlier
    obtain ⟨named, -⟩ := (Bool.and_eq_true _ _).mp settled
    exact ⟨List.mem_map.mpr ⟨step, List.mem_of_find?_eq_some earlier, beq_iff_eq.mp named⟩,
      step, earlier, found⟩

/-- One more call adds its name if a layer with cache compiles there. -/
lemma compiledNames_concat (past : List Step) (now : Step) :
    layer.compiledNames (past ++ [now]) =
      if layer.firstFinds past now then insert now.call.name (layer.compiledNames past)
      else layer.compiledNames past := by
  ext name
  rw [mem_compiledNames_iff, List.find?_append, apply_ite (name ∈ ·), Finset.mem_insert,
    mem_compiledNames_iff, firstFinds, List.find?_singleton]
  by_cases same : name = now.call.name
  · subst same
    cases earlier : past.find? (layer.settles now.call.name) with
    | some step => simp
    | none =>
      cases found : layer.finds now.call.name now with
      | true => simp [layer.settles_of_finds found, found]
      | false => cases layer.settles now.call.name now <;> simp [found]
  · rw [layer.settles_of_ne same]
    cases past.find? (layer.settles name) <;> simp [same]

lemma not_mem_compiledNames {past : List Step} {now : Step}
    (first : layer.firstFinds past now = true) : now.call.name ∉ layer.compiledNames past := by
  obtain ⟨unsettled, -⟩ := (Bool.and_eq_true _ _).mp first
  rw [mem_compiledNames_iff, Option.isNone_iff_eq_none.mp unsettled]
  rintro ⟨step, ⟨⟩, -⟩

/-- A layer with cache compiles once for each name. -/
lemma length_compilations_withCache (past : List Step) :
    (layer.withCache.compilations past).length = (layer.compiledNames past).card := by
  induction past using List.reverseRecOn with
  | nil => rfl
  | append_singleton past now ih =>
    rw [compilations_withCache_concat, compiledNames_concat, List.length_append, ih]
    cases first : layer.firstFinds past now with
    | false => rfl
    | true =>
      obtain ⟨-, found⟩ := (Bool.and_eq_true _ _).mp first
      rw [if_pos rfl, if_pos rfl, length_sought, found, if_pos rfl,
        Finset.card_insert_of_notMem (layer.not_mem_compiledNames first)]

lemma length_compilations_withoutCache (past : List Step) :
    (layer.withoutCache.compilations past).length =
      past.countP fun step => step.call.isConversion && layer.finds step.call.name step := by
  induction past using List.reverseRecOn with
  | nil => rfl
  | append_singleton past now ih =>
    rw [compilations_withoutCache_concat, List.length_append, ih, List.countP_append,
      List.countP_singleton]
    cases now.call.isConversion with
    | true => rw [if_pos rfl, length_sought, Bool.true_and]
    | false => rfl

/-- No call compiles behind one that has settled its name. -/
lemma firstFinds_of_mem {past : List Step} {now earlier : Step} (mem : earlier ∈ past)
    (settled : layer.settles now.call.name earlier = true) :
    layer.firstFinds past now = false := by
  unfold firstFinds
  have hit : (past.find? (layer.settles now.call.name)).isSome = true :=
    List.find?_isSome.mpr ⟨earlier, mem, settled⟩
  rw [← Option.not_isSome, hit]
  rfl

/-- In every run from a new layer on, whatever happens to the files between the calls, a layer
without cache asks its engine to compile as often as a conversion finds a template, and one with
cache as often as there are names whose first look-up that did not fail found one. That is once for
a name at most, whether the template compiles or not, and not at all for one that is remembered as
missing. The record that is kept of this changes neither the answers nor what is remembered. -/
theorem compiled_after_run :
    (∀ steps : List Step,
      (((layer.recorded.run steps).run {}).run []).1 = (layer.run steps).run {}) ∧
    (∀ steps : List Step, (layer.withoutCache.compilations steps).length =
      steps.countP fun step => step.call.isConversion && layer.finds step.call.name step) ∧
    (∀ steps : List Step,
      (layer.withCache.compilations steps).length = (layer.compiledNames steps).card) ∧
    (∀ (past between : List Step) (now again : Step),
      layer.withCache.compilations past ≠ layer.withCache.compilations (past ++ [now]) →
      again.call.name = now.call.name →
      layer.withCache.compilations (past ++ now :: between ++ [again]) =
        layer.withCache.compilations (past ++ now :: between)) ∧
    ∀ (past : List Step) (now : Step),
      (layer.withCache.after past).loaded.find? now.call.name = some none →
      layer.withCache.compilations (past ++ [now]) = layer.withCache.compilations past := by
  refine ⟨?_, layer.length_compilations_withoutCache, layer.length_compilations_withCache, ?_, ?_⟩
  · intro steps
    rw [layer.records_run {} steps]
  · intro past between now again grows same
    rw [compilations_withCache_concat] at grows
    have first : layer.firstFinds past now = true := by
      by_contra other
      rw [if_neg other, List.append_nil] at grows
      exact grows rfl
    -- the call that compiled has settled the name
    have settled := layer.settles_of_finds ((Bool.and_eq_true _ _).mp first).2
    have mem : now ∈ past ++ now :: between := by simp
    rw [compilations_withCache_concat, layer.firstFinds_of_mem mem (same ▸ settled),
      if_neg Bool.false_ne_true, List.append_nil]
  · intro past now missing
    have earlier : past.find? (layer.settles now.call.name) ≠ none := by
      rw [ne_eq, ← find?_after_eq_none_iff, missing]
      nofun
    obtain ⟨step, there⟩ := Option.ne_none_iff_exists'.mp earlier
    rw [compilations_withCache_concat,
      layer.firstFinds_of_mem (List.mem_of_find?_eq_some there) (List.find?_some there),
      if_neg Bool.false_ne_true, List.append_nil]

/-- A layer whose engine refuses every template, over the directory `/t`. -/
def refusing : Layer :=
  ⟨"b", ⟨"", "x", fun _ _ => .error "refused"⟩, ⟨["/t"], "", "b", "x"⟩, false⟩

/-- The directory `/t` with files in it. -/
def listing (names : List String) : FileTree :=
  ⟨.directory [("t", .directory (names.map fun name => (name, .file ⟨#[112]⟩)))], []⟩

/-- A template that is refused is asked for once, and one that comes up after it was missed not at
all; without cache each conversion asks. -/
theorem compiled_after_run_refused :
    let past : List Step := [⟨listing ["p.x"], .handles "q"⟩]
    let now : Step := ⟨listing ["p.x", "q.x"], .handles "p"⟩
    let late : Step := ⟨listing ["p.x", "q.x"], .convert ⟨.named "q", "", none⟩⟩
    let again : Step := ⟨listing ["p.x", "q.x"], .tryConvert ⟨.named "q", "", some "p"⟩⟩
    let steps := past ++ now :: [late] ++ [again]
    refusing.withCache.compilations past ≠ refusing.withCache.compilations (past ++ [now]) ∧
    again.call.name = now.call.name ∧
    (refusing.withCache.after past).loaded.find? late.call.name = some none ∧
    refusing.withCache.compilations steps =
      refusing.withCache.compilations (past ++ now :: [late]) ∧
    refusing.withCache.compilations (past ++ [late]) = refusing.withCache.compilations past ∧
    (refusing.withCache.compilations steps).length = 1 ∧
    refusing.withCache.compilations steps = [⟨"/t/p.x", "p"⟩] ∧
    (refusing.withoutCache.compilations steps).length = 2 := by
  intro past now late again steps
  have grows : refusing.withCache.compilations past ≠
      refusing.withCache.compilations (past ++ [now]) := by decide +kernel
  have missing : (refusing.withCache.after past).loaded.find? late.call.name = some none := by
    rfl
  obtain ⟨-, plain, cached, once, never⟩ := refusing.compiled_after_run
  refine ⟨grows, rfl, missing, once past [late] now again grows rfl, never past late missing,
    ?_, ?_, ?_⟩
  · rw [cached]
    decide +kernel
  · decide +kernel
  · rw [plain]
    decide +kernel

end Layer

end Quire.Template
