import Mathlib.Data.List.Induction
import Quire.Proofs.Template.Layer

/-!
# The cache as a snapshot

Runs of a layer: calls of any kind and on any names, with the files at the time of each call. The
cache of a layer holds, for each name, what the first call on the name saw whose look-up did not
fail. So a layer with cache answers a call as one without cache would have answered it back then.

* `find?_after`: what the cache holds after a run, in terms of the calls of the run.
* `view_after`: what a call sees after a run is what there is in the files of its snapshot.
* `run_withCache`: the answers of a whole run.
-/

namespace Quire.Template

/-- A call of a layer. -/
inductive Call where
  | handles (name : String)
  | resolve (name : String)
  | convert (task : Task)
  | tryConvert (task : Task)

/-- The name that a call is about. -/
def Call.name : Call → String
  | handles name => name
  | resolve name => name
  | convert task => task.name
  | tryConvert task => task.name

/-- What a call answers. -/
inductive Answer where
  | handled (answer : Bool)
  | resolved (answer : Except LookupError (Option Found))
  | converted (answer : Except ConvertError String)
  | tried (answer : Except ConvertError (Option String))

/-- A call and the files at its time. -/
structure Step where
  files : FileTree
  call : Call

namespace Layer

section Runs

variable {m : Type → Type} (layer : Layer m)

/-- The layer with a cache. -/
def withCache : Layer m :=
  { layer with cached := true }

/-- The layer without a cache. -/
def withoutCache : Layer m :=
  { layer with cached := false }

variable [Monad m]

/-- Makes one call. -/
def perform (step : Step) : StateT LayerState m Answer :=
  match step.call with
  | .handles name => return .handled (← layer.handles step.files name)
  | .resolve name => return .resolved (← layer.resolve step.files name)
  | .convert task => return .converted (← layer.convert step.files task)
  | .tryConvert task => return .tried (← layer.tryConvert step.files task)

/-- Makes calls one after the other. -/
def run : List Step → StateT LayerState m (List Answer)
  | [] => return []
  | step :: rest => do
    let answer ← layer.perform step
    let answers ← run rest
    return answer :: answers

end Runs

variable (layer : Layer)

/-- The state of a new layer after calls. -/
def after (past : List Step) : LayerState :=
  ((layer.run past).run {}).2

/-- Whether the look-up of a call on a name does not fail in the files of the call. -/
def settles (name : String) (step : Step) : Bool :=
  step.call.name == name && (layer.search.resolve step.files name).isOk

/-- The files at the first call on the same name, this one included, whose look-up did not fail;
the present files if there is no such call. -/
def snapshot (past : List Step) (now : Step) : FileTree :=
  (((past ++ [now]).find? (layer.settles now.call.name)).getD now).files

/-- The answer to a call, given what the layer sees under its name. -/
def answer (seen : Except LookupError (Option Loaded)) : Call → Answer
  | .handles _ => .handled (handledIn seen)
  | .resolve _ => .resolved (seen.map (·.map (·.template)))
  | .convert task => .converted (layer.convertedIn task seen)
  | .tryConvert task => .tried (layer.triedIn task seen)

/-- A call answers what its view says. -/
lemma perform_fst (step : Step) (state : LayerState) :
    ((layer.perform step).run state).1 =
      layer.answer (layer.view step.files state step.call.name) step.call := by
  obtain ⟨files, call⟩ := step
  cases call with
  | handles name => simp only [perform, StateT.run_bind, run_handles]; rfl
  | resolve name => simp only [perform, StateT.run_bind, run_resolve]; rfl
  | convert task => simp only [perform, StateT.run_bind, run_convert]; rfl
  | tryConvert task => simp only [perform, StateT.run_bind, run_tryConvert]; rfl

/-- A call settles the state of a layer with cache. -/
lemma perform_snd (cached : layer.cached = true) (step : Step) (state : LayerState) :
    ((layer.perform step).run state).2 = layer.settle step.files state step.call.name := by
  obtain ⟨files, call⟩ := step
  cases call with
  | handles name => simp only [perform, StateT.run_bind, run_handles, cached]; rfl
  | resolve name => simp only [perform, StateT.run_bind, run_resolve, cached]; rfl
  | convert task => simp only [perform, StateT.run_bind, run_convert]; rfl
  | tryConvert task => simp only [perform, StateT.run_bind, run_tryConvert]; rfl

/-- A layer without cache answers from the files alone. -/
lemma perform_withoutCache (step : Step) (state : LayerState) :
    ((layer.withoutCache.perform step).run state).1 =
      layer.answer (layer.loading step.files step.call.name) step.call := by
  rw [perform_fst, view_of_uncached rfl]
  rfl

/-- A call settles its own name if loading does not fail in its files. -/
lemma settles_self (step : Step) :
    layer.settles step.call.name step = (layer.loading step.files step.call.name).isOk := by
  unfold settles loading
  rw [beq_self_eq_true, Bool.true_and]
  cases layer.search.resolve step.files step.call.name <;> rfl

/-- In the files of a call that settles a name there is something to be loaded or to be missed. -/
lemma loading_of_settles {name : String} {step : Step} (settled : layer.settles name step = true) :
    ∃ known, layer.loading step.files name = .ok known := by
  obtain ⟨named, resolved⟩ := (Bool.and_eq_true _ _).mp settled
  unfold loading
  cases found : layer.search.resolve step.files name with
  | ok found => exact ⟨_, rfl⟩
  | error e =>
    rw [found] at resolved
    cases resolved

/-- A run makes its first call and goes on in the state after it. -/
lemma run_cons (step : Step) (rest : List Step) (state : LayerState) :
    (layer.run (step :: rest)).run state =
      (((layer.perform step).run state).1 ::
          ((layer.run rest).run ((layer.perform step).run state).2).1,
        ((layer.run rest).run ((layer.perform step).run state).2).2) :=
  rfl

/-- A run over two parts is a run over the one and then over the other. -/
lemma run_append (first second : List Step) (state : LayerState) :
    (layer.run (first ++ second)).run state =
      (((layer.run first).run state).1 ++
          ((layer.run second).run ((layer.run first).run state).2).1,
        ((layer.run second).run ((layer.run first).run state).2).2) := by
  induction first generalizing state with
  | nil => rfl
  | cons step rest ih => rw [List.cons_append, run_cons, run_cons, ih, List.cons_append]

/-- A run has one answer for each call. -/
lemma length_run (steps : List Step) (state : LayerState) :
    ((layer.run steps).run state).1.length = steps.length := by
  induction steps generalizing state with
  | nil => rfl
  | cons step rest ih => rw [run_cons, List.length_cons, List.length_cons, ih]

/-- The answer to a call in the middle of a run. -/
lemma run_getElem? (past rest : List Step) (now : Step) :
    ((layer.run (past ++ now :: rest)).run {}).1[past.length]? =
      some ((layer.perform now).run (layer.after past)).1 := by
  have length := layer.length_run past {}
  rw [run_append, List.getElem?_append_right (Nat.le_of_eq length), length, Nat.sub_self]
  rfl

/-- One more call is made in the state after the others. -/
lemma after_snoc (past : List Step) (now : Step) :
    layer.after (past ++ [now]) = ((layer.perform now).run (layer.after past)).2 := by
  unfold after
  rw [run_append]
  rfl

/-- After a run, the cache holds under each name what was there at the first call on the name whose
look-up did not fail. -/
lemma find?_after (past : List Step) (name : String) :
    (layer.withCache.after past).loaded.find? name =
      (past.find? (layer.settles name)).bind fun step =>
        (layer.loading step.files name).toOption := by
  -- from the end, as the last call finds the cache in the state that the others left
  induction past using List.reverseRecOn with
  | nil => rfl
  | append_singleton past now ih =>
    rw [after_snoc, perform_snd _ rfl, find?_settle _ _ _ _ rfl, List.find?_append]
    by_cases same : name = now.call.name
    · subst same
      rw [if_pos rfl]
      cases earlier : past.find? (layer.settles now.call.name) with
      | some step =>
        -- a hit: the name was settled before and stays so
        obtain ⟨known, loaded⟩ := layer.loading_of_settles (List.find?_some earlier)
        rw [earlier, Option.bind_some, loaded] at ih
        rw [view_of_known rfl ih, Option.some_or, Option.bind_some, loaded]
      | none =>
        -- no call has settled the name so far, so this one may
        rw [earlier] at ih
        rw [view_of_unknown ih, Option.none_or, List.find?_singleton, settles_self]
        have same : layer.withCache.loading now.files now.call.name =
            layer.loading now.files now.call.name := rfl
        rw [same]
        cases loaded : layer.loading now.files now.call.name with
        | error e => rfl
        | ok known => exact (congrArg Except.toOption loaded).symm
    · have other : layer.settles name now = false := by
        unfold settles
        rw [beq_eq_false_iff_ne.2 (Ne.symm same), Bool.false_and]
      rw [if_neg same, ih, List.find?_singleton, other]
      cases past.find? (layer.settles name) <;> rfl

/-- What a call sees after a run is what there is in the files of its snapshot. -/
lemma view_after (past : List Step) (now : Step) :
    layer.withCache.view now.files (layer.withCache.after past) now.call.name =
      layer.loading (layer.snapshot past now) now.call.name := by
  have remembered := layer.find?_after past now.call.name
  unfold snapshot
  rw [List.find?_append]
  cases earlier : past.find? (layer.settles now.call.name) with
  | some step =>
    obtain ⟨known, loaded⟩ := layer.loading_of_settles (List.find?_some earlier)
    rw [earlier, Option.bind_some, loaded] at remembered
    rw [view_of_known rfl remembered, Option.some_or, Option.getD_some, loaded]
  | none =>
    rw [earlier] at remembered
    rw [view_of_unknown remembered, Option.none_or, List.find?_singleton]
    cases layer.settles now.call.name now <;> rfl

/-- A call after a run is answered as a layer without cache answers it in the files of its
snapshot. -/
lemma perform_after (past : List Step) (now : Step) (state : LayerState) :
    ((layer.withCache.perform now).run (layer.withCache.after past)).1 =
      ((layer.withoutCache.perform ⟨layer.snapshot past now, now.call⟩).run state).1 := by
  rw [perform_fst, view_after, perform_withoutCache]
  rfl

/-- Calls on other names have no part in a snapshot. -/
lemma snapshot_filter (past : List Step) (now : Step) :
    layer.snapshot (past.filter fun step => step.call.name == now.call.name) now =
      layer.snapshot past now := by
  have same : (fun step : Step => decide ((step.call.name == now.call.name) = true ∧
      layer.settles now.call.name step = true)) = layer.settles now.call.name := by
    funext step
    rw [← Bool.and_eq_decide]
    unfold settles
    rw [← Bool.and_assoc, Bool.and_self]
  unfold snapshot
  rw [List.find?_append, List.find?_filter, same, List.find?_append]

/-- As long as the files stay the same, a layer with cache that sees what is in them answers as one
without cache, whatever was called before. -/
lemma run_of_unchanged (files : FileTree) (calls : List Call) (cached plain : LayerState)
    (agrees : ∀ name, layer.withCache.view files cached name = layer.loading files name) :
    ((layer.withCache.run (calls.map (Step.mk files))).run cached).1 =
      ((layer.withoutCache.run (calls.map (Step.mk files))).run plain).1 := by
  induction calls generalizing cached plain with
  | nil => rfl
  | cons call rest ih =>
    have answered : ((layer.withCache.perform ⟨files, call⟩).run cached).1 =
        ((layer.withoutCache.perform ⟨files, call⟩).run plain).1 := by
      rw [perform_fst, agrees, perform_withoutCache]
      rfl
    rw [List.map_cons, run_cons, run_cons, answered]
    refine congrArg (List.cons _) (ih _ _ ?_)
    intro name
    rw [perform_snd _ rfl, view_settle]
    exact agrees name

/-- In every run from a new layer on, whatever happens to the files between the calls, a layer with
cache answers each call as a layer without cache does in the files of the call's snapshot. Calls on
other names make no difference, and none is there between the two layers as long as the files stay
the same. -/
theorem run_withCache :
    (∀ (past rest : List Step) (now : Step),
      ((layer.withCache.run (past ++ now :: rest)).run {}).1[past.length]? =
        some ((layer.withoutCache.perform ⟨layer.snapshot past now, now.call⟩).run {}).1) ∧
    (∀ (past : List Step) (now : Step),
      ((layer.withCache.perform now).run (layer.withCache.after past)).1 =
        ((layer.withCache.perform now).run
          (layer.withCache.after
            (past.filter fun step => step.call.name == now.call.name))).1) ∧
    ∀ (files : FileTree) (calls : List Call),
      ((layer.withCache.run (calls.map (Step.mk files))).run {}).1 =
        ((layer.withoutCache.run (calls.map (Step.mk files))).run {}).1 := by
  refine ⟨?_, ?_, ?_⟩
  · intro past rest now
    rw [run_getElem?, perform_after layer past now {}]
  · intro past now
    rw [perform_after layer past now {}, perform_after layer _ now {}, snapshot_filter]
  · intro files calls
    apply run_of_unchanged
    intro name
    exact view_of_unknown rfl

end Layer

end Quire.Template
