import Quire.Number.Decimal
import Quire.Text.Replace

/-!
# Paths into values

A path is a text. What stands between its brackets without quotes, and is no natural number, is a
path of its own, and the value there takes its place. With the brackets turned into points the path
leads from a name at its start through steps, which points and quotes separate. So a key in
brackets is one step only if it holds no quotes.
-/

namespace Quire.Template.Language

/-- Where the search for inner paths stands. -/
inductive BracketState where
  | outside
  /-- Behind an opening bracket. -/
  | opened
  /-- Inside as many brackets as `depth`, behind the characters of `name`, last one first. -/
  | inside (depth : Nat) (name : List Char)

/-- The number of characters that the search has gathered. -/
def BracketState.gathered : BracketState → Nat
  | outside | opened => 0
  | inside _ name => name.length

/-- How many brackets are open behind a character. -/
def depthBehind (depth : Nat) (c : Char) : Nat :=
  if c = ']' then depth - 1 else if c = '[' then depth + 1 else depth

/-- The texts between brackets that do not start with a quote, if each such bracket is closed. -/
def bracketed : BracketState → List Char → Option (List (List Char))
  | .outside, [] => some []
  | _, [] => none
  | .outside, c :: cs => bracketed (if c = '[' then .opened else .outside) cs
  | .opened, c :: cs => bracketed (if c = '"' ∨ c = '\'' then .outside else .inside 1 [c]) cs
  | .inside depth name, c :: cs =>
    if depthBehind depth c = 0 then (bracketed .outside cs).map (name.reverse :: ·)
    else bracketed (.inside (depthBehind depth c) (c :: name)) cs

/-- A text between brackets is shorter than the text around it. -/
theorem length_lt_of_mem_bracketed {state : BracketState} {cs : List Char}
    {names : List (List Char)} (h : bracketed state cs = some names) {name : List Char}
    (hm : name ∈ names) : name.length < state.gathered + cs.length := by
  induction cs generalizing state names with
  | nil =>
    cases state with
    | outside => simp_all [bracketed]
    | opened => simp [bracketed] at h
    | inside depth gathered => simp [bracketed] at h
  | cons c cs ih =>
    cases state with
    | outside =>
      rw [bracketed] at h
      have := ih h hm
      split at this <;> simp_all [BracketState.gathered] <;> omega
    | opened =>
      rw [bracketed] at h
      have := ih h hm
      split at this <;> simp_all [BracketState.gathered] <;> omega
    | inside depth gathered =>
      rw [bracketed] at h
      split at h
      · obtain ⟨others, ho, rfl⟩ := Option.map_eq_some_iff.1 h
        rcases List.mem_cons.1 hm with rfl | hm
        · simp [BracketState.gathered]
        · have := ih ho hm
          simp only [BracketState.gathered, List.length_cons] at this ⊢
          omega
      · have := ih h hm
        simp only [BracketState.gathered, List.length_cons] at this ⊢
        omega

namespace ValuePath

/-- Whether a path has brackets. -/
def hasBrackets (path : String) : Bool :=
  path.toList.contains '['

/-- The inner paths of a path, if its brackets are closed. -/
def inner? (path : String) : Option (List String) :=
  (bracketed .outside path.toList).map fun names =>
    (names.map String.ofList).filter fun name => (Decimal.parse? name).isNone

/-- An inner path is shorter than the path. -/
theorem length_lt_of_inner? {path : String} {names : List String} (h : inner? path = some names)
    {name : String} (hm : name ∈ names) : name.length < path.length := by
  obtain ⟨texts, ht, rfl⟩ := Option.map_eq_some_iff.1 h
  obtain ⟨text, hx, rfl⟩ := List.mem_map.1 (List.mem_filter.1 hm).1
  have := length_lt_of_mem_bracketed ht hx
  rw [String.length_ofList, ← String.length_toList]
  simpa [BracketState.gathered] using this

/-- The path with a point and `value` in place of the first brackets around `inner`; behind it, if
there are none. -/
def substitute (path inner value : String) : String :=
  match Text.splitAtFirst ("[" ++ inner ++ "]").toList path.toList with
  | some (before, behind) => String.ofList before ++ "." ++ value ++ String.ofList behind
  | none => path ++ "." ++ value

/-- The path with points in place of its brackets, and with one kind of quotes. A slash is written
as `~1`. -/
def pointed (path : String) : String :=
  [("/", "~1"), ("['", ".\""), ("[\"", ".\""), ("[", "."), ("']", "\""), ("\"]", "\""),
      ("]", "")].foldl
    (fun path (pattern, replacement) => Text.replace pattern replacement path) path

/-- The name at the start of a path. -/
def head (path : String) : String :=
  String.ofList (path.toList.takeWhile (· != '.'))

/-- What stands behind the first point of a path. -/
def tail (path : String) : String :=
  String.ofList ((path.toList.dropWhile (· != '.')).drop 1)

/-- Which quotes are open, and whether a backslash came last. -/
structure QuoteState where
  single : Bool := false
  double : Bool := false
  escaped : Bool := false

/-- The steps of a path behind its name; `step` holds the characters of the current one, last one
first. Steps are separated by quotes and, where no quotes are open, by points. -/
def stepsFrom (state : QuoteState) (step : List Char) : List Char → List (List Char)
  | [] => if step.isEmpty then [] else [step.reverse]
  | c :: cs =>
    if c = '\\' then stepsFrom { state with escaped := true } (c :: step) cs
    else
      let next : QuoteState :=
        { single := state.single != (c == '\'' && !state.escaped)
          double := state.double != (c == '"' && !state.escaped) }
      let separates :=
        !state.escaped &&
          (c == '\'' || c == '"' || (c == '.' && !state.single && !state.double))
      if separates then
        if step.isEmpty then stepsFrom next [] cs else step.reverse :: stepsFrom next [] cs
      else stepsFrom next (c :: step) cs

/-- The steps of a path behind its name, with slashes and tildes as they are meant. -/
def steps (tail : String) : List String :=
  (stepsFrom {} [] tail.toList).map fun step =>
    Text.replace "~0" "~" (Text.replace "~1" "/" (String.ofList step))

end ValuePath

end Quire.Template.Language
