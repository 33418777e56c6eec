import Mathlib.Data.List.DropRight
import Quire.Proofs.Json.Tokens

/-!
# Skipping what can be read

A value that can be read is passed over to the same place when it is skipped. Skipping keeps a list
of the open brackets instead of calling itself for what stands inside them, and it counts a step for
each value and bracket; reading follows the nesting. So what is shown of a value by induction is how
the rest of any enclosing brackets is passed over: as if the value had not been there, with a few
steps less.

* `Json.AnyRead`: how a value of any type is read.
* `Json.skipText_of_readText`, `Json.skipNumber_of_readNumber`: what has no parts.
* `Json.Passed`: a stretch of text that is passed over in some steps.
* `Json.skipValue_of_readValue`: whole values, by induction over the depth that they may have.
-/

namespace Quire.Json

/-- How a value of any type is read from its first character on. -/
inductive AnyRead (items : Reader (List Json)) (members : Reader (List (String × Json))) :
    List Char → Json → List Char → Prop where
  | null {later rest} (word : readWord ['u', 'l', 'l'] later = .ok rest) :
    AnyRead items members ('n' :: later) .null rest
  | yes {later rest} (word : readWord ['r', 'u', 'e'] later = .ok rest) :
    AnyRead items members ('t' :: later) (.bool true) rest
  | no {later rest} (word : readWord ['a', 'l', 's', 'e'] later = .ok rest) :
    AnyRead items members ('f' :: later) (.bool false) rest
  | negative {later value rest} (number : readNumber true later = .ok (value, rest)) :
    AnyRead items members ('-' :: later) value rest
  | number {c later value rest} (digit : c.isDigit = true)
    (number : readNumber false (c :: later) = .ok (value, rest)) :
    AnyRead items members (c :: later) value rest
  | string {later s rest} (text : readText later = .ok (s, rest)) :
    AnyRead items members ('"' :: later) (.string s) rest
  | array {later values rest} (read : items later = .ok (values, rest)) :
    AnyRead items members ('[' :: later) (.array values) rest
  | object {later pairs rest} (read : members later = .ok (pairs, rest)) :
    AnyRead items members ('{' :: later) (ofMembers pairs) rest

section Inversion

variable {α β : Type} {items : Reader (List Json)} {members : Reader (List (String × Json))}
  {cs rest : List Char} {value : Json}

/-- A sequence of steps succeeds if each of them does. -/
lemma bind_eq_ok {first : Except ReadError α} {next : α → Except ReadError β} {b : β} :
    (first >>= next) = .ok b ↔ ∃ a, first = .ok a ∧ next a = .ok b := by
  cases first with
  | error e => exact ⟨nofun, fun ⟨_, same, _⟩ => nomatch same⟩
  | ok a => exact ⟨fun same => ⟨a, rfl, same⟩, fun ⟨_, same, after⟩ => Except.ok.inj same ▸ after⟩

lemma anyRead_of_readAny (read : readAny items members cs = .ok (value, rest)) :
    AnyRead items members (skipBlanks cs) value rest := by
  unfold readAny at read
  split at read
  next => cases read
  next c later begins =>
    rw [begins]
    split at read
    next same =>
      subst same
      obtain ⟨_, word, ⟨⟩⟩ := bind_eq_ok.mp read
      exact .null word
    split at read
    next same =>
      subst same
      obtain ⟨_, word, ⟨⟩⟩ := bind_eq_ok.mp read
      exact .yes word
    split at read
    next same =>
      subst same
      obtain ⟨_, word, ⟨⟩⟩ := bind_eq_ok.mp read
      exact .no word
    split at read
    next same =>
      subst same
      exact .negative read
    split at read
    next digit => exact .number digit read
    split at read
    next same =>
      subst same
      obtain ⟨_, text, ⟨⟩⟩ := bind_eq_ok.mp read
      exact .string text
    split at read
    next same =>
      subst same
      obtain ⟨_, found, ⟨⟩⟩ := bind_eq_ok.mp read
      exact .array found
    split at read
    next same =>
      subst same
      obtain ⟨_, found, ⟨⟩⟩ := bind_eq_ok.mp read
      exact .object found
    next => cases read

end Inversion

section Scalars

variable {cs rest : List Char}

lemma length_le_of_readWord {word : List Char} (read : readWord word cs = .ok rest) :
    rest.length ≤ cs.length := by
  induction word generalizing cs with
  | nil =>
    cases read
    exact Nat.le_refl _
  | cons w word ih =>
    cases cs with
    | nil => cases read
    | cons c cs =>
      rw [readWord] at read
      split at read
      next => exact Nat.le_succ_of_le (ih read)
      next => cases read

lemma length_lt_of_readFourDigits {n : Nat} (read : readFourDigits cs = .ok (n, rest)) :
    rest.length < cs.length := by
  unfold readFourDigits at read
  split at read
  next =>
    split at read
    next =>
      cases read
      simp only [List.length_cons]
      omega
    next => cases read
  next => cases read

/-- An escape that is read is passed over, but where it is a pair of halves, each is passed over
as an escape of its own. -/
lemma skipEscape_of_readEscape {c : Char} (read : readEscape cs = .ok (c, rest)) :
    rest.length < cs.length ∧
      (skipEscape cs = .ok rest ∨
        ∃ later, skipEscape cs = .ok ('\\' :: later) ∧ later.length < cs.length ∧
          skipEscape later = .ok rest) := by
  have digits_skip {n : Nat} {cs rest : List Char} (digits : readFourDigits cs = .ok (n, rest)) :
      skipEscape ('u' :: cs) = .ok rest := by
    rw [skipEscape, digits]
    rfl
  unfold readEscape at read
  split at read
  next => cases read
  next later =>
    obtain ⟨⟨n, behind⟩, digits, read⟩ := bind_eq_ok.mp read
    have shorter := length_lt_of_readFourDigits digits
    rw [List.length_cons]
    dsimp only at read
    split at read
    next => cases read
    next =>
      split at read
      next =>
        unfold readLowSurrogate at read
        split at read
        next => cases read
        next => cases read
        next half =>
          obtain ⟨⟨low, end_⟩, half_digits, read⟩ := bind_eq_ok.mp read
          have shorter' := length_lt_of_readFourDigits half_digits
          dsimp only at read
          split at read
          next =>
            obtain ⟨-, rfl⟩ := Prod.mk.inj (Except.ok.inj read)
            simp only [List.length_cons] at shorter
            refine ⟨by omega, .inr ⟨'u' :: half, digits_skip digits, ?_, digits_skip half_digits⟩⟩
            rw [List.length_cons]
            omega
          next => cases read
        next => cases read
      next =>
        cases read
        exact ⟨by omega, .inl (digits_skip digits)⟩
  next letter later other =>
    cases stands : escapedChar? letter with
    | none =>
      rw [stands] at read
      cases read
    | some c =>
      rw [stands] at read
      cases read
      exact ⟨by simp, .inl (skipEscape_letter _ other stands)⟩

/-- A text that is read is passed over. -/
lemma skipChars_of_readChars {fuel : Nat} {text : List Char}
    (read : readChars fuel cs = .ok (text, rest)) :
    rest.length < cs.length ∧ ∀ fuel', cs.length < fuel' → skipChars fuel' cs = .ok rest := by
  induction fuel generalizing cs text with
  | zero => cases read
  | succ fuel ih =>
    rw [readChars] at read
    obtain ⟨⟨next, later⟩, char, after⟩ := bind_eq_ok.mp read
    clear read
    cases cs with
    | nil => cases char
    | cons c cs =>
      rw [readChar] at char
      rw [List.length_cons]
      -- each character that is read takes one step of skipping, or two if it is a pair of halves
      split at char
      next quote =>
        cases char
        cases after
        refine ⟨Nat.lt_succ_self _, fun fuel' enough => ?_⟩
        obtain ⟨fuel', rfl⟩ := Nat.exists_eq_succ_of_ne_zero (Nat.ne_zero_of_lt enough)
        rw [skipChars, if_pos quote]
      next other =>
        split at char
        next backslash =>
          obtain ⟨⟨stands, behind⟩, escape, made⟩ := bind_eq_ok.mp char
          cases made
          obtain ⟨⟨text', rest'⟩, read', made⟩ := bind_eq_ok.mp after
          cases made
          obtain ⟨shorter', skips⟩ := ih read'
          obtain ⟨shorter, once | ⟨half, first, short, second⟩⟩ := skipEscape_of_readEscape escape
          · refine ⟨by omega, fun fuel' enough => ?_⟩
            obtain ⟨fuel', rfl⟩ := Nat.exists_eq_succ_of_ne_zero (Nat.ne_zero_of_lt enough)
            rw [skipChars, if_neg other, if_pos backslash, once]
            exact skips fuel' (by omega)
          · refine ⟨by omega, fun fuel' enough => ?_⟩
            obtain ⟨fuel', rfl⟩ : ∃ fuel, fuel' = fuel + 2 := ⟨fuel' - 2, by omega⟩
            rw [skipChars, if_neg other, if_pos backslash, first]
            dsimp only [bind, Except.bind]
            rw [skipChars, if_neg (by decide), if_pos rfl, second]
            exact skips fuel' (by omega)
        next plain =>
          split at char
          next => cases char
          next printable =>
            cases char
            obtain ⟨⟨text', rest'⟩, read', made⟩ := bind_eq_ok.mp after
            cases made
            obtain ⟨shorter, skips⟩ := ih read'
            refine ⟨by omega, fun fuel' enough => ?_⟩
            obtain ⟨fuel', rfl⟩ := Nat.exists_eq_succ_of_ne_zero (Nat.ne_zero_of_lt enough)
            rw [skipChars, if_neg other, if_neg plain, if_neg printable]
            exact skips fuel' (by omega)

lemma skipText_of_readText {s : String} (read : readText cs = .ok (s, rest)) :
    rest.length < cs.length ∧ skipText cs = .ok rest := by
  obtain ⟨⟨text, rest'⟩, read, made⟩ := bind_eq_ok.mp read
  cases made
  obtain ⟨shorter, skips⟩ := skipChars_of_readChars read
  exact ⟨shorter, skips _ (Nat.lt_succ_self _)⟩

lemma length_lt_of_readDigits {ds : List Char} (read : Numeral.readDigits cs = .ok (ds, rest)) :
    rest.length < cs.length := by
  have whole : (cs.takeWhile Char.isDigit).length + (cs.dropWhile Char.isDigit).length =
      cs.length := by
    rw [← List.length_append, List.takeWhile_append_dropWhile]
  unfold Numeral.readDigits at read
  split at read
  next => cases read
  next => cases read
  next other =>
    cases read
    have some : (cs.takeWhile Char.isDigit).length ≠ 0 := fun none =>
      other _ (Prod.ext (List.length_eq_zero_iff.mp none) rfl)
    change (cs.dropWhile Char.isDigit).length < cs.length
    omega

lemma length_le_of_readFraction {ds : List Char}
    (read : Numeral.readFraction cs = .ok (ds, rest)) : rest.length ≤ cs.length := by
  unfold Numeral.readFraction at read
  split at read
  next =>
    have shorter := length_lt_of_readDigits read
    rw [List.length_cons]
    omega
  next =>
    cases read
    exact Nat.le_refl _

lemma length_le_of_readExponent {exponent : Option (Bool × List Char)}
    (read : Numeral.readExponent cs = .ok (exponent, rest)) : rest.length ≤ cs.length := by
  unfold Numeral.readExponent at read
  split at read
  next c later =>
    split at read
    next =>
      dsimp only at read
      -- behind the sign, if there is one, stand digits
      split at read
      all_goals
        obtain ⟨⟨ds, behind⟩, digits, made⟩ := bind_eq_ok.mp read
        have shorter := length_lt_of_readDigits digits
        cases made
        simp only [List.length_cons] at shorter ⊢
        omega
    next =>
      cases read
      exact Nat.le_refl _
  next =>
    cases read
    exact Nat.le_refl _

/-- A number that is read is passed over. -/
lemma skipNumber_of_readNumber {negative : Bool} {value : Json}
    (read : readNumber negative cs = .ok (value, rest)) :
    rest.length < cs.length ∧ skipNumber cs = .ok rest := by
  obtain ⟨⟨numeral, behind⟩, parts, made⟩ := bind_eq_ok.mp read
  obtain ⟨⟨whole, fractional⟩, digits, parts⟩ := bind_eq_ok.mp parts
  dsimp only at made parts
  split at parts
  next => cases parts
  next canonical =>
    obtain ⟨⟨fraction, exponential⟩, point, parts⟩ := bind_eq_ok.mp parts
    obtain ⟨⟨exponent, last⟩, power, parts⟩ := bind_eq_ok.mp parts
    dsimp only at power
    cases parts
    have same : last = rest := by
      split at made
      next => exact (Prod.mk.inj (Except.ok.inj made)).2
      next => cases made
    subst same
    have shorter := length_lt_of_readDigits digits
    have shorter' := length_le_of_readFraction point
    have shorter'' := length_le_of_readExponent power
    refine ⟨by omega, ?_⟩
    -- skipping reads the numeral without its sign
    have unsigned : Numeral.read false cs = .ok (⟨false, whole, fraction, exponent⟩, last) := by
      rw [Numeral.read, digits]
      dsimp only [bind, Except.bind]
      rw [if_neg canonical, point]
      dsimp only [Except.bind]
      rw [power]
    rw [skipNumber, unsigned]

end Scalars

/-- What stands in front of a value between brackets is passed over first. -/
def Bracket.element : Bracket → List Char → Except ReadError (List Char)
  | .square, cs => .ok cs
  | .curly, cs => skipName cs

section Steps

variable {fuel : Nat} {state : SkipState} (bracket : Bracket) {stack : List Bracket} {c : Char}
  {cs rest : List Char}

lemma skipBlanks_skipBlanks (cs : List Char) : skipBlanks (skipBlanks cs) = skipBlanks cs :=
  List.dropWhile_idempotent isBlank cs

lemma length_skipBlanks_le (cs : List Char) : (skipBlanks cs).length ≤ cs.length :=
  (List.dropWhile_suffix _).length_le

lemma skipBlanks_of_begins (begins : skipBlanks cs = c :: rest) :
    skipBlanks (c :: rest) = c :: rest ∧ rest.length < cs.length := by
  constructor
  · rw [← begins, skipBlanks_skipBlanks]
  · have shorter := length_skipBlanks_le cs
    rw [begins, List.length_cons] at shorter
    omega

/-- Blanks in front make no difference. -/
lemma skipFrom_blanks (open_ : state = .value ∨ stack ≠ []) :
    skipFrom fuel state stack cs = skipFrom fuel state stack (skipBlanks cs) := by
  cases fuel with
  | zero => rfl
  | succ fuel =>
    cases state <;> cases stack <;> simp_all [skipFrom, skipBlanks_skipBlanks]

lemma skipFrom_opened (begins : skipBlanks cs = c :: rest) (other : c ≠ bracket.close) :
    skipFrom (fuel + 1) .opened (bracket :: stack) cs =
      bracket.element (c :: rest) >>= skipFrom fuel .value (bracket :: stack) := by
  rw [skipFrom, begins]
  · dsimp only
    rw [if_neg other]
    cases bracket <;> rfl
  · exact nofun

lemma skipFrom_comma (begins : skipBlanks cs = ',' :: rest) :
    skipFrom (fuel + 1) .ended (bracket :: stack) cs =
      bracket.element rest >>= skipFrom fuel .value (bracket :: stack) := by
  rw [skipFrom_blanks (.inr (List.cons_ne_nil _ _)), begins]
  cases bracket <;> rfl

lemma skipFrom_close (begun : state ≠ .value) (begins : skipBlanks cs = bracket.close :: rest) :
    skipFrom (fuel + 1) state (bracket :: stack) cs = skipFrom fuel .ended stack rest := by
  rw [skipFrom_blanks (.inr (List.cons_ne_nil _ _)), begins]
  cases state with
  | value => exact (begun rfl).elim
  | opened => cases bracket <;> rfl
  | ended => cases bracket <;> rfl

end Steps

/-- Text up to some rest is passed over from a state with some brackets open, in at least one step
and at most two for each character and some more. -/
def Passed (state : SkipState) (inner : List Bracket) (more : Nat) (cs rest : List Char) : Prop :=
  ∃ steps, 0 < steps ∧ steps + 2 * rest.length ≤ 2 * cs.length + more ∧ ∀ fuel stack,
    skipFrom (steps + fuel) state (inner ++ stack) cs = skipFrom fuel .ended stack rest

/-- Whatever a reader reads is passed over from a state. -/
def Passes {α : Type} (read : Reader α) (state : SkipState) (inner : List Bracket) (more : Nat) :
    Prop :=
  ∀ {cs value rest}, read cs = .ok (value, rest) → Passed state inner more cs rest

/-- A bracket closes. -/
lemma passed_of_close {bracket : Bracket} {state : SkipState} {more : Nat} {cs rest : List Char}
    (begun : state ≠ .value) (begins : skipBlanks cs = bracket.close :: rest) :
    Passed state [bracket] more cs rest := by
  obtain ⟨-, shorter⟩ := skipBlanks_of_begins begins
  refine ⟨1, Nat.one_pos, by omega, fun fuel stack => ?_⟩
  rw [Nat.add_comm]
  exact skipFrom_close bracket begun begins

/-- A value comes next, and then the rest of the brackets around it. -/
lemma Passed.behind {bracket : Bracket} {state : SkipState} {more : Nat}
    {cs inside after rest : List Char} (here : Passed .value [] 0 inside after)
    (others : Passed .ended [bracket] 0 after rest)
    (short : 2 * inside.length + 1 ≤ 2 * cs.length + more)
    (reaches : ∀ fuel stack, skipFrom (fuel + 1) state (bracket :: stack) cs =
      skipFrom fuel .value (bracket :: stack) inside) :
    Passed state [bracket] more cs rest := by
  obtain ⟨steps, -, few, leaves⟩ := here
  obtain ⟨steps', -, few', leaves'⟩ := others
  refine ⟨steps + steps' + 1, Nat.succ_pos _, by omega, fun fuel stack => ?_⟩
  have count : steps + steps' + 1 + fuel = steps + (steps' + fuel) + 1 := by omega
  rw [count]
  calc
    _ = skipFrom (steps + (steps' + fuel)) .value (bracket :: stack) inside := reaches _ stack
    _ = skipFrom (steps' + fuel) .ended (bracket :: stack) after := leaves _ (bracket :: stack)
    _ = _ := leaves' fuel stack

section Values

variable {α : Type} {item : Reader α} {fuel : Nat} {cs rest : List Char}

/-- What an array has next: nothing more, or an item behind its comma unless it is the first. -/
lemma nextItem_cases {first more : Bool} (next : nextItem first cs = .ok (more, rest)) :
    (more = false ∧ skipBlanks cs = rest ∧ ∃ later, rest = ']' :: later) ∨
      (more = true ∧ first = true ∧ ∃ c later, skipBlanks cs = c :: later ∧ c ≠ ']' ∧
        rest = c :: later) ∨
      (more = true ∧ first = false ∧ ∃ later, skipBlanks cs = ',' :: later ∧
        rest = skipBlanks later) := by
  unfold nextItem at next
  split at next
  next => cases next
  next c later begins =>
    split at next
    next close =>
      cases next
      exact .inl ⟨rfl, begins, later, close ▸ rfl⟩
    next other =>
      split at next
      next start =>
        cases next
        exact .inr (.inl ⟨rfl, start, c, later, begins, other, rfl⟩)
      next behind =>
        split at next
        next comma =>
          split at next
          next => cases next
          next c' later' begins' =>
            split at next
            next => cases next
            next =>
              cases next
              exact .inr (.inr ⟨rfl, Bool.not_eq_true _ ▸ behind, later, comma ▸ begins,
                begins'.symm⟩)
        next => cases next

/-- Items are passed over up to the end of their array. -/
lemma passed_of_readItems (passes : Passes item .value [] 0) {first : Bool} {values : List α}
    (read : readItems item fuel first cs = .ok (values, rest)) :
    Passed (if first then .opened else .ended) [.square] first.toNat cs rest := by
  induction fuel generalizing first cs values with
  | zero => cases read
  | succ fuel ih =>
    rw [readItems] at read
    obtain ⟨⟨more, behind⟩, next, read⟩ := bind_eq_ok.mp read
    dsimp only at read
    obtain ⟨rfl, begins, later, rfl⟩ | ⟨rfl, rfl, c, later, begins, other, rfl⟩ |
      ⟨rfl, rfl, later, begins, rfl⟩ := nextItem_cases next
    · obtain ⟨last, close, made⟩ := bind_eq_ok.mp read
      have same : closeArray (']' :: later) = .ok later := rfl
      cases same.symm.trans close
      cases made
      exact passed_of_close (by cases first <;> exact nofun) begins
    · obtain ⟨⟨value, after⟩, here, read⟩ := bind_eq_ok.mp read
      obtain ⟨⟨values', last⟩, others, made⟩ := bind_eq_ok.mp read
      cases made
      obtain ⟨-, shorter⟩ := skipBlanks_of_begins begins
      refine (passes here).behind (ih others) ?_ fun fuel stack =>
        skipFrom_opened .square begins other
      rw [List.length_cons, Bool.toNat_true]
      omega
    · obtain ⟨⟨value, after⟩, here, read⟩ := bind_eq_ok.mp read
      obtain ⟨⟨values', last⟩, others, made⟩ := bind_eq_ok.mp read
      cases made
      obtain ⟨-, shorter⟩ := skipBlanks_of_begins begins
      have blanks := length_skipBlanks_le later
      refine (passes here).behind (ih others) (by omega) fun fuel stack => ?_
      exact (skipFrom_comma .square begins).trans (skipFrom_blanks (.inl rfl))

/-- What an object has next: nothing more, or a member's name, behind a comma unless it is the
first. -/
lemma nextName_cases {first : Bool} {name : Option String}
    (next : nextName first cs = .ok (name, rest)) :
    (name = none ∧ skipBlanks cs = '}' :: rest) ∨
      ∃ text later, name = some text ∧ readText later = .ok (text, rest) ∧
        (first = true ∧ skipBlanks cs = '"' :: later ∨
          first = false ∧ ∃ behind, skipBlanks cs = ',' :: behind ∧
            skipBlanks behind = '"' :: later) := by
  unfold nextName at next
  dsimp only at next
  split at next
  next => cases next
  next c behind begins =>
    split at next
    next close =>
      cases next
      exact .inl ⟨rfl, close ▸ begins⟩
    next =>
      right
      split at next
      next start =>
        split at next
        next later same =>
          obtain ⟨rfl, rfl⟩ := List.cons.inj same
          obtain ⟨⟨text, last⟩, named, made⟩ := bind_eq_ok.mp next
          cases made
          exact ⟨text, _, rfl, named, .inl ⟨start, begins⟩⟩
        next => cases next
      next inside =>
        split at next
        next comma =>
          split at next
          next => cases next
          next =>
            split at next
            next later begins' =>
              obtain ⟨⟨text, last⟩, named, made⟩ := bind_eq_ok.mp next
              cases made
              exact ⟨text, later, rfl, named, .inr ⟨Bool.not_eq_true _ ▸ inside, behind,
                comma ▸ begins, begins'⟩⟩
            next => cases next
        next => cases next

lemma length_lt_of_readColon (read : readColon cs = .ok rest) : rest.length < cs.length := by
  unfold readColon at read
  split at read
  next => cases read
  next begins =>
    split at read
    next =>
      cases read
      exact (skipBlanks_of_begins begins).2
    next => cases read

/-- A name and its colon are passed over. -/
lemma skipName_of_read {name : String} {later behind : List Char}
    (begins : skipBlanks cs = '"' :: later) (text : readText later = .ok (name, behind))
    (colon : readColon behind = .ok rest) : skipName cs = .ok rest := by
  rw [skipName, begins]
  show (skipText later >>= readColon) = _
  rw [(skipText_of_readText text).2]
  exact colon

/-- Members are passed over up to the end of their object. -/
lemma passed_of_readMembers {value : Reader α} (passes : Passes value .value [] 0) {first : Bool}
    {pairs : List (String × α)} (read : readMembers value fuel first cs = .ok (pairs, rest)) :
    Passed (if first then .opened else .ended) [.curly] first.toNat cs rest := by
  induction fuel generalizing first cs pairs with
  | zero => cases read
  | succ fuel ih =>
    rw [readMembers] at read
    obtain ⟨⟨name, inside⟩, next, read⟩ := bind_eq_ok.mp read
    dsimp only at read
    obtain ⟨rfl, begins⟩ | ⟨text, later, rfl, named, place⟩ := nextName_cases next
    · cases read
      exact passed_of_close (by cases first <;> exact nofun) begins
    · obtain ⟨colon, separated, read⟩ := bind_eq_ok.mp read
      obtain ⟨⟨held, after⟩, here, read⟩ := bind_eq_ok.mp read
      obtain ⟨⟨pairs', last⟩, others, made⟩ := bind_eq_ok.mp read
      cases made
      have shorter := (skipText_of_readText named).1
      have shorter' := length_lt_of_readColon separated
      obtain ⟨rfl, begins⟩ | ⟨rfl, behind, begins, begins'⟩ := place
      · obtain ⟨same, shorter''⟩ := skipBlanks_of_begins begins
        refine (passes here).behind (ih others) (by omega) fun fuel stack => ?_
        refine (skipFrom_opened .curly begins (by decide)).trans ?_
        rw [Bracket.element, skipName_of_read same named separated]
        rfl
      · obtain ⟨-, shorter''⟩ := skipBlanks_of_begins begins
        obtain ⟨-, shorter'''⟩ := skipBlanks_of_begins begins'
        refine (passes here).behind (ih others) (by omega) fun fuel stack => ?_
        refine (skipFrom_comma .curly begins).trans ?_
        rw [Bracket.element, skipName_of_read begins' named separated]
        rfl

/-- A value that is read in one step is passed over in one. -/
lemma passed_of_step {c : Char} {later : List Char} (begins : skipBlanks cs = c :: later)
    (shorter : rest.length < (c :: later).length)
    (leaves : ∀ fuel stack, skipFrom (fuel + 1) .value stack (c :: later) =
      skipFrom fuel .ended stack rest) : Passed .value [] 0 cs rest := by
  have blanks := length_skipBlanks_le cs
  rw [begins] at blanks
  refine ⟨1, Nat.one_pos, by omega, fun fuel stack => ?_⟩
  rw [skipFrom_blanks (.inl rfl), begins, Nat.add_comm]
  exact leaves fuel stack

/-- A value in brackets is passed over if what stands in them is. -/
lemma passed_of_open {c : Char} {bracket : Bracket} {later : List Char}
    (begins : skipBlanks cs = c :: later)
    (opens : ∀ fuel stack, skipFrom (fuel + 1) .value stack (c :: later) =
      skipFrom fuel .opened (bracket :: stack) later)
    (inside : Passed .opened [bracket] 1 later rest) : Passed .value [] 0 cs rest := by
  obtain ⟨steps, -, few, leaves⟩ := inside
  obtain ⟨-, shorter⟩ := skipBlanks_of_begins begins
  refine ⟨steps + 1, Nat.succ_pos _, by omega, fun fuel stack => ?_⟩
  have count : steps + 1 + fuel = steps + fuel + 1 := by omega
  rw [skipFrom_blanks (.inl rfl), begins, count]
  exact (opens (steps + fuel) stack).trans (leaves fuel stack)

/-- A value is passed over if what stands in its brackets is. -/
lemma passes_readAny {items : Reader (List Json)} {members : Reader (List (String × Json))}
    (array : Passes items .opened [.square] 1) (object : Passes members .opened [.curly] 1) :
    Passes (readAny items members) .value [] 0 := by
  intro cs value rest read
  have found := anyRead_of_readAny read
  generalize begins : skipBlanks cs = start at found
  have word_passed {c : Char} {word later : List Char}
      (begins : skipBlanks cs = c :: later) (read : readWord word later = .ok rest)
      (skips : ∀ fuel stack, skipFrom (fuel + 1) .value stack (c :: later) =
        readWord word later >>= skipFrom fuel .ended stack) : Passed .value [] 0 cs rest := by
    refine passed_of_step begins (Nat.lt_succ_of_le (length_le_of_readWord read)) ?_
    intro fuel stack
    rw [skips, read]
    rfl
  cases found with
  | null word => exact word_passed begins word fun fuel stack => rfl
  | yes word => exact word_passed begins word fun fuel stack => rfl
  | no word => exact word_passed begins word fun fuel stack => rfl
  | negative number =>
    obtain ⟨shorter, skips⟩ := skipNumber_of_readNumber number
    refine passed_of_step begins (Nat.lt_succ_of_lt shorter) fun fuel stack => ?_
    show (skipNumber _ >>= _) = _
    rw [skips]
    rfl
  | @number c later value rest digit number =>
    obtain ⟨shorter, skips⟩ := skipNumber_of_readNumber number
    refine passed_of_step begins shorter fun fuel stack => ?_
    have other (sign : Char) (no_digit : sign.isDigit = false) : c ≠ sign :=
      ne_of_isDigit digit no_digit
    rw [skipFrom, skipBlanks_of_solid (isBlank_of_isDigit digit)]
    dsimp only
    rw [if_neg (other _ rfl), if_neg (other _ rfl), if_neg (other _ rfl), if_neg (other _ rfl),
      if_pos digit, skips]
    rfl
  | string text =>
    obtain ⟨shorter, skips⟩ := skipText_of_readText text
    refine passed_of_step begins (Nat.lt_succ_of_lt shorter) fun fuel stack => ?_
    show (skipText _ >>= _) = _
    rw [skips]
    rfl
  | array read => exact passed_of_open begins (fun fuel stack => rfl) (array read)
  | object read => exact passed_of_open begins (fun fuel stack => rfl) (object read)

/-- Values are passed over, however deep they nest. -/
lemma passes_readValue (n : Nat) : Passes (readValue n) .value [] 0 := by
  induction n with
  | zero =>
    apply passes_readAny
    · exact fun read => nomatch read
    · exact fun read => nomatch read
  | succ n ih =>
    apply passes_readAny
    · exact fun read => passed_of_readItems ih read
    · exact fun read => passed_of_readMembers ih read

lemma length_lt_of_readValue {n : Nat} {value : Json} (read : readValue n cs = .ok (value, rest)) :
    rest.length < cs.length := by
  obtain ⟨steps, some, few, -⟩ := passes_readValue n read
  omega

/-- A value that can be read is passed over to where it ends. -/
theorem skipValue_of_readValue {n : Nat} {value : Json}
    (read : readValue n cs = .ok (value, rest)) : skipValue cs = .ok rest := by
  obtain ⟨steps, -, few, leaves⟩ := passes_readValue n read
  obtain ⟨spare, enough⟩ : ∃ spare, 2 * cs.length + 2 = steps + (spare + 1) :=
    ⟨2 * cs.length + 1 - steps, by omega⟩
  rw [skipValue, enough]
  exact leaves (spare + 1) []

end Values

end Quire.Json
