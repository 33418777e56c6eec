import Mathlib.Data.List.Forall2
import Quire.Json.Record
import Quire.Proofs.Json.Skipping

/-!
# Decoding what can be read

Reading a record comes apart into two steps: what is written of it is read as plain values, and
these change a draft, one after the other. Readers of single values come apart in the same way, into
reading any value and decoding it. Only the errors differ, and they are forgotten on both sides.

* `Json.Decodes`: readers that decode, and the ones for texts, truth values and optional values.
* `Json.Slot`: what the value of a member does to a draft.
* `Json.Parts`, `Json.readParts`: the known members of an object, or the items of an array.
* `Json.readKnown_of_readMembers`: known members among all that an object has.
* `Json.toOption_parseWith`: a record is read by its parts.
-/

namespace Quire.Json

/-- The text that a value is. -/
def text? : Json → Option String
  | .string s => some s
  | _ => none

/-- The truth value that a value is. -/
def truth? : Json → Option Bool
  | .bool b => some b
  | _ => none

/-- What is decoded of a value, or its absence. -/
def optional? {α : Type} (decode? : Json → Option α) : Json → Option (Option α)
  | .null => some none
  | value => (decode? value).map some

section Beginnings

variable {rest : List Char} {value : Json}

lemma number_of_readNumber {negative : Bool} {cs : List Char}
    (read : readNumber negative cs = .ok (value, rest)) :
    (∃ i, value = .int i) ∨ ∃ x, value = .double x := by
  obtain ⟨⟨numeral, behind⟩, -, made⟩ := bind_eq_ok.mp read
  dsimp only at made
  split at made
  next same =>
    cases made
    unfold Numeral.toJson? at same
    split at same
    next i _ => exact .inl ⟨i, (Option.some.inj same).symm⟩
    next =>
      obtain ⟨x, -, made⟩ := Option.map_eq_some_iff.mp same
      exact .inr ⟨x, made.symm⟩
  next => cases made

/-- A value that is no text, no truth value and not null. -/
structure Other (value : Json) : Prop where
  no_text : text? value = none
  no_truth : truth? value = none
  no_null : value ≠ .null

lemma other_of_readNumber {negative : Bool} {cs : List Char}
    (read : readNumber negative cs = .ok (value, rest)) : Other value := by
  obtain ⟨i, rfl⟩ | ⟨x, rfl⟩ := number_of_readNumber read
  · exact ⟨rfl, rfl, nofun⟩
  · exact ⟨rfl, rfl, nofun⟩

/-- The first character tells texts, truth values and null apart from the rest. -/
lemma cases_of_readValue {n : Nat} {cs : List Char} (read : readValue n cs = .ok (value, rest)) :
    ((∃ later, skipBlanks cs = '"' :: later) ∧ ∃ s, value = .string s) ∨
    ((∃ later, skipBlanks cs = 'n' :: later) ∧ value = .null) ∨
    ((∃ later, skipBlanks cs = 't' :: later) ∧ value = .bool true) ∨
    ((∃ later, skipBlanks cs = 'f' :: later) ∧ value = .bool false) ∨ Other value := by
  obtain ⟨items, members, same⟩ := exists_readValue_eq n
  rw [same] at read
  have found := anyRead_of_readAny read
  generalize skipBlanks cs = start at found ⊢
  cases found with
  | string text => exact .inl ⟨⟨_, rfl⟩, _, rfl⟩
  | null word => exact .inr (.inl ⟨⟨_, rfl⟩, rfl⟩)
  | yes word => exact .inr (.inr (.inl ⟨⟨_, rfl⟩, rfl⟩))
  | no word => exact .inr (.inr (.inr (.inl ⟨⟨_, rfl⟩, rfl⟩)))
  | negative number => exact .inr (.inr (.inr (.inr (other_of_readNumber number))))
  | number digit number => exact .inr (.inr (.inr (.inr (other_of_readNumber number))))
  | array read => exact .inr (.inr (.inr (.inr ⟨rfl, rfl, nofun⟩)))
  | object read => exact .inr (.inr (.inr (.inr ⟨rfl, rfl, nofun⟩)))

end Beginnings

lemma toOption_bind {α β : Type} (first : Except ReadError α) (next : α → Except ReadError β) :
    (first >>= next).toOption = first.toOption.bind fun a => (next a).toOption := by
  cases first <;> rfl

lemma toOption_ok {α : Type} (a : α) : (Except.ok a : Except ReadError α).toOption = some a := rfl

lemma toOption_error {α : Type} (e : ReadError) :
    (Except.error e : Except ReadError α).toOption = none := rfl

lemma eq_ok_of_toOption {α : Type} {result : Except ReadError α} {value : α}
    (there : result.toOption = some value) : result = .ok value := by
  cases result with
  | error e => cases there
  | ok found => exact congrArg _ (Option.some.inj there)

/-- A reader decodes if it reads what is decoded of the value that stands there, and nothing where
no value can be read or the value cannot be decoded. -/
def Decodes {α : Type} (n : Nat) (read : Reader α) (decode? : Json → Option α) : Prop :=
  ∀ cs, (read cs).toOption =
    (readValue n cs).toOption.bind fun found => (decode? found.1).map (·, found.2)

section Readers

variable {α β : Type} {n : Nat} {read : Reader α} {decode? : Json → Option α} {cs later : List Char}

lemma toOption_refuse (expected : String) (cs : List Char) :
    (refuse (α := α) expected cs).toOption = none := by
  unfold refuse
  cases readFound cs <;> rfl

/-- Nothing is read where no value can be decoded. -/
lemma bind_decode?_eq_none
    (misfit : ∀ value rest, readValue n cs = .ok (value, rest) → decode? value = none) :
    ((readValue n cs).toOption.bind fun found => (decode? found.1).map (·, found.2)) = none := by
  cases there : readValue n cs with
  | error e => rfl
  | ok found =>
    show (decode? found.1).map _ = none
    rw [misfit _ _ there]
    rfl

lemma decodes_readStringAs (n : Nat) (expected : String) :
    Decodes n (readStringAs expected) text? := by
  intro cs
  by_cases quoted : ∃ later, skipBlanks cs = '"' :: later
  · obtain ⟨later, begins⟩ := quoted
    obtain ⟨items, members, same⟩ := exists_readValue_eq n
    rw [readStringAs, same, readAny, begins]
    show (readText later).toOption = (readText later >>= _).toOption.bind _
    cases readText later <;> rfl
  · rw [bind_decode?_eq_none]
    · rw [readStringAs]
      split
      next begins => exact (quoted ⟨_, begins⟩).elim
      next => exact toOption_refuse expected _
    · intro value rest there
      obtain ⟨begins, -⟩ | ⟨-, rfl⟩ | ⟨-, rfl⟩ | ⟨-, rfl⟩ | other := cases_of_readValue there
      · exact (quoted begins).elim
      · rfl
      · rfl
      · rfl
      · exact other.no_text

lemma decodes_readBool (n : Nat) : Decodes n readBool truth? := by
  intro cs
  obtain ⟨items, members, same⟩ := exists_readValue_eq n
  rw [readBool]
  split
  next later begins =>
    rw [same, readAny, begins]
    show _ = (readWord ['r', 'u', 'e'] later >>= _).toOption.bind _
    cases readWord _ later <;> rfl
  next later begins =>
    rw [same, readAny, begins]
    show _ = (readWord ['a', 'l', 's', 'e'] later >>= _).toOption.bind _
    cases readWord _ later <;> rfl
  next no_t no_f =>
    rw [toOption_refuse, bind_decode?_eq_none]
    intro value rest there
    obtain ⟨-, s, rfl⟩ | ⟨-, rfl⟩ | ⟨⟨later, begins⟩, -⟩ | ⟨⟨later, begins⟩, -⟩ | other :=
      cases_of_readValue there
    · rfl
    · rfl
    · exact (no_t later begins).elim
    · exact (no_f later begins).elim
    · exact other.no_truth

/-- Something is made of what is decoded. -/
lemma Decodes.map (decodes : Decodes n read decode?) (f : α → β) :
    Decodes n (fun cs => read cs >>= fun result => .ok (f result.1, result.2))
      fun value => (decode? value).map f := by
  intro cs
  rw [toOption_bind, decodes cs]
  cases readValue n cs with
  | error e => rfl
  | ok found =>
    show (Option.map _ _).bind _ = Option.map _ (Option.map _ _)
    cases decode? found.1 <;> rfl

lemma readValue_skipBlanks (n : Nat) (cs : List Char) :
    readValue n (skipBlanks cs) = readValue n cs := by
  cases n <;> simp only [readValue, readAny, skipBlanks_skipBlanks]

lemma optional?_of_ne {value : Json} (there : value ≠ .null) :
    optional? decode? value = (decode? value).map some := by
  unfold optional?
  split
  next => exact (there rfl).elim
  next => rfl

/-- Null is the absence of a value, and any other value is there. -/
lemma Decodes.optional (decodes : Decodes n read decode?) :
    Decodes n (readOptional read) (optional? decode?) := by
  intro cs
  rw [readOptional]
  split
  next later begins =>
    obtain ⟨items, members, same⟩ := exists_readValue_eq n
    rw [same, readAny, begins]
    show _ = (readWord ['u', 'l', 'l'] later >>= _).toOption.bind _
    cases readWord _ later <;> rfl
  next no_n =>
    have within := decodes.map some (skipBlanks cs)
    rw [readValue_skipBlanks] at within
    cases there : readValue n cs with
    | error e => exact within.trans (by rw [there]; rfl)
    | ok found =>
      have no_null : found.1 ≠ .null := by
        intro null
        obtain ⟨-, s, same⟩ | ⟨⟨later, begins⟩, -⟩ | ⟨-, same⟩ | ⟨-, same⟩ | other :=
          cases_of_readValue there
        · cases same.symm.trans null
        · exact no_n later begins
        · cases same.symm.trans null
        · cases same.symm.trans null
        · exact other.no_null null
      refine within.trans ?_
      rw [there]
      show _ = Option.map _ (optional? decode? found.1)
      rw [optional?_of_ne no_null]
      rfl

end Readers

section Records

variable {σ : Type}

/-- A member of a record, by what its value does to a draft. -/
structure Slot (σ : Type) where
  name : String
  effect? : Json → Option (σ → σ)

/-- A slot whose value is decoded and then set. -/
def Slot.of {α : Type} (name : String) (decode? : Json → Option α) (set : α → σ → σ) : Slot σ :=
  ⟨name, fun value => (decode? value).map set⟩

/-- A member of a record is read as a slot says. -/
structure Slot.Describes (n : Nat) (slot : Slot σ) (member : Member σ) : Prop where
  name : member.name = slot.name
  decodes : ∀ draft,
    Decodes n (member.read draft) fun value => (slot.effect? value).map (· draft)

lemma Slot.of_describes {α : Type} {n : Nat} {read : Reader α} {decode? : Json → Option α}
    (name : String) (set : α → σ → σ) (decodes : Decodes n read decode?) :
    (Slot.of name decode? set).Describes n
      ⟨name, fun draft cs => do
        let (value, rest) ← read cs
        .ok (set value draft, rest)⟩ := by
  refine ⟨rfl, fun draft => ?_⟩
  have both : (fun value => ((Slot.of name decode? set).effect? value).map (· draft)) =
      fun value => (decode? value).map (set · draft) :=
    funext fun value => Option.map_map ..
  rw [both]
  exact decodes.map (set · draft)

/-- Whether there is a slot of a name. -/
def hasSlot (slots : List (Slot σ)) (name : String) : Bool :=
  (slots.find? (·.name == name)).isSome

/-- What a member of an object does to a draft, if it has a slot and a value that fits. -/
def effect? (slots : List (Slot σ)) (member : String × Json) : Option (σ → σ) :=
  (slots.find? (·.name == member.1)).bind (·.effect? member.2)

/-- The draft behind the members of an object, unless one of them has no effect. -/
def changed (slots : List (Slot σ)) (members : List (String × Json)) (draft : σ) : Option σ :=
  members.foldlM (fun draft member => (effect? slots member).map (· draft)) draft

/-- The draft behind the members of an object, of which no two have the same name and none a name
that has been seen. -/
def changedApart (slots : List (Slot σ)) (seen : List String) (members : List (String × Json))
    (draft : σ) : Option σ :=
  if (members.map Prod.fst).Nodup ∧ ∀ name ∈ members.map Prod.fst, name ∉ seen then
    changed slots members draft
  else none

/-- The draft behind the items of an array, of which there are as many as slots at most. -/
def changedInOrder (slots : List (Slot σ)) (items : List Json) (draft : σ) : Option σ :=
  match slots, items with
  | _, [] => some draft
  | [], _ :: _ => none
  | slot :: slots, item :: items =>
    ((slot.effect? item).map (· draft)).bind (changedInOrder slots items)

/-- What is written of a record: members of an object in their order and with repetitions, or the
items of an array. -/
inductive Parts
  | object (members : List (String × Json))
  | array (items : List Json)

/-- The draft behind what is written of a record. -/
def Parts.change (slots : List (Slot σ)) (draft : σ) : Parts → Option σ
  | .object members => changedApart slots [] members draft
  | .array items => changedInOrder slots items draft

/-- Reads the members of an object whose names are known, and passes over those of other names. -/
def readKnown (knows : String → Bool) (n : Nat) : Nat → Bool → Reader (List (String × Json))
  | 0, _, _ => .error .endOfText
  | fuel + 1, first, cs => do
    match ← nextName first cs with
    | (none, rest) => .ok ([], rest)
    | (some name, rest) =>
      if knows name then
        let rest ← readColon rest
        let (value, rest) ← readValue n rest
        let (members, rest) ← readKnown knows n fuel false rest
        .ok ((name, value) :: members, rest)
      else
        let rest ← readColon rest
        let rest ← skipValue rest
        readKnown knows n fuel false rest

/-- Reads what is written of a record whose members have known names. -/
def readParts (knows : String → Bool) (n : Nat) : Reader Parts := fun cs =>
  match skipBlanks cs with
  | '[' :: rest => do
    let (items, rest) ← readArray (readValue n) rest
    .ok (.array items, rest)
  | '{' :: rest => do
    let (members, rest) ← readKnown knows n (rest.length + 1) true rest
    .ok (.object members, rest)
  | _ => .error .malformed

variable {n fuel : Nat} {slots : List (Slot σ)} {members : List (String × Json)} {draft : σ}
  {knows : String → Bool} {first : Bool} {cs rest : List Char}

lemma changed_cons (member : String × Json) (draft : σ) :
    changed slots (member :: members) draft =
      ((effect? slots member).map (· draft)).bind (changed slots members) :=
  List.foldlM_cons

lemma changed_cons_of_some {member : String × Json} {effect : σ → σ}
    (fits : effect? slots member = some effect) (draft : σ) :
    changed slots (member :: members) draft = changed slots members (effect draft) := by
  rw [changed_cons, fits]
  rfl

lemma changedApart_nil (members : List (String × Json)) (draft : σ) :
    changedApart slots [] members draft =
      if (members.map Prod.fst).Nodup then changed slots members draft else none :=
  if_congr (and_iff_left fun _ _ => List.not_mem_nil) rfl rfl

lemma changedApart_cons (seen : List String) (member : String × Json) (draft : σ) :
    changedApart slots seen (member :: members) draft =
      if member.1 ∈ seen then none
      else ((effect? slots member).map (· draft)).bind
        (changedApart slots (member.1 :: seen) members) := by
  have apart : ((member :: members).map Prod.fst).Nodup ∧
      (∀ name ∈ (member :: members).map Prod.fst, name ∉ seen) ↔
      member.1 ∉ seen ∧ (members.map Prod.fst).Nodup ∧
        ∀ name ∈ members.map Prod.fst, name ∉ member.1 :: seen := by
    rw [List.map_cons, List.nodup_cons, List.forall_mem_cons]
    simp only [List.mem_cons, not_or]
    grind
  unfold changedApart
  by_cases repeated : member.1 ∈ seen
  · rw [if_pos repeated, if_neg fun all => (apart.mp all).1 repeated]
  · rw [if_neg repeated, if_congr (apart.trans (and_iff_right repeated)) rfl rfl, changed_cons]
    cases (effect? slots member).map (· draft) with
    | none => exact ite_self none
    | some draft => rfl

/-- A name that no member has may have been seen. -/
lemma changedApart_seen {name : String} (other : name ∉ members.map Prod.fst) (seen : List String)
    (draft : σ) :
    changedApart slots (name :: seen) members draft = changedApart slots seen members draft := by
  have same : (∀ name' ∈ members.map Prod.fst, name' ∉ name :: seen) ↔
      ∀ name' ∈ members.map Prod.fst, name' ∉ seen := by
    simp only [List.mem_cons, not_or]
    grind
  simp only [changedApart, same]

/-- The member and the slot of a name describe each other. -/
lemma find?_describes {list : List (Member σ)}
    (describes : List.Forall₂ (Slot.Describes n) slots list) (name : String) :
    Option.Rel (Slot.Describes n) (slots.find? (·.name == name)) (list.find? (·.name == name)) := by
  induction describes with
  | nil => exact .none
  | @cons slot member slots list same describes ih =>
    rw [List.find?_cons, List.find?_cons, same.name]
    cases slot.name == name with
    | true => exact .some same
    | false => exact ih

section Known

variable {name : String} {behind : List Char}
  (next : nextName first cs = .ok (some name, behind))
include next

lemma readKnown_of_known (known : knows name = true) :
    readKnown knows n (fuel + 1) first cs = readColon behind >>= fun colon =>
      readValue n colon >>= fun found =>
        readKnown knows n fuel false found.2 >>= fun others =>
          .ok ((name, found.1) :: others.1, others.2) := by
  rw [readKnown, next]
  dsimp only [bind, Except.bind]
  rw [if_pos known]

lemma readKnown_of_unknown (unknown : knows name = false) :
    readKnown knows n (fuel + 1) first cs = readColon behind >>= fun colon =>
      skipValue colon >>= readKnown knows n fuel false := by
  rw [readKnown, next]
  dsimp only [bind, Except.bind]
  rw [if_neg (by rw [unknown]; exact Bool.false_ne_true)]

end Known

/-- Known members are the known ones among all members, where all of them can be read. -/
theorem readKnown_of_readMembers
    (read : readMembers (readValue n) fuel first cs = .ok (members, rest)) :
    readKnown knows n fuel first cs = .ok (members.filter (knows ·.1), rest) := by
  induction fuel generalizing first cs members with
  | zero => cases read
  | succ fuel ih =>
    rw [readMembers] at read
    obtain ⟨⟨name, behind⟩, next, read⟩ := bind_eq_ok.mp read
    cases name with
    | none =>
      cases read
      rw [readKnown, next]
      rfl
    | some name =>
      obtain ⟨colon, separated, read⟩ := bind_eq_ok.mp read
      obtain ⟨⟨value, after⟩, here, read⟩ := bind_eq_ok.mp read
      obtain ⟨⟨members', last⟩, others, made⟩ := bind_eq_ok.mp read
      cases made
      cases known : knows name with
      | true =>
        have kept : ((name, value) :: members').filter (knows ·.1) =
            (name, value) :: members'.filter (knows ·.1) :=
          List.filter_cons_of_pos known
        rw [readKnown_of_known next known, separated, kept]
        dsimp only [bind, Except.bind]
        rw [here]
        dsimp only
        rw [ih others]
      | false =>
        have left_out : ((name, value) :: members').filter (knows ·.1) =
            members'.filter (knows ·.1) :=
          List.filter_cons_of_neg (known ▸ Bool.false_ne_true)
        rw [readKnown_of_unknown next known, separated, left_out]
        dsimp only [bind, Except.bind]
        rw [skipValue_of_readValue here]
        exact ih others

lemma readParts_of_readObject {later : List Char} (begins : skipBlanks cs = '{' :: later)
    (read : readObject (readValue n) later = .ok (members, rest)) :
    readParts knows n cs = .ok (.object (members.filter (knows ·.1)), rest) := by
  rw [readParts, begins]
  show (readKnown knows n (later.length + 1) true later >>= _) = _
  rw [readKnown_of_readMembers read]
  rfl

lemma knows_of_readKnown (read : readKnown knows n fuel first cs = .ok (members, rest)) :
    ∀ name ∈ members.map Prod.fst, knows name = true := by
  induction fuel generalizing first cs members with
  | zero => cases read
  | succ fuel ih =>
    cases next : nextName first cs with
    | error e =>
      rw [readKnown, next] at read
      cases read
    | ok found =>
      obtain ⟨_ | name, behind⟩ := found
      · rw [readKnown, next] at read
        cases read
        exact nofun
      · cases known : knows name with
        | true =>
          rw [readKnown_of_known next known] at read
          obtain ⟨colon, separated, read⟩ := bind_eq_ok.mp read
          obtain ⟨found, here, read⟩ := bind_eq_ok.mp read
          obtain ⟨⟨members', last⟩, others, made⟩ := bind_eq_ok.mp read
          cases made
          exact List.forall_mem_cons.mpr ⟨known, ih others⟩
        | false =>
          rw [readKnown_of_unknown next known] at read
          obtain ⟨colon, separated, read⟩ := bind_eq_ok.mp read
          obtain ⟨after, skipped, others⟩ := bind_eq_ok.mp read
          exact ih others

section Named

variable {α : Type} {type : RecordType σ α} {seen : List String} {behind : List Char}
  {name : String}
  (next : nextName seen.isEmpty cs = .ok (some name, behind))
include next

lemma readNamed_of_unknown (unknown : type.members.find? (·.name == name) = none) :
    type.readNamed (fuel + 1) seen draft cs = readColon behind >>= fun colon =>
      skipValue colon >>= type.readNamed fuel (name :: seen) draft := by
  rw [RecordType.readNamed, next]
  dsimp only [bind, Except.bind]
  rw [unknown]

lemma readNamed_of_seen {member : Member σ}
    (found : type.members.find? (·.name == name) = some member) (mem : name ∈ seen) :
    type.readNamed (fuel + 1) seen draft cs = .error (.misfit (.repeatedMember name)) := by
  rw [RecordType.readNamed, next]
  dsimp only [bind, Except.bind]
  rw [found]
  dsimp only
  rw [if_pos (by simpa using mem)]

lemma readNamed_of_found {member : Member σ}
    (found : type.members.find? (·.name == name) = some member) (new : name ∉ seen) :
    type.readNamed (fuel + 1) seen draft cs = readColon behind >>= fun colon =>
      member.read draft colon >>= fun result =>
        type.readNamed fuel (name :: seen) result.1 result.2 := by
  rw [RecordType.readNamed, next]
  dsimp only [bind, Except.bind]
  rw [found]
  dsimp only
  rw [if_neg (by simpa using new)]

end Named

/-- The members of a record that is written as an object are read by its known members. -/
lemma toOption_readNamed {α : Type} {type : RecordType σ α}
    (describes : List.Forall₂ (Slot.Describes n) slots type.members) (fuel : Nat)
    (seen : List String) (draft : σ) (cs : List Char) :
    (type.readNamed fuel seen draft cs).toOption =
      (readKnown (hasSlot slots) n fuel seen.isEmpty cs).toOption.bind fun found =>
        (changedApart slots seen found.1 draft).map (·, found.2) := by
  induction fuel generalizing seen draft cs with
  | zero => rfl
  | succ fuel ih =>
    cases next : nextName seen.isEmpty cs with
    | error e =>
      rw [RecordType.readNamed, readKnown, next]
      rfl
    | ok found =>
      obtain ⟨_ | name, behind⟩ := found
      · rw [RecordType.readNamed, readKnown, next]
        simp [changedApart, changed, Except.toOption, bind, Except.bind]
      · have found := find?_describes describes name
        generalize hasMember : type.members.find? (·.name == name) = member at found
        generalize slotFound : slots.find? (·.name == name) = slot at found
        cases found with
        | none =>
          have unknown : hasSlot slots name = false := by rw [hasSlot, slotFound]; rfl
          rw [readNamed_of_unknown next hasMember, readKnown_of_unknown next unknown]
          simp only [toOption_bind, Option.bind_assoc]
          refine Option.bind_congr fun colon _ => Option.bind_congr fun after _ => ?_
          refine (ih _ _ _).trans (Option.bind_congr fun others read => ?_)
          have other : name ∉ others.1.map Prod.fst := fun mem => Bool.false_ne_true
            (unknown.symm.trans (knows_of_readKnown (eq_ok_of_toOption read) name mem))
          rw [changedApart_seen other]
        | @some slot member describes =>
          have known : hasSlot slots name = true := by rw [hasSlot, slotFound]; rfl
          have same (value : Json) : effect? slots (name, value) = slot.effect? value := by
            rw [effect?, slotFound]
            rfl
          rw [readKnown_of_known next known]
          simp only [toOption_bind, Option.bind_assoc]
          by_cases repeated : name ∈ seen
          · rw [readNamed_of_seen next hasMember repeated]
            simp [changedApart_cons, repeated, Except.toOption]
          · rw [readNamed_of_found next hasMember repeated]
            simp only [toOption_bind]
            refine Option.bind_congr fun colon _ => ?_
            rw [describes.decodes draft colon, Option.bind_assoc]
            refine Option.bind_congr fun found _ => ?_
            dsimp only
            cases fits : slot.effect? found.1 with
            | none => simp [changedApart_cons, same, fits, toOption_ok]
            | some effect =>
              refine (ih _ _ _).trans ?_
              simp [changedApart_cons, same, fits, repeated, toOption_ok]

lemma length_le_of_nextItem {more : Bool} (next : nextItem first cs = .ok (more, rest)) :
    rest.length ≤ cs.length := by
  have blanks := length_skipBlanks_le cs
  obtain ⟨-, rfl, -⟩ | ⟨-, -, c, later, begins, -, rfl⟩ | ⟨-, -, later, begins, rfl⟩ :=
    nextItem_cases next
  · exact blanks
  · exact begins ▸ blanks
  · have shorter := (skipBlanks_of_begins begins).2
    have blanks' := length_skipBlanks_le later
    omega

/-- An array closes where it has no further item, and nowhere else. -/
lemma toOption_closeArray (first : Bool) (cs : List Char) :
    (closeArray cs).toOption = (nextItem first cs).toOption.bind fun next =>
      if next.1 then none else (closeArray next.2).toOption := by
  cases next : nextItem first cs with
  | error e =>
    unfold closeArray
    split
    next => rfl
    next c later begins =>
      split
      next close =>
        rw [nextItem, begins] at next
        dsimp only at next
        rw [if_pos close] at next
        cases next
      next => rfl
  | ok found =>
    obtain ⟨more, rest⟩ := found
    obtain ⟨rfl, rfl, -⟩ | ⟨rfl, -, c, later, begins, other, -⟩ | ⟨rfl, -, later, begins, -⟩ :=
      nextItem_cases next
    · show _ = (closeArray (skipBlanks cs)).toOption
      rw [closeArray, closeArray, skipBlanks_skipBlanks]
    · rw [closeArray, begins]
      dsimp only
      rw [if_neg other]
      rfl
    · rw [closeArray, begins]
      rfl

/-- The members of a record that is written as an array are read by its items. -/
lemma toOption_readPositional {list : List (Member σ)}
    (describes : List.Forall₂ (Slot.Describes n) slots list) (first : Bool) (draft : σ)
    (enough : cs.length < fuel) :
    (RecordType.readPositional list first draft cs >>= fun found =>
      closeArray found.2 >>= fun rest => .ok (found.1, rest)).toOption =
      (readItems (readValue n) fuel first cs).toOption.bind fun found =>
        (changedInOrder slots found.1 draft).map (·, found.2) := by
  induction describes generalizing fuel first draft cs with
  | nil =>
    obtain ⟨fuel, rfl⟩ := Nat.exists_eq_add_one.mpr (Nat.zero_lt_of_lt enough)
    rw [RecordType.readPositional, readItems]
    simp only [toOption_bind, toOption_ok, Option.bind_some, toOption_closeArray first cs,
      Option.bind_assoc]
    refine Option.bind_congr fun next _ => ?_
    cases next.1 with
    | true => simp [toOption_bind, toOption_ok, Option.bind_assoc, changedInOrder]
    | false => simp [toOption_bind, toOption_ok, Option.bind_assoc, changedInOrder]
  | @cons slot member slots list describes _ ih =>
    obtain ⟨fuel, rfl⟩ := Nat.exists_eq_add_one.mpr (Nat.zero_lt_of_lt enough)
    rw [RecordType.readPositional, readItems]
    simp only [toOption_bind, Option.bind_assoc]
    refine Option.bind_congr fun next there => ?_
    obtain ⟨more, rest⟩ := next
    cases more with
    | false => simp [toOption_bind, toOption_ok, Option.bind_assoc, changedInOrder]
    | true =>
      have shorter := length_le_of_nextItem (eq_ok_of_toOption there)
      simp only [if_true, toOption_bind, Option.bind_assoc]
      rw [describes.decodes draft rest, Option.bind_assoc]
      refine Option.bind_congr fun found here => ?_
      have shorter' := length_lt_of_readValue (eq_ok_of_toOption here)
      have enough' : found.2.length < fuel := by omega
      dsimp only
      cases fits : slot.effect? found.1 with
      | none => simp [toOption_ok, changedInOrder, fits]
      | some effect =>
        have later := ih false (effect draft) enough'
        simp only [toOption_bind] at later
        simpa [toOption_ok, changedInOrder, fits] using later

lemma toOption_read {type : RecordType σ σ}
    (describes : List.Forall₂ (Slot.Describes n) slots type.members)
    (whole : ∀ positional draft, type.finish positional draft = .ok draft) (blank : σ)
    (cs : List Char) :
    (type.read blank cs).toOption =
      (readParts (hasSlot slots) n cs).toOption.bind fun found =>
        (found.1.change slots blank).map (·, found.2) := by
  have concluded (positional : Bool) (draft : σ) : type.conclude positional draft = .ok draft := by
    rw [RecordType.conclude, whole]
    rfl
  rw [RecordType.read]
  split
  next later begins =>
    have items := toOption_readPositional describes true blank (Nat.lt_succ_self later.length)
    rw [readParts, begins]
    simpa [toOption_bind, toOption_ok, Option.bind_assoc, concluded, readArray, Parts.change]
      using items
  next later begins =>
    have members := toOption_readNamed describes (later.length + 1) [] blank later
    have whole_pair (found : Option (σ × List Char)) :
        (found.bind fun a => some (a.1, a.2)) = found := Option.bind_fun_some found
    rw [readParts, begins]
    simpa [toOption_bind, toOption_ok, Option.bind_assoc, concluded, whole_pair, Parts.change]
      using members
  next no_array no_object =>
    have none_read : readParts (hasSlot slots) n cs = .error .malformed := by
      rw [readParts]
      split
      next begins => exact (no_array _ begins).elim
      next begins => exact (no_object _ begins).elim
      next => rfl
    rw [toOption_refuse, none_read]
    rfl

/-- Reading a record comes apart into reading its parts and changing a blank draft by them. -/
theorem toOption_parseWith {type : RecordType σ σ}
    (describes : List.Forall₂ (Slot.Describes n) slots type.members)
    (whole : ∀ positional draft, type.finish positional draft = .ok draft) (blank : σ)
    (text : String) :
    (parseWith (type.read blank) text).toOption =
      (parseWith (readParts (hasSlot slots) n) text).toOption.bind
        (Parts.change slots blank) := by
  rw [parseWith, parseWith, toOption_bind, toOption_bind, toOption_read describes whole,
    Option.bind_assoc, Option.bind_assoc]
  refine Option.bind_congr fun found _ => ?_
  cases last : skipBlanks found.2 with
  | nil => cases changed : found.1.change slots blank <;> simp [last, changed, toOption_ok]
  | cons c later => cases found.1.change slots blank <;> simp [last, toOption_error]

end Records

end Quire.Json
