import Quire.Proofs.Json.Tokens

/-!
# Printed values

A value whose numbers are integers of 64 bits is read back as it was printed, as long as its arrays
and objects do not nest deeper than the budget of the reader; where they do, reading fails.

* `Json.OkIf`: results that are there if a condition holds, and errors otherwise.
* `Json.readsIf_array`, `Json.readsIf_object`: what stands in brackets is read if each part is.
* `Json.readsIf_readValue`: whole values, by induction over them.
-/

namespace Quire.Json

/-- Values whose numbers are integers of 64 bits. As in every object that is kept, members stand in
the order of their names, each name once. -/
inductive Integral : Json → Prop where
  | null : Integral .null
  | bool (b : Bool) : Integral (.bool b)
  | int {i : Int} (low : -2 ^ 63 ≤ i) (high : i < 2 ^ 64) : Integral (.int i)
  | string (s : String) : Integral (.string s)
  | array {items : List Json} (each : ∀ item ∈ items, Integral item) : Integral (.array items)
  | object {members : List (String × Json)} (sorted : Entries.Sorted members)
    (each : ∀ member ∈ members, Integral member.2) : Integral (.object members)

mutual

/-- How many arrays and objects stand inside each other. -/
def depth : Json → Nat
  | .array items => itemsDepth items + 1
  | .object members => membersDepth members + 1
  | _ => 0

/-- The greatest depth of some items. -/
def itemsDepth : List Json → Nat
  | [] => 0
  | item :: rest => max (depth item) (itemsDepth rest)

/-- The greatest depth of the values of some members. -/
def membersDepth : List (String × Json) → Nat
  | [] => 0
  | member :: rest => max (memberDepth member) (membersDepth rest)

/-- The depth of a member's value. -/
def memberDepth : String × Json → Nat
  | (_, value) => depth value

end

section Depth

variable {n : Nat}

lemma itemsDepth_le_iff {items : List Json} :
    itemsDepth items ≤ n ↔ ∀ item ∈ items, item.depth ≤ n := by
  induction items with
  | nil => simp [itemsDepth]
  | cons item rest ih => rw [itemsDepth, Nat.max_le, ih, List.forall_mem_cons]

lemma membersDepth_le_iff {members : List (String × Json)} :
    membersDepth members ≤ n ↔ ∀ member ∈ members, member.2.depth ≤ n := by
  induction members with
  | nil => simp [membersDepth]
  | cons member rest ih => rw [membersDepth, Nat.max_le, ih, List.forall_mem_cons, memberDepth]

lemma depth_array_le_iff {items : List Json} :
    depth (.array items) ≤ n + 1 ↔ ∀ item ∈ items, item.depth ≤ n := by
  rw [depth, Nat.add_le_add_iff_right, itemsDepth_le_iff]

lemma depth_object_le_iff {members : List (String × Json)} :
    depth (.object members) ≤ n + 1 ↔ ∀ member ∈ members, member.2.depth ≤ n := by
  rw [depth, Nat.add_le_add_iff_right, membersDepth_le_iff]

end Depth

/-- A result is there if a condition holds, and is an error otherwise. -/
structure OkIf {α : Type} (fits : Prop) (result : Except ReadError α) (value : α) : Prop where
  ok : fits → result = .ok value
  error : ¬fits → ∃ error, result = .error error

namespace OkIf

variable {α β : Type} {fits fits' : Prop} {result : Except ReadError α} {value : α}

lemma of_ok (same : result = .ok value) : OkIf True result value :=
  ⟨fun _ => same, fun never => absurd trivial never⟩

lemma of_error {error : ReadError} (same : result = .error error) : OkIf False result value :=
  ⟨False.elim, fun _ => ⟨error, same⟩⟩

lemma congr (same : fits ↔ fits') (there : OkIf fits result value) : OkIf fits' result value :=
  propext same ▸ there

/-- Steps in a row succeed if each of them does. -/
lemma bind {next : α → Except ReadError β} {last : β} (first : OkIf fits result value)
    (second : OkIf fits' (next value) last) : OkIf (fits ∧ fits') (result >>= next) last := by
  constructor
  · rintro ⟨here, behind⟩
    rw [first.ok here]
    exact second.ok behind
  · intro fails
    by_cases here : fits
    · obtain ⟨error, same⟩ := second.error fun behind => fails ⟨here, behind⟩
      rw [first.ok here]
      exact ⟨error, same⟩
    · obtain ⟨error, same⟩ := first.error here
      rw [same]
      exact ⟨error, rfl⟩

lemma map (f : α → β) (there : OkIf fits result value) :
    OkIf fits (result >>= fun value => .ok (f value)) (f value) := by
  refine congr (iff_of_eq (and_true fits)) (there.bind ?_)
  exact of_ok rfl

end OkIf

/-- A value is read from its printed characters if a condition holds, and not otherwise. -/
def ReadsIf {α : Type} (fits : Prop) (read : Reader α) (cs : List Char) (value : α) : Prop :=
  ∀ rest, Ends rest → OkIf fits (read (cs ++ rest)) (value, rest)

section Brackets

/-- Text begins with what can be an item of an array. -/
def Begins (cs : List Char) : Prop :=
  ∃ c later, cs = c :: later ∧ isBlank c = false ∧ c ≠ ']'

variable {α : Type} {fuel : Nat} {cs rest : List Char}

lemma nextItem_first (begins : Begins cs) (rest : List Char) :
    nextItem true (cs ++ rest) = .ok (true, cs ++ rest) := by
  obtain ⟨c, later, rfl, solid, other⟩ := begins
  rw [List.cons_append, nextItem, skipBlanks_of_solid solid]
  dsimp only
  rw [if_neg other, if_pos rfl]

lemma nextItem_later (begins : Begins cs) (rest : List Char) :
    nextItem false (',' :: (cs ++ rest)) = .ok (true, cs ++ rest) := by
  obtain ⟨c, later, rfl, solid, other⟩ := begins
  rw [List.cons_append, nextItem, skipBlanks_of_solid rfl]
  dsimp only
  rw [if_neg (by decide), if_neg Bool.false_ne_true, if_pos rfl, skipBlanks_of_solid solid]
  dsimp only
  rw [if_neg other]

lemma nextName_first (name : String) (rest : List Char) :
    nextName true (printString name ++ rest) = .ok (some name, rest) := by
  rw [printString_append]
  show (readText _ >>= _) = _
  rw [readText_printed]
  rfl

lemma nextName_later (name : String) (rest : List Char) :
    nextName false (',' :: (printString name ++ rest)) = .ok (some name, rest) := by
  rw [printString_append]
  show (readText _ >>= _) = _
  rw [readText_printed]
  rfl

/-- Pieces with commas between them: one piece, then the others, each behind a comma. -/
lemma intercalate_commas (piece : List Char) (pieces : List (List Char)) :
    [','].intercalate (piece :: pieces) = piece ++ pieces.flatMap (',' :: ·) := by
  induction pieces generalizing piece with
  | nil => simp
  | cons next pieces ih =>
    rw [List.intercalate_cons_cons, ih, List.flatMap_cons, List.append_assoc]
    rfl

lemma ends_commas (pieces : List (List Char)) {c : Char} (sign : c ∈ [',', ']', '}'])
    (rest : List Char) : Ends (pieces.flatMap (',' :: ·) ++ c :: rest) := by
  cases pieces with
  | nil => exact .cons sign
  | cons piece pieces => exact .cons (by decide)

/-- There are no more parts behind a part than characters. -/
lemma length_lt_commas {β : Type} (write : β → List Char) (parts : List β) (front : List Char)
    (c : Char) (rest : List Char) :
    parts.length < (front ++ ((parts.map write).flatMap (',' :: ·) ++ c :: rest)).length := by
  have enough : parts.length ≤ ((parts.map write).flatMap (',' :: ·)).length := by
    induction parts with
    | nil => exact Nat.le_refl 0
    | cons part parts ih =>
      rw [List.map_cons, List.flatMap_cons, List.length_append, List.length_cons, List.length_cons]
      omega
  rw [List.length_append, List.length_append, List.length_cons]
  omega

section Array

variable {item : Reader α} {write : α → List Char} {fits : α → Prop}

/-- One item, and those behind it. -/
lemma okIf_readItems_cons {first : Bool} {value : α} {values : List α} {others : Prop}
    (next : nextItem first cs = .ok (true, write value ++ rest)) (ends : Ends rest)
    (here : ReadsIf (fits value) item (write value) value)
    {last : List Char} (behind : OkIf others (readItems item fuel false rest) (values, last)) :
    OkIf (fits value ∧ others) (readItems item (fuel + 1) first cs) (value :: values, last) := by
  rw [readItems, next]
  exact (here rest ends).bind (behind.map fun result => (value :: result.1, result.2))

lemma okIf_readItems (values : List α) (begins : ∀ value ∈ values, Begins (write value))
    (each : ∀ value ∈ values, ReadsIf (fits value) item (write value) value)
    (enough : values.length < fuel) (rest : List Char) :
    OkIf (∀ value ∈ values, fits value)
      (readItems item fuel false ((values.map write).flatMap (',' :: ·) ++ ']' :: rest))
      (values, rest) := by
  induction values generalizing fuel with
  | nil =>
    obtain ⟨fuel, rfl⟩ := Nat.exists_eq_succ_of_ne_zero (Nat.ne_zero_of_lt enough)
    exact (OkIf.of_ok rfl).congr (by simp)
  | cons value values ih =>
    obtain ⟨fuel, rfl⟩ := Nat.exists_eq_succ_of_ne_zero (Nat.ne_zero_of_lt enough)
    have behind := ih (fun value mem => begins value (List.mem_cons_of_mem _ mem))
      (fun value mem => each value (List.mem_cons_of_mem _ mem)) (Nat.lt_of_succ_lt_succ enough)
    rw [List.forall_mem_cons, List.map_cons, List.flatMap_cons, List.append_assoc]
    exact okIf_readItems_cons (nextItem_later (begins value List.mem_cons_self) _)
      (ends_commas _ (by decide) rest) (each value List.mem_cons_self) behind

/-- An array is read if each of its items is. -/
lemma readsIf_array (write : α → List Char) (fits : α → Prop) (values : List α)
    (begins : ∀ value ∈ values, Begins (write value))
    (each : ∀ value ∈ values, ReadsIf (fits value) item (write value) value) :
    ReadsIf (∀ value ∈ values, fits value) (readArray item)
      ([','].intercalate (values.map write) ++ [']']) values := by
  intro rest _
  rw [List.append_assoc, List.singleton_append]
  cases values with
  | nil => exact (OkIf.of_ok rfl).congr (by simp)
  | cons value values =>
    rw [List.forall_mem_cons, List.map_cons, intercalate_commas, List.append_assoc, readArray]
    refine okIf_readItems_cons (nextItem_first (begins value List.mem_cons_self) _)
      (ends_commas _ (by decide) rest) (each value List.mem_cons_self) ?_
    exact okIf_readItems values (fun value mem => begins value (List.mem_cons_of_mem _ mem))
      (fun value mem => each value (List.mem_cons_of_mem _ mem)) (length_lt_commas ..) rest

end Array

section Object

variable {value : Reader α} {write : α → List Char} {fits : α → Prop}

/-- A member: its name, a colon and its value. -/
def memberText (write : α → List Char) (member : String × α) : List Char :=
  printString member.1 ++ ':' :: write member.2

/-- One member, and those behind it. -/
lemma okIf_readMembers_cons {first : Bool} {member : String × α} {members : List (String × α)}
    {others : Prop}
    (next : nextName first cs = .ok (some member.1, ':' :: (write member.2 ++ rest)))
    (ends : Ends rest) (here : ReadsIf (fits member.2) value (write member.2) member.2)
    {last : List Char} (behind : OkIf others (readMembers value fuel false rest) (members, last)) :
    OkIf (fits member.2 ∧ others) (readMembers value (fuel + 1) first cs)
      (member :: members, last) := by
  rw [readMembers, next]
  exact (here rest ends).bind (behind.map fun result => (member :: result.1, result.2))

lemma okIf_readMembers (members : List (String × α))
    (each : ∀ member ∈ members, ReadsIf (fits member.2) value (write member.2) member.2)
    (enough : members.length < fuel) (rest : List Char) :
    OkIf (∀ member ∈ members, fits member.2)
      (readMembers value fuel false
        ((members.map (memberText write)).flatMap (',' :: ·) ++ '}' :: rest))
      (members, rest) := by
  induction members generalizing fuel with
  | nil =>
    obtain ⟨fuel, rfl⟩ := Nat.exists_eq_succ_of_ne_zero (Nat.ne_zero_of_lt enough)
    exact (OkIf.of_ok rfl).congr (by simp)
  | cons member members ih =>
    obtain ⟨fuel, rfl⟩ := Nat.exists_eq_succ_of_ne_zero (Nat.ne_zero_of_lt enough)
    have behind := ih (fun member mem => each member (List.mem_cons_of_mem _ mem))
      (Nat.lt_of_succ_lt_succ enough)
    rw [List.forall_mem_cons, List.map_cons, List.flatMap_cons, List.append_assoc, memberText,
      List.cons_append, List.append_assoc]
    exact okIf_readMembers_cons (nextName_later member.1 _) (ends_commas _ (by decide) rest)
      (each member List.mem_cons_self) behind

/-- An object is read if the value of each of its members is. -/
lemma readsIf_object (write : α → List Char) (fits : α → Prop) (members : List (String × α))
    (each : ∀ member ∈ members, ReadsIf (fits member.2) value (write member.2) member.2) :
    ReadsIf (∀ member ∈ members, fits member.2) (readObject value)
      ([','].intercalate (members.map (memberText write)) ++ ['}']) members := by
  intro rest _
  rw [List.append_assoc, List.singleton_append]
  cases members with
  | nil => exact (OkIf.of_ok rfl).congr (by simp)
  | cons member members =>
    rw [List.forall_mem_cons, List.map_cons, intercalate_commas, List.append_assoc, readObject]
    refine okIf_readMembers_cons ?_ (ends_commas _ (by decide) rest)
      (each member List.mem_cons_self) (okIf_readMembers members
        (fun member mem => each member (List.mem_cons_of_mem _ mem)) (length_lt_commas ..) rest)
    rw [memberText, List.append_assoc, nextName_first]
    rfl

end Object

end Brackets

section Values

/-- The items of an array are printed with commas between them. -/
lemma printItems_eq (items : List Json) :
    printItems items = [','].intercalate (items.map print) := by
  induction items with
  | nil => rfl
  | cons item rest ih =>
    cases rest with
    | nil => simp [printItems]
    | cons next rest =>
      rw [printItems, ih]
      simp [List.intercalate_cons_cons]

lemma printMember_eq : printMember = memberText print := by
  funext ⟨name, value⟩
  rfl

lemma printMembers_eq (members : List (String × Json)) :
    printMembers members = [','].intercalate (members.map (memberText print)) := by
  induction members with
  | nil => rfl
  | cons member rest ih =>
    cases rest with
    | nil => simp [printMembers, printMember_eq]
    | cons next rest =>
      rw [printMembers, ih, printMember_eq]
      simp [List.intercalate_cons_cons]

/-- A printed value can be an item of an array. -/
lemma Integral.begins {value : Json} (integral : Integral value) : Begins value.print := by
  cases integral with
  | null => exact ⟨_, _, rfl, rfl, by decide⟩
  | bool b => cases b <;> exact ⟨_, _, rfl, rfl, by decide⟩
  | @int i _ _ =>
    rw [print, printInt]
    split
    · exact ⟨_, _, rfl, rfl, by decide⟩
    · obtain ⟨first, later, digits, digit⟩ := exists_toDigits i.natAbs
      exact ⟨first, later, digits, isBlank_of_isDigit digit, ne_of_isDigit digit rfl⟩
  | string s => exact ⟨_, _, rfl, rfl, by decide⟩
  | array => exact ⟨_, _, rfl, rfl, by decide⟩
  | object => exact ⟨_, _, rfl, rfl, by decide⟩

/-- A value is read if it does not nest deeper than the budget. -/
theorem readsIf_readValue {value : Json} (integral : Integral value) (n : Nat) :
    ReadsIf (value.depth ≤ n) (readValue n) value.print value := by
  induction integral generalizing n with
  | null =>
    obtain ⟨items, members, same⟩ := exists_readValue_eq n
    rw [same]
    exact fun rest _ => (OkIf.of_ok rfl).congr (by simp [depth])
  | bool b =>
    obtain ⟨items, members, same⟩ := exists_readValue_eq n
    rw [same]
    cases b <;> exact fun rest _ => (OkIf.of_ok rfl).congr (by simp [depth])
  | int low high =>
    obtain ⟨items, members, same⟩ := exists_readValue_eq n
    rw [same, print]
    exact fun rest ends => (OkIf.of_ok (readAny_printInt items members low high ends)).congr
      (by simp [depth])
  | string s =>
    obtain ⟨items, members, same⟩ := exists_readValue_eq n
    rw [same, print]
    intro rest ends
    rw [printString_append]
    show OkIf _ (readText _ >>= _) _
    rw [readText_printed]
    exact (OkIf.of_ok rfl).congr (by simp [depth])
  | @array items each ih =>
    rw [print, printItems_eq]
    cases n with
    | zero => exact fun rest _ => (OkIf.of_error rfl).congr (by simp [depth])
    | succ n =>
      intro rest ends
      have read := readsIf_array print (depth · ≤ n) items (fun item mem => (each item mem).begins)
        (fun item mem => ih item mem n) rest ends
      have made := read.map fun result => (Json.array result.1, result.2)
      exact made.congr depth_array_le_iff.symm
  | @object members sorted each ih =>
    rw [print, printMembers_eq]
    cases n with
    | zero => exact fun rest _ => (OkIf.of_error rfl).congr (by simp [depth])
    | succ n =>
      have whole : ofMembers members = .object members := by
        rw [ofMembers, Entries.ofList_eq_self sorted]
      intro rest ends
      have read := readsIf_object print (depth · ≤ n) members (fun member mem => ih member mem n)
        rest ends
      have made := read.map fun result => (ofMembers result.1, result.2)
      dsimp only at made
      rw [whole] at made
      exact made.congr depth_object_le_iff.symm

lemma readsIf_string (s : String) : ReadsIf True readString (printString s) s := by
  intro rest _
  rw [printString_append]
  exact .of_ok (readText_printed rest s)

lemma readsIf_text {text : Option String} (there : text.isNone = false) :
    ReadsIf True (readOptional readString) (printString (text.getD "")) text := by
  cases text with
  | none => cases there
  | some s =>
    intro rest _
    rw [printString_append]
    show OkIf _ (readText _ >>= _) _
    rw [readText_printed]
    exact .of_ok rfl

/-- A text that holds nothing but a printed value. -/
lemma okIf_parseWith {α : Type} {fits : Prop} {read : Reader α} {cs : List Char} {value : α}
    (reads : ReadsIf fits read cs value) : OkIf fits (parseWith read (String.ofList cs)) value := by
  have alone := reads [] .nil
  rw [List.append_nil] at alone
  rw [parseWith, String.toList_ofList]
  refine OkIf.congr (iff_of_eq (and_true fits)) (alone.bind ?_)
  exact .of_ok rfl

/-- Printing a value and reading it are inverse, unless it nests too deeply. -/
theorem okIf_parse {value : Json} (integral : Integral value) :
    OkIf (value.depth ≤ nestingLimit) (parse value.compact) value :=
  okIf_parseWith (readsIf_readValue integral nestingLimit)

end Values

end Quire.Json
