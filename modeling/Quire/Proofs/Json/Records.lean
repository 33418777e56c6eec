import Quire.Json.Record
import Quire.Proofs.Json.Values

/-!
# Printed records

A record that is printed as an object is read member by member. Each member adds to the draft what
was printed of it; a member that the record does not have is passed over.

* `Json.Written`: a member as it was printed, with what it adds to a draft.
* `Json.RecordType.okIf_readNamed`: the members of an object, by induction over them.
* `Json.RecordType.readsIf_record`: whole records.
-/

namespace Quire.Json

/-- A member of a record as it was printed, what it adds to a draft, and the condition under which
it can be read. -/
structure Written (σ : Type) where
  name : String
  text : List Char
  update : σ → σ
  fits : Prop

/-- The member with its name. -/
def Written.line {σ : Type} (written : Written σ) : List Char :=
  printString written.name ++ ':' :: written.text

/-- A member that is left out where it is absent. -/
def Written.unless {σ : Type} (absent : Bool) (written : Written σ) : List (Written σ) :=
  if absent then [] else [written]

section Optional

variable {σ : Type} {absent : Bool} {written : Written σ}

lemma Written.forall_mem_unless {p : Written σ → Prop} :
    (∀ member ∈ written.unless absent, p member) ↔ (absent = false → p written) := by
  cases absent <;> simp [Written.unless]

lemma Written.map_unless {β : Type} (f : Written σ → β) :
    (written.unless absent).map f = if absent then [] else [f written] := by
  cases absent <;> rfl

end Optional

namespace RecordType

variable {σ α : Type} {type : RecordType σ α}

/-- A record reads what was printed of a member, or passes over a member that it does not have. -/
inductive Takes (type : RecordType σ α) : Written σ → Prop where
  | known {name : String} {text : List Char} {update : σ → σ} {fits : Prop} {member : Member σ}
    (found : type.members.find? (·.name == name) = some member)
    (reads : ∀ draft, ReadsIf fits (member.read draft) text (update draft)) :
    Takes type ⟨name, text, update, fits⟩
  | skipped {name : String} {text : List Char}
    (unknown : type.members.find? (·.name == name) = none)
    (skips : ∀ rest, Ends rest → skipValue (text ++ rest) = .ok rest) :
    Takes type ⟨name, text, fun draft => draft, True⟩

/-- What a draft becomes behind members. -/
def addAll (members : List (Written σ)) (draft : σ) : σ :=
  members.foldl (fun draft member => member.update draft) draft

lemma addAll_cons (member : Written σ) (members : List (Written σ)) (draft : σ) :
    addAll (member :: members) draft = addAll members (member.update draft) := rfl

/-- A member that is absent may be added as well if it leaves the draft as it is. -/
lemma addAll_unless {absent : Bool} {member : Written σ} {draft : σ}
    (same : absent = true → member.update draft = draft) (members : List (Written σ)) :
    addAll (member.unless absent ++ members) draft = addAll members (member.update draft) := by
  cases absent with
  | false => rfl
  | true =>
    rw [same rfl]
    rfl

variable {fuel : Nat} {seen : List String} {draft : σ} {cs rest : List Char}

/-- One member, and those behind it. -/
lemma okIf_readNamed_cons {member : Written σ} {others : Prop} {result : σ × List Char}
    (takes : type.Takes member) (new : member.name ∉ seen)
    (next : nextName seen.isEmpty cs = .ok (some member.name, ':' :: (member.text ++ rest)))
    (ends : Ends rest)
    (behind : OkIf others
      (type.readNamed fuel (member.name :: seen) (member.update draft) rest) result) :
    OkIf (member.fits ∧ others) (type.readNamed (fuel + 1) seen draft cs) result := by
  rw [readNamed, next]
  cases takes with
  | known found reads =>
    dsimp only [bind, Except.bind] at new ⊢
    rw [found]
    dsimp only
    rw [if_neg (by simpa using new)]
    exact (reads draft rest ends).bind behind
  | skipped unknown skips =>
    dsimp only [bind, Except.bind]
    rw [unknown]
    show OkIf _ (skipValue _ >>= _) _
    rw [skips rest ends]
    exact behind.congr (iff_of_eq (true_and others)).symm

/-- Members behind the first one. -/
lemma okIf_readNamed (members : List (Written σ)) (takes : ∀ member ∈ members, type.Takes member)
    (distinct : members.Pairwise fun member later => member.name ≠ later.name)
    (new : ∀ member ∈ members, member.name ∉ seen)
    (some : seen.isEmpty = false) (enough : members.length < fuel) (rest : List Char) :
    OkIf (∀ member ∈ members, member.fits)
      (type.readNamed fuel seen draft
        ((members.map Written.line).flatMap (',' :: ·) ++ '}' :: rest))
      (addAll members draft, rest) := by
  induction members generalizing fuel seen draft with
  | nil =>
    obtain ⟨fuel, rfl⟩ := Nat.exists_eq_succ_of_ne_zero (Nat.ne_zero_of_lt enough)
    exact (OkIf.of_ok rfl).congr (by simp)
  | cons member members ih =>
    obtain ⟨fuel, rfl⟩ := Nat.exists_eq_succ_of_ne_zero (Nat.ne_zero_of_lt enough)
    obtain ⟨other, distinct⟩ := List.pairwise_cons.mp distinct
    have others (later : Written σ) (mem : later ∈ members) : later.name ∉ member.name :: seen :=
      List.not_mem_cons_of_ne_of_not_mem (other later mem).symm
        (new later (List.mem_cons_of_mem _ mem))
    rw [List.forall_mem_cons, List.map_cons, List.flatMap_cons, List.append_assoc, Written.line,
      List.cons_append, List.append_assoc]
    refine okIf_readNamed_cons (takes member List.mem_cons_self) (new member List.mem_cons_self) ?_
      (ends_commas _ (by decide) rest)
      (ih (fun later mem => takes later (List.mem_cons_of_mem _ mem)) distinct others rfl
        (Nat.lt_of_succ_lt_succ enough))
    rw [some]
    exact nextName_later member.name _

/-- A record is read if each member that was printed of it is. -/
theorem readsIf_record {blank : σ} {record : α} (members : List (Written σ))
    (takes : ∀ member ∈ members, type.Takes member) (distinct : (members.map Written.name).Nodup)
    (made : type.finish false (addAll members blank) = .ok record) :
    ReadsIf (∀ member ∈ members, member.fits) (type.read blank)
      ('{' :: [','].intercalate (members.map Written.line) ++ ['}']) record := by
  intro rest _
  have named : OkIf (∀ member ∈ members, member.fits)
      (type.readNamed (([','].intercalate (members.map Written.line) ++ '}' :: rest).length + 1) []
        blank ([','].intercalate (members.map Written.line) ++ '}' :: rest))
      (addAll members blank, rest) := by
    cases members with
    | nil => exact (OkIf.of_ok rfl).congr (by simp)
    | cons member members =>
      obtain ⟨other, distinct⟩ := List.pairwise_cons.mp (List.pairwise_map.mp distinct)
      rw [List.forall_mem_cons, List.map_cons, intercalate_commas, List.append_assoc]
      refine okIf_readNamed_cons (takes member List.mem_cons_self) List.not_mem_nil ?_
        (ends_commas _ (by decide) rest) (okIf_readNamed members
          (fun member mem => takes member (List.mem_cons_of_mem _ mem)) distinct
          (fun later mem => List.not_mem_cons_of_ne_of_not_mem (other later mem).symm
            List.not_mem_nil) rfl (length_lt_commas ..) rest)
      rw [Written.line, List.append_assoc]
      exact nextName_first member.name _
  have whole : type.conclude false (addAll members blank) = .ok record := by
    rw [conclude, made]
    rfl
  rw [List.append_assoc, List.singleton_append]
  refine OkIf.congr (iff_of_eq (and_true _)) (named.bind ?_)
  dsimp only
  rw [whole]
  exact .of_ok rfl

end RecordType

end Quire.Json
