import Quire.Json.Reader

/-!
# Reading records

A record is written as an object, or as an array of its members in their order. Members of other
names are skipped; a member stands at most once.
-/

namespace Quire.Json

/-- A member of a record: its name, and how its value is added to what has been read so far. -/
structure Member (σ : Type) where
  name : String
  read : σ → Reader σ

/-- A type of records: what it is called, its members in order, and how a record is made from what
has been read; `positional` tells that it was written as an array. -/
structure RecordType (σ α : Type) where
  title : String
  members : List (Member σ)
  finish : (positional : Bool) → σ → Except Misfit α

namespace RecordType

variable {σ α : Type}

/-- Makes the record or says why there is none. -/
def conclude (type : RecordType σ α) (positional : Bool) (draft : σ) : Except ReadError α :=
  (type.finish positional draft).mapError .misfit

/-- Reads the members of a record written as an object, up to its closing brace. -/
def readNamed (type : RecordType σ α) : Nat → List String → σ → Reader σ
  | 0, _, _, _ => .error .endOfText
  | fuel + 1, seen, draft, cs => do
    match ← nextName seen.isEmpty cs with
    | (none, rest) => .ok (draft, rest)
    | (some name, rest) =>
      match type.members.find? (·.name == name) with
      | none =>
        let rest ← readColon rest
        let rest ← skipValue rest
        type.readNamed fuel (name :: seen) draft rest
      | some member =>
        if seen.contains name then .error (.misfit (.repeatedMember name))
        else
          let rest ← readColon rest
          let (draft, rest) ← member.read draft rest
          type.readNamed fuel (name :: seen) draft rest

/-- Reads the members of a record written as an array, as many as there are. -/
def readPositional : List (Member σ) → Bool → σ → Reader σ
  | [], _, draft, cs => .ok (draft, cs)
  | member :: members, first, draft, cs => do
    let (more, rest) ← nextItem first cs
    if more then
      let (draft, rest) ← member.read draft rest
      readPositional members false draft rest
    else .ok (draft, rest)

/-- Reads a record, starting from a draft without members. -/
def read (type : RecordType σ α) (blank : σ) : Reader α := fun cs =>
  match skipBlanks cs with
  | '[' :: rest => do
    let (draft, rest) ← readPositional type.members true blank rest
    let record ← type.conclude true draft
    let rest ← closeArray rest
    .ok (record, rest)
  | '{' :: rest => do
    let (draft, rest) ← type.readNamed (rest.length + 1) [] blank rest
    let record ← type.conclude false draft
    .ok (record, rest)
  | cs => refuse type.title cs

/-- Reads a record where no further array or object may be opened. -/
def readFlat (type : RecordType σ α) : Reader α := fun cs =>
  match skipBlanks cs with
  | '[' :: _ => .error .malformed
  | '{' :: _ => .error .malformed
  | cs => refuse type.title cs

end RecordType

end Quire.Json
