import Quire.Dictionary

/-!
# TOML documents

The values of a configuration file, and how its lines put a document together. Each table may be
opened once by a header, and each key may be given once.
-/

namespace Quire

/-- A value in a TOML document; numbers and times are told apart and not looked into. -/
inductive Toml where
  | string (value : String)
  | bool (value : Bool)
  | number
  | time
  | array (items : List Toml)
  | table (members : List (String × Toml))

namespace Toml

/-- How a table came to be. -/
inductive Origin where
  /-- Opened by a header of its own. -/
  | header
  /-- Named on the way to another table. -/
  | onTheWay
  /-- Named by the points of a key. -/
  | dotted
deriving DecidableEq

/-- A document in the making. -/
inductive Draft where
  /-- A value behind a key, which is complete. -/
  | value (value : Toml)
  | table (origin : Origin) (members : List (String × Draft))
  /-- Tables opened by double headers, the last one first. -/
  | tables (members : List (List (String × Draft)))

/-- The members of a table in the making. -/
abbrev Members := List (String × Draft)

/-- The members with another member in place. -/
def put (key : String) (draft : Draft) (members : Members) : Members :=
  (members.filter fun member => member.1 != key) ++ [(key, draft)]

/-- Changes the table that a list of keys leads to, making tables on the way. `dotted` tells that
the keys are those of a dotted key: it leads through no table that has a header, and its last table
has to be made by dotted keys. -/
def change (dotted : Bool) (action : Members → Option Members) :
    List String → Members → Option Members
  | [], members => action members
  | key :: keys, members =>
    match members.lookup key with
    | none => do
      let inner ← change dotted action keys []
      some (put key (.table (if dotted then .dotted else .onTheWay) inner) members)
    | some (.value _) => none
    | some (.table origin inner) =>
      if dotted && (origin == .header || (keys.isEmpty && origin != .dotted)) then none
      else do
        let inner ← change dotted action keys inner
        some (put key (.table origin inner) members)
    | some (.tables []) => none
    | some (.tables (last :: others)) =>
      if dotted && keys.isEmpty then none
      else do
        let last ← change dotted action keys last
        some (put key (.tables (last :: others)) members)

/-- Adds a member that must be new. -/
def addNew (key : String) (draft : Draft) (members : Members) : Option Members :=
  if (members.lookup key).isSome then none else some (put key draft members)

/-- Opens a table by its header. -/
def openTable (key : String) (members : Members) : Option Members :=
  match members.lookup key with
  | none => some (put key (.table .header []) members)
  | some (.table .onTheWay inner) => some (put key (.table .header inner) members)
  | some _ => none

/-- Opens one more table of an array by its double header. -/
def openItem (key : String) (members : Members) : Option Members :=
  match members.lookup key with
  | none => some (put key (.tables [[]]) members)
  | some (.tables items) => some (put key (.tables ([] :: items)) members)
  | some _ => none

/-- Changes the table that was opened last, at the given keys. -/
def inside (action : Members → Option Members) : List String → Members → Option Members
  | [], members => action members
  | key :: keys, members =>
    match members.lookup key with
    | some (.table origin inner) => do
      let inner ← inside action keys inner
      some (put key (.table origin inner) members)
    | some (.tables (last :: others)) => do
      let last ← inside action keys last
      some (put key (.tables (last :: others)) members)
    | _ => none

mutual

/-- The finished value. -/
def Draft.finish : Draft → Toml
  | .value value => value
  | .table _ members => .table (finishMembers members)
  | .tables items => .array (finishItems items).reverse

/-- The finished members of a table. -/
def finishMembers : List (String × Draft) → List (String × Toml)
  | [] => []
  | member :: rest => finishMember member :: finishMembers rest

/-- A finished member of a table. -/
def finishMember : String × Draft → String × Toml
  | (key, draft) => (key, draft.finish)

/-- The finished tables of an array. -/
def finishItems : List (List (String × Draft)) → List Toml
  | [] => []
  | members :: rest => .table (finishMembers members) :: finishItems rest

end

end Toml

end Quire
