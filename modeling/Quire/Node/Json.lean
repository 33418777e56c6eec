import Quire.Json.Record
import Quire.Node.Basic

/-!
# Nodes as JSON

A node is written as an object whose members stand in a fixed order, without those that are absent
or empty. It is read from an object or from an array of its members.
-/

namespace Quire

namespace Node

/-- A member for a text that may be absent. -/
def textMember (name : String) : Option String → List (String × Json)
  | none => []
  | some s => [(name, .string s)]

mutual

/-- The members of a node in their order. -/
def members : Node → List (String × Json)
  | { name, id, title, text, attributes, children } =>
    [("node_name", .string name)] ++ textMember "id" id ++ textMember "title" title ++
      textMember "text" text ++
      (if attributes.entries.isEmpty then [] else [("attributes", .object attributes.entries)]) ++
      (if children.isEmpty then [] else [("children", .array (membersOfAll children))])

/-- The objects of a list of nodes. -/
def membersOfAll : List Node → List Json
  | [] => []
  | node :: rest => .object (members node) :: membersOfAll rest

end

/-- The object of a node. -/
def toJson (node : Node) : Json :=
  .object node.members

/-- What has been read of a node. -/
structure Draft where
  name : Option String := none
  id : Option String := none
  title : Option String := none
  text : Option String := none
  attributes : Dictionary Json := Dictionary.empty
  children : List Node := []

/-- How a node is read, given readers for its attributes and its children. -/
def recordType (attributes : Json.Reader (Dictionary Json)) (children : Json.Reader (List Node)) :
    Json.RecordType Draft Node where
  title := "struct Node"
  members :=
    [ ⟨"node_name", fun draft cs => do
        let (value, rest) ← Json.readString cs
        .ok ({ draft with name := some value }, rest)⟩,
      ⟨"id", fun draft cs => do
        let (value, rest) ← Json.readOptional Json.readString cs
        .ok ({ draft with id := value }, rest)⟩,
      ⟨"title", fun draft cs => do
        let (value, rest) ← Json.readOptional Json.readString cs
        .ok ({ draft with title := value }, rest)⟩,
      ⟨"text", fun draft cs => do
        let (value, rest) ← Json.readOptional Json.readString cs
        .ok ({ draft with text := value }, rest)⟩,
      ⟨"attributes", fun draft cs => do
        let (value, rest) ← attributes cs
        .ok ({ draft with attributes := value }, rest)⟩,
      ⟨"children", fun draft cs => do
        let (value, rest) ← children cs
        .ok ({ draft with children := value }, rest)⟩ ]
  finish positional draft :=
    match draft.name with
    | some name =>
      .ok ⟨name, draft.id, draft.title, draft.text, draft.attributes, draft.children⟩
    | none => .error (if positional then .noItems "struct Node" 6 else .missingMember "node_name")

/-- Reads a node with a budget of nested arrays and objects. -/
def read : Nat → Json.Reader Node
  | 0 => (recordType Json.tooDeep Json.tooDeep).readFlat
  | 1 =>
    (recordType (Json.readDictionary Json.tooDeep) (Json.readList Json.tooDeep)).read {}
  | depth + 2 =>
    (recordType (Json.readDictionary (Json.readObject (Json.readValue depth)))
      (Json.readList (Json.readArray (read depth)))).read {}

/-- Reads a text that holds one node. -/
def parse (text : String) : Except Json.ReadError Node :=
  Json.parseWith (read Json.nestingLimit) text

end Node

/-- The object of a task: the members of its node as the node has them, each under its own name, and
behind them the content. This is the order in which it is printed. -/
def Task.toJson (task : Task) : Json :=
  .object (task.node.members ++ [("content", .string task.content)])

end Quire
