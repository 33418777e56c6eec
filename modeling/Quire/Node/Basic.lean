import Quire.Json.Basic

/-!
# Document nodes

The tree of a parsed document. A node has a name that tells its kind, some texts, attributes, and
the nodes below it.
-/

namespace Quire

/-- A node of a document. -/
structure Node where
  name : String
  id : Option String
  title : Option String
  /-- The literal text of a leaf. -/
  text : Option String
  attributes : Dictionary Json
  children : List Node

namespace Node

/-- A node with nothing but a name. -/
def named (name : String) : Node :=
  ⟨name, none, none, none, Dictionary.empty, []⟩

instance : Inhabited Node := ⟨named ""⟩

/-- The node under an id. -/
def withId (node : Node) (id : String) : Node :=
  { node with id := some id }

/-- The node with a title. -/
def withTitle (node : Node) (title : String) : Node :=
  { node with title := some title }

/-- The node with a text. -/
def withText (node : Node) (text : String) : Node :=
  { node with text := some text }

/-- The node with an attribute, in place of one of the same name. -/
def withAttribute (node : Node) (name : String) (value : Json) : Node :=
  { node with attributes := node.attributes.insert name value }

/-- The node with one more child at the end. -/
def withChild (node : Node) (child : Node) : Node :=
  { node with children := node.children ++ [child] }

/-- The node with more children at the end. -/
def withChildren (node : Node) (children : List Node) : Node :=
  { node with children := node.children ++ children }

/-- Whether the node has an attribute, be it null. -/
def hasAttr (node : Node) (name : String) : Bool :=
  node.attributes.contains name

/-- An attribute as a text: null counts as absent, and a value that is no text is printed. -/
def attr (node : Node) (name : String) : Option String :=
  match node.attributes.get? name with
  | none => none
  | some .null => none
  | some (.string s) => some s
  | some value => some value.compact

end Node

/-- One node to convert, with the converted output of its children; a transform stands in for the
node's name where the way of conversion is chosen. -/
structure Task where
  node : Node
  content : String
  transform : Option String

/-- The name that chooses how the node is converted. -/
def Task.name (task : Task) : String :=
  task.transform.getD task.node.name

end Quire
