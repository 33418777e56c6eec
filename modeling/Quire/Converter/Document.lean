import Quire.Converter.Basic
import Quire.Text.Lines

/-!
# Whole documents

Converting a tree of nodes. Children are converted before their parent, from first to last, and
their outputs on lines of their own are the parent's content. The first failure ends the
conversion.
-/

namespace Quire.Converter

variable {μ : Type}

mutual

/-- Converts a node and everything below it. -/
def document (converter : Converter μ) (files : FileTree) :
    Node → StateM μ (Except ConvertError String)
  | { name, id, title, text, attributes, children } => do
    match ← converter.documents files children with
    | .error e => return .error e
    | .ok outputs =>
      converter.convert files
        ⟨⟨name, id, title, text, attributes, children⟩, Text.join "\n" outputs, none⟩

/-- Converts nodes and everything below them, from first to last. -/
def documents (converter : Converter μ) (files : FileTree) :
    List Node → StateM μ (Except ConvertError (List String))
  | [] => return .ok []
  | node :: rest => do
    match ← converter.document files node with
    | .error e => return .error e
    | .ok output =>
      match ← converter.documents files rest with
      | .error e => return .error e
      | .ok outputs => return .ok (output :: outputs)

end

/-- A document is converted after its children. -/
theorem document_eq (converter : Converter μ) (files : FileTree) (node : Node) :
    converter.document files node = (do
      match ← converter.documents files node.children with
      | .error e => return .error e
      | .ok outputs => converter.convert files ⟨node, Text.join "\n" outputs, none⟩) := by
  cases node
  rw [document]

end Quire.Converter
