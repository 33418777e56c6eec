import Quire.Node.Basic
import Quire.Number.Decimal

/-!
# Parts of a rendering

What the renderings of all formats share: a node's text put in front of its converted children, and
the level of a section.
-/

namespace Quire

/-- The escaped text of a node, then the converted children on a line of their own. -/
def Node.body (escape : String → String) (node : Node) (content : String) : String :=
  match node.text with
  | some text => if content = "" then escape text else escape text ++ "\n" ++ content
  | none => content

/-- The level of a section, from one to five; one where the attribute gives none. -/
def Node.level (node : Node) : Nat :=
  match (node.attr "level").bind Decimal.parse? with
  | some n => max 1 (min n 5)
  | none => 1

/-- Of two values that are there alike, both are there or both are missing. Renderings of two nodes
take the same branch on such values. -/
theorem isSome_cases {α : Type} {x y : Option α} (same : x.isSome = y.isSome) :
    (∃ a b, x = some a ∧ y = some b) ∨ (x = none ∧ y = none) := by
  cases x with
  | none =>
    cases y with
    | none => exact .inr ⟨rfl, rfl⟩
    | some b => cases same
  | some a =>
    cases y with
    | none => cases same
    | some b => exact .inl ⟨a, b, rfl, rfl⟩

end Quire
