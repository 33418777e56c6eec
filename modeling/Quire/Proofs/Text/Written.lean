import Mathlib.Tactic.Lemma

/-!
# Texts written character by character

A text is escaped by writing each of its characters as one or several others. What can be said of
the whole from what is known of each character.

* `Text.exists_written_of_split`: each character of a written text stems from one character.
* `Text.read_written`: what undoes each character undoes the text.
* `Text.written_eq_self_iff`: the texts that are written as they are.
-/

namespace Quire.Text

variable {write : Char → List Char}

/-- A character of a written text stems from one character of the text. -/
lemma exists_written_of_split {cs before behind : List Char} {x : Char}
    (split : cs.flatMap write = before ++ x :: behind) :
    ∃ c ∈ cs, ∃ front back, write c = front ++ x :: back ∧ front <:+ before ∧ back <+: behind := by
  induction cs generalizing before with
  | nil => simp at split
  | cons c cs ih =>
    rw [List.flatMap_cons] at split
    rcases List.append_eq_append_iff.mp split with ⟨skipped, rfl, later⟩ | ⟨part, here, later⟩
    · obtain ⟨d, mem, front, back, same, starts, ends⟩ := ih later
      exact ⟨d, List.mem_cons_of_mem c mem, front, back, same,
        starts.trans (List.suffix_append ..), ends⟩
    · cases part with
      | nil =>
        have inside : cs.flatMap write = [] ++ x :: behind := later.symm
        obtain ⟨d, mem, front, back, same, starts, ends⟩ := ih inside
        rw [List.suffix_nil.mp starts] at same
        exact ⟨d, List.mem_cons_of_mem c mem, [], back, same, List.nil_suffix, ends⟩
      | cons y back =>
        rw [List.cons_append] at later
        obtain ⟨rfl, rfl⟩ := List.cons.inj later
        exact ⟨c, List.mem_cons_self, before, back, here, List.suffix_rfl, List.prefix_append ..⟩

/-- What undoes each written character, whatever stands behind it, undoes a written text. -/
lemma read_written {read : List Char → List Char} (empty : read [] = [])
    (each : ∀ c rest, read (write c ++ rest) = c :: read rest) (cs : List Char) :
    read (cs.flatMap write) = cs := by
  induction cs with
  | nil => exact empty
  | cons c cs ih => rw [List.flatMap_cons, each, ih]

section

variable (nonempty : ∀ c, write c ≠ []) (cs : List Char)
include nonempty

/-- Nothing gets shorter when it is written. -/
lemma length_le_written : cs.length ≤ (cs.flatMap write).length := by
  induction cs with
  | nil => exact Nat.le_refl 0
  | cons c cs ih =>
    have here : 0 < (write c).length := List.length_pos_iff.mpr (nonempty c)
    rw [List.flatMap_cons, List.length_append, List.length_cons]
    omega

/-- A text is written as it is exactly if each of its characters is. -/
lemma written_eq_self_iff : cs.flatMap write = cs ↔ ∀ c ∈ cs, write c = [c] := by
  induction cs with
  | nil => simp
  | cons c cs ih =>
    rw [List.flatMap_cons, List.forall_mem_cons, ← ih]
    constructor
    · intro same
      -- the characters behind the first take up all the length that is left
      have lengths := congrArg List.length same
      have behind := length_le_written nonempty cs
      have here : 0 < (write c).length := List.length_pos_iff.mpr (nonempty c)
      rw [List.length_append, List.length_cons] at lengths
      have single : (write c).length = [c].length := by
        rw [List.length_singleton]
        omega
      exact List.append_inj same single
    · rintro ⟨here, behind⟩
      rw [here, behind, List.singleton_append]

end

end Quire.Text
