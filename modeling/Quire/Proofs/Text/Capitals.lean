import Mathlib.Tactic.Lemma
import Quire.Text.Case

/-!
# What capital letters are made of

Capital forms come behind the signs and digits among the characters. So no line feed and no quote is
the capital form of another character.

* `Text.mem_upper`: a sign is in a text in capital letters only if it is in the text.
-/

namespace Quire.Text

namespace Case

/-- The number of a character is the one it was made of, if there is such a character. -/
lemma lt_toNat_ofNat {n m : Nat} (above : n < m) :
    Char.ofNat m = Char.ofNat 0 ∨ n < (Char.ofNat m).toNat := by
  by_cases valid : m.isValidChar
  · right
    rw [Char.ofNat, dif_pos valid]
    exact above
  · left
    rw [Char.ofNat, dif_neg valid]
    rfl

/-- Sequences in the table hold no signs. -/
lemma lt_capitalSequences : ∀ entry ∈ capitalSequences, ∀ n ∈ entry.2, 64 < n := by
  decide

lemma lt_capitalRuns : ∀ run ∈ capitalRuns, 64 < run.first + run.shift := by
  decide +kernel

/-- What the tables map a character to is the character itself or no sign. -/
lemma mem_mapChar {c d : Char} (mem : c ∈ mapChar capitalSequences capitalRuns d) :
    c = d ∨ c = Char.ofNat 0 ∨ 64 < c.toNat := by
  unfold mapChar at mem
  split at mem
  next ns found =>
    obtain ⟨n, listed, rfl⟩ := List.mem_map.mp mem
    obtain ⟨before, behind, table, -⟩ := List.lookup_eq_some_iff.mp found
    have entry : (d.toNat, ns) ∈ capitalSequences := by
      rw [table]
      exact List.mem_append_right _ List.mem_cons_self
    exact .inr (lt_toNat_ofNat (lt_capitalSequences _ entry n listed))
  next =>
    split at mem
    next run found =>
      have listed : run ∈ capitalRuns := List.mem_of_find?_eq_some found
      have moved := lt_capitalRuns run listed
      have reached : run.first ≤ d.toNat := by
        have holds := List.find?_some found
        simp only [Run.holds, Bool.and_eq_true, decide_eq_true_eq] at holds
        exact holds.1.1
      rw [List.mem_singleton.mp mem]
      exact .inr (lt_toNat_ofNat (by omega))
    next => exact .inl (List.mem_singleton.mp mem)

end Case

lemma toUpper_of_lt {c : Char} (low : c.toNat < 128) : c.toUpper = c ∨ 64 < c.toUpper.toNat := by
  have each : ∀ n < 128,
      (Char.ofNat n).toUpper = Char.ofNat n ∨ 64 < (Char.ofNat n).toUpper.toNat := by
    decide
  simpa only [Char.ofNat_toNat] using each c.toNat low

lemma mem_upperChar {c d : Char} (mem : c ∈ upperChar d) :
    c = d ∨ c = Char.ofNat 0 ∨ 64 < c.toNat := by
  unfold upperChar at mem
  split at mem
  next low =>
    rw [List.mem_singleton.mp mem]
    exact (toUpper_of_lt low).imp_right .inr
  next => exact Case.mem_mapChar mem

/-- Capital letters bring no signs. -/
lemma mem_upper {s : String} {c : Char} (sign : 0 < c.toNat ∧ c.toNat ≤ 64)
    (mem : c ∈ (upper s).toList) : c ∈ s.toList := by
  rw [upper, String.toList_ofList] at mem
  obtain ⟨d, listed, form⟩ := List.mem_flatMap.mp mem
  rcases mem_upperChar form with rfl | rfl | above
  · exact listed
  · exact absurd sign.1 (by decide)
  · omega

end Quire.Text
