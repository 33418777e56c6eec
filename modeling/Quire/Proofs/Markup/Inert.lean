import Mathlib.Tactic.Lemma
import Mathlib.Tactic.SplitIfs
import Quire.Markup.Escape
import Quire.Number.Decimal

/-!
# Inert text

The characters that make up markup, the entities, and texts that hold none of those characters and
no ampersand but to start an entity. Whatever is escaped is such a text.

* `Markup.marks`, `Markup.Spelled`: what a text holds of either.
* `Markup.inert_escape`: escaped text is inert.
-/

namespace Quire.Markup

/-- Whether a character makes up markup. -/
def isMark (c : Char) : Bool :=
  c == '<' || c == '>' || c == '"' || c == '\''

/-- The characters of a text that make up markup, in their order. -/
def marks (s : String) : List Char :=
  s.toList.filter isMark

/-- The entities that are written. -/
def entities : List String :=
  ["&amp;", "&lt;", "&gt;", "&quot;", "&#39;", "&#8212;"]

/-- Every ampersand in a text starts an entity. -/
def Spelled (s : String) : Prop :=
  ∀ rest, '&' :: rest <:+ s.toList → ∃ entity ∈ entities, entity.toList <+: '&' :: rest

/-- Whether every ampersand among some characters starts an entity. -/
def spelled : List Char → Bool
  | [] => true
  | c :: rest =>
    (c != '&' || entities.any fun entity => entity.toList.isPrefixOf (c :: rest)) && spelled rest

lemma spelled_iff (s : String) : spelled s.toList = true ↔ Spelled s := by
  unfold Spelled
  induction s.toList with
  | nil => simp [spelled]
  | cons c cs ih =>
    simp only [spelled, Bool.and_eq_true, ih, Bool.or_eq_true, bne_iff_ne, ne_eq, List.any_eq_true,
      List.isPrefixOf_iff_prefix]
    constructor
    · rintro ⟨here, behind⟩ rest suffix
      rcases List.suffix_cons_iff.mp suffix with same | suffix
      · cases same
        exact here.resolve_left (fun differ => differ rfl)
      · exact behind rest suffix
    · intro all
      refine ⟨?_, fun rest suffix => all rest (suffix.trans (List.suffix_cons ..))⟩
      by_cases amp : c = '&'
      · subst amp
        exact .inr (all cs List.suffix_rfl)
      · exact .inl amp

instance (s : String) : Decidable (Spelled s) :=
  decidable_of_iff _ (spelled_iff s)

example : Spelled "a &lt; b &#8212; c" ∧ ¬Spelled "a & b" := by decide

@[simp]
lemma marks_append (s t : String) : marks (s ++ t) = marks s ++ marks t := by
  rw [marks, String.toList_append, List.filter_append]
  rfl

/-- Entities stay entities when a text follows. -/
lemma spelled_append {cs ds : List Char} (left : spelled cs = true) (right : spelled ds = true) :
    spelled (cs ++ ds) = true := by
  induction cs with
  | nil => exact right
  | cons c cs ih =>
    simp only [spelled, List.cons_append, Bool.and_eq_true, Bool.or_eq_true, List.any_eq_true,
      List.isPrefixOf_iff_prefix] at left ⊢
    obtain ⟨here, behind⟩ := left
    refine ⟨here.imp_right ?_, ih behind⟩
    rintro ⟨entity, listed, starts⟩
    exact ⟨entity, listed, starts.trans (List.prefix_append (c :: cs) ds)⟩

lemma Spelled.append {s t : String} (left : Spelled s) (right : Spelled t) : Spelled (s ++ t) := by
  rw [← spelled_iff] at left right ⊢
  rw [String.toList_append]
  exact spelled_append left right

/-- A text without markup characters whose ampersands start entities. -/
structure Inert (s : String) : Prop where
  unmarked : marks s = []
  spelled : Spelled s

/-- A character is written without markup characters, and an ampersand only to start an entity. -/
lemma inert_escapeChar (c : Char) :
    (escapeChar c).filter isMark = [] ∧ spelled (escapeChar c) = true := by
  unfold escapeChar
  split_ifs with amp lt gt quote apostrophe
  · decide
  · decide
  · decide
  · decide
  · decide
  · simp [isMark, spelled, amp, lt, gt, quote, apostrophe]

/-- Escaped text is inert. -/
lemma inert_escape (s : String) : Inert (escape s) := by
  constructor
  · rw [marks, escape, String.toList_ofList, List.filter_flatMap, List.flatMap_eq_nil_iff]
    exact fun c _ => (inert_escapeChar c).1
  · rw [← spelled_iff, escape, String.toList_ofList]
    induction s.toList with
    | nil => rfl
    | cons c cs ih =>
      rw [List.flatMap_cons]
      exact spelled_append (inert_escapeChar c).2 ih

/-- A text without ampersands has none that starts no entity. -/
lemma Spelled.of_not_mem {s : String} (plain : '&' ∉ s.toList) : Spelled s :=
  fun _ suffix => (plain (suffix.subset List.mem_cons_self)).elim

/-- So is a text of digits. -/
lemma inert_digits (n : Nat) : Inert (Decimal.text n) := by
  have digit (c : Char) (mem : c ∈ (Decimal.text n).toList) : c.isDigit = true :=
    Decimal.isDigit_of_mem_text mem
  constructor
  · rw [marks, List.filter_eq_nil_iff]
    intro c mem marked
    have digit := digit c mem
    simp only [isMark, Bool.or_eq_true, beq_iff_eq] at marked
    rcases marked with ((rfl | rfl) | rfl) | rfl <;> cases digit
  · exact .of_not_mem fun mem => nomatch digit '&' mem

end Quire.Markup
