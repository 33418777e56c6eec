import Quire.Proofs.Markup.Inert
import Quire.Proofs.Text.Written

/-!
# Escaped text read back

Escaping loses nothing. The entities of an escaped text are read in one pass, and what comes out is
the text that was escaped, even where that text holds entities or parts of them. The texts that
escaping writes are those without markup characters in which each ampersand begins an entity.

* `Markup.unescapeChars_escapeChar`: a character is read back, whatever stands behind it.
* `Markup.flatMap_unescapeChars`: an escaped text is the escaped form of what it stands for.
* `Markup.escape_lossless`: escaping as a function on texts.
-/

namespace Quire.Markup

/-- The characters that are escaped, each with the entity that stands for it. -/
def characterEntities : List (Char × String) :=
  [('&', "&amp;"), ('<', "&lt;"), ('>', "&gt;"), ('"', "&quot;"), ('\'', "&#39;")]

/-- What the characters of an escaped text stand for, read once from left to right. -/
def unescapeChars : List Char → List Char
  | '&' :: 'a' :: 'm' :: 'p' :: ';' :: rest => '&' :: unescapeChars rest
  | '&' :: 'l' :: 't' :: ';' :: rest => '<' :: unescapeChars rest
  | '&' :: 'g' :: 't' :: ';' :: rest => '>' :: unescapeChars rest
  | '&' :: 'q' :: 'u' :: 'o' :: 't' :: ';' :: rest => '"' :: unescapeChars rest
  | '&' :: '#' :: '3' :: '9' :: ';' :: rest => '\'' :: unescapeChars rest
  | c :: rest => c :: unescapeChars rest
  | [] => []

/-- What an escaped text stands for. -/
def unescape (s : String) : String :=
  String.ofList (unescapeChars s.toList)

/-- Characters without markup characters of which each ampersand begins an entity. -/
structure Escaped (cs : List Char) : Prop where
  unmarked : ∀ c ∈ cs, isMark c = false
  ampersands : ∀ rest, '&' :: rest <:+ cs →
    ∃ entry ∈ characterEntities, entry.2.toList <+: '&' :: rest

variable {cs rest : List Char}

/-- What stands at the end of an escaped text is escaped text. -/
lemma Escaped.suffix (escaped : Escaped cs) (ends : rest <:+ cs) : Escaped rest where
  unmarked c mem := escaped.unmarked c (ends.subset mem)
  ampersands _ inner := escaped.ampersands _ (inner.trans ends)

lemma escapeChar_entity : ∀ entry ∈ characterEntities, escapeChar entry.1 = entry.2.toList := by
  decide

/-- A character is escaped, or it is neither a markup character nor an ampersand and is written as
it is. -/
lemma escapeChar_cases (c : Char) :
    (∃ entry ∈ characterEntities, c = entry.1) ∨
      (c ≠ '&' ∧ isMark c = false ∧ escapeChar c = [c]) := by
  by_cases listed : c ∈ characterEntities.map Prod.fst
  · obtain ⟨entry, mem, same⟩ := List.mem_map.mp listed
    exact .inl ⟨entry, mem, same.symm⟩
  · simp only [characterEntities, List.map_cons, List.map_nil, List.mem_cons, List.not_mem_nil,
      or_false, not_or] at listed
    obtain ⟨amp, lt, gt, quote, apostrophe⟩ := listed
    refine .inr ⟨amp, ?_, ?_⟩
    · simp [isMark, lt, gt, quote, apostrophe]
    · simp [escapeChar, amp, lt, gt, quote, apostrophe]

lemma escapeChar_of_plain {c : Char} (amp : c ≠ '&') (plain : isMark c = false) :
    escapeChar c = [c] := by
  have special : ∀ entry ∈ characterEntities, entry.1 = '&' ∨ isMark entry.1 = true := by decide
  rcases escapeChar_cases c with ⟨entry, listed, rfl⟩ | ⟨-, -, same⟩
  · exact (special entry listed).elim (fun same => absurd same amp)
      fun marked => absurd marked (Bool.eq_false_iff.mp plain)
  · exact same

/-- Each character that is escaped is written in another way. -/
lemma escapeChar_eq_singleton_iff (c : Char) :
    escapeChar c = [c] ↔ ∀ entry ∈ characterEntities, c ≠ entry.1 := by
  have longer : ∀ entry ∈ characterEntities, escapeChar entry.1 ≠ [entry.1] := by decide
  constructor
  · rintro same entry listed rfl
    exact longer entry listed same
  · intro unlisted
    rcases escapeChar_cases c with ⟨entry, listed, same⟩ | ⟨-, -, same⟩
    · exact (unlisted entry listed same).elim
    · exact same

lemma escapeChar_ne_nil (c : Char) : escapeChar c ≠ [] := by
  have some : ∀ entry ∈ characterEntities, escapeChar entry.1 ≠ [] := by decide
  rcases escapeChar_cases c with ⟨entry, listed, rfl⟩ | ⟨-, -, same⟩
  · exact some entry listed
  · rw [same]
    exact List.cons_ne_nil c []

/-- Escaped text is empty, or it starts with an entity or with another character. -/
lemma Escaped.cases (escaped : Escaped cs) :
    cs = [] ∨ (∃ entry ∈ characterEntities, ∃ rest, cs = entry.2.toList ++ rest) ∨
      ∃ c rest, cs = c :: rest ∧ c ≠ '&' ∧ isMark c = false := by
  cases cs with
  | nil => exact .inl rfl
  | cons c rest =>
    by_cases amp : c = '&'
    · subst amp
      obtain ⟨entry, listed, behind, same⟩ := escaped.ampersands rest List.suffix_rfl
      exact .inr (.inl ⟨entry, listed, behind, same.symm⟩)
    · exact .inr (.inr ⟨c, rest, rfl, amp, escaped.unmarked c List.mem_cons_self⟩)

/-- An ampersand stands in an entity at its start only. -/
lemma front_of_entity {entry : Char × String} (listed : entry ∈ characterEntities)
    {front back : List Char} (split : entry.2.toList = front ++ '&' :: back) : front = [] := by
  have single : ∀ entry ∈ characterEntities, '&' ∉ entry.2.toList.tail := by decide
  cases front with
  | nil => rfl
  | cons c front =>
    have inside : '&' ∈ entry.2.toList.tail := by
      rw [split]
      exact List.mem_append_right front List.mem_cons_self
    exact (single entry listed inside).elim

lemma unescapeChars_entity {entry : Char × String} (listed : entry ∈ characterEntities)
    (rest : List Char) :
    unescapeChars (entry.2.toList ++ rest) = entry.1 :: unescapeChars rest := by
  simp only [characterEntities, List.mem_cons, List.not_mem_nil, or_false] at listed
  rcases listed with rfl | rfl | rfl | rfl | rfl <;> rfl

lemma unescapeChars_cons {c : Char} (other : c ≠ '&') (rest : List Char) :
    unescapeChars (c :: rest) = c :: unescapeChars rest := by
  rw [unescapeChars]
  all_goals exact fun _ same => (other same).elim

/-- A character is read back as it was escaped. -/
lemma unescapeChars_escapeChar (c : Char) (rest : List Char) :
    unescapeChars (escapeChar c ++ rest) = c :: unescapeChars rest := by
  rcases escapeChar_cases c with ⟨entry, listed, rfl⟩ | ⟨other, -, written⟩
  · rw [escapeChar_entity entry listed, unescapeChars_entity listed]
  · rw [written, List.singleton_append, unescapeChars_cons other]

/-- An escaped text is the escaped form of what it stands for. -/
lemma flatMap_unescapeChars {cs : List Char} (escaped : Escaped cs) :
    (unescapeChars cs).flatMap escapeChar = cs := by
  rcases escaped.cases with rfl | ⟨entry, listed, rest, rfl⟩ | ⟨c, rest, rfl, amp, plain⟩
  · rfl
  · have shorter : rest.length < (entry.2.toList ++ rest).length := by
      have some := List.length_pos_iff.mpr (escapeChar_ne_nil entry.1)
      rw [escapeChar_entity entry listed] at some
      rw [List.length_append]
      omega
    have behind := flatMap_unescapeChars (escaped.suffix (List.suffix_append ..))
    rw [unescapeChars_entity listed, List.flatMap_cons, escapeChar_entity entry listed, behind]
  · have behind := flatMap_unescapeChars (escaped.suffix (List.suffix_cons ..))
    rw [unescapeChars_cons amp, List.flatMap_cons, escapeChar_of_plain amp plain, behind,
      List.singleton_append]
termination_by cs.length

/-- What is escaped is escaped text. -/
lemma escaped_flatMap (cs : List Char) : Escaped (cs.flatMap escapeChar) where
  unmarked c mem := by
    obtain ⟨d, -, written⟩ := List.mem_flatMap.mp mem
    exact Bool.eq_false_iff.mpr (List.filter_eq_nil_iff.mp (inert_escapeChar d).1 c written)
  ampersands := by
    rintro rest ⟨before, split⟩
    obtain ⟨c, -, front, back, written, -, ends⟩ := Text.exists_written_of_split split.symm
    rcases escapeChar_cases c with ⟨entry, listed, rfl⟩ | ⟨other, -, same⟩
    · rw [escapeChar_entity entry listed] at written
      have first : front = [] := front_of_entity listed written
      rw [first, List.nil_append] at written
      refine ⟨entry, listed, ?_⟩
      rw [written]
      exact List.cons_prefix_cons.mpr ⟨rfl, ends⟩
    · -- the only character that is written is no ampersand
      rw [same] at written
      have listed : '&' ∈ [c] := by
        rw [written]
        exact List.mem_append_right _ List.mem_cons_self
      exact (other (List.mem_singleton.mp listed).symm).elim

/-- The texts that escaping writes are those that are escaped text. -/
lemma exists_escape_eq_iff (t : String) : (∃ s, escape s = t) ↔ Escaped t.toList := by
  constructor
  · rintro ⟨s, rfl⟩
    rw [escape, String.toList_ofList]
    exact escaped_flatMap s.toList
  · intro escaped
    refine ⟨unescape t, ?_⟩
    rw [escape, unescape, String.toList_ofList, flatMap_unescapeChars escaped, String.ofList_toList]

lemma unescape_escape (s : String) : unescape (escape s) = s := by
  rw [unescape, escape, String.toList_ofList,
    Text.read_written rfl unescapeChars_escapeChar s.toList, String.ofList_toList]

example : escape "&lt;" = "&amp;lt;" ∧ unescape "&amp;lt;" = "&lt;" := by decide

/-- A text is escaped as it is exactly if it holds none of the characters that are escaped. -/
lemma escape_eq_self_iff (s : String) :
    escape s = s ↔ ∀ entry ∈ characterEntities, entry.1 ∉ s.toList := by
  rw [← String.toList_inj, escape, String.toList_ofList,
    Text.written_eq_self_iff escapeChar_ne_nil]
  simp only [escapeChar_eq_singleton_iff]
  constructor
  · intro plain entry listed mem
    exact plain entry.1 mem entry listed rfl
  · rintro absent c mem entry listed rfl
    exact absent entry listed mem

/-- Escaping loses nothing. Texts are escaped piece by piece; what comes out are exactly the texts
without markup characters in which each ampersand begins an entity; each text is read back from its
escaped form, so no two have the same one; and only a text that holds none of the escaped characters
is escaped a second time without a change. -/
theorem escape_lossless :
    (∀ s t, escape (s ++ t) = escape s ++ escape t) ∧
    (∀ t, (∃ s, escape s = t) ↔ Escaped t.toList) ∧
    (∀ s, unescape (escape s) = s) ∧
    Function.Injective escape ∧
    ∀ s, escape (escape s) = escape s ↔ ∀ entry ∈ characterEntities, entry.1 ∉ s.toList := by
  have injective : Function.Injective escape :=
    Function.LeftInverse.injective unescape_escape
  refine ⟨fun s t => ?_, exists_escape_eq_iff, unescape_escape, injective, fun s => ?_⟩
  · rw [escape, String.toList_append, List.flatMap_append, String.ofList_append]
    rfl
  · rw [injective.eq_iff, escape_eq_self_iff]

end Quire.Markup
