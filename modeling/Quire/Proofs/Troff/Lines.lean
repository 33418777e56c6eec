import Mathlib.Data.List.Forall2
import Quire.Proofs.Text.Written
import Quire.Proofs.Troff.Requests

/-!
# Lines that are read back

Text of several lines is escaped line by line, and each line can be read back: a backslash begins an
escape, a hyphen ends one, and the escape of no width stands in front of a line or nowhere. No line
starts with a control character.

* `Text.LinesOf`, `Text.linesOf_iff`: which lines a text has.
* `Troff.escape_eq_replace`: escaping is replacing backslashes and then hyphens.
* `Troff.unescape_escapeChar`: a character is read back, whatever stands behind it.
* `Troff.Encodes`, `Troff.encodes_escapeLine`: a line and its escaped form.
* `Troff.escapeLines_encodes`: a text of several lines.
-/

namespace Quire

namespace Text

/-- The lines of a text. Each one is ended by a line feed, which a carriage return may precede; the
last one may be ended by the text itself, and then it is not empty. -/
inductive LinesOf : List Char → List (List Char) → Prop where
  | nil : LinesOf [] []
  | unended {line : List Char} (plain : '\n' ∉ line) (nonempty : line ≠ []) : LinesOf line [line]
  | lineFeed {line rest : List Char} {lines : List (List Char)} (plain : '\n' ∉ line)
    (bare : line.getLast? ≠ some '\r') (behind : LinesOf rest lines) :
    LinesOf (line ++ '\n' :: rest) (line :: lines)
  | returned {line rest : List Char} {lines : List (List Char)} (plain : '\n' ∉ line)
    (behind : LinesOf rest lines) : LinesOf (line ++ '\r' :: '\n' :: rest) (line :: lines)

variable {line cs rest : List Char}

/-- A text without line feed is read as the rest of the line. -/
lemma linesFrom_of_not_mem (plain : '\n' ∉ cs) :
    linesFrom line cs = if line = [] ∧ cs = [] then [] else [line.reverse ++ cs] := by
  induction cs generalizing line with
  | nil => cases line <;> simp [linesFrom]
  | cons c cs ih =>
    have here : c ≠ '\n' := fun same => plain (same ▸ List.mem_cons_self)
    rw [linesFrom, if_neg here, ih fun mem => plain (List.mem_cons_of_mem _ mem)]
    simp

/-- The first line feed ends the line. -/
lemma linesFrom_append (plain : '\n' ∉ cs) :
    linesFrom line (cs ++ '\n' :: rest) =
      (dropReturn (cs.reverse ++ line)).reverse :: linesFrom [] rest := by
  induction cs generalizing line with
  | nil => rw [List.nil_append, linesFrom, if_pos rfl, List.reverse_nil, List.nil_append]
  | cons c cs ih =>
    have here : c ≠ '\n' := fun same => plain (same ▸ List.mem_cons_self)
    rw [List.cons_append, linesFrom, if_neg here, ih fun mem => plain (List.mem_cons_of_mem _ mem),
      List.reverse_cons, List.append_assoc, List.singleton_append]

lemma lines_of_not_mem (plain : '\n' ∉ cs) (nonempty : cs ≠ []) : lines cs = [cs] := by
  rw [lines, linesFrom_of_not_mem plain, if_neg fun none => nonempty none.2, List.reverse_nil,
    List.nil_append]

lemma lines_lineFeed (plain : '\n' ∉ cs) (bare : cs.getLast? ≠ some '\r') :
    lines (cs ++ '\n' :: rest) = cs :: lines rest := by
  have kept : dropReturn cs.reverse = cs.reverse := by
    unfold dropReturn
    split
    next line same =>
      have last : cs.getLast? = some '\r' := by rw [← List.head?_reverse, same]; rfl
      exact (bare last).elim
    next => rfl
  rw [lines, linesFrom_append plain, List.append_nil, kept, List.reverse_reverse]
  rfl

lemma lines_returned (plain : '\n' ∉ cs) :
    lines (cs ++ '\r' :: '\n' :: rest) = cs :: lines rest := by
  have split : cs ++ '\r' :: '\n' :: rest = (cs ++ ['\r']) ++ '\n' :: rest := by simp
  have plainEnd : '\n' ∉ cs ++ ['\r'] := by simp [plain]
  rw [split, lines, linesFrom_append plainEnd, List.append_nil, List.reverse_append]
  exact congrArg (· :: lines rest) (List.reverse_reverse cs)

/-- What has been read of a line is in front of what is still to be read. -/
lemma linesOf_linesFrom (plain : '\n' ∉ line) :
    LinesOf (line.reverse ++ cs) (linesFrom line cs) := by
  induction cs generalizing line with
  | nil =>
    rw [linesFrom_of_not_mem List.not_mem_nil, List.append_nil]
    by_cases empty : line = []
    · subst empty
      exact .nil
    · rw [if_neg fun both => empty both.1]
      exact .unended (by simpa using plain) (by simpa using empty)
  | cons c cs ih =>
    rw [linesFrom]
    split
    next same =>
      subst same
      have behind : LinesOf cs (linesFrom [] cs) := ih List.not_mem_nil
      unfold dropReturn
      split
      next front =>
        rw [List.reverse_cons, List.append_assoc]
        exact .returned (by simpa using plain) behind
      next other =>
        refine .lineFeed (by simpa using plain) ?_ behind
        rw [List.getLast?_reverse]
        intro last
        obtain ⟨front, rfl⟩ := List.head?_eq_some_iff.mp last
        exact other front rfl
    next other =>
      have later := ih (List.not_mem_cons_of_ne_of_not_mem (Ne.symm other) plain)
      rwa [List.reverse_cons, List.append_assoc] at later

/-- They are those that are read. -/
lemma linesOf_iff {ls : List (List Char)} : LinesOf cs ls ↔ ls = lines cs := by
  constructor
  · intro whole
    induction whole with
    | nil => rfl
    | unended plain nonempty => exact (lines_of_not_mem plain nonempty).symm
    | lineFeed plain bare _ ih => rw [lines_lineFeed plain bare, ← ih]
    | returned plain _ ih => rw [lines_returned plain, ← ih]
  · rintro rfl
    have whole : LinesOf ([].reverse ++ cs) (linesFrom [] cs) := linesOf_linesFrom List.not_mem_nil
    exact whole

/-- Replacing one character is replacing each character by itself. -/
lemma replaceFrom_singleton (a : Char) (replacement cs : List Char) :
    replaceFrom [a] replacement 0 cs =
      cs.flatMap fun c => if c = a then replacement else [c] := by
  induction cs with
  | nil => rfl
  | cons c cs ih =>
    have starts : [a].isPrefixOf (c :: cs) = (a == c) := by simp [List.isPrefixOf]
    rw [replaceFrom, starts, List.length_singleton, Nat.sub_self, ih, List.flatMap_cons]
    by_cases same : c = a
    · rw [if_pos same, same, beq_self_eq_true, if_pos rfl]
    · rw [if_neg same, beq_eq_false_iff_ne.mpr (Ne.symm same), if_neg Bool.false_ne_true]
      rfl

end Text

namespace Troff

/-- A text inside a line has its backslashes replaced first and its hyphens then: neither
replacement touches what the other one writes. -/
lemma escape_eq_replace (s : String) :
    escape s = Text.replace "-" "\\-" (Text.replace "\\" "\\(rs" s) := by
  have backslashes : (Text.replace "\\" "\\(rs" s).toList =
      s.toList.flatMap fun c => if c = '\\' then ['\\', '(', 'r', 's'] else [c] := by
    rw [Text.replace, String.toList_ofList]
    exact Text.replaceFrom_singleton ..
  have hyphens (t : String) : Text.replace "-" "\\-" t =
      String.ofList (t.toList.flatMap fun c => if c = '-' then ['\\', '-'] else [c]) :=
    congrArg String.ofList (Text.replaceFrom_singleton ..)
  rw [hyphens, backslashes, List.flatMap_assoc, escape, escapeChars]
  congr 2
  funext c
  unfold escapeChar
  split
  · rfl
  · rw [List.flatMap_singleton]

/-- What stands for a line of escaped text. -/
def unescape : List Char → List Char
  | '\\' :: '(' :: 'r' :: 's' :: rest => '\\' :: unescape rest
  | '\\' :: '-' :: rest => '-' :: unescape rest
  | '\\' :: '&' :: rest => unescape rest
  | c :: rest => c :: unescape rest
  | [] => []

/-- A line that stands for another one and issues no request. -/
structure Encodes (line encoded : List Char) : Prop where
  /-- It is one line. -/
  plain : '\n' ∉ encoded
  /-- It starts with no control character. -/
  silent : encoded.head? ≠ some '.' ∧ encoded.head? ≠ some '\''
  /-- A backslash begins an escape, and one of no width only at the start of the line. -/
  backslashes : ∀ before behind, encoded = before ++ '\\' :: behind →
    ['(', 'r', 's'] <+: behind ∨ ['-'] <+: behind ∨ (before = [] ∧ ['&'] <+: behind)
  /-- A hyphen stands behind a backslash. -/
  hyphens : ∀ before behind, encoded = before ++ '-' :: behind → before.getLast? = some '\\'
  /-- The escapes stand for what they were written for. -/
  decoded : unescape encoded = line

section

variable {cs before behind : List Char} {x : Char}

/-- The ways to write a character. -/
lemma escapeChar_cases (c : Char) :
    (c = '\\' ∧ escapeChar c = ['\\', '(', 'r', 's']) ∨ (c = '-' ∧ escapeChar c = ['\\', '-']) ∨
      (c ≠ '\\' ∧ c ≠ '-' ∧ escapeChar c = [c]) := by
  unfold escapeChar
  split
  next backslash => exact .inl ⟨backslash, rfl⟩
  next backslash =>
    split
    next hyphen => exact .inr (.inl ⟨hyphen, rfl⟩)
    next hyphen => exact .inr (.inr ⟨backslash, hyphen, rfl⟩)

/-- A backslash of an escaped text begins the escape of a backslash or of a hyphen. -/
lemma behind_backslash (split : escapeChars cs = before ++ '\\' :: behind) :
    ['(', 'r', 's'] <+: behind ∨ ['-'] <+: behind := by
  obtain ⟨c, -, front, back, same, -, ends⟩ := Text.exists_written_of_split split
  rcases escapeChar_cases c with ⟨-, written⟩ | ⟨-, written⟩ | ⟨other, -, written⟩
  · rw [written] at same
    cases front with
    | nil =>
      cases same
      exact .inl ends
    | cons => simp [List.cons_eq_append_iff] at same
  · rw [written] at same
    cases front with
    | nil =>
      cases same
      exact .inr ends
    | cons => simp [List.cons_eq_append_iff] at same
  · rw [written] at same
    cases front <;> simp [other] at same

/-- A hyphen of an escaped text ends the escape of a hyphen. -/
lemma before_hyphen (split : escapeChars cs = before ++ '-' :: behind) :
    before.getLast? = some '\\' := by
  obtain ⟨c, -, front, back, same, starts, -⟩ := Text.exists_written_of_split split
  rcases escapeChar_cases c with ⟨-, written⟩ | ⟨-, written⟩ | ⟨-, other, written⟩
  · rw [written] at same
    cases front <;> simp [List.cons_eq_append_iff] at same
  · rw [written] at same
    cases front with
    | nil => cases same
    | cons y front =>
      cases front with
      | nil =>
        cases same
        obtain ⟨front, rfl⟩ := starts
        exact List.getLast?_concat
      | cons => simp at same
  · rw [written] at same
    cases front <;> simp [other] at same

/-- A character is read back as it was escaped. -/
lemma unescape_escapeChar (c : Char) (rest : List Char) :
    unescape (escapeChar c ++ rest) = c :: unescape rest := by
  rcases escapeChar_cases c with ⟨rfl, written⟩ | ⟨rfl, written⟩ | ⟨other, -, written⟩
  · rw [written]
    rfl
  · rw [written]
    rfl
  · rw [written, List.singleton_append, unescape]
    all_goals exact fun _ same => (other same).elim

section

variable (line : List Char)

/-- Escapes inside a line are undone. -/
lemma unescape_escapeChars : unescape (escapeChars line) = line :=
  Text.read_written rfl unescape_escapeChar line

lemma head?_escapeLine :
    (escapeLine line).head? ≠ some '.' ∧ (escapeLine line).head? ≠ some '\'' := by
  have silent := startsRequest_escapeLine line
  cases written : escapeLine line with
  | nil => simp
  | cons c rest =>
    rw [written] at silent
    simpa [startsRequest] using silent

/-- A line is written with the escape of no width in front of it, or without. -/
lemma escapeLine_cases :
    escapeLine line = escapeChars line ∨ escapeLine line = '\\' :: '&' :: escapeChars line := by
  unfold escapeLine
  dsimp only
  split
  · exact .inr rfl
  · exact .inl rfl

lemma unescape_escapeLine : unescape (escapeLine line) = line := by
  rcases escapeLine_cases line with bare | guarded
  · rw [bare]
    exact unescape_escapeChars line
  · rw [guarded, unescape]
    exact unescape_escapeChars line

end

/-- A guarded line has one backslash more, and else what is behind the guard. -/
lemma guarded_split (other : x ≠ '&') (split : '\\' :: '&' :: cs = before ++ x :: behind) :
    (x = '\\' ∧ before = [] ∧ ['&'] <+: behind) ∨
      ∃ front, before = '\\' :: '&' :: front ∧ cs = front ++ x :: behind := by
  match before with
  | [] =>
    cases split
    exact .inl ⟨rfl, rfl, List.prefix_append ['&'] _⟩
  | [c] =>
    cases split
    exact (other rfl).elim
  | c :: d :: front =>
    cases split
    exact .inr ⟨front, rfl, rfl⟩

lemma behind_backslash_escapeLine {line : List Char}
    (split : escapeLine line = before ++ '\\' :: behind) :
    ['(', 'r', 's'] <+: behind ∨ ['-'] <+: behind ∨ (before = [] ∧ ['&'] <+: behind) := by
  rcases escapeLine_cases line with bare | guarded
  · rw [bare] at split
    exact (behind_backslash split).imp_right .inl
  · rw [guarded] at split
    rcases guarded_split (by decide) split with ⟨-, guard⟩ | ⟨front, -, inside⟩
    · exact .inr (.inr guard)
    · exact (behind_backslash inside).imp_right .inl

lemma before_hyphen_escapeLine {line : List Char}
    (split : escapeLine line = before ++ '-' :: behind) : before.getLast? = some '\\' := by
  rcases escapeLine_cases line with bare | guarded
  · rw [bare] at split
    exact before_hyphen split
  · rw [guarded] at split
    rcases guarded_split (by decide) split with ⟨guard, -⟩ | ⟨front, rfl, inside⟩
    · cases guard
    · rw [List.getLast?_cons, List.getLast?_cons, before_hyphen inside]
      rfl

/-- An escaped line stands for the line. -/
lemma encodes_escapeLine {line : List Char} (plain : '\n' ∉ line) :
    Encodes line (escapeLine line) where
  plain := not_mem_escapeLine plain
  silent := head?_escapeLine line
  backslashes _ _ := behind_backslash_escapeLine
  hyphens _ _ := before_hyphen_escapeLine
  decoded := unescape_escapeLine line

end

/-- A text of several lines is written as exactly as many lines, one below the other, and each of
them stands for a line of the text: it can be read back, and it issues no request. Inside a line it
is written by two replacements in a row. -/
theorem escapeLines_encodes (s : String) :
    (∃ lines encoded : List (List Char),
      (∀ others, Text.LinesOf s.toList others ↔ others = lines) ∧
      List.Forall₂ Encodes lines encoded ∧
      escapeLines s = Text.join "\n" (encoded.map String.ofList)) ∧
    ∀ text, escape text = Text.replace "-" "\\-" (Text.replace "\\" "\\(rs" text) := by
  refine ⟨⟨Text.lines s.toList, (Text.lines s.toList).map escapeLine,
    fun _ => Text.linesOf_iff, ?_, ?_⟩, escape_eq_replace⟩
  · rw [List.forall₂_map_right_iff, List.forall₂_same]
    intro line listed
    exact encodes_escapeLine (Text.not_mem_linesFrom List.not_mem_nil line listed)
  · rw [List.map_map]
    rfl

end Troff

end Quire
