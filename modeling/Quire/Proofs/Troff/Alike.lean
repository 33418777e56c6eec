import Mathlib.Data.List.Forall2
import Quire.Proofs.Troff.Requests

/-!
# Outputs with the same requests

Outputs that are put together from shared blocks and, on either side, lines that are no requests.
Such outputs hold the same requests. Joining the cells of a row keeps outputs alike, as a line that
could be joined with the next one is never the last one of a shared block.

* `AlikeLines`, `Alike`: lines and outputs that are put together in this way.
* `AlikeLines.requests_eq`: they hold the same requests.
* `AlikeLines.joinCells`: rows of tables keep them alike.
-/

namespace Quire

namespace Troff

/-- The last of some lines ends no cell. -/
def closed (block : List (List Char)) : Bool :=
  !block.getLast?.any endsCell

/-- Lines put together from shared blocks and, on either side, lines that are no requests. -/
inductive AlikeLines : List (List Char) → List (List Char) → Prop where
  | nil : AlikeLines [] []
  | left {line : List Char} {ls ms : List (List Char)} (silent : startsRequest line = false)
    (rest : AlikeLines ls ms) : AlikeLines (line :: ls) ms
  | right {line : List Char} {ls ms : List (List Char)} (silent : startsRequest line = false)
    (rest : AlikeLines ls ms) : AlikeLines ls (line :: ms)
  | shared {block ls ms : List (List Char)} (ends : closed block = true)
    (rest : AlikeLines ls ms) : AlikeLines (block ++ ls) (block ++ ms)

section Joining

lemma startsCell_bar (line next : List Char) :
    startsCell (line ++ '|' :: next) = startsCell line := by
  match line with
  | [] => rfl
  | [c] => simp [startsCell, List.isPrefixOf]
  | c :: d :: line => simp [startsCell, List.isPrefixOf]

lemma endsCell_bar (line next : List Char) : endsCell (line ++ '|' :: next) = endsCell next := by
  rw [Bool.eq_iff_iff]
  induction line with
  | nil => simp [endsCell_cons]
  | cons c line ih =>
    have longer : c :: (line ++ '|' :: next) ≠ ['T', '\x7d'] := by
      cases line <;> simp
    rw [List.cons_append, endsCell_cons, ih, or_iff_right longer]

/-- What ends a cell and is joined with the next line stays what it was. -/
lemma startsRequest_bar {line : List Char} (ends : endsCell line = true) (next : List Char) :
    startsRequest (line ++ '|' :: next) = startsRequest line := by
  cases line with
  | nil => cases ends
  | cons c line => rfl

lemma startsRequest_of_startsCell {line : List Char} (starts : startsCell line = true) :
    startsRequest line = false := by
  obtain ⟨rest, rfl⟩ := startsCell_iff.mp starts
  rfl

/-- Whether joined lines begin a cell is told by the first of them. -/
lemma startsCell_of_joinCells {next first : List Char} {rest later : List (List Char)}
    (joined : joinCells (next :: rest) = first :: later) : startsCell first = startsCell next := by
  cases rest with
  | nil =>
    rw [joinCells_singleton] at joined
    cases joined
    rfl
  | cons line rest =>
    rw [joinCells_cons_cons] at joined
    split at joined
    · obtain ⟨inner, behind, same⟩ := List.exists_cons_of_ne_nil (joinCells_ne_nil line rest)
      rw [same] at joined
      cases joined
      exact startsCell_bar next inner
    · cases joined
      rfl

lemma closed_cons_cons (line next : List Char) (block : List (List Char)) :
    closed (line :: next :: block) = closed (next :: block) := by
  simp [closed]

lemma joinCells_append {block : List (List Char)} (ends : closed block = true)
    (ls : List (List Char)) : joinCells (block ++ ls) = joinCells block ++ joinCells ls := by
  induction block with
  | nil => rfl
  | cons line block ih =>
    cases block with
    | nil =>
      have last : endsCell line = false := by simpa [closed] using ends
      simp [joinCells, last]
    | cons next block =>
      rw [closed_cons_cons] at ends
      obtain ⟨first, later, joined⟩ := List.exists_cons_of_ne_nil (joinCells_ne_nil next block)
      have ih := ih ends
      rw [List.cons_append, List.cons_append, joinCells_cons_cons, joinCells_cons_cons,
        ← List.cons_append, ih, joined]
      split <;> rfl

lemma closed_joinCells {block : List (List Char)} (ends : closed block = true) :
    closed (joinCells block) = true := by
  induction block with
  | nil => rfl
  | cons line block ih =>
    cases block with
    | nil =>
      rw [joinCells_singleton]
      exact ends
    | cons next block =>
      rw [closed_cons_cons] at ends
      have ih := ih ends
      obtain ⟨first, later, joined⟩ := List.exists_cons_of_ne_nil (joinCells_ne_nil next block)
      rw [joinCells_cons_cons]
      rw [joined] at ih ⊢
      split
      · cases later with
        | nil => simpa [closed, endsCell_bar] using ih
        | cons second later => simpa [closed] using ih
      · rw [closed_cons_cons]
        exact ih

end Joining

namespace AlikeLines

variable {line : List Char} {ls ms ls' ms' : List (List Char)}

lemma symm (alike : AlikeLines ls ms) : AlikeLines ms ls := by
  induction alike with
  | nil => exact .nil
  | left silent _ ih => exact .right silent ih
  | right silent _ ih => exact .left silent ih
  | shared ends _ ih => exact .shared ends ih

/-- Alike lines hold the same requests. -/
lemma requests_eq (alike : AlikeLines ls ms) :
    ls.filter startsRequest = ms.filter startsRequest := by
  induction alike with
  | nil => rfl
  | left silent _ ih => rw [List.filter_cons, silent, if_neg Bool.false_ne_true, ih]
  | right silent _ ih => rw [List.filter_cons, silent, if_neg Bool.false_ne_true, ih]
  | shared _ _ ih => rw [List.filter_append, List.filter_append, ih]

lemma append (alike : AlikeLines ls ms) (alike' : AlikeLines ls' ms') :
    AlikeLines (ls ++ ls') (ms ++ ms') := by
  induction alike with
  | nil => exact alike'
  | left silent _ ih => exact .left silent ih
  | right silent _ ih => exact .right silent ih
  | shared ends _ ih =>
    rw [List.append_assoc, List.append_assoc]
    exact .shared ends ih

/-- Lines among which there is no request are alike. -/
lemma of_silent (silent : ∀ line ∈ ls, startsRequest line = false)
    (silent' : ∀ line ∈ ms, startsRequest line = false) : AlikeLines ls ms := by
  induction ls with
  | nil =>
    induction ms with
    | nil => exact .nil
    | cons line ms ih =>
      exact .right (silent' line List.mem_cons_self)
        (ih fun l mem => silent' l (List.mem_cons_of_mem _ mem))
  | cons line ls ih =>
    exact .left (silent line List.mem_cons_self)
      (ih fun l mem => silent l (List.mem_cons_of_mem _ mem))

/-- A line that is no request can be left out. -/
lemma drop (silent : startsRequest line = false) (alike : AlikeLines (line :: ls) ms) :
    AlikeLines ls ms := by
  generalize same : line :: ls = lines at alike
  induction alike generalizing ls with
  | nil => cases same
  | left _ rest =>
    cases same
    exact rest
  | right other _ ih => exact .right other (ih same)
  | @shared block _ _ ends rest ih =>
    cases block with
    | nil => exact ih same
    | cons first block =>
      -- the line was shared; the other side keeps it as a line of its own
      cases same
      have behind : closed block = true := by
        cases block with
        | nil => rfl
        | cons next block => rwa [closed_cons_cons] at ends
      exact .right silent (.shared behind rest)

/-- A line that is no request may be joined with the lines behind it. -/
lemma left_joinCells (silent : startsRequest line = false) (alike : AlikeLines (joinCells ls) ms) :
    AlikeLines (joinCells (line :: ls)) ms := by
  cases ls with
  | nil =>
    rw [joinCells_singleton]
    exact .left silent alike
  | cons next rest =>
    rw [joinCells_cons_cons]
    split
    next cells =>
      obtain ⟨ends, starts⟩ := (Bool.and_eq_true _ _).mp cells
      obtain ⟨first, later, joined⟩ := List.exists_cons_of_ne_nil (joinCells_ne_nil next rest)
      rw [joined] at alike ⊢
      -- what is joined begins a cell, so no request is lost
      have inner : startsRequest first = false :=
        startsRequest_of_startsCell ((startsCell_of_joinCells joined).trans starts)
      exact .left ((startsRequest_bar ends first).trans silent) (alike.drop inner)
    next => exact .left silent alike

/-- Joining cells keeps lines alike. -/
lemma joinCells (alike : AlikeLines ls ms) :
    AlikeLines (Troff.joinCells ls) (Troff.joinCells ms) := by
  induction alike with
  | nil => exact .nil
  | left silent _ ih => exact left_joinCells silent ih
  | right silent _ ih => exact (left_joinCells silent ih.symm).symm
  | shared ends _ ih =>
    -- nothing is joined across the end of the block, so it stays shared
    rw [joinCells_append ends, joinCells_append ends]
    exact .shared (closed_joinCells ends) ih

end AlikeLines

/-- Outputs that differ in lines that are no requests only. -/
def Alike (s t : String) : Prop :=
  AlikeLines (outputLines s) (outputLines t)

/-- Text ends with another character than a brace, so that its last line ends no cell. -/
def endsPlain (cs : List Char) : Bool :=
  cs.getLast?.any (· != '\x7d')

/-- Text is over at the end of such a line: what follows stands on lines of its own. -/
def endsLine (cs : List Char) : Bool :=
  cs.getLast? == some '\n' && endsPlain cs.dropLast

lemma endsPlain_append {s t : String} (ends : endsPlain t.toList = true) :
    endsPlain (s ++ t).toList = true := by
  obtain ⟨c, last, other⟩ := (Option.any_eq_true _ _).mp ends
  rw [endsPlain, String.toList_append, List.getLast?_append, last]
  exact other

lemma endsLine_append {s t : String} (ends : endsLine t.toList = true) :
    endsLine (s ++ t).toList = true := by
  obtain ⟨newline, plain⟩ := (Bool.and_eq_true _ _).mp ends
  obtain ⟨front, whole⟩ := List.getLast?_eq_some_iff.mp (beq_iff_eq.mp newline)
  obtain ⟨c, last, other⟩ := (Option.any_eq_true _ _).mp plain
  rw [whole, List.dropLast_concat] at last
  rw [endsLine, String.toList_append, whole, ← List.append_assoc, List.getLast?_concat,
    List.dropLast_concat, endsPlain, List.getLast?_append, last]
  exact (Bool.and_eq_true _ _).mpr ⟨rfl, other⟩

lemma endsLine_newline {s : String} (ends : endsPlain s.toList = true) :
    endsLine (s ++ "\n").toList = true := by
  have newline : "\n".toList = ['\n'] := rfl
  rw [endsLine, String.toList_append, newline, List.getLast?_concat, List.dropLast_concat, ends]
  rfl

lemma eq_append_of_endsLine {s : String} (ends : endsLine s.toList = true) :
    ∃ t, s = t ++ "\n" ∧ endsPlain t.toList = true := by
  obtain ⟨newline, plain⟩ := (Bool.and_eq_true _ _).mp ends
  obtain ⟨front, whole⟩ := List.getLast?_eq_some_iff.mp (beq_iff_eq.mp newline)
  rw [whole, List.dropLast_concat] at plain
  refine ⟨String.ofList front, ?_, by rwa [String.toList_ofList]⟩
  rw [← String.toList_inj, String.toList_append, String.toList_ofList]
  exact whole

/-- Joined lines end with the last one. -/
lemma suffix_intercalate {line : List Char} {lines : List (List Char)}
    (last : line ∈ lines.getLast?) : line <:+ ['\n'].intercalate lines := by
  induction lines with
  | nil => cases last
  | cons first rest ih =>
    cases rest with
    | nil =>
      cases last
      exact (List.intercalate_singleton ..).symm ▸ List.suffix_refl _
    | cons next rest =>
      rw [List.getLast?_cons_cons] at last
      rw [List.intercalate_cons_cons]
      exact (ih last).trans (List.suffix_append _ _)

/-- The last line of an output that ends with another character than a brace ends no cell. -/
lemma closed_outputLines {s : String} (ends : endsPlain s.toList = true) :
    closed (outputLines s) = true := by
  rw [closed, Bool.not_eq_true', ← Bool.not_eq_true, Option.any_eq_true]
  rintro ⟨line, last, cell⟩
  have suffix : line <:+ s.toList := by
    simpa [outputLines, List.intercalate_splitOn] using suffix_intercalate last
  obtain ⟨front, same⟩ := (List.isSuffixOf_iff_suffix.mp cell).trans suffix
  rw [← same, endsPlain, List.getLast?_append] at ends
  cases ends

/-- The lines of a content, of which an empty one has none. -/
def contentLines (content : String) : List (List Char) :=
  if content = "" then [] else outputLines content

/-- A content that is not empty takes lines behind an output. -/
lemma outputLines_behind (s content : String) :
    outputLines (if content = "" then s else s ++ "\n" ++ content) =
      outputLines s ++ contentLines content := by
  unfold contentLines
  split
  · rw [List.append_nil]
  · exact outputLines_append s content

lemma outputLines_before (content s : String) :
    outputLines ((if content = "" then "" else content ++ "\n") ++ s) =
      contentLines content ++ outputLines s := by
  unfold contentLines
  split
  · rw [String.empty_append, List.nil_append]
  · exact outputLines_append content s

namespace Alike

variable {s t s' t' : String}

lemma requests_eq (alike : Alike s t) : requests s = requests t :=
  AlikeLines.requests_eq alike

lemma line (alike : Alike s t) (alike' : Alike s' t') :
    Alike (s ++ "\n" ++ s') (t ++ "\n" ++ t') := by
  rw [Alike, outputLines_append, outputLines_append]
  exact alike.append alike'

lemma escapeLines (s t : String) : Alike (Troff.escapeLines s) (Troff.escapeLines t) :=
  .of_silent (fun _ => not_startsRequest_of_mem_escapeLines)
    fun _ => not_startsRequest_of_mem_escapeLines

/-- What ends no cell is alike to itself. -/
lemma refl (ends : endsPlain s.toList = true) : Alike s s := by
  have whole := AlikeLines.shared (closed_outputLines ends) .nil
  rwa [List.append_nil] at whole

/-- The same lines before alike outputs. -/
lemma behind {p : String} (ends : endsLine p.toList = true) (alike : Alike s t) :
    Alike (p ++ s) (p ++ t) := by
  obtain ⟨q, rfl, plain⟩ := eq_append_of_endsLine ends
  exact (refl plain).line alike

/-- The same lines behind alike outputs. -/
lemma before {p : String} (starts : p.toList.head? = some '\n')
    (behind : Alike (String.ofList p.toList.tail) (String.ofList p.toList.tail))
    (alike : Alike s t) : Alike (s ++ p) (t ++ p) := by
  obtain ⟨rest, same⟩ := List.head?_eq_some_iff.mp starts
  have split : p = "\n" ++ String.ofList p.toList.tail := by
    rw [← String.toList_inj, String.toList_append, String.toList_ofList, same]
    simp
  rw [split, ← String.append_assoc, ← String.append_assoc]
  exact alike.line behind

/-- Alike contents hold alike lines, also where one of them is empty. -/
lemma contentLines (alike : Alike s t) :
    AlikeLines (Troff.contentLines s) (Troff.contentLines t) := by
  have empty : startsRequest [] = false := rfl
  unfold Troff.contentLines
  split <;> split
  next => exact .nil
  next none _ =>
    subst none
    exact AlikeLines.drop empty alike
  next _ none =>
    subst none
    exact (AlikeLines.drop empty alike.symm).symm
  next => exact alike

/-- Contents behind alike outputs. -/
lemma behind_content {c d : String} (alike : Alike s t) (content : Alike c d) :
    Alike (if c = "" then s else s ++ "\n" ++ c) (if d = "" then t else t ++ "\n" ++ d) := by
  rw [Alike, outputLines_behind, outputLines_behind]
  exact alike.append content.contentLines

lemma before_content {c d : String} (content : Alike c d) (alike : Alike s t) :
    Alike ((if c = "" then "" else c ++ "\n") ++ s) ((if d = "" then "" else d ++ "\n") ++ t) := by
  rw [Alike, outputLines_before, outputLines_before]
  exact content.contentLines.append alike

lemma tableRow (alike : Alike s t) : Alike (ManPage.tableRow s) (ManPage.tableRow t) := by
  rw [Alike, outputLines_tableRow, outputLines_tableRow]
  exact alike.joinCells

lemma join {outputs outputs' : List String} (each : List.Forall₂ Alike outputs outputs') :
    Alike (Text.join "\n" outputs) (Text.join "\n" outputs') := by
  induction each with
  | nil => exact (.left rfl (.right rfl .nil) : AlikeLines [[]] [[]])
  | @cons output output' rest rest' alike each ih =>
    cases each with
    | nil => exact alike
    | cons _ _ => exact alike.line ih

end Alike

end Troff

end Quire
