import Mathlib.Data.List.Forall2
import Quire.Converter.Builtin
import Quire.Proofs.Troff.Requests

/-!
# Rows of a table

The cells of a row stand on lines of their own, and joining them is replacing a text in what has
been rendered before. A break between cells cannot lie across the border of a cell, so the row is
its cells with bars between them, where the breaks inside of bodies are replaced as well.

* `Text.replaceFrom_eq_self_iff`: when replacing leaves a text as it is.
* `Text.replaceFrom_append`: replacing in a text of two parts.
* `Troff.barred_cells`: replacing in a list of cells is replacing in their bodies.
* `ManPage.row_joins_cells`: rows that are their cells with bars between them.
-/

namespace Quire

namespace Text

variable {pattern replacement cs front back : List Char} {skip : Nat}

/-- Replacing by a text of the same length keeps the length. -/
lemma length_replaceFrom (same : replacement.length = pattern.length) (some : pattern ≠ []) :
    (replaceFrom pattern replacement skip cs).length = cs.length - skip := by
  have positive := List.length_pos_iff.mpr some
  induction cs generalizing skip with
  | nil => simp [replaceFrom]
  | cons c cs ih =>
    cases skip with
    | succ skip => rw [replaceFrom, ih, List.length_cons, Nat.add_sub_add_right]
    | zero =>
      rw [replaceFrom]
      split
      next here =>
        have fits := (List.isPrefixOf_iff_prefix.mp here).length_le
        rw [List.length_cons] at fits
        rw [List.length_append, ih, same, List.length_cons]
        omega
      next => rw [List.length_cons, ih, List.length_cons, Nat.sub_zero, Nat.sub_zero]

/-- Replacing by another text of the same length changes a text exactly if there is something to be
replaced. -/
lemma replaceFrom_eq_self_iff (same : replacement.length = pattern.length)
    (other : replacement ≠ pattern) :
    replaceFrom pattern replacement 0 cs = cs ↔ ¬pattern <:+: cs := by
  have some : pattern ≠ [] := by
    rintro rfl
    exact other (List.length_eq_zero_iff.mp same)
  induction cs with
  | nil => exact iff_of_true rfl fun inside => some (List.infix_nil.mp inside)
  | cons c cs ih =>
    rw [List.infix_cons_iff, replaceFrom]
    split
    next here =>
      have starts := List.isPrefixOf_iff_prefix.mp here
      refine iff_of_false ?_ (not_not_intro (.inl starts))
      intro kept
      -- both texts would be what the text starts with
      have begun : replacement <+: c :: cs := ⟨_, kept⟩
      have front := List.prefix_of_prefix_length_le begun starts (Nat.le_of_eq same)
      exact other (front.eq_of_length same)
    next there =>
      rw [List.isPrefixOf_iff_prefix] at there
      rw [List.cons_inj_right, not_or, and_iff_right there]
      exact ih

/-- Replacing in two parts one after the other, if nothing that is replaced lies in both. -/
lemma replaceFrom_append
    (apart : ∀ tail, tail ≠ [] → pattern <+: tail ++ back → pattern <+: tail)
    (inside : skip ≤ front.length) :
    replaceFrom pattern replacement skip (front ++ back) =
      replaceFrom pattern replacement skip front ++ replaceFrom pattern replacement 0 back := by
  induction front generalizing skip with
  | nil =>
    cases Nat.le_zero.mp inside
    rfl
  | cons c front ih =>
    cases skip with
    | succ skip => exact ih (Nat.le_of_succ_le_succ inside)
    | zero =>
      rw [List.cons_append, replaceFrom, replaceFrom]
      by_cases here : pattern <+: c :: front
      · have fits := here.length_le
        rw [List.length_cons] at fits
        have further : pattern <+: c :: (front ++ back) := here.trans (List.prefix_append ..)
        rw [if_pos (List.isPrefixOf_iff_prefix.mpr further),
          if_pos (List.isPrefixOf_iff_prefix.mpr here), List.append_assoc, ih (by omega)]
      · have there : ¬pattern <+: c :: (front ++ back) :=
          fun starts => here (apart (c :: front) (List.cons_ne_nil _ _) starts)
        rw [if_neg (mt List.isPrefixOf_iff_prefix.mp there),
          if_neg (mt List.isPrefixOf_iff_prefix.mp here), List.cons_append, ih (Nat.zero_le _)]

end Text

namespace Troff

/-- A text block around a body. -/
def cellBlock (body : List Char) : List Char :=
  'T' :: '\x7b' :: '\n' :: (body ++ ['\n', 'T', '\x7d'])

/-- A text with the breaks between cells replaced by bars. -/
def barred (cs : List Char) : List Char :=
  Text.replaceFrom cellBreak cellBar 0 cs

lemma barred_eq_self_iff {cs : List Char} : barred cs = cs ↔ ¬cellBreak <:+: cs :=
  Text.replaceFrom_eq_self_iff rfl (by decide)

lemma length_barred (cs : List Char) : (barred cs).length = cs.length :=
  Text.length_replaceFrom rfl (by decide)

/-- No break between cells starts in a body and ends behind it. -/
lemma barred_body (body rest : List Char) :
    barred (body ++ '\n' :: 'T' :: '\x7d' :: rest) =
      barred body ++ barred ('\n' :: 'T' :: '\x7d' :: rest) := by
  apply Text.replaceFrom_append _ (Nat.zero_le _)
  intro tail some starts
  match tail with
  | [] => exact (some rfl).elim
  | [_] | [_, _] | [_, _, _] | [_, _, _, _] => simp [cellBreak, List.cons_prefix_cons] at starts
  | _ :: _ :: _ :: _ :: _ :: _ => simpa [cellBreak, List.cons_prefix_cons] using starts

lemma barred_cellBlock (body rest : List Char) :
    barred (cellBlock body ++ rest) =
      'T' :: '\x7b' :: '\n' :: (barred body ++ barred ('\n' :: 'T' :: '\x7d' :: rest)) := by
  have opened (cs : List Char) :
      barred ('T' :: '\x7b' :: '\n' :: cs) = 'T' :: '\x7b' :: '\n' :: barred cs := rfl
  rw [cellBlock, List.cons_append, List.cons_append, List.cons_append, opened, List.append_assoc]
  exact congrArg ('T' :: '\x7b' :: '\n' :: ·) (barred_body body rest)

/-- A row of cells has bars between the cells, and in their bodies in place of breaks. -/
lemma barred_cells (bodies : List (List Char)) :
    barred (['\n'].intercalate (bodies.map cellBlock)) =
      ['|'].intercalate (bodies.map fun body => cellBlock (barred body)) := by
  induction bodies with
  | nil => rfl
  | cons body rest ih =>
    cases rest with
    | nil =>
      rw [List.map_singleton, List.map_singleton, List.intercalate_singleton,
        List.intercalate_singleton, ← List.append_nil (cellBlock body), barred_cellBlock]
      rfl
    | cons next rest =>
      -- the next cell opens behind the line end, and both are read as one break
      obtain ⟨later, opens⟩ : ∃ later, ['\n'].intercalate ((next :: rest).map cellBlock) =
          'T' :: '\x7b' :: later := by
        cases rest with
        | nil => exact ⟨_, List.intercalate_singleton ..⟩
        | cons third rest => exact ⟨_, List.intercalate_cons_cons ..⟩
      have broken (later : List Char) :
          barred ('\n' :: 'T' :: '\x7d' :: '\n' :: 'T' :: '\x7b' :: later) =
            '\n' :: 'T' :: '\x7d' :: '|' :: barred ('T' :: '\x7b' :: later) := rfl
      have lines : ['\n'].intercalate ((body :: next :: rest).map cellBlock) =
          cellBlock body ++ '\n' :: 'T' :: '\x7b' :: later := by
        rw [← opens, List.map_cons, List.map_cons, List.intercalate_cons_cons, List.append_assoc]
        rfl
      have bars :
          ['|'].intercalate ((body :: next :: rest).map fun body => cellBlock (barred body)) =
            cellBlock (barred body) ++ '|' :: barred ('T' :: '\x7b' :: later) := by
        rw [← opens, ih, List.map_cons, List.map_cons, List.intercalate_cons_cons,
          List.append_assoc]
        rfl
      rw [lines, bars, barred_cellBlock, broken, cellBlock, List.cons_append, List.cons_append,
        List.cons_append, List.append_assoc]
      rfl

lemma cellBlock_inj {body body' : List Char} : cellBlock body = cellBlock body' ↔ body = body' := by
  simp [cellBlock]

/-- As replacing keeps the lengths of the bodies, the cells in a row are the same one by one. -/
lemma bars_eq_iff (bodies : List (List Char)) :
    ['|'].intercalate (bodies.map fun body => cellBlock (barred body)) =
        ['|'].intercalate (bodies.map cellBlock) ↔
      ∀ body ∈ bodies, barred body = body := by
  induction bodies with
  | nil => exact iff_of_true rfl nofun
  | cons body rest ih =>
    rw [List.forall_mem_cons, ← ih]
    cases rest with
    | nil =>
      rw [List.map_singleton, List.map_singleton, List.intercalate_singleton,
        List.intercalate_singleton, cellBlock_inj]
      exact (and_iff_left rfl).symm
    | cons next rest =>
      have length : (cellBlock (barred body)).length = (cellBlock body).length := by
        simp [cellBlock, length_barred]
      rw [List.map_cons, List.map_cons, List.map_cons, List.map_cons, List.intercalate_cons_cons,
        List.intercalate_cons_cons, List.append_assoc, List.append_assoc]
      constructor
      · intro same
        obtain ⟨cell, cells⟩ := List.append_inj same length
        exact ⟨cellBlock_inj.mp cell, List.append_cancel_left cells⟩
      · rintro ⟨kept, cells⟩
        rw [kept, cells]

end Troff

namespace ManPage

open Troff (escapeLines barred cellBlock cellBreak)

lemma toList_tableRow (content : String) :
    (tableRow content).toList = barred content.toList := by
  rw [tableRow, Text.replace, String.toList_ofList]
  rfl

lemma toList_tableCell (node : Node) (content : String) :
    (tableCell node content).toList = cellBlock (node.body escapeLines content).toList := by
  simp [tableCell, cellBlock, String.toList_append]

/-- A row is its cells with bars between them if no body holds a break between cells, and only
then. -/
lemma tableRow_eq_iff (cells : List Task) :
    let outputs := cells.map fun cell => tableCell cell.node cell.content
    tableRow (Text.join "\n" outputs) = Text.join "|" outputs ↔
      ∀ cell ∈ cells, ¬cellBreak <:+: (cell.node.body escapeLines cell.content).toList := by
  intro outputs
  have blocks : outputs.map String.toList =
      (cells.map fun cell => (cell.node.body escapeLines cell.content).toList).map cellBlock := by
    rw [List.map_map, List.map_map]
    exact List.map_congr_left fun cell _ => toList_tableCell ..
  rw [← String.toList_inj, toList_tableRow, Text.toList_join, Text.toList_join, blocks]
  show barred (['\n'].intercalate _) = ['|'].intercalate _ ↔ _
  rw [Troff.barred_cells, Troff.bars_eq_iff, List.forall_mem_map]
  exact forall₂_congr fun cell _ => Troff.barred_eq_self_iff

/-- Cells are converted to text blocks around their bodies, and the row around these cells, each on
lines of its own, is converted to the cells with bars between them exactly if no body holds a break
between cells. -/
theorem row_joins_cells {μ : Type} {cells : List Task}
    (named : ∀ cell ∈ cells, cell.name = "table_cell") (files : FileTree) (memory : μ) :
    ∃ outputs : List String,
      List.Forall₂ (fun cell output =>
        (Builtin.manPage.converter.convert files cell).run memory = (.ok output, memory) ∧
          output = "T\x7b\n" ++ cell.node.body escapeLines cell.content ++ "\nT\x7d")
        cells outputs ∧
      ∀ row : Task, row.name = "table_row" → row.content = Text.join "\n" outputs →
        ((Builtin.manPage.converter.convert files row).run memory =
            (.ok (Text.join "|" outputs), memory) ↔
          ∀ cell ∈ cells, ¬cellBreak <:+: (cell.node.body escapeLines cell.content).toList) := by
  refine ⟨cells.map fun cell => tableCell cell.node cell.content, ?_, ?_⟩
  · rw [List.forall₂_map_right_iff, List.forall₂_same]
    intro cell listed
    refine ⟨?_, rfl⟩
    have output : Builtin.manPage.output cell = .ok (tableCell cell.node cell.content) := by
      rw [Builtin.output, named cell listed]
      rfl
    exact congrArg (·, memory) output
  · intro row rowNamed content
    have output : Builtin.manPage.output row = .ok (tableRow row.content) := by
      rw [Builtin.output, rowNamed]
      rfl
    have converted : (Builtin.manPage.converter.convert files row).run memory =
        (.ok (tableRow row.content), memory) := congrArg (·, memory) output
    rw [converted, content, Prod.mk.injEq, Except.ok.injEq, and_iff_left rfl]
    exact tableRow_eq_iff cells

/-- A mark of a cell in a body does no harm by itself; a text and a content with the two marks of a
break do. -/
theorem row_joins_cells_marked :
    let closing : Task := ⟨(Node.named "table_cell").withText "T\x7d", "", none⟩
    let opening : Task := ⟨.named "paragraph", "T\x7b", some "table_cell"⟩
    let both : Task := ⟨(Node.named "table_cell").withText "T\x7d", "T\x7b", none⟩
    let row (content : String) : Task := ⟨.named "table_row", content, none⟩
    let convert (task : Task) := (Builtin.manPage.converter.convert (.rooted []) task).run ()
    (∀ cell ∈ [closing, opening], cell.name = "table_cell") ∧ both.name = "table_cell" ∧
    convert (row "T\x7b\nT\x7d\nT\x7d\nT\x7b\nT\x7b\nT\x7d") =
      (.ok "T\x7b\nT\x7d\nT\x7d|T\x7b\nT\x7b\nT\x7d", ()) ∧
    convert (row "T\x7b\nT\x7d\nT\x7b\nT\x7d") ≠ (.ok "T\x7b\nT\x7d\nT\x7b\nT\x7d", ()) := by
  intro closing opening both row convert
  have named : ∀ cell ∈ [closing, opening], cell.name = "table_cell" := by decide
  have namedBoth : ∀ cell ∈ [both], cell.name = "table_cell" := by decide
  obtain ⟨outputs, converted, joins⟩ := row_joins_cells named (.rooted []) ()
  obtain ⟨outputs', converted', joins'⟩ := row_joins_cells namedBoth (.rooted []) ()
  cases converted with
  | cons first converted =>
    cases converted with
    | cons second converted =>
      cases converted
      cases converted' with
      | cons third converted' =>
        cases converted'
        obtain ⟨-, rfl⟩ := first
        obtain ⟨-, rfl⟩ := second
        obtain ⟨-, rfl⟩ := third
        refine ⟨named, rfl, (joins (row _) rfl (by decide)).mpr (by decide), ?_⟩
        intro whole
        exact (joins' (row _) rfl (by decide)).mp whole both List.mem_cons_self (by decide)

end ManPage

end Quire
