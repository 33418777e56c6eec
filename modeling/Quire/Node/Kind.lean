/-!
# Kinds of nodes

The kinds of nodes that every built-in converter renders.
-/

namespace Quire

/-- A kind of nodes with a rendering of its own. -/
inductive Kind where
  | document
  | preamble
  | sect
  | paragraph
  | listing
  | literal
  | admonition
  | quote
  | unorderedList
  | orderedList
  | listItem
  | table
  | tableRow
  | tableCell
  | image
  | thematicBreak
  | pageBreak
  | text
deriving DecidableEq

namespace Kind

/-- The name that nodes of a kind bear. -/
def name : Kind → String
  | document => "document"
  | preamble => "preamble"
  | sect => "section"
  | paragraph => "paragraph"
  | listing => "listing"
  | literal => "literal"
  | admonition => "admonition"
  | quote => "quote"
  | unorderedList => "ulist"
  | orderedList => "olist"
  | listItem => "list_item"
  | table => "table"
  | tableRow => "table_row"
  | tableCell => "table_cell"
  | image => "image"
  | thematicBreak => "thematic_break"
  | pageBreak => "page_break"
  | text => "text"

/-- The names of all kinds. -/
def names : List String :=
  ["document", "preamble", "section", "paragraph", "listing", "literal", "admonition", "quote",
    "ulist", "olist", "list_item", "table", "table_row", "table_cell", "image", "thematic_break",
    "page_break", "text"]

/-- The kind that bears a name. -/
def ofName? : String → Option Kind
  | "document" => some document
  | "preamble" => some preamble
  | "section" => some sect
  | "paragraph" => some paragraph
  | "listing" => some listing
  | "literal" => some literal
  | "admonition" => some admonition
  | "quote" => some quote
  | "ulist" => some unorderedList
  | "olist" => some orderedList
  | "list_item" => some listItem
  | "table" => some table
  | "table_row" => some tableRow
  | "table_cell" => some tableCell
  | "image" => some image
  | "thematic_break" => some thematicBreak
  | "page_break" => some pageBreak
  | "text" => some text
  | _ => none

/-- Whether some kind bears a name. -/
def isKnown (s : String) : Bool :=
  names.contains s

/-- Each kind is found under its name. -/
@[simp]
theorem ofName?_name (kind : Kind) : ofName? kind.name = some kind := by
  cases kind <;> rfl

/-- A kind is found under no other name. -/
theorem name_of_ofName? {s : String} {kind : Kind} (found : ofName? s = some kind) :
    kind.name = s := by
  unfold ofName? at found
  split at found <;> cases found <;> rfl

/-- The listed names are those under which a kind is found. -/
theorem isKnown_eq_isSome (s : String) : isKnown s = (ofName? s).isSome := by
  cases found : ofName? s with
  | some kind =>
    have named : kind.name = s := name_of_ofName? found
    subst named
    cases kind <;> rfl
  | none =>
    apply Bool.eq_false_iff.2
    intro known
    have listed : s ∈ names := by simpa [isKnown] using known
    simp only [names, List.mem_cons, List.not_mem_nil, or_false] at listed
    rcases listed with rfl | rfl | rfl | rfl | rfl | rfl | rfl | rfl | rfl | rfl | rfl | rfl | rfl |
      rfl | rfl | rfl | rfl | rfl <;> cases found

/-- Each listed name is that of a kind. -/
theorem exists_ofName? {s : String} (listed : s ∈ names) : ∃ kind, ofName? s = some kind := by
  rw [← Option.isSome_iff_exists, ← isKnown_eq_isSome]
  exact List.contains_iff_mem.mpr listed

end Kind

end Quire
