import Quire.Node.Body
import Quire.Node.Kind
import Quire.Text.Case
import Quire.Text.Replace
import Quire.Troff.Escape

/-!
# Man pages

The rendering of each kind of nodes as troff source with the man macros.
-/

namespace Quire.ManPage

open Troff (escape escapeLines)

/-- The lines with a block's title in bold. -/
def titleLines (node : Node) : String :=
  match node.title with
  | some title => ".sp\n.B " ++ escape title ++ "\n.br\n"
  | none => ""

/-- The page around its content. -/
def document (node : Node) (content : String) : String :=
  let date :=
    match node.attr "date" with
    | some date => " \"" ++ escape date ++ "\""
    | none => ""
  "'\\\" t\n.TH \"" ++ escape (Text.upper (node.title.getD "")) ++ "\" \"" ++
    escape ((node.attr "manvolnum").getD "1") ++ "\"" ++ date ++
    "\n.ie \\n(.g .ds Aq \\(aq\n.el       .ds Aq '\n.nh\n.ad l\n" ++ content

/-- A section; only one of the first level has its title in capitals. -/
def sect (node : Node) (content : String) : String :=
  let title := node.title.getD ""
  let heading :=
    if node.level = 1 then ".SH \"" ++ escape (Text.upper title) ++ "\""
    else ".SS \"" ++ escape title ++ "\""
  heading ++ "\n" ++ content

/-- A block of verbatim text. -/
def verbatim (node : Node) : String :=
  titleLines node ++ ".sp\n.if n .RS 4\n.nf\n.fam C\n" ++ escapeLines (node.text.getD "") ++
    "\n.fam\n.fi\n.if n .RE"

/-- An item of a list behind its marker. -/
def listItem (node : Node) (content : String) : String :=
  let marker :=
    match node.attr "marker" with
    | some marker => "\"" ++ escape marker ++ "\" 4"
    | none => "\\(bu 2"
  let text :=
    match node.text with
    | some text => escapeLines text ++ "\n"
    | none => ""
  ".sp\n.RS 4\n.IP " ++ marker ++ "\n" ++ text ++
    (if content = "" then "" else content ++ "\n") ++ ".RE"

/-- An admonition, labelled with its name in capitals. -/
def admonition (node : Node) (content : String) : String :=
  ".if n .sp\n.RS 4\n.B " ++ escape (Text.upper ((node.attr "name").getD "note")) ++ "\n.br\n" ++
    node.body escapeLines content ++ "\n.RE"

/-- A quotation, with its source where it is given. -/
def quote (node : Node) (content : String) : String :=
  let source :=
    match node.attr "attribution" with
    | some attribution => "\n.RS 5\n.ll -.10i\n\\(em " ++ escape attribution ++ "\n.RE\n.ll"
    | none => ""
  ".RS 3\n.ll -.6i\n" ++ node.body escapeLines content ++ "\n.br\n.RE\n.ll" ++ source

/-- The number of columns of a table: as many as its first row has cells, but at least one. -/
def columns (node : Node) : Nat :=
  match node.children with
  | row :: _ => max row.children.length 1
  | [] => 1

/-- A table around its rows. -/
def table (node : Node) (content : String) : String :=
  titleLines node ++ ".TS\nallbox tab(|);\n" ++
    Text.join " " (List.replicate (columns node) "lt") ++ ".\n" ++ content ++ "\n.TE\n.sp"

/-- A row of a table. Its cells stand on lines of their own; where one ends and the next begins, a
bar takes the place of the line end. -/
def tableRow (content : String) : String :=
  Text.replace "T\x7d\nT\x7b" "T\x7d|T\x7b" content

/-- A cell of a table as a text block. -/
def tableCell (node : Node) (content : String) : String :=
  "T\x7b\n" ++ node.body escapeLines content ++ "\nT\x7d"

/-- The text that stands for an image. -/
def image (node : Node) : String :=
  ".sp\n[" ++ escape (((node.attr "alt").or (node.attr "target")).getD "") ++ "]"

/-- A node of the given kind around its converted children. -/
def render (kind : Kind) (node : Node) (content : String) : String :=
  match kind with
  | .document => document node content
  | .preamble => content
  | .sect => sect node content
  | .paragraph => titleLines node ++ ".sp\n" ++ node.body escapeLines content
  | .listing => verbatim node
  | .literal => verbatim node
  | .admonition => admonition node content
  | .quote => quote node content
  | .unorderedList => titleLines node ++ content
  | .orderedList => titleLines node ++ content
  | .listItem => listItem node content
  | .table => table node content
  | .tableRow => tableRow content
  | .tableCell => tableCell node content
  | .image => image node
  | .thematicBreak => ".sp\n.ce\n\\l'\\n(.lu*25u/100u\\(ap'"
  | .pageBreak => ".bp"
  | .text => node.body escapeLines content

end Quire.ManPage
