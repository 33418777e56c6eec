import Quire.Files.Path
import Quire.Markup.Escape
import Quire.Node.Body
import Quire.Node.Kind
import Quire.Text.Case

/-!
# HTML5

The rendering of each kind of nodes as HTML5.
-/

namespace Quire.Html5

open Markup (escape)

/-- The id attribute of an element, with the space before it. -/
def idAttribute (node : Node) : String :=
  match node.id with
  | some id => " id=\"" ++ escape id ++ "\""
  | none => ""

/-- The line with a block's title. -/
def titleLine (node : Node) : String :=
  match node.title with
  | some title => "<div class=\"title\">" ++ escape title ++ "</div>\n"
  | none => ""

/-- The document around its content. -/
def document (node : Node) (content : String) : String :=
  let titled (tag : String) :=
    match node.title with
    | some title => "<" ++ tag ++ ">" ++ escape title ++ "</" ++ tag ++ ">\n"
    | none => ""
  "<!DOCTYPE html>\n<html>\n<head>\n<meta charset=\"UTF-8\">\n" ++ titled "title" ++
    "</head>\n<body>\n" ++ titled "h1" ++ content ++ "\n</body>\n</html>"

/-- A section, with a heading one level below its own. -/
def sect (node : Node) (content : String) : String :=
  let heading := "h" ++ Decimal.text (node.level + 1)
  "<div class=\"sect" ++ Decimal.text node.level ++ "\">\n<" ++ heading ++ idAttribute node ++
    ">" ++ escape (node.title.getD "") ++ "</" ++ heading ++ ">\n" ++ content ++ "\n</div>"

/-- A block of verbatim text, as code where it has a language. -/
def verbatim (blockClass : String) (node : Node) : String :=
  let text := escape (node.text.getD "")
  let pre :=
    match node.attr "language" with
    | some language =>
      "<pre class=\"highlight\"><code class=\"language-" ++ escape language ++ "\" data-lang=\"" ++
        escape language ++ "\">" ++ text ++ "</code></pre>"
    | none => "<pre>" ++ text ++ "</pre>"
  "<div" ++ idAttribute node ++ " class=\"" ++ blockClass ++ "\">\n" ++ titleLine node ++
    "<div class=\"content\">\n" ++ pre ++ "\n</div>\n</div>"

/-- An admonition, labelled with its name. -/
def admonition (node : Node) (content : String) : String :=
  let name := (node.attr "name").getD "note"
  "<div" ++ idAttribute node ++ " class=\"admonitionblock " ++ escape name ++
    "\">\n<table>\n<tr>\n<td class=\"icon\">\n<div class=\"title\">" ++
    escape (Text.capitalize name) ++
    "</div>\n</td>\n<td class=\"content\">\n" ++ titleLine node ++ node.body escape content ++
    "\n</td>\n</tr>\n</table>\n</div>"

/-- A quotation, with its source where it is given. -/
def quote (node : Node) (content : String) : String :=
  let source :=
    match node.attr "attribution" with
    | some attribution =>
      "\n<div class=\"attribution\">\n&#8212; " ++ escape attribution ++ "\n</div>"
    | none => ""
  "<div" ++ idAttribute node ++ " class=\"quoteblock\">\n" ++ titleLine node ++
    "<blockquote>\n" ++ node.body escape content ++ "\n</blockquote>" ++ source ++ "\n</div>"

/-- A list around its items. -/
def list (blockClass tag attributes : String) (node : Node) (content : String) : String :=
  "<div" ++ idAttribute node ++ " class=\"" ++ blockClass ++ "\">\n" ++ titleLine node ++
    "<" ++ tag ++ attributes ++ ">\n" ++ content ++ "\n</" ++ tag ++ ">\n</div>"

/-- An item of a list. -/
def listItem (node : Node) (content : String) : String :=
  let text :=
    match node.text with
    | some text => "<p>" ++ escape text ++ "</p>\n"
    | none => ""
  "<li>\n" ++ text ++ (if content = "" then "" else content ++ "\n") ++ "</li>"

/-- A table around its rows. -/
def table (node : Node) (content : String) : String :=
  let caption :=
    match node.title with
    | some title => "<caption class=\"title\">" ++ escape title ++ "</caption>\n"
    | none => ""
  "<table" ++ idAttribute node ++ " class=\"tableblock frame-all grid-all stretch\">\n" ++
    caption ++ "<tbody>\n" ++ content ++ "\n</tbody>\n</table>"

/-- A cell of a table; a header cell has the attribute as `true` or as an empty text. -/
def tableCell (node : Node) (content : String) : String :=
  let header := node.attr "header"
  let tag := if header = some "true" ∨ header = some "" then "th" else "td"
  "<" ++ tag ++ " class=\"tableblock halign-left valign-top\">" ++ node.body escape content ++
    "</" ++ tag ++ ">"

/-- The text that stands for an image by default: the name of its file without extension, with
spaces for hyphens and underscores. -/
def defaultAlt (target : String) : String :=
  match Path.stem? target with
  | some stem =>
    String.ofList (stem.toList.map fun c => if c = '-' ∨ c = '_' then ' ' else c)
  | none => ""

/-- An image. -/
def image (node : Node) : String :=
  let target := (node.attr "target").getD ""
  let alt := (node.attr "alt").getD (defaultAlt target)
  "<div" ++ idAttribute node ++
    " class=\"imageblock\">\n<div class=\"content\">\n<img src=\"" ++ escape target ++
    "\" alt=\"" ++ escape alt ++ "\">\n</div>\n" ++ titleLine node ++ "</div>"

/-- A paragraph. -/
def paragraph (node : Node) (content : String) : String :=
  "<div" ++ idAttribute node ++ " class=\"paragraph\">\n" ++ titleLine node ++ "<p>" ++
    node.body escape content ++ "</p>\n</div>"

/-- A node of the given kind around its converted children. -/
def render (kind : Kind) (node : Node) (content : String) : String :=
  match kind with
  | .document => document node content
  | .preamble =>
    "<div id=\"preamble\">\n<div class=\"sectionbody\">\n" ++ content ++ "\n</div>\n</div>"
  | .sect => sect node content
  | .paragraph => paragraph node content
  | .listing => verbatim "listingblock" node
  | .literal => verbatim "literalblock" node
  | .admonition => admonition node content
  | .quote => quote node content
  | .unorderedList => list "ulist" "ul" "" node content
  | .orderedList => list "olist arabic" "ol" " class=\"arabic\"" node content
  | .listItem => listItem node content
  | .table => table node content
  | .tableRow => "<tr>\n" ++ content ++ "\n</tr>"
  | .tableCell => tableCell node content
  | .image => image node
  | .thematicBreak => "<hr>"
  | .pageBreak => "<div style=\"page-break-after: always;\"></div>"
  | .text => node.body escape content

end Quire.Html5
