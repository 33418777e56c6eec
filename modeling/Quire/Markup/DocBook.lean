import Quire.Markup.Escape
import Quire.Node.Body
import Quire.Node.Kind

/-!
# DocBook

The rendering of each kind of nodes as DocBook 5 or 4.5. Outside the document element the two
versions differ in nothing but the name of the id attribute.
-/

namespace Quire.DocBook

open Markup (escape)

/-- A version of DocBook. -/
inductive Version where
  | v5
  | v45
deriving DecidableEq

/-- The name of the id attribute. -/
def Version.idName : Version → String
  | .v5 => "xml:id"
  | .v45 => "id"

/-- The id attribute of an element, with the space before it. -/
def idAttribute (version : Version) (node : Node) : String :=
  match node.id with
  | some id => " " ++ version.idName ++ "=\"" ++ escape id ++ "\""
  | none => ""

/-- The title element, with a line end. -/
def titleElement (node : Node) : String :=
  match node.title with
  | some title => "<title>" ++ escape title ++ "</title>\n"
  | none => ""

/-- The start of a document, with its language. -/
def prologue : Version → String → String
  | .v5, language =>
    "<article xmlns=\"http://docbook.org/ns/docbook\" " ++
      "xmlns:xl=\"http://www.w3.org/1999/xlink\" version=\"5.0\" xml:lang=\"" ++
      escape language ++ "\">\n"
  | .v45, language =>
    "<!DOCTYPE article PUBLIC \"-//OASIS//DTD DocBook XML V4.5//EN\" " ++
      "\"http://www.oasis-open.org/docbook/xml/4.5/docbookx.dtd\">\n" ++
      "<article lang=\"" ++ escape language ++ "\">\n"

/-- The element that holds the title of a document. -/
def infoName : Version → String
  | .v5 => "info"
  | .v45 => "articleinfo"

/-- The document around its content. -/
def document (version : Version) (node : Node) (content : String) : String :=
  let info :=
    match node.title with
    | some title =>
      "<" ++ infoName version ++ ">\n<title>" ++ escape title ++ "</title>\n</" ++
        infoName version ++ ">\n"
    | none => ""
  "<?xml version=\"1.0\" encoding=\"UTF-8\"?>\n" ++
    prologue version ((node.attr "lang").getD "en") ++ info ++ content ++ "\n</article>"

/-- A paragraph, formal if it has a title. -/
def paragraph (node : Node) (content : String) : String :=
  match node.title with
  | some title =>
    "<formalpara>\n<title>" ++ escape title ++ "</title>\n<para>" ++ node.body escape content ++
      "</para>\n</formalpara>"
  | none => "<simpara>" ++ node.body escape content ++ "</simpara>"

/-- A block, inside a formal paragraph if the node has a title. -/
def formal (node : Node) (block : String) : String :=
  match node.title with
  | some title =>
    "<formalpara>\n<title>" ++ escape title ++ "</title>\n<para>\n" ++ block ++
      "\n</para>\n</formalpara>"
  | none => block

/-- A block of source text, as a program where it has a language. -/
def listing (version : Version) (node : Node) : String :=
  let text := escape (node.text.getD "")
  formal node <|
    match node.attr "language" with
    | some language =>
      "<programlisting" ++ idAttribute version node ++ " language=\"" ++ escape language ++
        "\" linenumbering=\"unnumbered\">" ++ text ++ "</programlisting>"
    | none => "<screen" ++ idAttribute version node ++ ">" ++ text ++ "</screen>"

/-- A block of verbatim text. -/
def literal (version : Version) (node : Node) : String :=
  formal node <|
    "<literallayout" ++ idAttribute version node ++ " class=\"monospaced\">" ++
      escape (node.text.getD "") ++ "</literallayout>"

/-- The text and children of a node, as a paragraph if there are no children. -/
def blockBody (node : Node) (content : String) : String :=
  if content = "" then "<simpara>" ++ node.body escape content ++ "</simpara>"
  else node.body escape content

/-- The element of an admonition; one of another name is a note. -/
def admonitionTag (name : String) : String :=
  if name = "tip" ∨ name = "important" ∨ name = "warning" ∨ name = "caution" then name
  else "note"

/-- An admonition. -/
def admonition (version : Version) (node : Node) (content : String) : String :=
  let tag := admonitionTag ((node.attr "name").getD "note")
  "<" ++ tag ++ idAttribute version node ++ ">\n" ++ titleElement node ++
    blockBody node content ++ "\n</" ++ tag ++ ">"

/-- A quotation, with its source where it is given. -/
def quote (version : Version) (node : Node) (content : String) : String :=
  let source :=
    match node.attr "attribution" with
    | some attribution => "<attribution>\n" ++ escape attribution ++ "\n</attribution>\n"
    | none => ""
  "<blockquote" ++ idAttribute version node ++ ">\n" ++ titleElement node ++ source ++
    blockBody node content ++ "\n</blockquote>"

/-- A list around its items. -/
def list (version : Version) (tag attributes : String) (node : Node) (content : String) : String :=
  "<" ++ tag ++ attributes ++ idAttribute version node ++ ">\n" ++ titleElement node ++
    content ++ "\n</" ++ tag ++ ">"

/-- An item of a list. -/
def listItem (node : Node) (content : String) : String :=
  let text :=
    match node.text with
    | some text => "<simpara>" ++ escape text ++ "</simpara>\n"
    | none => ""
  "<listitem>\n" ++ text ++ (if content = "" then "" else content ++ "\n") ++ "</listitem>"

/-- The number of columns of a table: as the attribute says, else as many as its first row has
cells, but at least one. -/
def columns (node : Node) : String :=
  match node.attr "cols" with
  | some cols => cols
  | none =>
    match node.children with
    | row :: _ => Decimal.text (max row.children.length 1)
    | [] => "1"

/-- A table around its rows, informal if it has no title. -/
def table (version : Version) (node : Node) (content : String) : String :=
  let tag := if node.title.isSome then "table" else "informaltable"
  "<" ++ tag ++ idAttribute version node ++ " frame=\"all\" rowsep=\"1\" colsep=\"1\">\n" ++
    titleElement node ++ "<tgroup cols=\"" ++ escape (columns node) ++ "\">\n<tbody>\n" ++
    content ++ "\n</tbody>\n</tgroup>\n</" ++ tag ++ ">"

/-- An image, informal if it has no title. -/
def image (version : Version) (node : Node) : String :=
  let phrase :=
    match node.attr "alt" with
    | some alt => "<textobject><phrase>" ++ escape alt ++ "</phrase></textobject>\n"
    | none => ""
  let media :=
    "<mediaobject>\n<imageobject>\n<imagedata fileref=\"" ++
      escape ((node.attr "target").getD "") ++ "\"/>\n</imageobject>\n" ++ phrase ++
      "</mediaobject>"
  match node.title with
  | some title =>
    "<figure" ++ idAttribute version node ++ ">\n<title>" ++ escape title ++ "</title>\n" ++
      media ++ "\n</figure>"
  | none =>
    "<informalfigure" ++ idAttribute version node ++ ">\n" ++ media ++ "\n</informalfigure>"

/-- A node of the given kind around its converted children. -/
def render (version : Version) (kind : Kind) (node : Node) (content : String) : String :=
  match kind with
  | .document => document version node content
  | .preamble => "<preface>\n<title></title>\n" ++ content ++ "\n</preface>"
  | .sect =>
    "<section" ++ idAttribute version node ++ ">\n" ++ titleElement node ++ content ++
      "\n</section>"
  | .paragraph => paragraph node content
  | .listing => listing version node
  | .literal => literal version node
  | .admonition => admonition version node content
  | .quote => quote version node content
  | .unorderedList => list version "itemizedlist" "" node content
  | .orderedList => list version "orderedlist" " numeration=\"arabic\"" node content
  | .listItem => listItem node content
  | .table => table version node content
  | .tableRow => "<row>\n" ++ content ++ "\n</row>"
  | .tableCell => "<entry>" ++ node.body escape content ++ "</entry>"
  | .image => image version node
  | .thematicBreak => "<simpara><?asciidoc-hr?></simpara>"
  | .pageBreak => "<simpara><?asciidoc-pagebreak?></simpara>"
  | .text => node.body escape content

end Quire.DocBook
