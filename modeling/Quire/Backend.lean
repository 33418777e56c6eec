/-!
# Backends

The output formats by name. Five names are known, two of them under an alias; any other name is a
backend of its own.
-/

namespace Quire

/-- An output format. -/
inductive Backend where
  | html5
  | docbook5
  | docbook45
  | manpage
  | revealjs
  | custom (name : String)
deriving DecidableEq

namespace Backend

/-- The canonical name. -/
def name : Backend → String
  | html5 => "html5"
  | docbook5 => "docbook5"
  | docbook45 => "docbook45"
  | manpage => "manpage"
  | revealjs => "revealjs"
  | custom name => name

/-- The backend of a canonical name or alias. -/
def ofName (s : String) : Backend :=
  if s = "html5" ∨ s = "html" then html5
  else if s = "docbook5" ∨ s = "docbook" then docbook5
  else if s = "docbook45" then docbook45
  else if s = "manpage" then manpage
  else if s = "revealjs" then revealjs
  else custom s

/-- The backends with a converter of their own. -/
def builtin : List Backend :=
  [html5, docbook5, docbook45, manpage]

/-- Whether a backend has a converter of its own. -/
def isBuiltin : Backend → Bool
  | html5 | docbook5 | docbook45 | manpage => true
  | revealjs | custom _ => false

end Backend

end Quire
