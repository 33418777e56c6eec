import Quire.Node.Json
import Quire.Proofs.Json.Records
import Quire.Proofs.Node.Order
import Quire.Template.Language.Value
import Quire.Template.Layer

/-!
# Nodes as JSON and back

A tree is read back as it was printed, with or without the content of its root, unless arrays and
objects nest deeper than a reader allows. What is absent or empty is not printed and is left as it
is in the draft; each other member fills in its own part of the draft; the content is no part of a
node.

* `Node.written`: the members of a node as they are printed.
* `Node.readsIf_read`: a whole tree, by induction over it; a child costs two levels.
* `Node.parse_inverts_print`: printing and parsing are inverse, up to the limit of nesting.
-/

namespace Quire

open Json

namespace Node

lemma membersOfAll_eq_map (nodes : List Node) : membersOfAll nodes = nodes.map toJson := by
  induction nodes with
  | nil => rfl
  | cons node rest ih => rw [membersOfAll, ih, List.map_cons, toJson]

/-- The members of a node as they are printed, and its content behind them if there is one. The
conditions tell whether attributes and children can be read. -/
def written (node : Node) (content : Option String) (attributesFit childrenFit : Prop) :
    List (Written Draft) :=
  [⟨"node_name", printString node.name, fun draft => { draft with name := some node.name },
    True⟩] ++
  Written.unless node.id.isNone
    ⟨"id", printString (node.id.getD ""), fun draft => { draft with id := node.id }, True⟩ ++
  Written.unless node.title.isNone
    ⟨"title", printString (node.title.getD ""), fun draft => { draft with title := node.title },
      True⟩ ++
  Written.unless node.text.isNone
    ⟨"text", printString (node.text.getD ""), fun draft => { draft with text := node.text },
      True⟩ ++
  Written.unless node.attributes.entries.isEmpty
    ⟨"attributes", print (.object node.attributes.entries),
      fun draft => { draft with attributes := node.attributes }, attributesFit⟩ ++
  Written.unless node.children.isEmpty
    ⟨"children", print (.array (node.children.map toJson)),
      fun draft => { draft with children := node.children }, childrenFit⟩ ++
  Written.unless content.isNone
    ⟨"content", printString (content.getD ""), fun draft => draft, True⟩

section Written

variable {node : Node} {content : Option String} {attributesFit childrenFit : Prop}

lemma map_line_written :
    (node.written content attributesFit childrenFit).map Written.line =
      (node.members ++ textMember "content" content).map (memberText print) := by
  have texts (name : String) (text : Option String) :
      (textMember name text).map (memberText print) =
        if text.isNone then [] else [printString name ++ ':' :: printString (text.getD "")] := by
    cases text <;> rfl
  cases node with
  | mk =>
    simp only [written, members, membersOfAll_eq_map, List.map_append, Written.map_unless, texts,
      apply_ite (List.map (memberText print)), List.map_cons, List.map_nil]
    rfl

/-- Only attributes and children can fail to be read. -/
lemma fits_written :
    (∀ member ∈ node.written content attributesFit childrenFit, member.fits) ↔
      (node.attributes.entries ≠ [] → attributesFit) ∧ (node.children ≠ [] → childrenFit) := by
  simp only [written, List.forall_mem_append, Written.forall_mem_unless]
  simp

lemma distinct_written :
    ((node.written content attributesFit childrenFit).map Written.name).Nodup := by
  have part (absent : Bool) (member : Written Draft) :
      List.Sublist ((member.unless absent).map Written.name) [member.name] := by
    cases absent with
    | false => exact List.Sublist.refl _
    | true => exact List.nil_sublist _
  have names : List.Sublist ((node.written content attributesFit childrenFit).map Written.name)
      (["node_name"] ++ ["id"] ++ ["title"] ++ ["text"] ++ ["attributes"] ++ ["children"] ++
        ["content"]) := by
    simp only [written, List.map_append]
    -- all but the first member may be absent
    iterate 6 apply List.Sublist.append _ (part ..)
    exact .refl _
  exact names.nodup (by decide)

/-- The members of a node and its content have different names. -/
lemma distinct_members (node : Node) (content : Option String) :
    ((node.members ++ textMember "content" content).map (·.1)).Nodup := by
  have names : ((node.written content True True).map Written.name) =
      (node.members ++ textMember "content" content).map (·.1) := by
    have texts (name : String) (text : Option String) :
        (textMember name text).map (·.1) = if text.isNone then [] else [name] := by
      cases text <;> rfl
    cases node with
    | mk =>
      simp only [written, members, List.map_append, Written.map_unless, texts,
        apply_ite (List.map Prod.fst), List.map_cons, List.map_nil]
  rw [← names]
  exact distinct_written

/-- What is printed of a node makes it up again: a member that is absent is what it is in the blank
draft. -/
lemma addAll_written :
    RecordType.addAll (node.written content attributesFit childrenFit) {} =
      ⟨some node.name, node.id, node.title, node.text, node.attributes, node.children⟩ := by
  have text {text : Option String} (absent : text.isNone = true) : text = none :=
    Option.isNone_iff_eq_none.mp absent
  have attributes (absent : node.attributes.entries.isEmpty = true) :
      node.attributes = Dictionary.empty := by
    cases same : node.attributes with
    | mk entries =>
      rw [same] at absent
      cases List.isEmpty_iff.mp absent
      rfl
  rw [written]
  simp only [List.append_assoc, List.cons_append, List.nil_append, RecordType.addAll_cons]
  rw [RecordType.addAll_unless fun absent => by rw [text absent],
    RecordType.addAll_unless fun absent => by rw [text absent],
    RecordType.addAll_unless fun absent => by rw [text absent],
    RecordType.addAll_unless fun absent => by rw [attributes absent],
    RecordType.addAll_unless fun absent => by rw [List.isEmpty_iff.mp absent]]
  cases content <;> rfl

end Written

/-- Each member that is printed of a node is read into its own part of a draft; the content is
passed over. -/
lemma takes_written {node : Node} (content : Option String) {attributesFit childrenFit : Prop}
    {attributes : Reader (Dictionary Json)} {children : Reader (List Node)}
    (readAttributes : ReadsIf attributesFit attributes (print (.object node.attributes.entries))
      node.attributes)
    (readChildren : ReadsIf childrenFit children (print (.array (node.children.map toJson)))
      node.children) :
    ∀ member ∈ node.written content attributesFit childrenFit,
      (recordType attributes children).Takes member := by
  simp only [written, List.forall_mem_append, Written.forall_mem_unless, List.forall_mem_singleton]
  refine ⟨⟨⟨⟨⟨⟨?name, fun id => ?id⟩, fun title => ?title⟩, fun text => ?text⟩,
    fun _ => ?attributes⟩, fun _ => ?children⟩, fun _ => ?content⟩
  case name =>
    exact .known rfl fun draft rest ends => (readsIf_string node.name rest ends).map _
  case id =>
    exact .known rfl fun draft rest ends => (readsIf_text id rest ends).map _
  case title =>
    exact .known rfl fun draft rest ends => (readsIf_text title rest ends).map _
  case text =>
    exact .known rfl fun draft rest ends => (readsIf_text text rest ends).map _
  case attributes =>
    exact .known rfl fun draft rest ends => (readAttributes rest ends).map _
  case children =>
    exact .known rfl fun draft rest ends => (readChildren rest ends).map _
  case content =>
    exact .skipped rfl fun rest _ => skipValue_printString rest _

/-- The object of a node, to which its content may be added. -/
def printed (node : Node) (content : Option String) : Json :=
  .object (node.members ++ textMember "content" content)

lemma printed_none (node : Node) : node.printed none = node.toJson := by
  rw [printed, toJson, textMember, List.append_nil]

/-- Whatever the content is, a node nests as deep as its attributes and children do. -/
lemma depth_printed_le_iff {node : Node} {content : Option String} {n : Nat} :
    (node.printed content).depth ≤ n + 1 ↔
      (node.attributes.entries ≠ [] → depth (.object node.attributes.entries) ≤ n) ∧
      (node.children ≠ [] → depth (.array (node.children.map toJson)) ≤ n) := by
  have texts (name : String) (text : Option String) :
      ∀ member ∈ textMember name text, member.2.depth ≤ n := by
    cases text <;> simp [textMember, depth]
  have string : depth (.string node.name) ≤ n := Nat.zero_le n
  cases node with
  | mk name id title text attributes children =>
    rw [printed, depth_object_le_iff, members, membersOfAll_eq_map]
    simp only [List.forall_mem_append, List.forall_mem_singleton]
    have attributes : (∀ member ∈ if attributes.entries.isEmpty then [] else
        [("attributes", Json.object attributes.entries)], member.2.depth ≤ n) ↔
        (attributes.entries ≠ [] → depth (.object attributes.entries) ≤ n) := by
      split <;> simp_all
    have children : (∀ member ∈ if children.isEmpty then [] else
        [("children", Json.array (children.map toJson))], member.2.depth ≤ n) ↔
        (children ≠ [] → depth (.array (children.map toJson)) ≤ n) := by
      split <;> simp_all
    rw [attributes, children]
    exact ⟨fun all => ⟨all.1.1.2, all.1.2⟩,
      fun parts => ⟨⟨⟨⟨⟨⟨string, texts _ _⟩, texts _ _⟩, texts _ _⟩, parts.1⟩, parts.2⟩, texts _ _⟩⟩

/-- A node is read if its attributes and its children are. -/
lemma readsIf_printed {node : Node} {content : Option String} {n : Nat}
    {attributes : Reader (Dictionary Json)} {children : Reader (List Node)}
    (readAttributes : ReadsIf (depth (.object node.attributes.entries) ≤ n) attributes
      (print (.object node.attributes.entries)) node.attributes)
    (readChildren : ReadsIf (depth (.array (node.children.map toJson)) ≤ n) children
      (print (.array (node.children.map toJson))) node.children) :
    ReadsIf ((node.printed content).depth ≤ n + 1) ((recordType attributes children).read {})
      (node.printed content).print node := by
  have made : (recordType attributes children).finish false (RecordType.addAll
      (node.written content (depth (.object node.attributes.entries) ≤ n)
        (depth (.array (node.children.map toJson)) ≤ n)) {}) = .ok node := by
    rw [addAll_written]
    cases node
    rfl
  have reads := RecordType.readsIf_record _
    (takes_written content readAttributes readChildren) distinct_written made
  rw [map_line_written, ← printMembers_eq] at reads
  exact fun rest ends => (reads rest ends).congr (fits_written.trans depth_printed_le_iff.symm)

/-- The attribute values of a whole tree are free of floating-point numbers. -/
def Integral (root : Node) : Prop :=
  ∀ entry ∈ root.postOrder, ∀ pair ∈ entry.node.attributes.entries, pair.2.Integral

lemma Integral.child {node child : Node} (integral : node.Integral)
    (mem : child ∈ node.children) : child.Integral :=
  forall_postOrder_of_child (fun node => ∀ pair ∈ node.attributes.entries, pair.2.Integral)
    integral mem

lemma readsIf_attributes {attributes : Dictionary Json}
    (integral : ∀ pair ∈ attributes.entries, pair.2.Integral) (n : Nat) :
    ReadsIf (depth (.object attributes.entries) ≤ n + 1) (readDictionary (readObject (readValue n)))
      (print (.object attributes.entries)) attributes := by
  intro rest ends
  have read := readsIf_object print (depth · ≤ n) attributes.entries
    (fun pair mem => readsIf_readValue (integral pair mem) n) rest ends
  have made := read.map fun result => (Dictionary.ofList result.1, result.2)
  dsimp only at made
  rw [Dictionary.ofList_entries] at made
  rw [print, printMembers_eq]
  exact made.congr depth_object_le_iff.symm

lemma readsIf_children {children : List Node} {n : Nat}
    (each : ∀ child ∈ children,
      ReadsIf (child.toJson.depth ≤ n) (read n) child.toJson.print child) :
    ReadsIf (depth (.array (children.map toJson)) ≤ n + 1) (readList (readArray (read n)))
      (print (.array (children.map toJson))) children := by
  intro rest ends
  have read := readsIf_array (fun child => child.toJson.print) (fun child => child.toJson.depth ≤ n)
    children (fun child _ => ⟨_, _, rfl, rfl, by decide⟩) each rest ends
  rw [print, printItems_eq, List.map_map]
  exact read.congr (by rw [depth_array_le_iff, List.forall_mem_map])

/-- A tree is read if it does not nest deeper than the budget. -/
theorem readsIf_read {node : Node} (integral : node.Integral) (content : Option String) (n : Nat) :
    ReadsIf ((node.printed content).depth ≤ n) (read n) (node.printed content).print node := by
  induction node using byChildren generalizing content n with
  | step node ih =>
    -- the node takes one level of the budget, and the array of its children another one
    match n with
    | 0 =>
      have deeper : ¬(node.printed content).depth ≤ 0 := by simp [printed, depth]
      exact fun rest _ => (OkIf.of_error rfl).congr (iff_of_false not_false deeper)
    | 1 =>
      apply readsIf_printed
      · exact fun rest _ => (OkIf.of_error rfl).congr (by simp [depth])
      · exact fun rest _ => (OkIf.of_error rfl).congr (by simp [depth])
    | n + 2 =>
      apply readsIf_printed
      · exact readsIf_attributes (integral _ node.root_mem_postOrder) n
      · apply readsIf_children
        intro child mem
        rw [← printed_none]
        exact ih child mem (integral.child mem) none n

/-- What a template sees as the node holds, in the order of their names, what is printed: the
members of the node and its content, each under its own name. -/
lemma follow_context (layer : Template.Layer) (task : Task) (name : String) :
    Template.Language.follow (layer.context task) ["node", name] =
      (Entries.find? (task.node.members ++ [("content", .string task.content)]) name).map
        sorted := by
  have inside (members : Entries Json) :
      Template.Language.follow (.object members) [name] = members.find? name := by
    rw [Template.Language.follow]
    cases members.find? name <;> rfl
  calc Template.Language.follow (layer.context task) ["node", name]
      = Template.Language.follow task.toJson.sorted [name] := rfl
    _ = (Entries.ofList (sortedMembers (task.node.members ++
          textMember "content" (some task.content)))).find? name := inside _
    _ = _ := find?_sortedMembers (distinct_members task.node (some task.content)) name

/-- Printing a tree and parsing it are inverse, with and without the content of its root, as long as
no more than 127 arrays and objects stand inside each other; where more do, parsing fails. What
templates see as the node is what is printed with its content, in the order of the names: under each
name they find what is printed under it. -/
theorem parse_inverts_print {node : Node} (integral : node.Integral) (content : String)
    (transform : Option String) :
    let task : Task := ⟨node, content, transform⟩
    (node.toJson.depth ≤ 127 → parse node.toJson.compact = .ok node) ∧
    (127 < node.toJson.depth → ∃ error, parse node.toJson.compact = .error error) ∧
    (task.toJson.depth ≤ 127 → parse task.toJson.compact = .ok node) ∧
    (127 < task.toJson.depth → ∃ error, parse task.toJson.compact = .error error) ∧
    ∀ layer : Template.Layer,
      Template.Language.follow (layer.context task) ["node"] = some task.toJson.sorted ∧
      ∀ name, Template.Language.follow (layer.context task) ["node", name] =
        (Entries.find? (node.members ++ [("content", .string content)]) name).map sorted := by
  intro task
  have alone := okIf_parseWith (readsIf_read integral none nestingLimit)
  have whole := okIf_parseWith (readsIf_read integral (some content) nestingLimit)
  rw [printed_none] at alone
  refine ⟨alone.ok, fun deep => alone.error (Nat.not_le.mpr deep), whole.ok,
    fun deep => whole.error (Nat.not_le.mpr deep), fun layer => ⟨rfl, ?_⟩⟩
  exact follow_context layer task

/-- An empty title and a null stay apart from what is absent, and a content that names a member
changes nothing. -/
theorem parse_inverts_print_null :
    let child := (Node.named "text").withText "\"\\\n\x01"
    let item := ((Node.named "list_item").withTitle "").withAttribute "marker" .null
    let node := item.withChild child
    parse node.toJson.compact = .ok node ∧
      parse (Task.toJson ⟨node, "\"node_name\"", none⟩).compact = .ok node := by
  intro child item node
  have integral : node.Integral := by
    rintro entry (_ | ⟨_, _ | ⟨_, ⟨⟩⟩⟩) pair held
    · cases held
    · obtain _ | ⟨_, ⟨⟩⟩ := held
      exact .null
  obtain ⟨alone, -, whole, -⟩ := parse_inverts_print integral "\"node_name\"" none
  exact ⟨alone (by decide), whole (by decide)⟩

end Node

end Quire
