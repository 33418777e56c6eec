import Mathlib.Data.List.Nodup
import Quire.Options.Json
import Quire.Proofs.Converter.Override
import Quire.Proofs.Json.Decoding
import Quire.Proofs.Json.Values

/-!
# Options as JSON and back

Options are read back as they were printed, although more is read than is printed: template
directories may be a single text, members may be left out, members of other names are passed over,
and an array of values may stand for an object. Each member has its own part of the options, so what
the others say does not depend on how the template directories are spelled.

* `Options.slots`: what each member does to options.
* `Options.toOption_parse`: options are read by their parts, from the defaults on.
* `Options.Place`, `Options.ofParts?_holding`: the template directories are apart from the rest.
* `Options.reads_what_it_prints`: the result.
-/

namespace Quire

open Json

namespace Options

lemma decodes_readDirectories (n : Nat) : Decodes n (readDirectories n) directories? := by
  intro cs
  rw [readDirectories, toOption_bind]
  refine Option.bind_congr fun found _ => ?_
  dsimp only
  cases directories? found.1 <;> rfl

/-- Options with other template directories. -/
def withDirs (options : Options) (dirs : Option (List String)) : Options :=
  { options with templateDirs := dirs }

lemma withDirs_self (options : Options) : options.withDirs options.templateDirs = options := rfl

/-- What the members of an object do to options, by their names. -/
def slots : List (Slot Options) :=
  [ .of "template-dirs" (optional? directories?) fun dirs options => options.withDirs dirs,
    .of "template-engine" text? fun engine options => { options with templateEngine := engine },
    .of "template-cache" truth? fun cache options => { options with templateCache := cache },
    .of "base-dir" (optional? text?) fun dir options => { options with baseDir := dir },
    .of "autoescape" truth? fun escapes options => { options with autoescape := escapes } ]

lemma slots_describe (n : Nat) :
    List.Forall₂ (Slot.Describes n) slots (recordType n).members := by
  refine .cons ?dirs (.cons ?engine (.cons ?cache (.cons ?base (.cons ?autoescape .nil))))
  case dirs => exact Slot.of_describes _ _ (decodes_readDirectories n).optional
  case engine => exact Slot.of_describes _ _ (decodes_readStringAs n _)
  case cache => exact Slot.of_describes _ _ (decodes_readBool n)
  case base => exact Slot.of_describes _ _ (decodes_readStringAs n _).optional
  case autoescape => exact Slot.of_describes _ _ (decodes_readBool n)

/-- What is written of options in a text. -/
def parts? (text : String) : Option Parts :=
  (parseWith (readParts (hasSlot slots) (nestingLimit - 1)) text).toOption

/-- What options some parts stand for, from the defaults on. -/
def ofParts? (parts : Parts) : Option Options :=
  parts.change slots {}

/-- Options are read by their parts. -/
lemma toOption_parse (text : String) : (parse text).toOption = (parts? text).bind ofParts? :=
  toOption_parseWith (slots_describe _) (fun _ _ => rfl) {} text

section Printing

/-- The known members of a printed object are its parts. -/
lemma parts?_object {members : List (String × Json)}
    (integral : ∀ member ∈ members, member.2.Integral)
    (shallow : ∀ member ∈ members, member.2.depth ≤ nestingLimit - 1) :
    parts? (Json.object members).compact =
      some (.object (members.filter (hasSlot slots ·.1))) := by
  have all : readObject (readValue (nestingLimit - 1)) (printMembers members ++ ['}']) =
      .ok (members, []) := by
    have reads := readsIf_object print (depth · ≤ nestingLimit - 1) members
      (fun member mem => readsIf_readValue (integral member mem) _) [] .nil
    rw [List.append_nil, ← printMembers_eq] at reads
    exact reads.ok shallow
  have shown : readParts (hasSlot slots) (nestingLimit - 1) (Json.object members).print =
      .ok (.object (members.filter (hasSlot slots ·.1)), []) :=
    readParts_of_readObject rfl all
  rw [parts?, parseWith, compact, String.toList_ofList, shown]
  rfl

/-- Template directories as they are printed. -/
def printedDirs : Option (List String) → Json
  | none => .null
  | some dirs => .array (dirs.map .string)

lemma texts?_eq (dirs : List String) : texts? (dirs.map .string) = some dirs := by
  induction dirs with
  | nil => rfl
  | cons dir dirs ih =>
    rw [texts?] at ih
    rw [texts?, List.map_cons, List.mapM_cons, ih]
    rfl

lemma optional?_printedDirs (dirs : Option (List String)) :
    optional? directories? (printedDirs dirs) = some dirs := by
  cases dirs with
  | none => rfl
  | some dirs => exact congrArg (Option.map some) (texts?_eq dirs)

lemma integral_printedDirs (dirs : Option (List String)) : (printedDirs dirs).Integral := by
  cases dirs with
  | none => exact .null
  | some dirs => exact .array (List.forall_mem_map.mpr fun dir _ => .string dir)

lemma depth_printedDirs_le (dirs : Option (List String)) (n : Nat) :
    (printedDirs dirs).depth ≤ n + 1 := by
  cases dirs with
  | none => exact Nat.zero_le _
  | some dirs => exact depth_array_le_iff.mpr (List.forall_mem_map.mpr fun dir _ => Nat.zero_le n)

lemma optional?_optionalText (text : Option String) :
    optional? text? (optionalText text) = some text := by
  cases text <;> rfl

lemma integral_optionalText (text : Option String) : (optionalText text).Integral := by
  cases text with
  | none => exact .null
  | some s => exact .string s

lemma depth_optionalText (text : Option String) : (optionalText text).depth = 0 := by
  cases text <;> rfl

/-- Options are read back as they were printed. -/
lemma parse_toJson (options : Options) : parse options.toJson.compact = .ok options := by
  obtain ⟨dirs, engine, cache, base, escapes⟩ := options
  have printed : (Options.mk dirs engine cache base escapes).toJson = .object
      [ ("template-dirs", printedDirs dirs), ("template-engine", .string engine),
        ("template-cache", .bool cache), ("base-dir", optionalText base),
        ("autoescape", .bool escapes) ] := by
    cases dirs <;> rfl
  have dirs_fit : effect? slots ("template-dirs", printedDirs dirs) =
      some (·.withDirs dirs) :=
    congrArg (Option.map _) (optional?_printedDirs dirs)
  have base_fits : effect? slots ("base-dir", optionalText base) =
      some fun options => { options with baseDir := base } :=
    congrArg (Option.map _) (optional?_optionalText base)
  apply eq_ok_of_toOption
  rw [toOption_parse, printed, parts?_object]
  · rw [List.filter_eq_self.mpr (by simp [hasSlot, slots, Slot.of]), Option.bind_some, ofParts?,
      Parts.change, changedApart_nil, if_pos (by simp), changed_cons_of_some dirs_fit,
      changed_cons_of_some rfl, changed_cons_of_some rfl, changed_cons_of_some base_fits,
      changed_cons_of_some rfl]
    rfl
  · simp only [List.forall_mem_cons]
    exact ⟨integral_printedDirs dirs, .string engine, .bool cache, integral_optionalText base,
      .bool escapes, by simp⟩
  · simp only [List.forall_mem_cons]
    exact ⟨depth_printedDirs_le dirs _, Nat.zero_le _, Nat.zero_le _,
      (depth_optionalText base).trans_le (Nat.zero_le _), Nat.zero_le _, by simp⟩

end Printing

section Directories

/-- A slot that leaves the template directories alone. -/
def LeavesDirs (slot : Slot Options) : Prop :=
  ∀ value effect, slot.effect? value = some effect → ∀ (options : Options) dirs,
    effect (options.withDirs dirs) = (effect options).withDirs dirs

/-- Every slot but the first leaves the template directories alone. -/
lemma leavesDirs_of_mem_tail : ∀ slot ∈ slots.tail, LeavesDirs slot := by
  simp only [slots, List.tail_cons, List.forall_mem_cons, LeavesDirs, Slot.of,
    Option.map_eq_some_iff]
  refine ⟨?_, ?_, ?_, ?_, nofun⟩
  all_goals
    rintro value _ ⟨decoded, -, rfl⟩ options dirs
    rfl

variable {members : List (String × Json)}

lemma effect_withDirs {member : String × Json} {effect : Options → Options}
    (other : member.1 ≠ "template-dirs") (fits : effect? slots member = some effect)
    (options : Options) (dirs : Option (List String)) :
    effect (options.withDirs dirs) = (effect options).withDirs dirs := by
  obtain ⟨slot, found, fits⟩ := Option.bind_eq_some_iff.mp fits
  have name : slot.name = member.1 := by simpa using List.find?_some found
  have mem : slot ∈ slots.tail := by
    obtain rfl | mem := List.mem_cons.mp (List.mem_of_find?_eq_some found)
    · exact (other name.symm).elim
    · exact mem
  exact leavesDirs_of_mem_tail slot mem _ _ fits options dirs

/-- Members of other names treat the template directories as apart from the rest. -/
lemma changed_withDirs (others : "template-dirs" ∉ members.map Prod.fst) (options : Options)
    (dirs : Option (List String)) :
    changed slots members (options.withDirs dirs) =
      (changed slots members options).map (·.withDirs dirs) := by
  induction members generalizing options with
  | nil => rfl
  | cons member members ih =>
    obtain ⟨other, others⟩ := not_or.mp (mt List.mem_cons.mpr others)
    cases fits : effect? slots member with
    | none =>
      rw [changed_cons, changed_cons, fits]
      rfl
    | some effect =>
      rw [changed_cons_of_some fits, changed_cons_of_some fits,
        effect_withDirs (Ne.symm other) fits, ih others]

/-- Items behind the first treat the template directories as apart from the rest. -/
lemma changedInOrder_withDirs {list : List (Slot Options)}
    (leave : ∀ slot ∈ list, LeavesDirs slot) (items : List Json) (options : Options)
    (dirs : Option (List String)) :
    changedInOrder list items (options.withDirs dirs) =
      (changedInOrder list items options).map (·.withDirs dirs) := by
  induction list generalizing items options with
  | nil => cases items <;> rfl
  | cons slot list ih =>
    obtain ⟨here, leave⟩ := List.forall_mem_cons.mp leave
    cases items with
    | nil => rfl
    | cons item items =>
      rw [changedInOrder, changedInOrder]
      cases fits : slot.effect? item with
      | none => rfl
      | some effect =>
        show changedInOrder list items (effect (options.withDirs dirs)) = _
        rw [here item effect fits, ih leave]
        rfl

/-- Template directories that are not written are absent. -/
lemma templateDirs_of_not_mem (others : "template-dirs" ∉ members.map Prod.fst) {options : Options}
    (read : ofParts? (.object members) = some options) : options.templateDirs = none := by
  have read : changedApart slots [] members {} = some options := read
  rw [changedApart_nil] at read
  split at read
  next =>
    have same := changed_withDirs others {} none
    rw [show withDirs {} none = {} from rfl, read] at same
    have whole : options = options.withDirs none := Option.some.inj same
    rw [whole]
    rfl
  next => cases read

/-- Whatever stands around them, template directories are set to what is decoded of their value. -/
lemma changed_around {front back : List (String × Json)}
    (others : "template-dirs" ∉ (front ++ back).map Prod.fst) (value : Json) (options : Options) :
    changed slots (front ++ ("template-dirs", value) :: back) options =
      (optional? directories? value).bind fun dirs =>
        (changed slots (front ++ back) options).map (·.withDirs dirs) := by
  rw [List.map_append, List.mem_append, not_or] at others
  have append (members more : List (String × Json)) : changed slots (members ++ more) options =
      (changed slots members options).bind (changed slots more) :=
    List.foldlM_append
  rw [append, append]
  cases changed slots front options with
  | none => cases optional? directories? value <;> rfl
  | some begun =>
    show changed slots (("template-dirs", value) :: back) begun = _
    cases decoded : optional? directories? value with
    | none =>
      have misfit : effect? slots ("template-dirs", value) = none :=
        congrArg (Option.map _) decoded
      rw [changed_cons, misfit]
      rfl
    | some dirs =>
      have fits : effect? slots ("template-dirs", value) = some (·.withDirs dirs) :=
        congrArg (Option.map _) decoded
      rw [changed_cons_of_some fits, changed_withDirs others.2]
      rfl

/-- A place for the template directories: among the members of an object, or in front of the other
items of an array. -/
inductive Place
  | member (front back : List (String × Json))
  | item (later : List Json)

/-- The parts where a value stands at a place. -/
def Place.holding : Place → Json → Parts
  | .member front back, value => .object (front ++ ("template-dirs", value) :: back)
  | .item later, value => .array (value :: later)

/-- The options that the other parts stand for. -/
def Place.others : Place → Option Options
  | .member front back =>
    if "template-dirs" ∉ (front ++ back).map Prod.fst then ofParts? (.object (front ++ back))
    else none
  | .item later => changedInOrder slots.tail later {}

/-- A place decides on the template directories and on nothing else. -/
lemma ofParts?_holding (place : Place) (value : Json) :
    ofParts? (place.holding value) = (optional? directories? value).bind fun dirs =>
      place.others.map (·.withDirs dirs) := by
  cases place with
  | member front back =>
    have names : ((front ++ ("template-dirs", value) :: back).map Prod.fst).Nodup ↔
        "template-dirs" ∉ (front ++ back).map Prod.fst ∧ ((front ++ back).map Prod.fst).Nodup := by
      rw [List.map_append, List.map_cons, List.nodup_middle, List.nodup_cons, List.map_append]
    have whole : ofParts? (.object (front ++ back)) = _ := changedApart_nil (front ++ back) _
    show changedApart slots [] (front ++ ("template-dirs", value) :: back) {} = _
    rw [changedApart_nil, Place.others, whole]
    by_cases others : "template-dirs" ∉ (front ++ back).map Prod.fst
    · by_cases distinct : ((front ++ back).map Prod.fst).Nodup
      · rw [if_pos (names.mpr ⟨others, distinct⟩), if_pos others, if_pos distinct,
          changed_around others]
      · rw [if_neg fun both => distinct (names.mp both).2, if_pos others, if_neg distinct]
        exact (Option.bind_fun_none _).symm
    · rw [if_neg fun both => others (names.mp both).1, if_neg others]
      exact (Option.bind_fun_none _).symm
  | item later =>
    cases decoded : optional? directories? value with
    | none =>
      show (((optional? directories? value).map _).map _).bind _ = _
      rw [decoded]
      rfl
    | some dirs =>
      show (((optional? directories? value).map _).map _).bind _ = _
      rw [decoded]
      exact changedInOrder_withDirs leavesDirs_of_mem_tail later {} dirs

/-- The value that is written for the template directories, if there is one. -/
def written? : Parts → Option Json
  | .object members => members.lookup "template-dirs"
  | .array items => items.head?

/-- Template directories are what is decoded of their value, and absent without one. -/
lemma decoded_of_ofParts? {parts : Parts} {options : Options}
    (read : ofParts? parts = some options) :
    optional? directories? ((written? parts).getD .null) = some options.templateDirs := by
  have held {place : Place} {value : Json}
      (read : ofParts? (place.holding value) = some options) :
      optional? directories? value = some options.templateDirs := by
    rw [ofParts?_holding] at read
    obtain ⟨dirs, decoded, read⟩ := Option.bind_eq_some_iff.mp read
    obtain ⟨others, -, rfl⟩ := Option.map_eq_some_iff.mp read
    exact decoded
  cases parts with
  | object members =>
    cases found : written? (.object members) with
    | none =>
      have others : "template-dirs" ∉ members.map Prod.fst := by
        intro mem
        obtain ⟨member, mem, name⟩ := List.mem_map.mp mem
        have apart := List.lookup_eq_none_iff.mp found member mem
        simp [name] at apart
      exact congrArg some (templateDirs_of_not_mem others read).symm
    | some value =>
      obtain ⟨front, back, rfl, -⟩ := List.lookup_eq_some_iff.mp found
      have place : ofParts? ((Place.member front back).holding value) = some options := read
      exact held place
  | array items =>
    cases items with
    | nil =>
      cases read
      rfl
    | cons item later =>
      have place : ofParts? ((Place.item later).holding item) = some options := read
      exact held place

end Directories

/-- Printing options and reading them are inverse, so what is read of any text survives being
printed and read again. Options are read by their parts, from the defaults on. For the template
directories one text stands for the list of it, and null for their absence, which means that there
is no layer unless the host asks for one; the empty list means a layer that searches nowhere. -/
theorem reads_what_it_prints :
    (∀ options : Options, parse options.toJson.compact = .ok options) ∧
    (∀ text options, parse text = .ok options → parse options.toJson.compact = .ok options) ∧
    (∀ text, (parse text).toOption = (parts? text).bind ofParts?) ∧
    (∀ (place : Place) dir text text', parts? text = some (place.holding (.string dir)) →
      parts? text' = some (place.holding (.array [.string dir])) →
      (parse text).toOption = (parse text').toOption) ∧
    (∀ front back text text', "template-dirs" ∉ (front ++ back).map Prod.fst →
      parts? text = some (.object (front ++ ("template-dirs", .null) :: back)) →
      parts? text' = some (.object (front ++ back)) →
      (parse text).toOption = (parse text').toOption) ∧
    ∀ text options, parse text = .ok options → ∃ parts, parts? text = some parts ∧
      optional? directories? ((written? parts).getD .null) = some options.templateDirs ∧
      ((written? parts).getD .null = .null → options.templateDirs = none ∧
        ∀ compiler host files backend, ¬(backend = .revealjs ∧ host.platform.isNode = true ∧
            files.isDir (host.resolvePath Host.revealTemplates) = true) →
          Assembly.layer? compiler host files backend options = .ok none) ∧
      (written? parts = some (.array []) → options.templateDirs = some [] ∧
        ∀ compiler host files backend engine,
          Template.Engine.ofName? compiler options.templateEngine options.autoescape =
            some engine →
          ∃ layer, Assembly.layer? compiler host files backend options = .ok (some layer) ∧
            layer.search.directories = []) := by
  refine ⟨parse_toJson, fun _ options _ => parse_toJson options, toOption_parse, ?_, ?_, ?_⟩
  · intro place dir text text' single listed
    rw [toOption_parse, toOption_parse, single, listed]
    show ofParts? _ = ofParts? _
    rw [ofParts?_holding, ofParts?_holding]
    rfl
  · intro front back text text' others null absent
    rw [toOption_parse, toOption_parse, null, absent]
    show ofParts? ((Place.member front back).holding .null) = ofParts? (.object (front ++ back))
    rw [ofParts?_holding, Place.others, if_pos others]
    cases read : ofParts? (.object (front ++ back)) with
    | none => rfl
    | some options =>
      show some (options.withDirs none) = some options
      rw [← templateDirs_of_not_mem others read, withDirs_self]
  · intro text options read
    have whole := toOption_parse text
    rw [read] at whole
    obtain ⟨parts, there, read⟩ := Option.bind_eq_some_iff.mp whole.symm
    have decoded := decoded_of_ofParts? read
    refine ⟨parts, there, decoded, fun null => ?_, fun empty => ?_⟩
    · rw [null] at decoded
      have unset : options.templateDirs = none := (Option.some.inj decoded).symm
      refine ⟨unset, fun compiler host files backend plain => ?_⟩
      apply Assembly.layer?_of_none
      rw [Assembly.fillIn_of_none unset, if_neg plain]
    · rw [empty] at decoded
      have given : options.templateDirs = some [] := (Option.some.inj decoded).symm
      refine ⟨given, fun compiler host files backend engine known => ?_⟩
      exact ⟨_, Assembly.layer?_of_directories (Assembly.fillIn_of_some given) known, rfl⟩

/-- One directory is given as a text and as a list, between a member of another name and another
option; then null is given, nothing, and the empty list. -/
theorem reads_what_it_prints_custom :
    let extra := ("extra", Json.array [.int 1, .null])
    let escape := ("autoescape", Json.bool true)
    let given (dirs : Json) := (Json.object [extra, ("template-dirs", dirs), escape]).compact
    let absent := (Json.object [extra, escape]).compact
    let place := Place.member [] [escape]
    let options : Options := { templateDirs := some ["./custom"], autoescape := true }
    let host : Host := ⟨.native, "/"⟩
    parts? (given (.string "./custom")) = some (place.holding (.string "./custom")) ∧
    parts? (given (.array [.string "./custom"])) =
      some (place.holding (.array [.string "./custom"])) ∧
    (parse (given (.string "./custom"))).toOption =
      (parse (given (.array [.string "./custom"]))).toOption ∧
    parse (given (.string "./custom")) = .ok options ∧
    parse options.toJson.compact = .ok options ∧
    parts? (given .null) = some (place.holding .null) ∧
    parts? absent = some (.object [escape]) ∧
    (parse (given .null)).toOption = (parse absent).toOption ∧
    parse absent = .ok (options.withDirs none) ∧
    Assembly.layer? .verbatim host ⟨.directory [], []⟩ .html5 (options.withDirs none) = .ok none ∧
    parse (given (.array [])) = .ok (options.withDirs (some [])) ∧
    ∃ layer,
      Assembly.layer? .verbatim host ⟨.directory [], []⟩ .html5 (options.withDirs (some [])) =
        .ok (some layer) ∧ layer.search.directories = [] := by
  intro extra escape given absent place options host
  obtain ⟨print, again, apart, alike, null_alike, layers⟩ := reads_what_it_prints
  have extra_integral : extra.2.Integral :=
    .array (by simpa using ⟨.int (by decide) (by decide), .null⟩)
  have given_parts {dirs : Json} (integral : dirs.Integral) (shallow : dirs.depth ≤ 1) :
      parts? (given dirs) = some (place.holding dirs) := by
    refine (parts?_object ?_ ?_).trans ?_
    · simp only [List.forall_mem_cons]
      exact ⟨extra_integral, integral, .bool true, by simp⟩
    · simp only [List.forall_mem_cons]
      exact ⟨by decide, shallow.trans (by decide), Nat.zero_le _, by simp⟩
    · simp [hasSlot, slots, Slot.of, extra, escape, place, Place.holding]
  have absent_parts : parts? absent = some (.object [escape]) := by
    refine (parts?_object ?_ ?_).trans ?_
    · simp only [List.forall_mem_cons]
      exact ⟨extra_integral, .bool true, by simp⟩
    · simp only [List.forall_mem_cons]
      exact ⟨by decide, Nat.zero_le _, by simp⟩
    · simp [hasSlot, slots, Slot.of, extra, escape]
  have single := given_parts (.string "./custom") (Nat.zero_le _)
  have listed (dirs : Option (List String)) :=
    given_parts (integral_printedDirs dirs) (depth_printedDirs_le dirs 0)
  have read {text : String} {parts : Parts} {options : Options} (there : parts? text = some parts)
      (stands : ofParts? parts = some options) : parse text = .ok options :=
    eq_ok_of_toOption ((apart text).trans (there ▸ stands))
  have absent_read := read absent_parts (show _ = some (options.withDirs none) from rfl)
  have empty_read := read (listed (some [])) (show _ = some (options.withDirs (some [])) from rfl)
  obtain ⟨parts, there, -, nothing, -⟩ := layers _ _ absent_read
  obtain ⟨parts', there', -, -, nowhere⟩ := layers _ _ empty_read
  cases absent_parts.symm.trans there
  cases (listed (some [])).symm.trans there'
  exact ⟨single, listed (some ["./custom"]), alike place _ _ _ single (listed (some ["./custom"])),
    read single rfl, print options, listed none, absent_parts,
    null_alike [] _ _ _ (by simp [escape]) (listed none) absent_parts, absent_read,
    (nothing rfl).2 _ _ _ _ (by simp), empty_read, (nowhere rfl).2 _ _ _ _ _ rfl⟩

end Options

end Quire
