import Mathlib.Tactic.Lemma
import Quire.Converter.Builtin

/-!
# Headings of sections

The level of a section decides how its heading is written. The digits of a natural below `2 ^ 64`
are brought between one and five, zeros in front of them or not. Those of a greater one are read as
no number at all, and the section is headed as one of the first level.

* `Decimal.parse?_digits`: which numbers are read.
* `Node.level_of_digits`: the level that they make up.
* `Builtin.HeadedFor`: how a section is headed for a number.
* `Builtin.heading_of_digits`: for which numbers it is headed so.
-/

namespace Quire

/-- Digits are read as the natural that they stand for, if there are any and it is small enough. -/
lemma Decimal.parse?_digits {s : String} (digits : ∀ c ∈ s.toList, c.isDigit = true) :
    parse? s =
      if s.toList ≠ [] ∧ value s.toList < 2 ^ 64 then some (value s.toList) else none := by
  have all : s.toList.all Char.isDigit = true := List.all_eq_true.mpr digits
  unfold parse?
  extract_lets ds n
  have unsigned : ds = s.toList := by
    unfold ds
    split
    next ds same =>
      have sign : '+' ∈ s.toList := by
        rw [same]
        exact List.mem_cons_self
      exact absurd (digits '+' sign) (by decide)
    next => rfl
  unfold n
  rw [unsigned, all]
  by_cases none : s.toList = []
  · simp [none]
  · simp [none]

namespace Node

variable {node : Node} {digits : String}

/-- The level that the digits of a number make up. -/
lemma level_of_digits (given : node.attr "level" = some digits)
    (decimal : ∀ c ∈ digits.toList, c.isDigit = true) :
    node.level =
      if Decimal.value digits.toList < 2 ^ 64 then max 1 (min (Decimal.value digits.toList) 5)
      else 1 := by
  rw [level, given, Option.bind_some, Decimal.parse?_digits decimal]
  by_cases none : digits.toList = []
  · -- no digits stand for zero, and zero is brought to the level that counts without a number
    rw [none]
    rfl
  · by_cases small : Decimal.value digits.toList < 2 ^ 64
    · rw [if_pos ⟨none, small⟩, if_pos small]
    · rw [if_neg fun both => small both.2, if_neg small]

end Node

namespace Builtin

/-- A section is headed for a number: in HTML5 by a class and a heading of that number brought
between one and five, on a man page by `.SH` for a number up to one and by `.SS` for a greater
one. -/
structure HeadedFor (task : Task) (n : Nat) : Prop where
  html5 {μ : Type} (files : FileTree) (memory : μ) :
    let depth := max 1 (min n 5)
    let heading := "h" ++ Decimal.text (depth + 1)
    (html5.converter.convert files task).run memory =
      (.ok ("<div class=\"sect" ++ Decimal.text depth ++ "\">\n<" ++ heading ++
        Html5.idAttribute task.node ++ ">" ++ Markup.escape (task.node.title.getD "") ++ "</" ++
        heading ++ ">\n" ++ task.content ++ "\n</div>"), memory)
  manPage {μ : Type} (files : FileTree) (memory : μ) :
    let title := task.node.title.getD ""
    (manPage.converter.convert files task).run memory =
      (.ok ((if n ≤ 1 then ".SH \"" ++ Troff.escape (Text.upper title) ++ "\""
        else ".SS \"" ++ Troff.escape title ++ "\"") ++ "\n" ++ task.content), memory)

variable {task : Task}

/-- A section is converted by the rendering of sections. -/
lemma run_section (format : Builtin) (named : task.name = "section") {μ : Type} (files : FileTree)
    (memory : μ) :
    (format.converter.convert files task).run memory =
      (.ok (format.render .sect task.node task.content), memory) := by
  have known : task.name ∈ Kind.names := by
    rw [named]
    decide
  obtain ⟨kind, found, run⟩ := format.run_convert task known files memory
  rw [named] at found
  cases found
  exact run

/-- A section is headed for each number that makes up its level. -/
lemma headedFor_of_level {n : Nat} (named : task.name = "section")
    (level : task.node.level = max 1 (min n 5)) : HeadedFor task n where
  html5 files memory := by
    rw [run_section .html5 named, ← level]
    rfl
  manPage files memory := by
    have first : task.node.level = 1 ↔ n ≤ 1 := by omega
    rw [run_section .manPage named]
    simp only [render, ManPage.render, ManPage.sect, first]

/-- For two numbers a section is headed alike only if both or neither are above one. -/
lemma HeadedFor.first_iff {m n : Nat} (left : HeadedFor task m) (right : HeadedFor task n) :
    m ≤ 1 ↔ n ≤ 1 := by
  have same := (left.manPage (.rooted []) ()).symm.trans (right.manPage (.rooted []) ())
  have outputs := Except.ok.inj (Prod.mk.inj same).1
  -- the third letter tells the two requests apart
  have letters := congrArg (·.toList[2]?) outputs
  by_cases low : m ≤ 1 <;> by_cases low' : n ≤ 1 <;> simp [low, low'] at letters ⊢

variable {digits : String}

/-- A section whose level is given in digits is headed for the number that they stand for exactly if
that number has 64 bits; for a greater one it is headed as for one. So with a greater number of 64
bits a section is never on a lower level. -/
theorem heading_of_digits (named : task.name = "section")
    (given : task.node.attr "level" = some digits)
    (decimal : ∀ c ∈ digits.toList, c.isDigit = true) :
    let n := Decimal.value digits.toList
    (HeadedFor task n ↔ n < 2 ^ 64) ∧ (2 ^ 64 ≤ n → HeadedFor task 1) ∧
    ∀ {task' : Task} {digits' : String}, task'.node.attr "level" = some digits' →
      (∀ c ∈ digits'.toList, c.isDigit = true) → n ≤ Decimal.value digits'.toList →
      Decimal.value digits'.toList < 2 ^ 64 → task.node.level ≤ task'.node.level := by
  intro n
  have level := Node.level_of_digits given decimal
  have first (huge : 2 ^ 64 ≤ n) : HeadedFor task 1 := by
    rw [if_neg (Nat.not_lt.mpr huge)] at level
    exact headedFor_of_level named level
  refine ⟨⟨fun headed => Nat.lt_of_not_le fun huge => ?_, fun small => ?_⟩, first, ?_⟩
  · have low : n ≤ 1 := ((first huge).first_iff headed).mp (Nat.le_refl 1)
    omega
  · rw [if_pos small] at level
    exact headedFor_of_level named level
  · intro task' digits' given' decimal' le small
    rw [if_pos (Nat.lt_of_le_of_lt le small)] at level
    rw [level, Node.level_of_digits given' decimal', if_pos small]
    omega

/-- Zeros in front of a number do not count, and the greatest one that is read heads as five
does. -/
theorem heading_of_digits_greatest :
    let task (digits : String) : Task :=
      ⟨(Node.named "section").withAttribute "level" (.string digits), "", none⟩
    HeadedFor (task "003") 3 ∧ HeadedFor (task "18446744073709551615") (2 ^ 64 - 1) ∧
    (task "003").node.level ≤ (task "18446744073709551615").node.level := by
  intro task
  have three : Decimal.value "003".toList = 3 := by decide
  have greatest : Decimal.value "18446744073709551615".toList = 2 ^ 64 - 1 := by rfl
  have digits : ∀ c ∈ "18446744073709551615".toList, c.isDigit = true := List.all_eq_true.mp rfl
  obtain ⟨low, -, rises⟩ :=
    @heading_of_digits (task "003") "003" rfl rfl (List.all_eq_true.mp rfl)
  obtain ⟨high, -⟩ :=
    @heading_of_digits (task "18446744073709551615") "18446744073709551615" rfl rfl digits
  rw [three] at low
  rw [greatest] at high
  refine ⟨low.mpr (by decide), high.mpr (by decide), ?_⟩
  exact @rises (task "18446744073709551615") "18446744073709551615" rfl digits
    (by decide) (by decide)

/-- The next number heads as one does, above a section with a smaller number. -/
theorem huge_level_falls_back :
    let task (digits : String) : Task :=
      ⟨(Node.named "section").withAttribute "level" (.string digits), "", none⟩
    Decimal.value "18446744073709551616".toList = 2 ^ 64 ∧
    (html5.converter.convert (.rooted []) (task "18446744073709551616")).run () =
      (.ok "<div class=\"sect1\">\n<h2></h2>\n\n</div>", ()) ∧
    (manPage.converter.convert (.rooted []) (task "18446744073709551616")).run () =
      (.ok ".SH \"\"\n", ()) ∧
    ¬HeadedFor (task "18446744073709551616") (2 ^ 64) ∧
    (task "18446744073709551616").node.level < (task "9").node.level := by
  intro task
  have level : (task "18446744073709551616").node.level = max 1 (min 1 5) := by rfl
  have headed : HeadedFor (task "18446744073709551616") 1 := headedFor_of_level rfl level
  refine ⟨by decide, (headed.html5 _ _).trans ?_, (headed.manPage _ _).trans ?_,
    fun claimed => ?_, ?_⟩
  · exact congrArg (Except.ok ·, ()) (by decide)
  · exact congrArg (Except.ok ·, ()) (by decide)
  · have low := headed.first_iff claimed
    exact absurd (low.mp (Nat.le_refl 1)) (by decide)
  · have deepest : (task "9").node.level = 5 := by rfl
    rw [level, deepest]
    decide

end Builtin

end Quire
