import Mathlib.Tactic.Lemma
import Quire.Json.Reader
import Quire.Proofs.Text.Written

/-!
# Printed tokens

Texts and integers are read back as they were printed, whatever stands behind them.

* `Json.Ends`: what may stand behind a printed value.
* `Json.readText_printed`: texts, character by character.
* `Json.readNumber_toDigits`: integers of 64 bits.
-/

namespace Quire.Json

/-- Behind a printed value there is nothing, a comma, or the end of the array or object around
it. -/
def Ends (rest : List Char) : Prop :=
  ∀ c ∈ rest.head?, c ∈ [',', ']', '}']

lemma Ends.nil : Ends [] := nofun

lemma Ends.cons {c : Char} {rest : List Char} (ends : c ∈ [',', ']', '}']) : Ends (c :: rest) := by
  rintro _ ⟨⟩
  exact ends

lemma Ends.cases {rest : List Char} (ends : Ends rest) :
    rest = [] ∨ ∃ later, rest = ',' :: later ∨ rest = ']' :: later ∨ rest = '}' :: later := by
  cases rest with
  | nil => exact .inl rfl
  | cons c later =>
    have sign : c ∈ [',', ']', '}'] := ends c rfl
    simp only [List.mem_cons, List.not_mem_nil, or_false] at sign
    exact .inr ⟨later, sign.imp (congrArg (· :: later)) (Or.imp (congrArg (· :: later))
      (congrArg (· :: later)))⟩

lemma skipBlanks_of_solid {c : Char} (solid : isBlank c = false) (cs : List Char) :
    skipBlanks (c :: cs) = c :: cs :=
  List.dropWhile_cons_of_neg (Bool.eq_false_iff.mp solid)

section Texts

variable {fuel : Nat} (cs rest : List Char) (s : String)

lemma hexValue?_digitChar {n : Nat} (small : n < 16) : hexValue? (Nat.digitChar n) = some n := by
  have each : ∀ n : Fin 16, hexValue? (Nat.digitChar n) = some n.val := by decide
  exact each ⟨n, small⟩

/-- The four digits of a control character. -/
lemma readFourDigits_control {n : Nat} (control : n < 0x20) :
    readFourDigits ('0' :: '0' :: Nat.digitChar (n / 16) :: Nat.digitChar (n % 16) :: rest) =
      .ok (n, rest) := by
  have zero : hexValue? '0' = some 0 := by decide
  have high : hexValue? (Nat.digitChar (n / 16)) = some (n / 16) := hexValue?_digitChar (by omega)
  have low : hexValue? (Nat.digitChar (n % 16)) = some (n % 16) := hexValue?_digitChar (by omega)
  have whole : ((0 * 16 + 0) * 16 + n / 16) * 16 + n % 16 = n := by omega
  rw [readFourDigits, zero, high, low]
  dsimp only
  rw [whole]

/-- A character is escaped by a letter or by digits, or stands for itself. -/
lemma escapeChar_cases (c : Char) :
    (∃ e, e ≠ 'u' ∧ escapedChar? e = some c ∧ escapeChar c = ['\\', e]) ∨
    (c.toNat < 0x20 ∧ escapeChar c = ['\\', 'u', '0', '0', Nat.digitChar (c.toNat / 16),
      Nat.digitChar (c.toNat % 16)]) ∨
    (c ≠ '"' ∧ c ≠ '\\' ∧ ¬c.toNat < 0x20 ∧ escapeChar c = [c]) := by
  by_cases listed : c ∈ ['"', '\\', '\x08', '\x0c', '\n', '\r', '\t']
  · simp only [List.mem_cons, List.not_mem_nil, or_false] at listed
    left
    rcases listed with rfl | rfl | rfl | rfl | rfl | rfl | rfl
    · exact ⟨'"', by decide, rfl, rfl⟩
    · exact ⟨'\\', by decide, rfl, rfl⟩
    · exact ⟨'b', by decide, rfl, rfl⟩
    · exact ⟨'f', by decide, rfl, rfl⟩
    · exact ⟨'n', by decide, rfl, rfl⟩
    · exact ⟨'r', by decide, rfl, rfl⟩
    · exact ⟨'t', by decide, rfl, rfl⟩
  · simp only [List.mem_cons, List.not_mem_nil, or_false, not_or] at listed
    obtain ⟨quote, backslash, backspace, feed, newline, return_, tab⟩ := listed
    right
    rw [escapeChar, if_neg quote, if_neg backslash, if_neg backspace, if_neg feed, if_neg newline,
      if_neg return_, if_neg tab]
    by_cases control : c.toNat < 0x20
    · exact .inl ⟨control, if_pos control⟩
    · exact .inr ⟨quote, backslash, control, if_neg control⟩

lemma readEscape_letter {e c : Char} (letter : e ≠ 'u') (stands : escapedChar? e = some c) :
    readEscape (e :: rest) = .ok (c, rest) := by
  unfold readEscape
  split
  next same => cases same
  next same => exact absurd (List.cons.inj same).1 letter
  next same =>
    obtain ⟨rfl, rfl⟩ := List.cons.inj same
    rw [stands]

lemma skipEscape_letter {e c : Char} (letter : e ≠ 'u') (stands : escapedChar? e = some c) :
    skipEscape (e :: rest) = .ok rest := by
  unfold skipEscape
  split
  next same => cases same
  next same => exact absurd (List.cons.inj same).1 letter
  next same =>
    obtain ⟨rfl, rfl⟩ := List.cons.inj same
    rw [stands]
    rfl

/-- A character is read back as it was escaped. -/
lemma readChar_escapeChar (c : Char) : readChar (escapeChar c ++ rest) = .ok (some c, rest) := by
  rcases escapeChar_cases c with
    ⟨e, letter, stands, same⟩ | ⟨control, same⟩ | ⟨quote, backslash, control, same⟩
  · show readChar (escapeChar c ++ rest) = _
    rw [same, List.cons_append, List.singleton_append, readChar, if_neg (by decide), if_pos rfl,
      readEscape_letter rest letter stands]
    rfl
  · rw [same]
    simp only [List.cons_append, List.nil_append]
    rw [readChar, if_neg (by decide), if_pos rfl, readEscape, readFourDigits_control rest control]
    show (ite _ _ _ >>= _) = _
    rw [if_neg (by omega), if_neg (by omega), Char.ofNat_toNat]
    rfl
  · rw [same, List.singleton_append, readChar, if_neg quote, if_neg backslash, if_neg control]

lemma skipChars_escapeChar (c : Char) :
    skipChars (fuel + 1) (escapeChar c ++ rest) = skipChars fuel rest := by
  rcases escapeChar_cases c with
    ⟨e, letter, stands, same⟩ | ⟨control, same⟩ | ⟨quote, backslash, control, same⟩
  · rw [same, List.cons_append, List.singleton_append, skipChars, if_neg (by decide), if_pos rfl,
      skipEscape_letter rest letter stands]
    rfl
  · rw [same]
    simp only [List.cons_append, List.nil_append]
    rw [skipChars, if_neg (by decide), if_pos rfl, skipEscape, readFourDigits_control rest control]
    rfl
  · rw [same, List.singleton_append, skipChars, if_neg quote, if_neg backslash, if_neg control]

lemma escapeChar_ne_nil (c : Char) : escapeChar c ≠ [] := by
  rcases escapeChar_cases c with ⟨_, _, _, same⟩ | ⟨_, same⟩ | ⟨_, _, _, same⟩
  all_goals exact same ▸ List.cons_ne_nil _ _

lemma readChars_printed (enough : cs.length < fuel) :
    readChars fuel (cs.flatMap escapeChar ++ '"' :: rest) = .ok (cs, rest) := by
  induction cs generalizing fuel with
  | nil =>
    obtain ⟨fuel, rfl⟩ := Nat.exists_eq_succ_of_ne_zero (Nat.ne_zero_of_lt enough)
    rfl
  | cons c cs ih =>
    obtain ⟨fuel, rfl⟩ := Nat.exists_eq_succ_of_ne_zero (Nat.ne_zero_of_lt enough)
    rw [List.flatMap_cons, List.append_assoc, readChars, readChar_escapeChar]
    show (readChars fuel _ >>= _) = _
    rw [ih (Nat.lt_of_succ_lt_succ enough)]
    rfl

/-- A text is read back as it was printed. -/
lemma readText_printed :
    readText (s.toList.flatMap escapeChar ++ '"' :: rest) = .ok (s, rest) := by
  have enough : s.toList.length < (s.toList.flatMap escapeChar ++ '"' :: rest).length + 1 := by
    have := Text.length_le_written escapeChar_ne_nil s.toList
    rw [List.length_append]
    omega
  rw [readText, readChars_printed _ _ enough]
  show Except.ok (String.ofList s.toList, rest) = _
  rw [String.ofList_toList]

lemma printString_append :
    printString s ++ rest = '"' :: (s.toList.flatMap escapeChar ++ '"' :: rest) := by
  simp [printString]

/-- A printed text is passed over. -/
lemma skipText_printed : skipText (s.toList.flatMap escapeChar ++ '"' :: rest) = .ok rest := by
  have skips (cs : List Char) : ∀ {fuel}, cs.length < fuel →
      skipChars fuel (cs.flatMap escapeChar ++ '"' :: rest) = .ok rest := by
    induction cs with
    | nil =>
      intro fuel enough
      obtain ⟨fuel, rfl⟩ := Nat.exists_eq_succ_of_ne_zero (Nat.ne_zero_of_lt enough)
      rfl
    | cons c cs ih =>
      intro fuel enough
      obtain ⟨fuel, rfl⟩ := Nat.exists_eq_succ_of_ne_zero (Nat.ne_zero_of_lt enough)
      rw [List.flatMap_cons, List.append_assoc, skipChars_escapeChar,
        ih (Nat.lt_of_succ_lt_succ enough)]
  have enough := Text.length_le_written escapeChar_ne_nil s.toList
  apply skips
  rw [List.length_append]
  omega

lemma skipValue_printString : skipValue (printString s ++ rest) = .ok rest := by
  rw [printString_append]
  show (skipText _ >>= _) = _
  rw [skipText_printed]
  rfl

end Texts

section Integers

variable {rest : List Char}

/-- The digits of a natural do not start with a zero, apart from those of zero. -/
lemma head?_toDigits {n : Nat} (positive : n ≠ 0) : (Nat.toDigits 10 n).head? ≠ some '0' := by
  induction n using Nat.strongRecOn with
  | ind n ih =>
    by_cases small : n < 10
    · rw [Nat.toDigits_of_lt_base small]
      have each : ∀ n : Fin 10, n ≠ 0 → [Nat.digitChar n].head? ≠ some '0' := by decide
      exact each ⟨n, small⟩ (by simpa [Fin.ext_iff] using positive)
    · have shorter := ih (n / 10) (by omega) (by omega)
      have large : 10 ≤ n := by omega
      obtain ⟨first, later, digits⟩ :=
        List.exists_cons_of_ne_nil (Nat.toDigits_ne_nil (n := n / 10) (b := 10))
      rw [Nat.toDigits_of_base_le (by decide) large, digits]
      rwa [digits] at shorter

lemma exists_toDigits (n : Nat) :
    ∃ first later, Nat.toDigits 10 n = first :: later ∧ first.isDigit = true := by
  obtain ⟨first, later, digits⟩ :=
    List.exists_cons_of_ne_nil (Nat.toDigits_ne_nil (n := n) (b := 10))
  exact ⟨first, later, digits,
    Nat.isDigit_of_mem_toDigits (by decide) (by decide) (digits ▸ List.mem_cons_self)⟩

lemma ne_of_isDigit {c d : Char} (digit : d.isDigit = true) (other : c.isDigit = false) :
    d ≠ c := by
  rintro rfl
  exact Bool.false_ne_true (other.symm.trans digit)

lemma isBlank_of_isDigit {d : Char} (digit : d.isDigit = true) : isBlank d = false := by
  simp [isBlank, ne_of_isDigit digit]

namespace Numeral

lemma digits_append {ds rest : List Char} (each : ∀ d ∈ ds, d.isDigit = true) (ends : Ends rest) :
    digits (ds ++ rest) = (ds, rest) := by
  have stops : rest.takeWhile Char.isDigit = [] ∧ rest.dropWhile Char.isDigit = rest := by
    rcases ends.cases with rfl | ⟨later, rfl | rfl | rfl⟩ <;> exact ⟨rfl, rfl⟩
  rw [digits, List.takeWhile_append_of_pos each, List.dropWhile_append_of_pos each, stops.1,
    stops.2, List.append_nil]

/-- The digits of a natural are a numeral. -/
lemma read_toDigits (negative : Bool) (n : Nat) {rest : List Char} (ends : Ends rest) :
    read negative (Nat.toDigits 10 n ++ rest) =
      .ok (⟨negative, Nat.toDigits 10 n, [], none⟩, rest) := by
  have digits : readDigits (Nat.toDigits 10 n ++ rest) = .ok (Nat.toDigits 10 n, rest) := by
    obtain ⟨first, later, some, -⟩ := exists_toDigits n
    rw [readDigits, digits_append (fun _ => Nat.isDigit_of_mem_toDigits (by decide) (by decide))
      ends, some]
  have zeros : (decide ((Nat.toDigits 10 n).length > 1) && (Nat.toDigits 10 n).head? == some '0') =
      false := by
    by_cases zero : n = 0
    · rw [zero]
      rfl
    · rw [beq_eq_false_iff_ne.mpr (head?_toDigits zero), Bool.and_false]
  have fraction : readFraction rest = .ok ([], rest) := by
    rcases ends.cases with rfl | ⟨later, rfl | rfl | rfl⟩ <;> rfl
  have exponent : readExponent rest = .ok (none, rest) := by
    rcases ends.cases with rfl | ⟨later, rfl | rfl | rfl⟩ <;> rfl
  rw [read, digits]
  show ite _ _ _ = _
  rw [zeros, if_neg Bool.false_ne_true, fraction]
  show (readExponent rest >>= _) = _
  rw [exponent]
  rfl

/-- The integer that the digits of a natural stand for, if 64 bits hold it. -/
lemma toInt?_toDigits (negative : Bool) (n : Nat) :
    toInt? ⟨negative, Nat.toDigits 10 n, [], none⟩ =
      if negative then if n ≠ 0 ∧ n ≤ 2 ^ 63 then some (-(n : Int)) else none
      else if n < 2 ^ 64 then some (n : Int) else none := by
  simp only [toInt?, List.isEmpty_nil, Option.isNone_none, Bool.and_self, ↓reduceIte,
    Decimal.value_toDigits]

end Numeral

lemma readNumber_toDigits {negative : Bool} {n : Nat} {i : Int} {rest : List Char}
    (whole : Numeral.toInt? ⟨negative, Nat.toDigits 10 n, [], none⟩ = some i) (ends : Ends rest) :
    readNumber negative (Nat.toDigits 10 n ++ rest) = .ok (.int i, rest) := by
  have value : Numeral.toJson? ⟨negative, Nat.toDigits 10 n, [], none⟩ = some (.int i) := by
    rw [Numeral.toJson?, whole]
  rw [readNumber, Numeral.read_toDigits negative n ends]
  dsimp only [bind, Except.bind]
  rw [value]

/-- An integer of 64 bits is read back as it was printed. -/
lemma readAny_printInt (items : Reader (List Json)) (members : Reader (List (String × Json)))
    {i : Int} (low : -2 ^ 63 ≤ i) (high : i < 2 ^ 64) {rest : List Char} (ends : Ends rest) :
    readAny items members (printInt i ++ rest) = .ok (.int i, rest) := by
  by_cases negative : i < 0
  · have whole : Numeral.toInt? ⟨true, Nat.toDigits 10 i.natAbs, [], none⟩ = some i := by
      rw [Numeral.toInt?_toDigits, if_pos rfl, if_pos (by omega)]
      exact congrArg some (by omega)
    rw [printInt, if_pos negative]
    exact readNumber_toDigits whole ends
  · have whole : Numeral.toInt? ⟨false, Nat.toDigits 10 i.natAbs, [], none⟩ = some i := by
      rw [Numeral.toInt?_toDigits, if_neg Bool.false_ne_true, if_pos (by omega)]
      exact congrArg some (by omega)
    obtain ⟨first, later, digits, digit⟩ := exists_toDigits i.natAbs
    have other (c : Char) (sign : c.isDigit = false) : first ≠ c := ne_of_isDigit digit sign
    have number := readNumber_toDigits whole ends
    rw [digits] at number
    rw [printInt, if_neg negative, digits, readAny, List.cons_append,
      skipBlanks_of_solid (isBlank_of_isDigit digit)]
    dsimp only
    rw [if_neg (other _ rfl), if_neg (other _ rfl), if_neg (other _ rfl), if_neg (other _ rfl),
      if_pos digit]
    exact number

end Integers

/-- The first character of a value decides alike with any budget. -/
lemma exists_readValue_eq (n : Nat) : ∃ items members, readValue n = readAny items members := by
  cases n <;> exact ⟨_, _, rfl⟩

end Quire.Json
