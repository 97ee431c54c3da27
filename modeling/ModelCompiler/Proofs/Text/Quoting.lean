import Mathlib.Algebra.Group.Nat.Defs
import Mathlib.Data.List.Basic
import ModelCompiler.Code.Literal

/-!
# Reading quoted texts

Between double quotes a character stands for itself or is written as an escape.  Each character is
read back from what stands for it, whatever follows, so a whole text is read back by induction; and
a scanner takes what stands for a character as one step, so that it stops at the closing quote and
at no quote before it.
-/

namespace ModelCompiler

namespace Text

/-! ## Hexadecimal digits -/

theorem length_hexDigits (width n : Nat) : (hexDigits width n).length = width := by
  induction width generalizing n with
  | zero => rfl
  | succ width ih => simp [hexDigits, ih]

theorem hexDigit?_digitChar {d : Nat} (h : d < 16) : hexDigit? (Nat.digitChar d) = some d := by
  revert d
  decide

theorem digitsValue?_append (base : Nat) (cs : List Char) (c : Char) :
    digitsValue? base (cs ++ [c]) = (digitsValue? base cs).bind fun acc =>
      (hexDigit? c).bind fun d => if d < base then some (acc * base + d) else none := by
  rw [digitsValue?, List.foldlM_append]
  simp [digitsValue?, bind]

theorem digitsValue?_hexDigits (width n : Nat) :
    digitsValue? 16 (hexDigits width n) = some (n % 16 ^ width) := by
  induction width generalizing n with
  | zero => simp [hexDigits, digitsValue?, Nat.mod_one]
  | succ width ih =>
    have small : n % 16 < 16 := Nat.mod_lt n (by decide)
    have value : n / 16 % 16 ^ width * 16 + n % 16 = n % 16 ^ (width + 1) := by
      rw [Nat.pow_succ', Nat.mod_mul]
      omega
    rw [hexDigits, digitsValue?_append, ih, hexDigit?_digitChar small, Option.bind_some,
      Option.bind_some, if_pos small, value]

theorem digitsValue?_of_lt {width n : Nat} (h : n < 16 ^ width) :
    digitsValue? 16 (hexDigits width n) = some n := by
  rw [digitsValue?_hexDigits, Nat.mod_eq_of_lt h]

/-! ## What stands for a character -/

/-- The ways in which a character is written. -/
inductive Escaped (c : Char) : List Char → Prop
  | mark (h : c = '"' ∨ c = '\\') : Escaped c ['\\', c]
  | itself (notQuote : c ≠ '"') (notSlash : c ≠ '\\') (printed : isPrintable c) : Escaped c [c]
  | control {l : Char} (h : (c, l) ∈ controlLetters) : Escaped c ['\\', l]
  | byte (h : c.toNat < 0x80) : Escaped c ('\\' :: 'x' :: hexDigits 2 c.toNat)
  | short (h : c.toNat < 0x10000) : Escaped c ('\\' :: 'u' :: hexDigits 4 c.toNat)
  | long : Escaped c ('\\' :: 'U' :: hexDigits 8 c.toNat)

theorem Escaped.length_pos {c : Char} {e : List Char} (h : Escaped c e) : 0 < e.length := by
  cases h <;> exact Nat.zero_lt_succ _

theorem escaped_escape (c : Char) : Escaped c (escape c) := by
  rw [escape]
  by_cases marked : c = '"' ∨ c = '\\'
  · rw [if_pos marked]
    exact .mark marked
  rw [if_neg marked]
  by_cases printed : isPrintable c
  · rw [if_pos printed]
    exact .itself (fun h => marked (.inl h)) (fun h => marked (.inr h)) printed
  rw [if_neg printed]
  cases letter : controlLetters.lookup c with
  | some l =>
    obtain ⟨before, after, split, -⟩ := List.lookup_eq_some_iff.1 letter
    exact .control (by simp [split])
  | none =>
    dsimp only
    by_cases ascii : c.toNat < 0x20 ∨ c.toNat = 0x7f
    · rw [if_pos ascii]
      exact .byte (by omega)
    rw [if_neg ascii]
    by_cases narrow : c.toNat < 0x10000
    · rw [if_pos narrow]
      exact .short narrow
    · rw [if_neg narrow]
      exact .long

/-! ## Reading back -/

theorem utf8Bytes_of_ascii {c : Char} (h : c.toNat < 0x80) : utf8Bytes c = [c.toNat.toUInt8] := by
  have all : ∀ n < 0x80, utf8Bytes (Char.ofNat n) = [n.toUInt8] := by decide +kernel
  rw [← all c.toNat h, Char.ofNat_toNat]

/-- The digits of a character are read back. -/
theorem numericEscape?_hexDigits {count : Nat} {c : Char} (h : c.toNat < 16 ^ count)
    (cs : List Char) : numericEscape? 16 count false (hexDigits count c.toNat ++ cs) =
      some (utf8Bytes c, cs) := by
  have valid : c.toNat.isValidChar := c.valid
  simp [numericEscape?, length_hexDigits, digitsValue?_of_lt h, valid]

theorem numericEscape?_byte {c : Char} (h : c.toNat < 0x80) (cs : List Char) :
    numericEscape? 16 2 true (hexDigits 2 c.toNat ++ cs) = some (utf8Bytes c, cs) := by
  have small : c.toNat < 256 := by omega
  have digits : c.toNat < 16 ^ 2 := small
  simp [numericEscape?, length_hexDigits, digitsValue?_of_lt digits, small,
    utf8Bytes_of_ascii h]

/-- What stands for a character is read back as the bytes of the character. -/
theorem literalBytes?_escaped {c : Char} {e : List Char} (h : Escaped c e) (fuel : Nat)
    (cs : List Char) :
    literalBytes? (fuel + 1) (e ++ cs) = (literalBytes? fuel cs).map (utf8Bytes c ++ ·) := by
  -- an escape is read back if what follows its backslash is
  have unescaped {l : List Char} (read : unescape? (l ++ cs) = some (utf8Bytes c, cs)) :
      literalBytes? (fuel + 1) ('\\' :: l ++ cs) =
        (literalBytes? fuel cs).map (utf8Bytes c ++ ·) := by
    rw [List.cons_append, literalBytes?, if_neg (by decide), if_pos rfl, read]
    simp only [Option.bind_eq_bind, Option.bind_some]
    cases literalBytes? fuel cs <;> rfl
  cases h with
  | mark h =>
    refine unescaped (l := [c]) ?_
    rw [List.singleton_append, unescape?, if_pos h.symm]
  | itself notQuote notSlash printed =>
    have notEnd : c ≠ '\n' := by
      rintro rfl
      revert printed
      decide +kernel
    rw [List.singleton_append, literalBytes?, if_neg (not_or.2 ⟨notQuote, notEnd⟩),
      if_neg notSlash]
    cases literalBytes? fuel cs <;> rfl
  | control h =>
    rename_i l
    refine unescaped (l := [l]) ?_
    have table : ∀ p ∈ controlLetters,
        ¬(p.2 = '\\' ∨ p.2 = '"') ∧ controlLetters.find? (·.2 = p.2) = some p := by decide
    obtain ⟨plain, found⟩ := table _ h
    rw [List.singleton_append, unescape?, if_neg plain, found]
  | byte h =>
    refine unescaped ?_
    rw [List.cons_append, unescape?, if_neg (by decide)]
    exact numericEscape?_byte h cs
  | short h =>
    refine unescaped ?_
    rw [List.cons_append, unescape?, if_neg (by decide)]
    have narrow : c.toNat < 16 ^ 4 := h
    exact numericEscape?_hexDigits narrow cs
  | long =>
    refine unescaped ?_
    have wide : c.toNat < 16 ^ 8 := c.val.toNat_lt
    rw [List.cons_append, unescape?, if_neg (by decide)]
    exact numericEscape?_hexDigits wide cs

theorem length_le_flatMap_escape (cs : List Char) : cs.length ≤ (cs.flatMap escape).length := by
  induction cs with
  | nil => exact Nat.le_refl 0
  | cons c cs ih =>
    have written := (escaped_escape c).length_pos
    rw [List.flatMap_cons, List.length_cons, List.length_append]
    omega

theorem literalBytes?_flatMap_escape {fuel : Nat} {cs : List Char} (h : cs.length ≤ fuel) :
    literalBytes? fuel (cs.flatMap escape) = some (cs.flatMap utf8Bytes) := by
  induction cs generalizing fuel with
  | nil => simp [literalBytes?]
  | cons c cs ih =>
    obtain ⟨fuel, rfl⟩ := Nat.exists_eq_add_one_of_ne_zero (Nat.ne_zero_of_lt h)
    rw [List.flatMap_cons, literalBytes?_escaped (escaped_escape c),
      ih (Nat.le_of_succ_le_succ h)]
    rfl

/-! ## Bytes and texts -/

theorem toList_loop_eq (bytes : ByteArray) (i : Nat) (read : List UInt8) :
    ByteArray.toList.loop bytes i read = read.reverse ++ bytes.data.toList.drop i := by
  induction i, read using ByteArray.toList.loop.induct bytes with
  | case1 i read more ih =>
    have inside : i < bytes.data.toList.length := by simpa using more
    have byte : bytes.get! i = bytes.data.toList[i] := getElem!_pos bytes.data i more
    rw [ByteArray.toList.loop, if_pos more, ih, List.drop_eq_getElem_cons inside, byte]
    simp
  | case2 i read done =>
    have outside : bytes.data.toList.length ≤ i := by simpa using done
    rw [ByteArray.toList.loop, if_neg done, List.drop_eq_nil_of_le outside, List.append_nil]

theorem utf8Bytes_eq (c : Char) : utf8Bytes c = String.utf8EncodeChar c := by
  rw [utf8Bytes, ByteArray.toList, toList_loop_eq, String.toUTF8_eq_toByteArray,
    String.toByteArray_singleton]
  simp [List.utf8Encode]

theorem flatMap_utf8Bytes (s : String) :
    (s.toList.flatMap utf8Bytes).toByteArray = s.toByteArray := by
  rw [funext utf8Bytes_eq]
  exact s.utf8Encode_toList

theorem fromUTF8?_toByteArray (s : String) : String.fromUTF8? s.toByteArray = some s := by
  rw [String.fromUTF8?, dif_pos s.isValidUTF8]
  rfl

/-- The text that a double-quoted literal stands for. -/
def unquote? : List Char → Option String
  | '"' :: more => (readLiteral? (String.ofList more.dropLast)).bind fun bytes =>
    String.fromUTF8? bytes.toByteArray
  | _ => none

theorem toList_quote (s : String) : (quote s).toList = '"' :: s.toList.flatMap escape ++ ['"'] := by
  rw [quote, String.toList_ofList]

/-- A text that has been quoted is read back. -/
theorem unquote?_quote (s : String) : unquote? (quote s).toList = some s := by
  rw [toList_quote, List.cons_append, unquote?, List.dropLast_concat, readLiteral?,
    String.toList_ofList, literalBytes?_flatMap_escape (length_le_flatMap_escape _),
    Option.bind_some, flatMap_utf8Bytes, fromUTF8?_toByteArray]

end Text

/-! ## Scanning -/

namespace Code

open Text (Escaped escape hexDigits digitsValue?)

theorem quotedBody?_append (quote : Char) (e cs : List Char) (count : Nat) (seen : List Char) :
    quotedBody? quote e.length count seen (e ++ cs) =
      quotedBody? quote 0 count (e.reverse ++ seen) cs := by
  induction e generalizing seen with
  | nil => rfl
  | cons c e ih =>
    rw [List.length_cons, List.cons_append, quotedBody?, ih, List.reverse_cons, List.append_assoc]
    rfl

theorem digitsLength?_hexDigits {count limit : Nat} {c : Char} (fits : c.toNat < 16 ^ count)
    (allowed : c.toNat ≤ limit) (cs : List Char) :
    digitsLength? 16 count limit (hexDigits count c.toNat ++ cs) = some count := by
  have valid : c.toNat.isValidChar := c.valid
  have character : ¬(limit < c.toNat ∨ (0xD800 ≤ c.toNat ∧ c.toNat < 0xE000)) := by
    rcases valid with h | h <;> omega
  simp [digitsLength?, Text.length_hexDigits, Text.digitsValue?_of_lt fits, character]

theorem escapeLength?_mark {l : Char} (h : l = '"' ∨ "abfnrtv\\".toList.contains l)
    (cs : List Char) : escapeLength? '"' (l :: cs) = some 1 := by
  rw [escapeLength?, if_pos h]

/-- A scanner passes over what stands for a character. -/
theorem quotedBody?_escaped {c : Char} {e : List Char} (h : Escaped c e) (count : Nat)
    (seen cs : List Char) :
    quotedBody? '"' 0 count seen (e ++ cs) =
      quotedBody? '"' 0 (count + 1) (e.reverse ++ seen) cs := by
  -- an escape is passed over if its length is known
  have passed {l : List Char} (length : escapeLength? '"' (l ++ cs) = some l.length) :
      quotedBody? '"' 0 count seen ('\\' :: l ++ cs) =
        quotedBody? '"' 0 (count + 1) (('\\' :: l).reverse ++ seen) cs := by
    rw [List.cons_append, quotedBody?, if_neg (by decide), if_neg (by decide), if_pos rfl, length,
      List.reverse_cons, List.append_assoc]
    exact quotedBody?_append '"' l cs (count + 1) ('\\' :: seen)
  have bounded : c.toNat ≤ 0x10FFFF := by
    have valid : c.toNat.isValidChar := c.valid
    rcases valid with h | h <;> omega
  cases h with
  | mark h =>
    refine passed (l := [c]) (escapeLength?_mark (h.imp_right ?_) cs)
    rintro rfl
    decide +kernel
  | itself notQuote notSlash printed =>
    have notEnd : c ≠ '\n' := by
      rintro rfl
      revert printed
      decide +kernel
    rw [List.singleton_append, quotedBody?, if_neg notEnd, if_neg notQuote, if_neg notSlash]
    rfl
  | control h =>
    rename_i l
    have table : ∀ p ∈ Text.controlLetters, "abfnrtv\\".toList.contains p.2 := by decide +kernel
    exact passed (l := [l]) (escapeLength?_mark (.inr (table _ h)) cs)
  | byte h =>
    refine passed ?_
    have fits : c.toNat < 16 ^ 2 := Nat.lt_trans h (by decide)
    rw [List.cons_append, escapeLength?, if_neg (by decide +kernel), if_neg (by decide),
      if_pos rfl, digitsLength?_hexDigits fits (by omega), List.length_cons,
      Text.length_hexDigits]
    rfl
  | short h =>
    refine passed ?_
    have narrow : c.toNat < 16 ^ 4 := h
    rw [List.cons_append, escapeLength?, if_neg (by decide +kernel), if_neg (by decide),
      if_neg (by decide), if_pos rfl, digitsLength?_hexDigits narrow bounded,
      List.length_cons, Text.length_hexDigits]
    rfl
  | long =>
    refine passed ?_
    have wide : c.toNat < 16 ^ 8 := c.val.toNat_lt
    rw [List.cons_append, escapeLength?, if_neg (by decide +kernel), if_neg (by decide),
      if_neg (by decide), if_neg (by decide), if_pos rfl, digitsLength?_hexDigits wide bounded,
      List.length_cons, Text.length_hexDigits]
    rfl

theorem quotedBody?_flatMap_escape (cs rest : List Char) (count : Nat) (seen : List Char) :
    quotedBody? '"' 0 count seen (cs.flatMap escape ++ '"' :: rest) =
      some (seen.reverse ++ cs.flatMap escape ++ ['"'], count + cs.length, rest) := by
  induction cs generalizing count seen with
  | nil =>
    rw [List.flatMap_nil, List.nil_append, quotedBody?, if_neg (by decide), if_pos rfl]
    simp
  | cons c cs ih =>
    rw [List.flatMap_cons, List.append_assoc, quotedBody?_escaped (Text.escaped_escape c), ih]
    simp [Nat.add_assoc, Nat.add_comm 1]

/-- What has been quoted is one literal, whatever follows it. -/
theorem literal?_quote (s : String) (rest : List Char) :
    literal? ((Text.quote s).toList ++ rest) =
      some (some (.text, (Text.quote s).toList, rest)) := by
  have body := quotedBody?_flatMap_escape s.toList rest 0 ['"']
  have scanned : quoted? '"' (s.toList.flatMap escape ++ '"' :: rest) =
      some (.text, '"' :: s.toList.flatMap escape ++ ['"'], rest) := by
    rw [quoted?, body]
    rfl
  rw [Text.toList_quote, List.cons_append, List.cons_append, literal?, List.append_assoc,
    List.singleton_append, scanned]
  rfl

end Code

end ModelCompiler
