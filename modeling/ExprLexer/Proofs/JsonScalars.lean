import ExprLexer.Json
import ExprLexer.Proofs.Decimals
import ExprLexer.Proofs.Quoting

/-!
JSON texts and numbers can be read back.

The readers take more than is ever printed: every escape in a text, and blanks of every kind.

* `Json.text?`, `Json.number?`, `Json.boolean?`: what stands at the front of some characters, with what
  follows it;
* `Json.text?_quote`: **a quoted text is read as that text**, whatever follows it;
* `Json.number?_toString`: **a number is read as that number**, unless a digit follows it.

An escape of four hexadecimal digits writes a number below `0x10000`.  The numbers from `0xd800` to
`0xdfff` are of no character: two of them in a row write one above that bound, and one of them alone is
refused.
-/

namespace ExprLexer.Json

open Toml (Reader prepend hexValue? charOfCode?)

/-! ### Blanks -/

/-- The blanks that may stand between the parts of a value. -/
def isBlank (c : Char) : Bool := c == ' ' || c == '\t' || c == '\n' || c == '\r'

/-- Skips blanks. -/
def skipBlanks (chars : List Char) : List Char := chars.dropWhile isBlank

theorem skipBlanks_append {blanks : List Char} (all : ∀ c ∈ blanks, isBlank c = true) {c : Char}
    (solid : isBlank c = false) (rest : List Char) : skipBlanks (blanks ++ c :: rest) = c :: rest := by
  rw [skipBlanks, List.dropWhile_append_of_pos all, List.dropWhile_cons_of_neg (by simp [solid])]

theorem isBlank_of_mem_margin {depth : Nat} {c : Char} (member : c ∈ margin depth) :
    isBlank c = true := by
  rw [List.eq_of_mem_replicate member]
  rfl

/-- A newline and the margin behind it are skipped. -/
theorem skipBlanks_newRow (depth : Nat) {c : Char} (solid : isBlank c = false) (rest : List Char) :
    skipBlanks ('\n' :: margin depth ++ c :: rest) = c :: rest :=
  skipBlanks_append (List.forall_mem_cons.mpr ⟨rfl, fun _ => isBlank_of_mem_margin⟩) solid rest

/-! ### Texts -/

/-- The number that four hexadecimal digits write. -/
def codeUnit? : Reader Nat
  | a :: b :: c :: d :: rest =>
    ([a, b, c, d].foldlM (fun unit digit => (hexValue? digit).map (16 * unit + ·)) 0).map (·, rest)
  | _ => none

/-- The character that a number read in front of some characters shows: its own, or together with a
second one behind it a character above `0xffff`. -/
def charOfUnits? (unit : Nat) (rest : List Char) : Option (Char × List Char) :=
  if 0xd800 ≤ unit ∧ unit < 0xdc00 then
    match rest with
    | '\\' :: 'u' :: low =>
      (codeUnit? low).bind fun (second, after) =>
        if 0xdc00 ≤ second ∧ second < 0xe000 then
          (charOfCode? (0x10000 + 0x400 * (unit - 0xd800) + (second - 0xdc00))).map (·, after)
        else none
    | _ => none
  else (charOfCode? unit).map (·, rest)

/-- The character that an escape shows, behind its backslash. -/
def escape? : Reader Char
  | '"' :: rest => some ('"', rest)
  | '\\' :: rest => some ('\\', rest)
  | '/' :: rest => some ('/', rest)
  | 'b' :: rest => some ('\x08', rest)
  | 'f' :: rest => some ('\x0c', rest)
  | 'n' :: rest => some ('\n', rest)
  | 'r' :: rest => some ('\r', rest)
  | 't' :: rest => some ('\t', rest)
  | 'u' :: rest => (codeUnit? rest).bind fun (unit, after) => charOfUnits? unit after
  | _ => none

theorem length_of_codeUnit? {chars rest : List Char} {unit : Nat}
    (read : codeUnit? chars = some (unit, rest)) : rest.length < chars.length := by
  unfold codeUnit? at read
  split at read
  · obtain ⟨number, -, same⟩ := Option.map_eq_some_iff.mp read
    obtain ⟨-, rfl⟩ := Prod.mk.inj same
    simp only [List.length_cons]
    omega
  · cases read

theorem length_of_charOfUnits? {unit : Nat} {chars rest : List Char} {c : Char}
    (read : charOfUnits? unit chars = some (c, rest)) : rest.length ≤ chars.length := by
  unfold charOfUnits? at read
  split at read
  · split at read
    · obtain ⟨⟨second, after⟩, low, found⟩ := Option.bind_eq_some_iff.mp read
      have shorter := length_of_codeUnit? low
      simp only at found
      split at found
      · obtain ⟨d, -, same⟩ := Option.map_eq_some_iff.mp found
        obtain ⟨-, rfl⟩ := Prod.mk.inj same
        simp only [List.length_cons]
        omega
      · cases found
    · cases read
  · obtain ⟨d, -, same⟩ := Option.map_eq_some_iff.mp read
    obtain ⟨-, rfl⟩ := Prod.mk.inj same
    exact Nat.le_refl _

/-- An escape takes at least one character. -/
theorem length_of_escape? {chars rest : List Char} {c : Char}
    (read : escape? chars = some (c, rest)) : rest.length < chars.length := by
  unfold escape? at read
  split at read
  case h_9 =>
    obtain ⟨⟨unit, after⟩, first, found⟩ := Option.bind_eq_some_iff.mp read
    have shorter := length_of_codeUnit? first
    have shorter' := length_of_charOfUnits? found
    simp only [List.length_cons]
    omega
  case h_10 => cases read
  all_goals
    obtain ⟨-, rfl⟩ := Prod.mk.inj (Option.some.inj read)
    simp

/-- The text behind a double quote, up to the next one. -/
def textTo? (chars : List Char) : Option (List Char × List Char) :=
  match chars with
  | [] => none
  | c :: rest =>
    if c = '"' then some ([], rest)
    else if c = '\\' then
      match _read : escape? rest with
      | some (escaped, after) => prepend escaped (textTo? after)
      | none => none
    else if c.toNat < 0x20 then none
    else prepend c (textTo? rest)
termination_by chars.length
decreasing_by
  · have shorter := length_of_escape? _read
    simp only [List.length_cons]
    omega
  · simp

/-- A text between double quotes. -/
def text? : Reader String
  | '"' :: rest => (textTo? rest).map fun (chars, after) => (String.ofList chars, after)
  | _ => none

/-- An escape by letter shows the character that has it. -/
theorem escape?_letter {c letter : Char} (short : shortEscape? c = some letter) (rest : List Char) :
    escape? (letter :: rest) = some (c, rest) := by
  unfold shortEscape? at short
  repeat
    split at short
    · next same =>
      obtain rfl := Option.some.inj short
      rw [same]
      rfl
  cases short

/-- An escape by number shows the control of that number. -/
theorem escape?_control {c : Char} (control : c.toNat < 0x20) (rest : List Char) :
    escape? ('u' :: '0' :: '0' :: Nat.digitChar (c.toNat / 16) :: Nat.digitChar (c.toNat % 16) :: rest)
      = some (c, rest) := by
  have high := Text.hexValue?_digitChar (c.toNat / 16) (by omega)
  have low := Text.hexValue?_digitChar (c.toNat % 16) (Nat.mod_lt _ (by decide))
  have unit : codeUnit? ('0' :: '0' :: Nat.digitChar (c.toNat / 16)
      :: Nat.digitChar (c.toNat % 16) :: rest) = some (c.toNat, rest) := by
    have zero : hexValue? '0' = some 0 := by decide
    simp only [codeUnit?, List.foldlM_cons, List.foldlM_nil, zero, high, low, Option.map_some,
      Option.bind_eq_bind, Option.bind_some, Option.pure_def, Option.some.injEq, Prod.mk.injEq,
      and_true]
    omega
  have valid : c.toNat.isValidChar := Or.inl (by omega)
  rw [escape?, unit]
  show charOfUnits? c.toNat rest = some (c, rest)
  unfold charOfUnits?
  rw [if_neg (by omega), charOfCode?, if_pos valid, Char.ofNat_toNat, Option.map_some]

theorem textTo?_escaped {c : Char} {chars rest : List Char}
    (read : escape? chars = some (c, rest)) :
    textTo? ('\\' :: chars) = prepend c (textTo? rest) := by
  rw [textTo?, if_neg (by decide), if_pos rfl]
  split
  · next escaped after found =>
    obtain ⟨rfl, rfl⟩ := Prod.mk.inj (Option.some.inj (read.symm.trans found))
    rfl
  · next missing =>
    rw [read] at missing
    cases missing

/-- What stands for a character between quotes is read as that character. -/
theorem textTo?_escape (c : Char) (rest : List Char) :
    textTo? (escape c ++ rest) = prepend c (textTo? rest) := by
  unfold escape
  split
  · next letter short => exact textTo?_escaped (escape?_letter short rest)
  · next plain =>
    split
    · next control => exact textTo?_escaped (escape?_control control rest)
    · next printed =>
      have noQuote : c ≠ '"' := by
        rintro rfl
        cases plain
      have noBackslash : c ≠ '\\' := by
        rintro rfl
        cases plain
      rw [List.singleton_append, textTo?, if_neg noQuote, if_neg noBackslash, if_neg printed]

theorem textTo?_escapes (chars rest : List Char) :
    textTo? (chars.flatMap escape ++ '"' :: rest) = some (chars, rest) := by
  induction chars with
  | nil => rw [List.flatMap_nil, List.nil_append, textTo?, if_pos rfl]
  | cons c chars ih =>
    rw [List.flatMap_cons, List.append_assoc, textTo?_escape, ih]
    rfl

/-- A quoted text is read as that text. -/
theorem text?_quote (value : String) (rest : List Char) :
    text? (quote value ++ rest) = some (value, rest) := by
  have behind : quote value ++ rest = '"' :: (value.toList.flatMap escape ++ '"' :: rest) := by
    simp [quote]
  rw [behind, text?, textTo?_escapes]
  exact congrArg (fun text => some (text, rest)) String.ofList_toList

/-! ### Numbers and truth values -/

/-- A whole number without a sign.  No other digit follows a zero at its front. -/
def natural? (chars : List Char) : Option (Nat × List Char) :=
  match chars.takeWhile Char.isDigit with
  | [] => none
  | '0' :: _ :: _ => none
  | digits => some (Nat.ofDigitChars 10 digits 0, chars.dropWhile Char.isDigit)

/-- A whole number. -/
def number? : Reader Int
  | '-' :: rest => (natural? rest).map fun (size, after) => (-(size : Int), after)
  | chars => (natural? chars).map fun (size, after) => ((size : Int), after)

/-- A truth value. -/
def boolean? : Reader Bool
  | 't' :: 'r' :: 'u' :: 'e' :: rest => some (true, rest)
  | 'f' :: 'a' :: 'l' :: 's' :: 'e' :: rest => some (false, rest)
  | _ => none

/-- No digit begins these characters. -/
def NoDigit (chars : List Char) : Prop := ∀ c ∈ chars.head?, c.isDigit = false

theorem noDigit_nil : NoDigit [] := fun _ member => nomatch member

theorem noDigit_cons {c : Char} (noDigit : c.isDigit = false) (rest : List Char) :
    NoDigit (c :: rest) := by
  rintro d member
  rwa [← Option.mem_some.mp member]

theorem takeWhile_of_noDigit {chars : List Char} (noDigit : NoDigit chars) :
    chars.takeWhile Char.isDigit = [] := by
  cases chars with
  | nil => rfl
  | cons c chars => exact List.takeWhile_cons_of_neg (by simp [noDigit c rfl])

theorem dropWhile_of_noDigit {chars : List Char} (noDigit : NoDigit chars) :
    chars.dropWhile Char.isDigit = chars := by
  cases chars with
  | nil => rfl
  | cons c chars => exact List.dropWhile_cons_of_neg (by simp [noDigit c rfl])

theorem natural?_toDigits (number : Nat) {rest : List Char} (noDigit : NoDigit rest) :
    natural? (Nat.toDigits 10 number ++ rest) = some (number, rest) := by
  have digits : ∀ c ∈ Nat.toDigits 10 number, c.isDigit = true :=
    fun _ => Nat.isDigit_of_mem_toDigits (by decide) (by decide)
  have span : (Nat.toDigits 10 number ++ rest).takeWhile Char.isDigit = Nat.toDigits 10 number := by
    rw [List.takeWhile_append_of_pos digits, takeWhile_of_noDigit noDigit, List.append_nil]
  have behind : (Nat.toDigits 10 number ++ rest).dropWhile Char.isDigit = rest := by
    rw [List.dropWhile_append_of_pos digits, dropWhile_of_noDigit noDigit]
  unfold natural?
  rw [span, behind]
  split
  · next none => exact absurd none Nat.toDigits_ne_nil
  · next second more leading =>
    -- two digits or more, so the number is positive
    have positive : 0 < number := by
      rw [Nat.pos_iff_ne_zero]
      rintro rfl
      cases leading
    exact absurd (by rw [leading]; rfl) (head?_toDigits positive)
  · rw [Nat.ofDigitChars_ten_toDigits]

theorem toList_ofNat (size : Nat) : (toString (Int.ofNat size)).toList = Nat.toDigits 10 size :=
  toList_toString size

theorem toList_negSucc (size : Nat) :
    (toString (Int.negSucc size)).toList = '-' :: Nat.toDigits 10 (size + 1) := by
  show ("-" ++ toString (size + 1)).toList = _
  rw [String.toList_append, toList_toString]
  rfl

theorem toString_eq_cons (value : Int) :
    ∃ c chars, (toString value).toList = c :: chars ∧ (c = '-' ∨ c.isDigit = true) := by
  cases value with
  | ofNat size =>
    obtain ⟨digit, more, spelled, isDigit⟩ := exists_toDigits_cons size
    exact ⟨digit, more, (toList_ofNat size).trans spelled, Or.inr isDigit⟩
  | negSucc size => exact ⟨'-', _, toList_negSucc size, Or.inl rfl⟩

/-- A whole number is read off the front of its digits. -/
theorem number?_toString (value : Int) {rest : List Char} (noDigit : NoDigit rest) :
    number? ((toString value).toList ++ rest) = some (value, rest) := by
  cases value with
  | ofNat size =>
    rw [toList_ofNat, number?]
    · rw [natural?_toDigits size noDigit]
      rfl
    · intro after minus
      obtain ⟨digit, more, spelled, isDigit⟩ := exists_toDigits_cons size
      rw [spelled, List.cons_append] at minus
      obtain ⟨rfl, -⟩ := List.cons.inj minus
      cases isDigit
  | negSucc size =>
    rw [toList_negSucc, List.cons_append, number?, natural?_toDigits (size + 1) noDigit]
    rfl

end ExprLexer.Json
