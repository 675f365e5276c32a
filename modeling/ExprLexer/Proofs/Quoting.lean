import ExprLexer.Proofs.LongestLexeme
import ExprLexer.Text.Quoted
import ExprLexer.Toml.Text

/-!
Quoted texts can be read back.

* `Text.hexNumber`: the number that hexadecimal digits write, and `Text.hexNumber_hexDigits`: the digits
  of a number write that number;
* `Text.unescape?`: the character that the front of a quoted text shows;
* `Text.unescape?_escape`: **every escape shows the character it was made of**, whatever follows it;
* `Text.quoteWith_injective`: different texts are quoted differently.

Every escape begins with a backslash, and no other character of a quoted text is one.  Which escape it
is shows at the next character: the escapes by number have braces, those by letter are two characters
long.
-/

namespace ExprLexer.Text

/-! ### Hexadecimal numbers -/

/-- The number that hexadecimal digits write. -/
def hexNumber (digits : List Char) : Nat :=
  digits.foldl (fun number c => 16 * number + (Toml.hexValue? c).getD 0) 0

theorem hexValue?_digitChar : ∀ digit < 16, Toml.hexValue? (Nat.digitChar digit) = some digit := by
  decide

/-- The digits of a number write that number. -/
theorem hexNumber_hexDigits (number : Nat) : hexNumber (hexDigits number) = number := by
  unfold hexDigits
  induction number using Nat.strongRecOn with
  | ind number ih =>
    rw [Nat.toDigits_eq_if (by decide)]
    split
    · next small =>
      rw [hexNumber, List.foldl_cons, List.foldl_nil, hexValue?_digitChar number small,
        Option.getD_some]
      omega
    · next large =>
      have front := ih (number / 16) (Nat.div_lt_self (by omega) (by decide))
      rw [hexNumber] at front
      rw [hexNumber, List.foldl_append, front, List.foldl_cons, List.foldl_nil,
        hexValue?_digitChar _ (Nat.mod_lt _ (by decide)), Option.getD_some]
      omega

theorem brace_not_mem_hexDigits (number : Nat) : '\x7d' ∉ hexDigits number := by
  intro member
  obtain ⟨digit, small, same⟩ := exists_of_mem_hexDigits member
  have differs : ∀ digit < 16, '\x7d' ≠ Nat.digitChar digit := by decide
  exact differs digit small same

/-! ### Escapes -/

/-- The character that a letter behind a backslash shows: itself, if it names none. -/
def named (letter : Char) : Char :=
  if letter = '0' then '\x00'
  else if letter = 't' then '\t'
  else if letter = 'n' then '\n'
  else if letter = 'r' then '\r'
  else letter

/-- The character that the front of a quoted text shows, with what follows. -/
def unescape? : List Char → Option (Char × List Char)
  | [] => none
  | '\\' :: 'u' :: '\x7b' :: rest =>
    some (Char.ofNat (hexNumber (rest.takeWhile (· != '\x7d'))),
      (rest.dropWhile (· != '\x7d')).tail)
  | '\\' :: letter :: rest => some (named letter, rest)
  | c :: rest => some (c, rest)

theorem unescape?_letter {letter : Char} (plain : letter ≠ 'u') (rest : List Char) :
    unescape? ('\\' :: letter :: rest) = some (named letter, rest) := by
  rw [unescape?]
  exact fun _ same _ => plain same

theorem unescape?_plain {c : Char} (plain : c ≠ '\\') (rest : List Char) :
    unescape? (c :: rest) = some (c, rest) := by
  rw [unescape?]
  · exact fun _ same _ => plain same
  · exact fun _ _ same _ => plain same

/-- An escape by number shows the character of that number. -/
theorem unescape?_numericEscape (c : Char) (rest : List Char) :
    unescape? (numericEscape c ++ rest) = some (c, rest) := by
  have whole : numericEscape c ++ rest
      = '\\' :: 'u' :: '\x7b' :: (hexDigits c.toNat ++ '\x7d' :: rest) := by
    simp [numericEscape]
  have digits := all_ne_of_not_mem (brace_not_mem_hexDigits c.toNat)
  rw [whole, unescape?, takeWhile_of_stop digits (by simp), hexNumber_hexDigits, Char.ofNat_toNat,
    List.dropWhile_append_of_pos digits, List.dropWhile_cons_of_neg (by simp), List.tail_cons]

/-- **Every escape shows the character it was made of.** -/
theorem unescape?_escape {quote : Char} (quotes : CharClass.isQuote quote = true) (c : Char)
    (rest : List Char) : unescape? (escape quote c ++ rest) = some (c, rest) := by
  unfold escape
  split
  · next same => rw [same]; rfl
  split
  · next same => rw [same]; rfl
  split
  · next same => rw [same]; rfl
  split
  · next same => rw [same]; rfl
  split
  · next special =>
    -- a backslash or a quote, neither of which is the letter of an escape
    have letters : c ≠ 'u' ∧ named c = c := by
      unfold CharClass.isQuote at quotes
      rw [Bool.or_eq_true, beq_iff_eq, beq_iff_eq] at quotes
      rcases special with rfl | rfl
      · decide
      · rcases quotes with rfl | rfl <;> decide
    rw [List.cons_append, List.cons_append, unescape?_letter letters.1, letters.2]
    rfl
  · next ordinary =>
    split
    · exact unescape?_numericEscape c rest
    · exact unescape?_plain (fun same => ordinary (Or.inl same)) rest

theorem flatMap_escape_injective {quote : Char} (quotes : CharClass.isQuote quote = true)
    {chars others : List Char}
    (same : chars.flatMap (escape quote) = others.flatMap (escape quote)) : chars = others := by
  have shows : ∀ c rest, unescape? ((c :: rest).flatMap (escape quote))
      = some (c, rest.flatMap (escape quote)) := by
    intro c rest
    rw [List.flatMap_cons, unescape?_escape quotes]
  induction chars generalizing others with
  | nil =>
    cases others with
    | nil => rfl
    | cons d others =>
      have first := shows d others
      rw [← same] at first
      cases first
  | cons c chars ih =>
    have first := shows c chars
    rw [same] at first
    cases others with
    | nil => cases first
    | cons d others =>
      rw [shows, Option.some.injEq, Prod.mk.injEq] at first
      obtain ⟨rfl, rest⟩ := first
      rw [ih rest.symm]

/-- Different texts are quoted differently. -/
theorem quoteWith_injective {quote : Char} (quotes : CharClass.isQuote quote = true)
    {chars others : List Char} (same : quoteWith quote chars = quoteWith quote others) :
    chars = others := by
  have shown := congrArg String.toList same
  rw [quoteWith, quoteWith, String.toList_ofList, String.toList_ofList] at shown
  exact flatMap_escape_injective quotes
    (List.append_cancel_right (List.cons.inj shown).2)

end ExprLexer.Text
