import ExprLexer.Unicode.ExtendingMark
import ExprLexer.Unicode.Unprintable

/-!
Texts and characters as quoted for a reader: every character that would not show as itself is
written by an escape.

* `quoteText`, `quoteChar`: a text in double quotes, a character in single quotes;
* `escape_plain`: a printing character that is no quote and no backslash shows as itself;
* `newline_not_mem_escape`: no escape holds a newline, so a quoted text is one line.
-/

namespace ExprLexer.Text

/-- Whether a character shows as itself. -/
def isPrintable (c : Char) : Bool := c == ' ' || !Unicode.unprintable.contains c

/-- A number in hexadecimal, in lower case. -/
def hexDigits (number : Nat) : List Char := Nat.toDigits 16 number

/-- A character written by its number. -/
def numericEscape (c : Char) : List Char := "\\u\x7b".toList ++ hexDigits c.toNat ++ ['\x7d']

/-- A character as it stands between two quotes of the kind `quote`.  Marks that would join the
character before them are written by number. -/
def escape (quote c : Char) : List Char :=
  if c = '\x00' then ['\\', '0']
  else if c = '\t' then ['\\', 't']
  else if c = '\n' then ['\\', 'n']
  else if c = '\r' then ['\\', 'r']
  else if c = '\\' ∨ c = quote then ['\\', c]
  else if Unicode.extendingMark.contains c || !isPrintable c then numericEscape c
  else [c]

/-- Some characters between two quotes. -/
def quoteWith (quote : Char) (chars : List Char) : String :=
  String.ofList (quote :: chars.flatMap (escape quote) ++ [quote])

/-- A text in double quotes. -/
def quoteText (text : String) : String := quoteWith '"' text.toList

/-- A character in single quotes. -/
def quoteChar (c : Char) : String := quoteWith '\'' [c]

/-- A printing character that is no quote and no backslash shows as itself. -/
theorem escape_plain {quote c : Char} (printable : isPrintable c = true)
    (alone : Unicode.extendingMark.contains c = false) (notQuote : c ≠ quote)
    (notEscaped : c ∉ ['\x00', '\t', '\n', '\r', '\\']) : escape quote c = [c] := by
  simp only [List.mem_cons, List.not_mem_nil, or_false, not_or] at notEscaped
  simp [escape, printable, alone, notQuote, notEscaped]

/-- The digits are among the sixteen. -/
theorem exists_of_mem_hexDigits {number : Nat} {c : Char} (member : c ∈ hexDigits number) :
    ∃ digit < 16, c = Nat.digitChar digit := by
  unfold hexDigits at member
  induction number using Nat.strongRecOn with
  | ind number ih =>
    rw [Nat.toDigits_eq_if (by decide)] at member
    split at member
    · next small => exact ⟨number, small, List.mem_singleton.mp member⟩
    · next large =>
      rcases List.mem_append.mp member with front | final
      · exact ih (number / 16) (Nat.div_lt_self (by omega) (by decide)) front
      · exact ⟨number % 16, Nat.mod_lt _ (by decide), List.mem_singleton.mp final⟩

theorem newline_not_mem_hexDigits (number : Nat) : '\n' ∉ hexDigits number := by
  intro member
  obtain ⟨digit, small, same⟩ := exists_of_mem_hexDigits member
  have differs : ∀ digit < 16, '\n' ≠ Nat.digitChar digit := by decide
  exact differs digit small same

/-- No escape holds a newline, so a quoted text is one line. -/
theorem newline_not_mem_escape {quote : Char} (notNewline : quote ≠ '\n') (c : Char) :
    '\n' ∉ escape quote c := by
  have digits := newline_not_mem_hexDigits c.toNat
  unfold escape
  repeat' split
  · decide
  · decide
  · decide
  · decide
  · next notThis _ special =>
    rcases special with rfl | rfl
    · decide
    · simpa using notNewline.symm
  · simpa [numericEscape] using digits
  · next notThis _ _ _ => simpa using Ne.symm notThis

end ExprLexer.Text
