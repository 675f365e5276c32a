import ExprLexer.Proofs.Decimals
import ExprLexer.Proofs.Draining
import ExprLexer.Proofs.Quoting
import ExprLexer.Proofs.RoundTrip
import Mathlib.Data.List.Forall2

/-!
Plain output can be told apart: it has one row for each token, and the rows show the tokens.

* `TokenKind.masked`: a kind without the character that ended the input, which no row shows;
* `TokenKind.describe_inj`: **different kinds are described differently**;
* `Token.ShownAlike`: two tokens agree in what a row shows, and `Token.shownAlike_of_row`: those of equal
  rows do;
* `Token.newline_not_mem_row`: **the row of a token that can be read is one line**;
* `wellFormed_of_comesTo`: every token read before a stop is well formed;
* `splitOn_render`: the lines of plain output are the rows of its tokens;
* `render_plain_inj`: **plain output determines the tokens** up to what no row shows.

The six descriptions begin with different letters.  Of the kinds with a text of any characters, strings
and delimiters are quoted; identifiers, numbers and operators hold no break.
-/

namespace ExprLexer

open CharClass Grammar

/-! ### Kinds -/

/-- The kind without the character that ended the input. -/
def TokenKind.masked : TokenKind → TokenKind
  | .endOfInput _ => .endOfInput endOfText
  | kind => kind

namespace TokenKind

theorem head?_describe (kind : TokenKind) : kind.describe.toList.head? = kind.name.toList.head? := by
  cases kind <;> simp [describe, name]

theorem describe_ne_nil (kind : TokenKind) : kind.describe.toList ≠ [] := by
  cases kind <;> simp [describe]

/-- Two kinds of one name. -/
inductive SameName : TokenKind → TokenKind → Prop
  | endOfInput (c d : Char) : SameName (.endOfInput c) (.endOfInput d)
  | delimiter (c d : Char) : SameName (.delimiter c) (.delimiter d)
  | identifier (text other : String) : SameName (.identifier text) (.identifier other)
  | stringLiteral (text other : String) : SameName (.stringLiteral text) (.stringLiteral other)
  | numberLiteral (text other : String) : SameName (.numberLiteral text) (.numberLiteral other)
  | operator (op other : Operator) : SameName (.operator op) (.operator other)

/-- The names of the kinds begin with different letters. -/
theorem sameName_of_head? {first second : TokenKind}
    (letters : first.name.toList.head? = second.name.toList.head?) : SameName first second := by
  cases first <;> cases second <;> simp [name] at letters <;> constructor

/-- **Different kinds are described differently.** -/
theorem describe_inj {first second : TokenKind} (same : first.describe = second.describe) :
    first.masked = second.masked := by
  have letters : first.name.toList.head? = second.name.toList.head? := by
    rw [← head?_describe, ← head?_describe, same]
  cases sameName_of_head? letters with
  | endOfInput c d => rfl
  | delimiter c d =>
    have quoted := Text.quoteWith_injective (by decide) ((String.append_right_inj _).mp same)
    rw [List.singleton_inj.mp quoted]
  | identifier text other => rw [(String.append_right_inj _).mp same]
  | stringLiteral text other =>
    have quoted := Text.quoteWith_injective (by decide) ((String.append_right_inj _).mp same)
    rw [String.toList_inj.mp quoted]
  | numberLiteral text other => rw [(String.append_right_inj _).mp same]
  | operator op other =>
    have symbols := (String.append_right_inj _).mp same
    rw [Operator.symbol_injective (String.ofList_inj.mp symbols)]

theorem newline_not_mem_quoteWith {quote : Char} (quotes : isQuote quote = true)
    (chars : List Char) : '\n' ∉ (Text.quoteWith quote chars).toList := by
  have notNewline : quote ≠ '\n' := by
    rintro rfl
    exact absurd quotes (by decide)
  have escapes := Text.newline_not_mem_escape notNewline
  rw [Text.quoteWith, String.toList_ofList]
  simp [escapes, notNewline.symm]

theorem newline_not_mem_of_solid {chars : List Char} (solid : Solid chars) : '\n' ∉ chars :=
  fun member => absurd (solid '\n' member) (by decide)

/-- The description of a kind that can be read is one line. -/
theorem newline_not_mem_describe {kind : TokenKind} (readable : kind.isEnd = true ∨ kind.WellFormed) :
    '\n' ∉ kind.describe.toList := by
  cases kind with
  | endOfInput c =>
    show '\n' ∉ "end of input".toList
    decide
  | delimiter c =>
    rw [describe, String.toList_append]
    exact List.not_mem_append (by decide) (newline_not_mem_quoteWith (by decide) [c])
  | identifier text =>
    obtain ends | ⟨-, continues⟩ := readable
    · cases ends
    · rw [describe, String.toList_append]
      exact List.not_mem_append (by decide)
        (newline_not_mem_of_solid fun c member => isBreak_of_identContinue (continues c member))
  | stringLiteral text =>
    rw [describe, String.toList_append]
    exact List.not_mem_append (by decide) (newline_not_mem_quoteWith (by decide) text.toList)
  | numberLiteral text =>
    obtain ends | number := readable
    · cases ends
    · rw [describe, String.toList_append]
      exact List.not_mem_append (by decide) (newline_not_mem_of_solid (Number.solid number))
  | operator op =>
    have symbol : op.lexeme.toList = op.symbol := String.toList_ofList
    rw [describe, String.toList_append, symbol]
    exact List.not_mem_append (by decide) (newline_not_mem_of_solid (solid_symbol op))

end TokenKind

/-! ### Rows -/

/-- What stands before a separator is found again. -/
theorem append_cons_inj {separator : Char} {front front' back back' : List Char}
    (absent : separator ∉ front) (absent' : separator ∉ front')
    (same : front ++ separator :: back = front' ++ separator :: back') :
    front = front' ∧ back = back' := by
  have fronts := congrArg (List.takeWhile (· != separator)) same
  rw [takeWhile_of_stop (all_ne_of_not_mem absent) (by simp),
    takeWhile_of_stop (all_ne_of_not_mem absent') (by simp)] at fronts
  subst fronts
  exact ⟨rfl, (List.cons.inj (List.append_cancel_left same)).2⟩

theorem Pos.toList_describe (pos : Pos) :
    pos.describe.toList = Nat.toDigits 10 pos.line ++ ':' :: Nat.toDigits 10 pos.column := by
  simp only [Pos.describe, String.toList_append, toList_toString, List.append_assoc]
  rfl

/-- A position shows its line and its column. -/
theorem Pos.describe_inj {pos other : Pos} (same : pos.describe.toList = other.describe.toList) :
    pos.line = other.line ∧ pos.column = other.column := by
  rw [toList_describe, toList_describe] at same
  obtain ⟨lines, columns⟩ := append_cons_inj (not_mem_toDigits (by decide) _)
    (not_mem_toDigits (by decide) _) same
  exact ⟨toDigits_inj lines, toDigits_inj columns⟩

theorem Pos.not_mem_describe {c : Char} (noDigit : c.isDigit = false) (noColon : c ≠ ':')
    (pos : Pos) : c ∉ pos.describe.toList := by
  rw [toList_describe]
  refine List.not_mem_append (not_mem_toDigits noDigit _) ?_
  exact List.not_mem_cons_of_ne_of_not_mem noColon (not_mem_toDigits noDigit _)

namespace Token

theorem toList_row_true (token : Token) :
    (token.row true).toList = token.pos.describe.toList ++ '\t' :: token.describe.toList := by
  rw [row, if_pos rfl, String.toList_append, String.toList_append, List.append_assoc]
  rfl

/-- The tokens agree in what a row shows: the kind, and with its position the line and the column. -/
structure ShownAlike (positions : Bool) (token other : Token) : Prop where
  kind : token.kind.masked = other.kind.masked
  line : positions = true → token.pos.line = other.pos.line
  column : positions = true → token.pos.column = other.pos.column

/-- Tokens of equal rows are alike. -/
theorem shownAlike_of_row {token other : Token} {positions : Bool}
    (same : (token.row positions).toList = (other.row positions).toList) :
    ShownAlike positions token other := by
  cases positions with
  | false => exact ⟨TokenKind.describe_inj (String.toList_inj.mp same), nofun, nofun⟩
  | true =>
    rw [toList_row_true, toList_row_true] at same
    obtain ⟨places, kinds⟩ := append_cons_inj (Pos.not_mem_describe (by decide) (by decide) _)
      (Pos.not_mem_describe (by decide) (by decide) _) same
    obtain ⟨lines, columns⟩ := Pos.describe_inj places
    exact ⟨TokenKind.describe_inj (String.toList_inj.mp kinds), fun _ => lines, fun _ => columns⟩

/-- **The row of a token that can be read is one line.** -/
theorem newline_not_mem_row {token : Token}
    (readable : token.isEnd = true ∨ token.kind.WellFormed) (positions : Bool) :
    '\n' ∉ (token.row positions).toList := by
  have described := TokenKind.newline_not_mem_describe readable
  cases positions with
  | false => exact described
  | true =>
    rw [toList_row_true]
    refine List.not_mem_append (Pos.not_mem_describe (by decide) (by decide) _) ?_
    exact List.not_mem_cons_of_ne_of_not_mem (by decide) described

theorem row_ne_nil (token : Token) (positions : Bool) : (token.row positions).toList ≠ [] := by
  cases positions with
  | false => exact token.kind.describe_ne_nil
  | true =>
    rw [toList_row_true]
    exact List.append_ne_nil_of_right_ne_nil _ (List.cons_ne_nil _ _)

end Token

/-! ### Tokens that can be read -/

/-- Every token read before a stop is well formed. -/
theorem wellFormed_of_comesTo (read : List Char) {chars : List Char} {earlier : List Token}
    {stop : Except LexError Token} (comes : Scanner.ComesTo ⟨.behind read chars, none⟩ earlier stop) :
    ∀ token ∈ earlier, token.kind.WellFormed := by
  generalize stands : (⟨.behind read chars, none⟩ : Scanner) = scanner at comes
  induction comes generalizing read chars with
  | ended scanned ends => exact List.forall_mem_nil _
  | failed scanned => exact List.forall_mem_nil _
  | @token scanner token earlier stop scanned more later ih =>
    subst stands
    rw [Scanner.scan] at scanned ih
    have outcome := scanned_scanFrom read chars
    generalize Scanner.scanFrom (.behind read chars) = result at outcome scanned ih
    cases outcome with
    | exhausted skips =>
      obtain rfl := Except.ok.inj scanned
      cases more
    | sentinel skips ends =>
      obtain rfl := Except.ok.inj scanned
      cases more
    | token skips goesOn lexeme sound =>
      obtain rfl := Except.ok.inj scanned
      exact List.forall_mem_cons.mpr ⟨(spells_iff.mp lexeme.spells).1, ih _ rfl⟩
    | fault skips faulty => cases scanned

/-- Every token collected ends the input or is well formed. -/
theorem readable_of_collected {text : String} {limit : Nat} {tokens : List Token}
    (collected : collectTokens text limit = .ok tokens) :
    ∀ token ∈ tokens, token.isEnd = true ∨ token.kind.WellFormed := by
  obtain ⟨earlier, stop, comes⟩ := Scanner.exists_comesTo (Scanner.ofString text)
  have wellFormed : ∀ token ∈ earlier, token.isEnd = true ∨ token.kind.WellFormed :=
    fun token member => Or.inr (wellFormed_of_comesTo [] comes token member)
  rw [collectTokens_of_comesTo comes] at collected
  split at collected
  · obtain rfl := Except.ok.inj collected
    exact fun token member => wellFormed token (List.mem_of_mem_take member)
  · cases stop with
    | error error => cases collected
    | ok final =>
      obtain rfl := Except.ok.inj collected
      exact List.forall_mem_append.mpr
        ⟨wellFormed, List.forall_mem_singleton.mpr (Or.inl comes.isEnd)⟩

theorem ne_nil_of_collected {text : String} {limit : Nat} {tokens : List Token}
    (collected : collectTokens text limit = .ok tokens) (some : 1 ≤ limit) : tokens ≠ [] := by
  obtain ⟨earlier, stop, comes⟩ := Scanner.exists_comesTo (Scanner.ofString text)
  rw [collectTokens_of_comesTo comes] at collected
  split at collected
  · next short =>
    obtain rfl := Except.ok.inj collected
    rw [← List.length_pos_iff, List.length_take]
    omega
  · cases stop with
    | error error => cases collected
    | ok final =>
      obtain rfl := Except.ok.inj collected
      simp

/-! ### Plain output -/

/-- The lines of plain output are the rows of its tokens. -/
theorem splitOn_render {tokens : List Token} (some : tokens ≠ [])
    (readable : ∀ token ∈ tokens, token.isEnd = true ∨ token.kind.WellFormed) (positions : Bool) :
    (Rendering.render ⟨.plain, positions⟩ tokens).toList.splitOn '\n'
      = tokens.map fun token => (token.row positions).toList := by
  have rows : (Rendering.render ⟨.plain, positions⟩ tokens).toList
      = List.intercalate ['\n'] (tokens.map fun token => (token.row positions).toList) := by
    rw [Rendering.render, String.toList_intercalate, List.map_map]
    rfl
  rw [rows, List.splitOn_intercalate]
  · exact List.forall_mem_map.mpr fun token member =>
      Token.newline_not_mem_row (readable token member) positions
  · exact mt List.map_eq_nil_iff.mp some

/-- Plain output is empty for no tokens alone. -/
theorem render_ne_nil {tokens : List Token} (some : tokens ≠ [])
    (readable : ∀ token ∈ tokens, token.isEnd = true ∨ token.kind.WellFormed) (positions : Bool) :
    (Rendering.render ⟨.plain, positions⟩ tokens).toList ≠ [] := by
  intro none
  have rows := splitOn_render some readable positions
  rw [none, List.splitOn_nil] at rows
  cases tokens with
  | nil => exact some rfl
  | cons token tokens =>
    obtain ⟨row, -⟩ := List.cons.inj rows
    exact token.row_ne_nil positions row.symm

/-- **Plain output determines the tokens** up to what no row shows. -/
theorem render_plain_inj {tokens others : List Token} {positions : Bool}
    (readable : ∀ token ∈ tokens, token.isEnd = true ∨ token.kind.WellFormed)
    (readable' : ∀ token ∈ others, token.isEnd = true ∨ token.kind.WellFormed)
    (same : Rendering.render ⟨.plain, positions⟩ tokens
      = Rendering.render ⟨.plain, positions⟩ others) :
    List.Forall₂ (Token.ShownAlike positions) tokens others := by
  have shown := congrArg String.toList same
  rcases eq_or_ne tokens [] with rfl | some
  · rcases eq_or_ne others [] with rfl | some'
    · exact .nil
    · exact absurd shown.symm (render_ne_nil some' readable' positions)
  rcases eq_or_ne others [] with rfl | some'
  · exact absurd shown (render_ne_nil some readable positions)
  have rows := congrArg (List.splitOn '\n') shown
  rw [splitOn_render some readable, splitOn_render some' readable', ← List.forall₂_eq_eq_eq,
    List.forall₂_map_left_iff, List.forall₂_map_right_iff] at rows
  exact rows.imp fun _ _ => Token.shownAlike_of_row

/-- **Plain output is unambiguous.**  Output of at least one token has one line for each token: its row.
Equal outputs come from as many tokens, of the same kinds and texts, and with positions from the same
lines and columns; only the characters that ended the input may differ. -/
theorem plain_unambiguous {text : String} {limit : Nat} {tokens : List Token}
    (collected : collectTokens text limit = .ok tokens) (positions : Bool) :
    (1 ≤ limit → (Rendering.render ⟨.plain, positions⟩ tokens).toList.splitOn '\n'
      = tokens.map fun token => (token.row positions).toList)
    ∧ ∀ (text' : String) (limit' : Nat) (others : List Token),
      collectTokens text' limit' = .ok others →
      Rendering.render ⟨.plain, positions⟩ tokens = Rendering.render ⟨.plain, positions⟩ others →
      List.Forall₂ (Token.ShownAlike positions) tokens others := by
  have readable := readable_of_collected collected
  refine ⟨fun some => ?_, fun text' limit' others collected' same => ?_⟩
  · exact splitOn_render (ne_nil_of_collected collected some) readable positions
  · exact render_plain_inj readable (readable_of_collected collected') same

/-- A string that holds a newline is shown on one line, and the row of the end is the same whichever
character ended the input. -/
theorem plain_unambiguous_newline :
    (Rendering.render ⟨.plain, false⟩
        [⟨.stringLiteral "\n", ⟨3, 2, 1⟩⟩, ⟨.endOfInput '\x00', ⟨3, 2, 1⟩⟩]).toList.splitOn '\n'
      = ["string \"\\n\"".toList, "end of input".toList]
    ∧ List.Forall₂ (Token.ShownAlike false)
      [⟨.stringLiteral "\n", ⟨3, 2, 1⟩⟩, ⟨.endOfInput '\x00', ⟨3, 2, 1⟩⟩]
      [⟨.stringLiteral "\n", ⟨3, 2, 1⟩⟩, ⟨.endOfInput '\x03', ⟨4, 2, 2⟩⟩] := by
  have collected : collectTokens "'\n'" 2
      = .ok [⟨.stringLiteral "\n", ⟨3, 2, 1⟩⟩, ⟨.endOfInput '\x00', ⟨3, 2, 1⟩⟩] := by
    decide +kernel
  have unambiguous := plain_unambiguous collected false
  refine ⟨(unambiguous.1 (by decide)).trans (by decide +kernel), ?_⟩
  have collected' : collectTokens "'\n'\x03" 2
      = .ok [⟨.stringLiteral "\n", ⟨3, 2, 1⟩⟩, ⟨.endOfInput '\x03', ⟨4, 2, 2⟩⟩] := by
    decide +kernel
  exact unambiguous.2 _ _ _ collected' rfl

end ExprLexer
