import ExprLexer.Proofs.FirstFault
import ExprLexer.Proofs.Separation

/-!
Reading a text made of two, with blanks between them.

* `Token.Quotes`: the characters that stand between the quotes of a token;
* `ShiftedBy`: the same outcome further on in a text;
* `Lexing.shift`: what is read before a text only moves its outcome;
* `Lexing.append_blanks`: **a lexing that comes to the end of its text goes on behind blanks**;
* `tokenize_append_blanks`: **two texts with blanks between them are read one after the other**.

The lexing must come to the end of the first text.  It does unless a token start there ends the
input, and no character between quotes is a token start (`index_le_of_tokenStart`).
-/

namespace ExprLexer

open CharClass Grammar

/-! ### The same outcome further on -/

/-- An outcome and the same one further on: the kinds or the cause are the same, and every index is
larger by `count`. -/
inductive ShiftedBy (count : Nat) :
    Except LexError (List Token) → Except LexError (List Token) → Prop
  | ok {tokens moved : List Token}
      (each : List.Forall₂ (fun token later => later.kind = token.kind
        ∧ later.pos.index = token.pos.index + count) tokens moved) :
      ShiftedBy count (.ok tokens) (.ok moved)
  | error {error moved : LexError} (cause : moved.cause = error.cause)
      (index : moved.pos.index = error.pos.index + count) :
      ShiftedBy count (.error error) (.error moved)

theorem Pos.index_after_append (front read : List Char) :
    (Pos.after (front ++ read)).index = (Pos.after read).index + front.length := by
  show (front ++ read).length = read.length + front.length
  rw [List.length_append, Nat.add_comm]

/-- What is read before a text only moves its outcome. -/
theorem Lexing.shift {read chars : List Char} {outcome : Except LexError (List Token)}
    (lexing : Lexing read chars outcome) (front : List Char) :
    ∃ moved, ShiftedBy front.length outcome moved ∧ Lexing (front ++ read) chars moved := by
  induction lexing with
  | exhausted skips =>
    refine ⟨_, ?_, .exhausted skips⟩
    rw [List.append_assoc]
    exact .ok (.cons ⟨rfl, Pos.index_after_append front _⟩ .nil)
  | sentinel skips ends =>
    refine ⟨_, ?_, .sentinel skips ends⟩
    simp only [List.append_assoc]
    exact .ok (.cons ⟨rfl, Pos.index_after_append front _⟩ .nil)
  | token skips goesOn lexeme sound later ih =>
    obtain ⟨moved, shifted, further⟩ := ih
    rw [← List.append_assoc, ← List.append_assoc] at further
    refine ⟨_, ?_, .token skips goesOn lexeme sound further⟩
    simp only [List.append_assoc]
    cases shifted with
    | ok each => exact .ok (.cons ⟨rfl, Pos.index_after_append front _⟩ each)
    | error cause index => exact .error cause index
  | fault skips faulty =>
    refine ⟨_, ?_, .fault skips faulty⟩
    simp only [List.append_assoc]
    exact .error rfl (Pos.index_after_append front _)

/-! ### Going on behind blanks -/

/-- **A lexing that comes to the end of its text goes on behind blanks.** -/
theorem Lexing.append_blanks {read chars : List Char} {outcome : Except LexError (List Token)}
    (lexing : Lexing read chars outcome) :
    ∀ tokens, outcome = .ok tokens →
      (∀ before solid, TokenStart read chars before solid →
        ∀ c ∈ solid.head?, isEndOfInput c = false) →
      ∃ earlier final, tokens = earlier ++ [final] ∧ final.isEnd = true
        ∧ ∀ gap back later, gap ≠ [] → (∀ c ∈ gap, isBlank c = true) →
          Lexing (read ++ chars ++ gap) back later →
          Lexing read (chars ++ gap ++ back) (later.map (earlier ++ ·)) := by
  induction lexing with
  | @exhausted read chars blanks skips =>
    intro tokens done _
    obtain rfl := Except.ok.inj done
    refine ⟨[], _, rfl, rfl, fun gap back later _ blank further => ?_⟩
    have allBlank : ∀ c ∈ chars ++ gap, isBlank c = true := by
      have whole := skips.whole
      rw [List.append_nil] at whole
      exact List.forall_mem_append.mpr ⟨whole ▸ skips.blank, blank⟩
    have same : later.map ([] ++ ·) = later := by cases later <;> rfl
    rw [same]
    rw [List.append_assoc] at further
    exact .of_blanks allBlank further
  | sentinel skips ends =>
    intro tokens done goesOn
    rw [goesOn _ _ (.here skips) _ rfl] at ends
    cases ends
  | @token read chars blanks solid spelling rest c kind outcome skips goesOn lexeme sound _ ih =>
    intro tokens done starts
    cases outcome with
    | error error => cases done
    | ok others =>
      obtain rfl := Except.ok.inj done
      obtain ⟨earlier, final, rfl, ends, further⟩ :=
        ih others rfl fun before solid start => starts before solid (.later skips goesOn lexeme start)
      refine ⟨⟨kind, Pos.after (read ++ blanks ++ spelling)⟩ :: earlier, final, rfl, ends, ?_⟩
      intro gap back later some blank behind
      obtain ⟨b, gap, rfl⟩ := List.exists_cons_of_ne_nil some
      -- the first lexeme is read as before, and what follows it by induction
      have reads := Reads.append_blank ⟨lexeme, sound⟩ (blank b List.mem_cons_self) (gap ++ back)
      have before : read ++ chars = read ++ blanks ++ spelling ++ rest := by
        rw [← skips.whole, ← lexeme.whole]
        simp only [List.append_assoc]
      rw [before] at behind
      have continued := further (b :: gap) back later some blank behind
      rw [List.append_assoc rest, List.cons_append] at continued
      have text : chars ++ b :: gap ++ back = blanks ++ (c :: solid ++ b :: (gap ++ back)) := by
        rw [← skips.whole]
        simp only [List.append_assoc, List.cons_append]
      have mapped : later.map ((⟨kind, Pos.after (read ++ blanks ++ spelling)⟩ :: earlier) ++ ·)
          = (later.map (earlier ++ ·)).map
              (⟨kind, Pos.after (read ++ blanks ++ spelling)⟩ :: ·) := by
        cases later <;> rfl
      rw [text, mapped]
      exact .of_blanks skips.blank (.reads reads continued)
  | fault skips faulty =>
    intro tokens done
    cases done

/-! ### Characters between quotes -/

/-- The character with `index` others before it stands between the quotes of the token. -/
def Token.Quotes (token : Token) (index : Nat) : Prop :=
  ∃ text, token.kind = .stringLiteral text
    ∧ token.pos.index ≤ index + 1 + text.length ∧ index + 1 < token.pos.index

/-- Every token of a text ends before a token start that ends the input. -/
theorem index_le_of_tokenStart {read chars : List Char} {outcome : Except LexError (List Token)}
    (lexing : Lexing read chars outcome) :
    ∀ tokens, outcome = .ok tokens → ∀ before c rest, TokenStart read chars before (c :: rest) →
      isEndOfInput c = true →
      ∀ token ∈ tokens, token.isEnd = false → token.pos.index ≤ before.length := by
  induction lexing with
  | exhausted skips =>
    intro tokens done before c rest start ends token member more
    obtain rfl := Except.ok.inj done
    obtain rfl := List.mem_singleton.mp member
    cases more
  | sentinel skips ends =>
    intro tokens done before c rest start ends token member more
    obtain rfl := Except.ok.inj done
    obtain rfl := List.mem_singleton.mp member
    cases more
  | @token _ _ _ _ _ _ _ _ outcome skips goesOn lexeme sound later ih =>
    intro tokens done before c rest start ends token member more
    rcases start.split skips with ⟨-, same⟩ | ⟨d, after, kind, spelling, behind, same, -, next, start⟩
    · obtain ⟨rfl, -⟩ := List.cons.inj same
      simp [goesOn] at ends
    · rw [← same] at next
      obtain ⟨rfl, rfl, rfl⟩ := lexeme.unique next
      cases outcome with
      | error error => cases done
      | ok others =>
        obtain rfl := Except.ok.inj done
        rcases List.mem_cons.mp member with rfl | later
        · exact start.length_le
        · exact ih others rfl before c rest start ends token later more
  | fault skips faulty =>
    intro tokens done
    cases done

/-- No token start ends the input if the characters that could do so stand between quotes. -/
theorem goesOn_of_quoted {chars : List Char} {tokens : List Token}
    (lexing : Lexing [] chars (.ok tokens))
    (quoted : ∀ index c, chars[index]? = some c → isEndOfInput c = true →
      ∃ token ∈ tokens, token.Quotes index)
    (before solid : List Char) (start : TokenStart [] chars before solid) :
    ∀ c ∈ solid.head?, isEndOfInput c = false := by
  intro c first
  obtain ⟨rest, rfl⟩ := List.head?_eq_some_iff.mp first
  cases ends : isEndOfInput c with
  | false => rfl
  | true =>
    have whole : before ++ c :: rest = chars := start.whole
    have found : chars[before.length]? = some c := by simp [← whole]
    obtain ⟨token, member, text, kind, -, inside⟩ := quoted _ c found ends
    have more : token.isEnd = false := by
      rw [Token.isEnd, kind]
      rfl
    have bounded := index_le_of_tokenStart lexing tokens rfl before c rest start ends token member more
    omega

/-! ### Two texts -/

/-- **Two texts with blanks between them are read one after the other.**  The characters that could
end the input stand between quotes in the first text.  Then its tokens come first, without the end of
the input, and behind them the outcome of the second text, further on by the characters before
it. -/
theorem tokenize_append_blanks {front gap : String} {tokens : List Token}
    (done : tokenize front = .ok tokens)
    (quoted : ∀ index c, front.toList[index]? = some c → isEndOfInput c = true →
      ∃ token ∈ tokens, token.Quotes index)
    (nonempty : gap ≠ "") (blank : ∀ c ∈ gap.toList, isBlank c = true) (back : String) :
    ∃ earlier final moved, tokens = earlier ++ [final] ∧ final.isEnd = true
      ∧ ShiftedBy (front ++ gap).length (tokenize back) moved
      ∧ tokenize (front ++ gap ++ back) = moved.map (earlier ++ ·) := by
  have lexing : Lexing [] front.toList (.ok tokens) := lexing_tokenize_iff.mpr done
  obtain ⟨earlier, final, whole, ends, further⟩ :=
    lexing.append_blanks tokens rfl (goesOn_of_quoted lexing quoted)
  obtain ⟨moved, shifted, behind⟩ := (lexing_tokenize back).shift (front ++ gap).toList
  rw [String.length_toList] at shifted
  rw [List.append_nil, String.toList_append] at behind
  refine ⟨earlier, final, moved, whole, ends, shifted, ?_⟩
  rw [← lexing_tokenize_iff, String.toList_append, String.toList_append]
  exact further gap.toList back.toList moved (mt String.toList_eq_nil_iff.mp nonempty)
    blank behind

/-- A quoted NUL ends nothing, and the operators do not run into each other. -/
theorem tokenize_append_blanks_quoted :
    tokenize "'\x00'+"
        = .ok [⟨.stringLiteral "\x00", ⟨3, 1, 3⟩⟩, ⟨.operator .add, ⟨4, 1, 4⟩⟩,
            ⟨.endOfInput '\x00', ⟨4, 1, 4⟩⟩]
      ∧ ∃ earlier final moved, [⟨.stringLiteral "\x00", ⟨3, 1, 3⟩⟩, ⟨.operator .add, ⟨4, 1, 4⟩⟩,
            ⟨.endOfInput '\x00', ⟨4, 1, 4⟩⟩] = earlier ++ [final] ∧ final.isEnd = true
          ∧ ShiftedBy 5 (tokenize "+ 'b") moved
          ∧ tokenize "'\x00'+\n+ 'b" = moved.map (earlier ++ ·) := by
  have done : tokenize "'\x00'+"
      = .ok [⟨.stringLiteral "\x00", ⟨3, 1, 3⟩⟩, ⟨.operator .add, ⟨4, 1, 4⟩⟩,
          ⟨.endOfInput '\x00', ⟨4, 1, 4⟩⟩] := by
    rw [tokenize_eq_take]
    decide +kernel
  refine ⟨done, @tokenize_append_blanks _ "\n" _ done ?_ (by decide)
    (List.forall_mem_singleton.mpr (by decide)) "+ 'b"⟩
  intro index c found ends
  have found : ['\'', '\x00', '\'', '+'][index]? = some c := found
  match index with
  | 0 =>
    obtain rfl := Option.some.inj found
    exact absurd ends (by decide)
  | 1 => exact ⟨_, List.mem_cons_self, "\x00", rfl, by decide, by decide⟩
  | 2 =>
    obtain rfl := Option.some.inj found
    exact absurd ends (by decide)
  | 3 =>
    obtain rfl := Option.some.inj found
    exact absurd ends (by decide)
  | index + 4 => cases found

end ExprLexer
