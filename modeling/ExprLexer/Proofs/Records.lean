import ExprLexer.Proofs.JsonReading
import ExprLexer.Proofs.PlainRows

/-!
JSON output loses nothing but the character that ended the input.

* `Token.RecordedAs`: an object holds what there is to say of a token, and nothing else;
* `Token.recordedAs_record`: the record of a token does;
* `Token.masked`: a token without the character that ended the input, which no record holds;
* `Token.RecordedAs.unique`: **an object is the record of one token alone**, up to that character;
* `json_lossless`: **the output is the JSON of one record for each token**, and equal outputs are of
  equal tokens.

The text of a token does not tell what it is: the identifier `e` and the string `"e"` have the same.  Its
name does, since the six names begin with different letters, and the text tells the rest.
-/

namespace ExprLexer

namespace Json

/-- The keys of an object, in order. -/
def keys? : Json → Option (List String)
  | object fields => some (fields.map (·.1))
  | _ => none

/-- What an object holds under some key. -/
def field? (key : String) : Json → Option Json
  | object fields => (fields.find? fun field => field.1 == key).map (·.2)
  | _ => none

end Json

/-- An object holds what there is to say of a token, and nothing else.  The last two keys are there for
an operator alone. -/
structure Token.RecordedAs (token : Token) (record : Json) : Prop where
  keys : record.keys? = some (["kind", "text", "index", "line", "column"]
    ++ if token.operator?.isSome then ["precedence", "left_assoc"] else [])
  kind : record.field? "kind" = some (.text token.kind.name)
  text : record.field? "text" = some (.text token.kind.recordText)
  index : record.field? "index" = some (.number token.pos.index)
  line : record.field? "line" = some (.number token.pos.line)
  column : record.field? "column" = some (.number token.pos.column)
  precedence : record.field? "precedence"
    = token.operator?.map fun op => .number op.precedence.level
  leftAssoc : record.field? "left_assoc" = token.operator?.map fun op => .boolean op.leftAssoc

/-- A name and a text tell the kind, up to the character that ended the input. -/
theorem TokenKind.masked_of_recordText {first second : TokenKind} (names : first.name = second.name)
    (texts : first.recordText = second.recordText) : first.masked = second.masked := by
  have letters := congrArg (fun name => name.toList.head?) names
  cases sameName_of_head? letters with
  | endOfInput c d => rfl
  | delimiter c d =>
    have chars := congrArg String.toList texts
    rw [recordText, recordText, String.toList_singleton, String.toList_singleton] at chars
    rw [List.singleton_inj.mp chars]
  | identifier text other => exact congrArg identifier texts
  | stringLiteral text other => exact congrArg stringLiteral texts
  | numberLiteral text other => exact congrArg numberLiteral texts
  | operator op other => rw [Operator.symbol_injective (String.ofList_inj.mp texts)]

namespace Token

theorem recordedAs_record (token : Token) : token.RecordedAs token.record := by
  cases found : token.operator? with
  | none => constructor <;> simp [record, Json.keys?, Json.field?, found]
  | some op =>
    constructor <;> simp [record, Json.keys?, Json.field?, Operator.recordFields, found]

/-- The token without the character that ended the input. -/
def masked (token : Token) : Token := ⟨token.kind.masked, token.pos⟩

/-- **An object is the record of one token alone**, up to the character that ended the input. -/
theorem RecordedAs.unique {first second : Token} {record : Json} (one : first.RecordedAs record)
    (two : second.RecordedAs record) : first.masked = second.masked := by
  have kinds := Option.some.inj (one.kind.symm.trans two.kind)
  have texts := Option.some.inj (one.text.symm.trans two.text)
  have indices := Option.some.inj (one.index.symm.trans two.index)
  have lines := Option.some.inj (one.line.symm.trans two.line)
  have columns := Option.some.inj (one.column.symm.trans two.column)
  have kind := TokenKind.masked_of_recordText (Json.text.inj kinds) (Json.text.inj texts)
  obtain ⟨kind, index, line, column⟩ := first
  obtain ⟨kind', index', line', column'⟩ := second
  obtain rfl := Int.ofNat.inj (Json.number.inj indices)
  obtain rfl := Int.ofNat.inj (Json.number.inj lines)
  obtain rfl := Int.ofNat.inj (Json.number.inj columns)
  exact congrArg (Token.mk · _) kind

end Token

/-- **JSON output loses nothing but the character that ended the input.**  It is the JSON of a list that
holds one record for each token, in order.  Equal outputs come from as many tokens, of the same kinds and
texts and from the same positions. -/
theorem json_lossless (tokens : List Token) (positions : Bool) :
    (∃ records, Json.decode? (Rendering.render ⟨.json, positions⟩ tokens) = some (.list records)
        ∧ List.Forall₂ Token.RecordedAs tokens records)
    ∧ ∀ (others : List Token) (positions' : Bool),
      Rendering.render ⟨.json, positions⟩ tokens = Rendering.render ⟨.json, positions'⟩ others →
      tokens.map Token.masked = others.map Token.masked := by
  constructor
  · refine ⟨tokens.map Token.record, Json.decode?_pretty _, ?_⟩
    rw [List.forall₂_map_right_iff, List.forall₂_same]
    exact fun token _ => token.recordedAs_record
  · intro others positions' same
    have records := Json.list.inj (Json.pretty_injective same)
    rw [← List.forall₂_eq_eq_eq, List.forall₂_map_left_iff, List.forall₂_map_right_iff] at records ⊢
    refine records.imp fun token other shared => ?_
    exact token.recordedAs_record.unique (shared ▸ other.recordedAs_record)

/-- Text that looks like JSON is printed as text, and the character that ended the input is not. -/
theorem json_lossless_quoted :
    Rendering.render ⟨.json, true⟩
        [⟨.stringLiteral "\",\n\"", ⟨5, 2, 2⟩⟩, ⟨.endOfInput '\x00', ⟨5, 2, 2⟩⟩]
      = Rendering.render ⟨.json, false⟩
        [⟨.stringLiteral "\",\n\"", ⟨5, 2, 2⟩⟩, ⟨.endOfInput '\x03', ⟨5, 2, 2⟩⟩]
    ∧ [Token.mk (.stringLiteral "\",\n\"") ⟨5, 2, 2⟩, ⟨.endOfInput '\x00', ⟨5, 2, 2⟩⟩].map Token.masked
      = [Token.mk (.stringLiteral "\",\n\"") ⟨5, 2, 2⟩, ⟨.endOfInput '\x03', ⟨5, 2, 2⟩⟩].map
        Token.masked :=
  ⟨rfl, (json_lossless _ true).2 _ false rfl⟩

end ExprLexer
