import ExprLexer.Proofs.Comments

/-!
Comments change nothing of what is read.

* `Toml.Steady`: a reader finds the same with and without comments, and leaves less than so much;
  `Steady.bind`, `Steady.behind`: readers joined and chosen between;
* `Toml.Alike`: the same for names, where any quotes may follow, as nothing is read behind those;
* `Toml.steady_keyEquals?`, `Toml.steady_valueTo?`, `Toml.steady_statement?`: **keys, values and rows are read
  alike with and without comments**;
* `Toml.statements?_withoutComments`: **a document has the rows that it has without its comments**.
-/

namespace ExprLexer.Toml

variable {α β : Type}

/-- The same was read with comments and without, and less than so much is left. -/
inductive Steady (bound : Nat) : Option (α × List Char) → Option (α × List Char) → Prop
  | none : Steady bound none none
  | some {rest : List Char} (found : α) (short : rest.length < bound) :
      Steady bound (some (found, rest)) (some (found, withoutComments rest))

namespace Steady

variable {bound bound' : Nat} {read read' : Option (α × List Char)}

theorem short {found : α} {rest : List Char} (steady : Steady bound (.some (found, rest)) read') :
    rest.length < bound := by
  cases steady with
  | some _ short => exact short

theorem mono (steady : Steady bound read read') (within : bound ≤ bound') : Steady bound' read read' := by
  cases steady with
  | none => exact .none
  | some found short => exact .some found (short.trans_le within)

theorem map (steady : Steady bound read read') (change : α → β) :
    Steady bound (read.map fun (found, rest) => (change found, rest))
      (read'.map fun (found, rest) => (change found, rest)) := by
  cases steady with
  | none => exact .none
  | some found short => exact .some _ short

theorem bind {next : α × List Char → Option (β × List Char)} (steady : Steady bound read read')
    (later : ∀ found rest, rest.length < bound →
      Steady bound' (next (found, rest)) (next (found, withoutComments rest))) :
    Steady bound' (read.bind next) (read'.bind next) := by
  cases steady with
  | none => exact .none
  | some found short => exact later found _ short

/-- A choice by the first character. -/
theorem behind {c : Char} (ordinary : IsOrdinary c) {chars : List Char}
    {next next' : List Char → Option (α × List Char)}
    (front : ∀ rest, rest.length < chars.length → Steady bound (next rest) (next' (withoutComments rest)))
    (other : Steady bound read read') :
    Steady bound ((behind? c chars).elim read next)
      ((behind? c (withoutComments chars)).elim read' next') := by
  rw [behind?_withoutComments ordinary]
  cases found : behind? c chars with
  | none => exact other
  | some rest => exact front rest (length_behind? found)

end Steady

/-! ### Texts -/

theorem quoted?_eq_none {chars : List Char} (noQuote : chars.head?.any isQuote = false) :
    quoted? chars = none := by
  unfold quoted?
  split
  case h_5 => rfl
  all_goals cases noQuote

/-- What a text in quotes is followed by may lose its comments. -/
theorem steady_quoted? (chars : List Char) :
    Steady chars.length (quoted? chars) (quoted? (withoutComments chars)) := by
  cases front : chars.head?.any isQuote with
  | false =>
    rw [quoted?_eq_none front, quoted?_eq_none ((any_isQuote_withoutComments chars).trans front)]
    exact .none
  | true =>
    obtain ⟨c, rest, rfl, quotes⟩ := exists_of_any_head? front
    cases read : quoted? (c :: rest) with
    | none =>
      rw [withoutComments_broken quotes read, read]
      exact .none
    | some found =>
      obtain ⟨text, after⟩ := found
      have short := length_of_quoted? read
      obtain ⟨taken, whole, first, reads⟩ := exists_of_quoted? read
      rw [whole] at read ⊢
      rw [withoutComments_quoted first read, reads _ fun _ => head?_of_withoutComments]
      exact .some text (whole ▸ short)

/-! ### Keys -/

/-- The same was read with comments and without, or else quotes follow in either case: a name takes two of
three quotes, and nothing that may follow a name begins with the third. -/
inductive Alike (bound : Nat) : Option (α × List Char) → Option (α × List Char) → Prop
  | steady {read read' : Option (α × List Char)} (steady : Steady bound read read') : Alike bound read read'
  | quote {quote : Char} {rest : List Char} (quotes : isQuote quote = true) (found : α)
      (short : (quote :: rest).length < bound) (rest' : List Char) :
      Alike bound (some (found, quote :: rest)) (some (found, quote :: rest'))

namespace Alike

variable {bound bound' : Nat} {read read' : Option (α × List Char)}

theorem short {found : α} {rest : List Char} (alike : Alike bound (some (found, rest)) read') :
    rest.length < bound := by
  cases alike with
  | steady steady => exact steady.short
  | quote _ _ short => exact short

theorem mono (alike : Alike bound read read') (within : bound ≤ bound') : Alike bound' read read' := by
  cases alike with
  | steady steady => exact .steady (steady.mono within)
  | quote quotes found short rest' => exact .quote quotes found (short.trans_le within) rest'

theorem map (alike : Alike bound read read') (change : α → β) :
    Alike bound (read.map fun (found, rest) => (change found, rest))
      (read'.map fun (found, rest) => (change found, rest)) := by
  cases alike with
  | steady steady => exact .steady (steady.map change)
  | quote quotes found short rest' => exact .quote quotes _ short rest'

theorem bind {next : α × List Char → Option (β × List Char)} (alike : Alike bound read read')
    (later : ∀ found rest, rest.length < bound →
      Alike bound' (next (found, rest)) (next (found, withoutComments rest)))
    (quoted : ∀ found quote rest rest', isQuote quote = true → (quote :: rest).length < bound →
      Alike bound' (next (found, quote :: rest)) (next (found, quote :: rest'))) :
    Alike bound' (read.bind next) (read'.bind next) := by
  cases alike with
  | steady steady =>
    cases steady with
    | none => exact .steady .none
    | some found short => exact later found _ short
  | quote quotes found short rest' => exact quoted found _ _ rest' quotes short

/-- Where nothing is read behind quotes, no quotes are left. -/
theorem bind_steady {next : α × List Char → Option (β × List Char)} (alike : Alike bound read read')
    (later : ∀ found rest, rest.length < bound →
      Steady bound' (next (found, rest)) (next (found, withoutComments rest)))
    (ends : ∀ found quote rest, isQuote quote = true → next (found, quote :: rest) = none) :
    Steady bound' (read.bind next) (read'.bind next) := by
  cases alike with
  | steady steady => exact steady.bind later
  | quote quotes found short rest' =>
    rw [Option.bind_some, Option.bind_some, ends _ _ _ quotes, ends _ _ _ quotes]
    exact .none

end Alike

/-- Quotes that nothing follows close nothing. -/
theorem quoted?_quotes {quote : Char} (quotes : isQuote quote = true) :
    quoted? [quote] = none ∧ quoted? [quote, quote, quote] = none := by
  have long : longText? quote [] = none := by rw [longText?]
  rw [isQuote, Bool.or_eq_true, beq_iff_eq, beq_iff_eq] at quotes
  rcases quotes with rfl | rfl
  · refine ⟨?_, long⟩
    show basicText? [] = none
    rw [basicText?]
  · exact ⟨rfl, long⟩

/-- Three quotes stay in front. -/
theorem exists_withoutComments_quotes {quote : Char} (quotes : isQuote quote = true) (rest : List Char) :
    ∃ more, withoutComments (quote :: quote :: quote :: rest) = quote :: quote :: quote :: more := by
  cases read : quoted? (quote :: quote :: quote :: rest) with
  | none => exact ⟨rest, withoutComments_broken quotes read⟩
  | some found =>
    obtain ⟨text, after⟩ := found
    obtain ⟨taken, whole, first, reads⟩ := exists_of_quoted? read
    rw [whole] at read ⊢
    rw [withoutComments_quoted first read]
    obtain ⟨one, three⟩ := quoted?_quotes quotes
    match taken with
    | [] =>
      obtain ⟨_, first, -⟩ := first
      cases first
    | [a] =>
      obtain ⟨rfl, -⟩ := List.cons.inj whole
      cases one.symm.trans (reads [] nofun)
    | [a, b] =>
      obtain ⟨rfl, second⟩ := List.cons.inj whole
      obtain ⟨rfl, third⟩ := List.cons.inj second
      have again := reads [quote] fun _ _ same => (congrArg List.head? third).symm.trans same
      cases three.symm.trans again
    | a :: b :: c :: more =>
      obtain ⟨rfl, second⟩ := List.cons.inj whole
      obtain ⟨rfl, third⟩ := List.cons.inj second
      obtain ⟨rfl, -⟩ := List.cons.inj third
      exact ⟨more ++ withoutComments after, rfl⟩

section Quoted

variable {quote : Char} {reader : Reader (List Char)}
  (quotes : isQuote quote = true)
  (key : ∀ rest, keyName? (quote :: rest)
    = (reader rest).map fun (text, after) => (String.ofList text, after))
  (closes : ∀ rest, reader (quote :: rest) = some ([], rest))
  (short : ∀ rest, (∀ later, rest ≠ quote :: quote :: later) → quoted? (quote :: rest) = reader rest)
  (front : ∀ chars text rest, reader chars = some (text, rest) → TakesFront reader chars text rest)

include quotes key closes short front

/-- A name in quotes of one row is the same without comments behind it; three quotes are no name. -/
theorem alike_keyName?_quoted (rest : List Char) :
    Alike ((quote :: rest).length + 1) (keyName? (quote :: rest))
      (keyName? (withoutComments (quote :: rest))) := by
  by_cases long : ∃ later, rest = quote :: quote :: later
  · obtain ⟨later, rfl⟩ := long
    obtain ⟨more, same⟩ := exists_withoutComments_quotes quotes later
    rw [same, key, key, closes, closes]
    exact .quote quotes _ (by simp) _
  · have whole := short rest fun later same => long ⟨later, same⟩
    cases read : reader rest with
    | none =>
      rw [withoutComments_broken quotes (whole.trans read), key, read]
      exact .steady .none
    | some found =>
      obtain ⟨text, after⟩ := found
      rw [read] at whole
      obtain ⟨taken, rfl, reads⟩ := front _ _ _ read
      have spelled : quoted? ((quote :: taken) ++ after) = .some (text, after) := whole
      have same : withoutComments (quote :: (taken ++ after)) = quote :: (taken ++ withoutComments after) :=
        withoutComments_quoted ⟨quote, rfl, quotes⟩ spelled
      rw [same, key, key, reads, reads]
      refine .steady (.some _ ?_)
      simp only [List.length_cons, List.length_append]
      omega

end Quoted

theorem isCommentChar_of_isNameChar {c : Char} (named : isNameChar c = true) : isCommentChar c = true := by
  have within {low high : Char} (between : (low ≤ c && c ≤ high) = true) (shown : 0x20 ≤ low.toNat)
      (small : high.toNat < 0x7f) : isCommentChar c = true := by
    rw [Bool.and_eq_true, decide_eq_true_eq, decide_eq_true_eq] at between
    have above : low.toNat ≤ c.toNat := between.1
    have below : c.toNat ≤ high.toNat := between.2
    rw [isCommentChar, Bool.or_eq_true, Bool.and_eq_true, decide_eq_true_eq, decide_eq_true_eq]
    exact Or.inr ⟨by omega, by omega⟩
  simp only [isNameChar, Bool.or_eq_true, beq_iff_eq] at named
  rcases named with (((upper | lower) | digit) | rfl) | rfl
  · exact within upper (by decide) (by decide)
  · exact within lower (by decide) (by decide)
  · exact within digit (by decide) (by decide)
  · rfl
  · rfl

theorem allOrdinary_isNameChar : AllOrdinary isNameChar := by
  intro c named
  have apart {d : Char} (other : isNameChar d = false) : c ≠ d := by
    rintro rfl
    cases named.symm.trans other
  have double : c ≠ '"' := apart rfl
  have single : c ≠ '\'' := apart rfl
  exact ⟨isCommentChar_of_isNameChar named, apart rfl, by simp [isQuote, double, single]⟩

theorem allOrdinary_isScalarChar : AllOrdinary isScalarChar := by
  intro c scalar
  simp only [isScalarChar, Bool.or_eq_true, beq_iff_eq] at scalar
  rcases scalar with ((named | rfl) | rfl) | rfl
  · exact allOrdinary_isNameChar c named
  all_goals exact ⟨rfl, by decide, rfl⟩

theorem keyName?_unquoted {chars : List Char} (noQuote : chars.head?.any isQuote = false) :
    keyName? chars = if chars.takeWhile isNameChar = [] then none
      else some (String.ofList (chars.takeWhile isNameChar), chars.dropWhile isNameChar) := by
  unfold keyName?
  split
  · cases noQuote
  · cases noQuote
  · split
    · next none => rw [if_pos none]
    · next some => rw [if_neg some]

theorem alike_keyName? (chars : List Char) :
    Alike (chars.length + 1) (keyName? chars) (keyName? (withoutComments chars)) := by
  cases front : chars.head?.any isQuote with
  | false =>
    obtain ⟨taken, dropped⟩ := takeWhile_withoutComments allOrdinary_isNameChar chars
    rw [keyName?_unquoted front, keyName?_unquoted ((any_isQuote_withoutComments chars).trans front), taken,
      dropped]
    split
    · exact .steady .none
    · exact .steady (.some _ (Nat.lt_succ_of_le (List.dropWhile_sublist _).length_le))
  | true =>
    obtain ⟨c, rest, rfl, quotes⟩ := exists_of_any_head? front
    have which := quotes
    rw [isQuote, Bool.or_eq_true, beq_iff_eq, beq_iff_eq] at which
    rcases which with rfl | rfl
    · refine alike_keyName?_quoted quotes (fun _ => rfl) (fun _ => ?_) (fun rest short => ?_)
        (fun _ _ _ => takesFront_basicText?) rest
      · rw [basicText?, if_pos rfl]
      · rw [quoted?]
        exact short
    · refine alike_keyName?_quoted quotes (fun _ => rfl) (fun _ => rfl) (fun rest short => ?_)
        (fun _ _ _ => takesFront_literalText?) rest
      rw [quoted?]
      exact short

theorem skipBlanks_quote {quote : Char} (quotes : isQuote quote = true) (rest : List Char) :
    skipBlanks (quote :: rest) = quote :: rest :=
  List.dropWhile_cons_of_neg (by simp [(apart_of_isQuote quotes).2.2])

theorem behind?_quote {c quote : Char} (quotes : isQuote quote = true) (ordinary : IsOrdinary c)
    (rest : List Char) : behind? c (quote :: rest) = none := by
  refine if_neg ?_
  rintro rfl
  cases quotes.symm.trans ordinary.noQuote

/-- The names of a key, read one by one. -/
theorem keyNames?_eq (chars : List Char) :
    keyNames? chars = (keyName? (skipBlanks chars)).bind fun (name, after) =>
      (behind? '.' (skipBlanks after)).elim (some ([name], skipBlanks after)) fun rest =>
        (keyNames? rest).map fun (names, final) => (name :: names, final) := by
  rw [keyNames?]
  have alike := alike_keyName? (skipBlanks chars)
  cases read : keyName? (skipBlanks chars) with
  | none => rfl
  | some found =>
    obtain ⟨name, after⟩ := found
    rw [read] at alike
    dsimp only [Option.bind_some]
    split
    · next rest dot =>
      have shorter : rest.length < chars.length := by
        have := alike.short
        have := length_skipBlanks chars
        have := length_skipBlanks after
        rw [dot, List.length_cons] at this
        omega
      rw [dif_pos shorter, dot]
      rfl
    · next noDot =>
      rw [behind?_of_ne noDot]
      rfl

theorem alike_keyNames? (chars : List Char) :
    Alike (chars.length + 1) (keyNames? chars) (keyNames? (withoutComments chars)) := by
  induction size : chars.length using Nat.strong_induction_on generalizing chars with
  | _ size ih =>
    subst size
    have start := length_skipBlanks chars
    have alike := alike_keyName? (skipBlanks chars)
    rw [keyNames?_eq, keyNames?_eq, skipBlanks_withoutComments]
    refine alike.bind (fun name after short => ?_) fun name quote after after' quotes short => ?_
    · dsimp only
      rw [skipBlanks_withoutComments, behind?_withoutComments (by decide)]
      have blanks := length_skipBlanks after
      cases dot : behind? '.' (skipBlanks after) with
      | none => exact .steady (.some _ (by omega))
      | some rest =>
        have shorter := length_behind? dot
        exact ((ih _ (by omega) rest rfl).map _).mono (by omega)
    · dsimp only
      rw [skipBlanks_quote quotes, skipBlanks_quote quotes, behind?_quote quotes (by decide),
        behind?_quote quotes (by decide)]
      exact .quote quotes _ (by omega) _

theorem keyPath?_eq (chars : List Char) :
    keyPath? chars = (keyNames? chars).bind fun (names, rest) =>
      if names.length ≤ maxDepth then names.getLast?.map fun name => (⟨names.dropLast, name⟩, rest)
      else none := by
  unfold keyPath?
  cases keyNames? chars <;> rfl

theorem alike_keyPath? (chars : List Char) :
    Alike (chars.length + 1) (keyPath? chars) (keyPath? (withoutComments chars)) := by
  rw [keyPath?_eq, keyPath?_eq]
  refine (alike_keyNames? chars).bind (fun names rest short => ?_)
    fun names quote rest rest' quotes short => ?_
  · dsimp only
    split
    · cases names.getLast? with
      | none => exact .steady .none
      | some name => exact .steady (.some _ short)
    · exact .steady .none
  · dsimp only
    split
    · cases names.getLast? with
      | none => exact .steady .none
      | some name => exact .quote quotes _ short _
    · exact .steady .none

theorem keyEquals?_eq (chars : List Char) :
    keyEquals? chars = (keyPath? chars).bind fun (key, after) =>
      (behind? '=' after).elim none fun rest => some (key, skipBlanks rest) := by
  unfold keyEquals?
  split
  · next key rest read =>
    rw [read]
    rfl
  · next other =>
    cases read : keyPath? chars with
    | none => rfl
    | some found =>
      obtain ⟨key, after⟩ := found
      have none : behind? '=' after = .none := behind?_of_ne fun rest same => other key rest (same ▸ read)
      dsimp only [Option.bind_some]
      rw [none]
      rfl

theorem steady_keyEquals? (chars : List Char) :
    Steady chars.length (keyEquals? chars) (keyEquals? (withoutComments chars)) := by
  rw [keyEquals?_eq, keyEquals?_eq]
  refine (alike_keyPath? chars).bind_steady (fun key after short => ?_) fun key quote rest quotes => ?_
  · refine .behind (by decide) (fun rest shorter => ?_) .none
    have blanks := length_skipBlanks rest
    rw [skipBlanks_withoutComments]
    exact .some key (by omega)
  · dsimp only
    rw [behind?_quote quotes (by decide)]
    rfl

/-! ### Headers -/

/-- What follows some characters, if they are the first. -/
def behindAll? (closing chars : List Char) : Option (List Char) :=
  closing.foldlM (fun rest c => behind? c rest) chars

theorem behindAll?_eq (closing chars : List Char) :
    behindAll? closing chars
      = if closing.isPrefixOf chars then some (chars.drop closing.length) else none := by
  unfold behindAll?
  induction closing generalizing chars with
  | nil => rfl
  | cons c closing ih =>
    rw [List.foldlM_cons]
    cases chars with
    | nil => rfl
    | cons d rest =>
      by_cases same : d = c
      · subst same
        rw [behind?, if_pos rfl, List.isPrefixOf_cons_cons_self]
        exact ih rest
      · have apart : (c == d) = false := beq_eq_false_iff_ne.mpr (Ne.symm same)
        rw [behind?, if_neg same, List.isPrefixOf_cons_cons, apart, Bool.false_and]
        rfl

theorem behindAll?_withoutComments {closing : List Char} (ordinary : ∀ c ∈ closing, IsOrdinary c)
    (chars : List Char) :
    behindAll? closing (withoutComments chars) = (behindAll? closing chars).map withoutComments := by
  unfold behindAll?
  induction closing generalizing chars with
  | nil => rfl
  | cons c closing ih =>
    obtain ⟨first, later⟩ := List.forall_mem_cons.mp ordinary
    rw [List.foldlM_cons, List.foldlM_cons, behind?_withoutComments first]
    cases behind? c chars with
    | none => rfl
    | some rest => exact ih later rest

theorem header?_eq (closing chars : List Char) :
    header? closing chars = (keyPath? chars).bind fun (key, after) =>
      (behindAll? closing after).map fun rest => (key, rest) := by
  unfold header?
  cases keyPath? chars with
  | none => rfl
  | some found =>
    obtain ⟨key, after⟩ := found
    dsimp only [Option.bind_some]
    rw [behindAll?_eq]
    split <;> rfl

theorem length_behindAll? {closing chars rest : List Char} (found : behindAll? closing chars = some rest) :
    rest.length ≤ chars.length := by
  rw [behindAll?_eq] at found
  split at found
  · obtain rfl := Option.some.inj found
    rw [List.length_drop]
    omega
  · cases found

theorem steady_header? {c : Char} {closing : List Char} (ordinary : ∀ d ∈ c :: closing, IsOrdinary d)
    (chars : List Char) :
    Steady (chars.length + 1) (header? (c :: closing) chars)
      (header? (c :: closing) (withoutComments chars)) := by
  rw [header?_eq, header?_eq]
  refine (alike_keyPath? chars).bind_steady (fun key after short => ?_) fun key quote rest quotes => ?_
  · dsimp only
    rw [behindAll?_withoutComments ordinary]
    cases closes : behindAll? (c :: closing) after with
    | none => exact .none
    | some rest => exact .some key (Nat.lt_of_le_of_lt (length_behindAll? closes) short)
  · dsimp only
    rw [behindAll?, List.foldlM_cons, behind?_quote quotes (ordinary c List.mem_cons_self)]
    rfl

/-! ### Values -/

theorem spacedDate?_eq (date chars : List Char) :
    spacedDate? date chars = (behind? ' ' chars).elim (some (.dateTime (String.ofList date), chars))
      fun rest => if rest.head?.any CharClass.isDigit then
        if isClock (rest.takeWhile isScalarChar) then
          some (.dateTime (String.ofList (date ++ ' ' :: rest.takeWhile isScalarChar)),
            rest.dropWhile isScalarChar)
        else none
      else some (.dateTime (String.ofList date), chars) := by
  unfold spacedDate?
  split
  · rfl
  · next noBlank =>
    rw [behind?_of_ne noBlank]
    rfl

theorem allOrdinary_isDigit : AllOrdinary CharClass.isDigit := by
  intro c digit
  refine allOrdinary_isNameChar c ?_
  rw [CharClass.isDigit] at digit
  rw [isNameChar, digit, Bool.or_true, Bool.true_or, Bool.true_or]

theorem steady_spacedDate? (date chars : List Char) :
    Steady (chars.length + 1) (spacedDate? date chars) (spacedDate? date (withoutComments chars)) := by
  rw [spacedDate?_eq, spacedDate?_eq]
  refine .behind (by decide) (fun rest shorter => ?_) (.some _ (Nat.lt_succ_self _))
  obtain ⟨clock, behind⟩ := takeWhile_withoutComments allOrdinary_isScalarChar rest
  have length := (List.dropWhile_sublist (l := rest) isScalarChar).length_le
  rw [allOrdinary_isDigit.any_head?, clock, behind]
  split
  · split
    · exact .some _ (by omega)
    · exact .none
  · exact .some _ (Nat.lt_succ_self _)

theorem steady_scalar? (chars : List Char) :
    Steady (chars.length + 1) (scalar? chars) (scalar? (withoutComments chars)) := by
  obtain ⟨run, rest⟩ := takeWhile_withoutComments allOrdinary_isScalarChar chars
  have length := (List.dropWhile_sublist (l := chars) isScalarChar).length_le
  unfold scalar?
  dsimp only
  rw [run, rest]
  split
  · exact (steady_spacedDate? _ _).mono (by omega)
  · cases scalarOf? (chars.takeWhile isScalarChar) with
    | none => exact .none
    | some item => exact .some item (by omega)

theorem length_skipTrivia (inComment : Bool) (chars : List Char) :
    (skipTrivia inComment chars).length ≤ chars.length := by
  fun_induction skipTrivia inComment chars with
  | case1 => exact Nat.le_refl _
  | case2 _ _ ih => exact Nat.le_succ_of_le ih
  | case3 _ _ ih => exact Nat.le_succ_of_le (Nat.le_succ_of_le ih)
  | case4 _ _ _ _ _ ih => exact Nat.le_succ_of_le ih
  | case5 => exact Nat.le_refl _
  | case6 _ _ _ _ _ _ _ ih => exact Nat.le_succ_of_le ih
  | case7 _ _ _ _ _ _ ih => exact Nat.le_succ_of_le ih
  | case8 => exact Nat.le_refl _

section Nested

variable {value : Reader Item}
  (steady : ∀ chars, Steady (chars.length + 1) (value chars) (value (withoutComments chars)))

include steady

/-- The values of a list, read one by one. -/
theorem arrayItems?_eq (chars : List Char) :
    arrayItems? value chars = (behind? ']' (skipTrivia false chars)).elim
      ((value (skipTrivia false chars)).bind fun (item, after) =>
        (behind? ']' (skipTrivia false after)).elim
          ((behind? ',' (skipTrivia false after)).elim none fun rest =>
            (arrayItems? value rest).map fun (items, final) => (item :: items, final))
          fun rest => some ([item], rest))
      fun rest => some ([], rest) := by
  rw [arrayItems?]
  split
  · next rest close =>
    rw [close]
    rfl
  · next noClose =>
    rw [behind?_of_ne noClose]
    have first := steady (skipTrivia false chars)
    cases read : value (skipTrivia false chars) with
    | none => rfl
    | some found =>
      obtain ⟨item, after⟩ := found
      rw [read] at first
      dsimp only [Option.elim_none, Option.bind_some]
      split
      · next rest close =>
        rw [close]
        rfl
      · next rest comma =>
        have noClose : behind? ']' (skipTrivia false after) = none := behind?_of_ne (by simp [comma])
        have shorter : rest.length < chars.length := by
          have := first.short
          have := length_skipTrivia false chars
          have := length_skipTrivia false after
          rw [comma, List.length_cons] at this
          omega
        rw [dif_pos shorter, noClose, comma]
        rfl
      · next noClose noComma =>
        rw [behind?_of_ne noClose, behind?_of_ne noComma]
        rfl

theorem steady_arrayItems? (chars : List Char) :
    Steady (chars.length + 1) (arrayItems? value chars) (arrayItems? value (withoutComments chars)) := by
  induction size : chars.length using Nat.strong_induction_on generalizing chars with
  | _ size ih =>
    subst size
    have start := length_skipTrivia false chars
    rw [arrayItems?_eq steady, arrayItems?_eq steady, skipTrivia_withoutComments]
    refine .behind (by decide) (fun rest shorter => .some _ (by omega)) ?_
    refine (steady _).bind fun item after short => ?_
    have behind := length_skipTrivia false after
    dsimp only
    rw [skipTrivia_withoutComments]
    refine .behind (by decide) (fun rest shorter => .some _ (by omega)) ?_
    refine .behind (by decide) (fun rest shorter => ?_) .none
    exact ((ih _ (by omega) rest rfl).map _).mono (by omega)

/-- The keys and values of a table in one row, read one by one. -/
theorem inlineKeys?_eq (chars : List Char) :
    inlineKeys? value chars = (keyEquals? chars).bind fun (key, start) =>
      (value start).bind fun (item, after) =>
        (behind? '\x7d' (skipBlanks after)).elim
          ((behind? ',' (skipBlanks after)).elim none fun rest =>
            (inlineKeys? value rest).map fun (keys, final) => ((key, item) :: keys, final))
          fun rest => some ([(key, item)], rest) := by
  rw [inlineKeys?]
  have front := steady_keyEquals? chars
  cases named : keyEquals? chars with
  | none => rfl
  | some found =>
    obtain ⟨key, start⟩ := found
    rw [named] at front
    dsimp only [Option.bind_some]
    have first := steady start
    cases read : value start with
    | none => rfl
    | some found =>
      obtain ⟨item, after⟩ := found
      rw [read] at first
      dsimp only [Option.bind_some]
      split
      · next rest close =>
        rw [close]
        rfl
      · next rest comma =>
        have noClose : behind? '\x7d' (skipBlanks after) = none := behind?_of_ne (by simp [comma])
        have shorter : rest.length < chars.length := by
          have := front.short
          have := first.short
          have := length_skipBlanks after
          rw [comma, List.length_cons] at this
          omega
        rw [dif_pos shorter, noClose, comma]
        rfl
      · next noClose noComma =>
        rw [behind?_of_ne noClose, behind?_of_ne noComma]
        rfl

theorem steady_inlineKeys? (chars : List Char) :
    Steady (chars.length + 1) (inlineKeys? value chars) (inlineKeys? value (withoutComments chars)) := by
  induction size : chars.length using Nat.strong_induction_on generalizing chars with
  | _ size ih =>
    subst size
    rw [inlineKeys?_eq steady, inlineKeys?_eq steady]
    refine (steady_keyEquals? chars).bind fun key start named => ?_
    refine (steady start).bind fun item after short => ?_
    have behind := length_skipBlanks after
    dsimp only
    rw [skipBlanks_withoutComments]
    refine .behind (by decide) (fun rest shorter => .some _ (by omega)) ?_
    refine .behind (by decide) (fun rest shorter => ?_) .none
    exact ((ih _ (by omega) rest rfl).map _).mono (by omega)

omit steady in
theorem inlineTable?_eq (chars : List Char) :
    inlineTable? value chars = (behind? '\x7d' (skipBlanks chars)).elim
      ((inlineKeys? value (skipBlanks chars)).bind fun (keys, rest) =>
        (Item.putKeys [] keys).map fun entries => (.inline entries, rest))
      fun rest => some (.inline [], rest) := by
  unfold inlineTable?
  split
  · next rest close =>
    rw [close]
    rfl
  · next noClose =>
    rw [behind?_of_ne noClose]
    cases inlineKeys? value (skipBlanks chars) <;> rfl

theorem steady_inlineTable? (chars : List Char) :
    Steady (chars.length + 1) (inlineTable? value chars) (inlineTable? value (withoutComments chars)) := by
  have blanks := length_skipBlanks chars
  rw [inlineTable?_eq, inlineTable?_eq, skipBlanks_withoutComments]
  refine .behind (by decide) (fun rest shorter => .some _ (by omega)) ?_
  refine (steady_inlineKeys? steady _).bind fun keys rest short => ?_
  dsimp only
  cases Item.putKeys [] keys with
  | none => exact .none
  | some entries => exact .some _ (by omega)

end Nested

/-- A value, by its first character. -/
theorem valueTo?_eq (depth : Nat) (chars : List Char) :
    valueTo? depth chars =
      if chars.head?.any isQuote then
        (quoted? chars).map fun (text, rest) => (.string (String.ofList text), rest)
      else match depth with
        | 0 => scalar? chars
        | depth + 1 => (behind? '[' chars).elim
          ((behind? '\x7b' chars).elim (scalar? chars) (inlineTable? (valueTo? depth)))
          fun rest =>
            (arrayItems? (valueTo? depth) rest).map fun (items, final) => (.array items, final) := by
  unfold valueTo?
  split
  · rfl
  · rfl
  · rfl
  · rfl
  · next noDouble noSingle noBracket noBrace =>
    have noQuote : ¬ chars.head?.any isQuote = true := by
      intro front
      obtain ⟨c, rest, rfl, quotes⟩ := exists_of_any_head? front
      rw [isQuote, Bool.or_eq_true, beq_iff_eq, beq_iff_eq] at quotes
      rcases quotes with rfl | rfl
      · exact noDouble rest rfl
      · exact noSingle rest rfl
    rw [if_neg noQuote]
    cases depth with
    | zero => rfl
    | succ depth =>
      dsimp only
      rw [behind?_of_ne fun rest same => noBracket rest depth same rfl,
        behind?_of_ne fun rest same => noBrace rest depth same rfl]
      rfl

/-- **Values are read alike with and without comments**, however deep they nest. -/
theorem steady_valueTo? (depth : Nat) (chars : List Char) :
    Steady (chars.length + 1) (valueTo? depth chars) (valueTo? depth (withoutComments chars)) := by
  induction depth generalizing chars with
  | zero =>
    rw [valueTo?_eq, valueTo?_eq, any_isQuote_withoutComments]
    split
    · exact ((steady_quoted? chars).map fun text => Item.string (String.ofList text)).mono (Nat.le_succ _)
    · exact steady_scalar? chars
  | succ depth ih =>
    rw [valueTo?_eq, valueTo?_eq, any_isQuote_withoutComments]
    split
    · exact ((steady_quoted? chars).map fun text => Item.string (String.ofList text)).mono (Nat.le_succ _)
    · refine .behind (by decide) (fun rest shorter => ?_) ?_
      · exact ((steady_arrayItems? ih rest).map _).mono (by omega)
      · refine .behind (by decide) (fun rest shorter => ?_) (steady_scalar? chars)
        exact (steady_inlineTable? ih rest).mono (by omega)

/-! ### Rows -/

/-- A row up to its end, by its first characters. -/
def rowFront? : Reader Statement := fun chars =>
  (behind? '[' chars).elim
    ((keyEquals? chars).bind fun (key, start) =>
      (value? start).map fun (item, final) => (.pair key item, final))
    fun rest => (behind? '[' rest).elim
      ((header? [']'] rest).map fun (key, final) => (.table key, final))
      fun more => (header? [']', ']'] more).map fun (key, final) => (.element key, final)

theorem statement?_eq (chars : List Char) :
    statement? chars = (rowFront? chars).bind fun (statement, rest) =>
      (lineEnd? rest).map fun final => (statement, final) := by
  unfold statement?
  dsimp only
  congr 1
  split
  · rfl
  · next rest noElement =>
    have apart : behind? '[' rest = none := behind?_of_ne fun later same => noElement later same
    rw [rowFront?, behind?, if_pos rfl]
    dsimp only [Option.elim_some]
    rw [apart]
    rfl
  · next noTable =>
    rw [rowFront?, behind?_of_ne noTable]
    dsimp only [Option.elim_none]
    cases keyEquals? chars <;> rfl

theorem steady_rowFront? (chars : List Char) :
    Steady chars.length (rowFront? chars) (rowFront? (withoutComments chars)) := by
  have one : ∀ c ∈ [']'], IsOrdinary c := List.forall_mem_singleton.mpr (by decide)
  have two : ∀ c ∈ [']', ']'], IsOrdinary c := List.forall_mem_cons.mpr ⟨by decide, one⟩
  unfold rowFront?
  refine .behind (by decide) (fun rest shorter => ?_) ?_
  · refine .behind (by decide) (fun more shorter' => ?_) ?_
    · exact ((steady_header? two more).map _).mono (by omega)
    · exact ((steady_header? one rest).map _).mono (by omega)
  · refine (steady_keyEquals? chars).bind fun key start named => ?_
    exact ((steady_valueTo? maxDepth start).map _).mono (by omega)

theorem length_lineEnd? {chars rest : List Char} (read : lineEnd? chars = some rest) :
    rest.length ≤ chars.length := by
  have comment (chars : List Char) : (skipComment chars).length ≤ chars.length := by
    unfold skipComment
    split
    · exact Nat.le_succ_of_le (List.dropWhile_sublist _).length_le
    · exact Nat.le_refl _
  have skipped := (comment (skipBlanks chars)).trans (length_skipBlanks chars)
  unfold lineEnd? at read
  split at read
  · obtain rfl := Option.some.inj read
    exact Nat.zero_le _
  · exact (length_of_newline? read).le.trans skipped

/-- **Rows are read alike with and without comments.** -/
theorem steady_statement? (chars : List Char) :
    Steady chars.length (statement? chars) (statement? (withoutComments chars)) := by
  rw [statement?_eq, statement?_eq]
  refine (steady_rowFront? chars).bind fun statement rest short => ?_
  dsimp only
  rw [lineEnd?_withoutComments]
  cases ends : lineEnd? rest with
  | none => exact .none
  | some final => exact .some _ (Nat.lt_of_le_of_lt (length_lineEnd? ends) short)

/-- The rows of a document, read one by one. -/
theorem statements?_eq (chars : List Char) :
    statements? chars = if skipTrivia false chars = [] then some []
      else (statement? (skipTrivia false chars)).bind fun (statement, rest) =>
        (statements? rest).map (statement :: ·) := by
  rw [statements?]
  split
  · next none => rw [if_pos none]
  · next some =>
    rw [if_neg some]
    have steady := steady_statement? (skipTrivia false chars)
    cases read : statement? (skipTrivia false chars) with
    | none => rfl
    | some found =>
      obtain ⟨statement, rest⟩ := found
      rw [read] at steady
      have shorter : rest.length < chars.length := steady.short.trans_le (length_skipTrivia false chars)
      dsimp only [Option.bind_some]
      rw [dif_pos shorter]

/-- No comment is left where comments were skipped. -/
theorem head?_skipTrivia (inComment : Bool) (chars : List Char) :
    (skipTrivia inComment chars).head? ≠ some '#' := by
  fun_induction skipTrivia inComment chars with
  | case1 => nofun
  | case2 _ _ ih => exact ih
  | case3 _ _ ih => exact ih
  | case4 _ _ _ _ _ ih => exact ih
  | case5 c _ _ _ hidden =>
    intro same
    obtain rfl := Option.some.inj same
    exact hidden rfl
  | case6 _ _ _ _ _ _ _ ih => exact ih
  | case7 _ _ _ _ _ _ ih => exact ih
  | case8 _ c _ _ _ _ _ noHash => exact fun same => noHash (Option.some.inj same)

/-- **A document has the rows that it has without its comments.** -/
theorem statements?_withoutComments (chars : List Char) :
    statements? (withoutComments chars) = statements? chars := by
  induction size : chars.length using Nat.strong_induction_on generalizing chars with
  | _ size ih =>
    subst size
    have ends : withoutComments (skipTrivia false chars) = [] ↔ skipTrivia false chars = [] := by
      rw [← List.head?_eq_none_iff, head?_withoutComments (head?_skipTrivia false chars),
        List.head?_eq_none_iff]
    have steady := steady_statement? (skipTrivia false chars)
    rw [statements?_eq, statements?_eq, skipTrivia_withoutComments]
    simp only [ends]
    generalize statement? (skipTrivia false chars) = read at steady ⊢
    generalize statement? (withoutComments (skipTrivia false chars)) = read' at steady ⊢
    cases steady with
    | none => rfl
    | @some rest statement short =>
      have shorter := short.trans_le (length_skipTrivia false chars)
      dsimp only [Option.bind_some]
      rw [ih _ shorter rest rfl]

end ExprLexer.Toml
