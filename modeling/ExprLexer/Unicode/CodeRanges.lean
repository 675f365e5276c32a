/-!
Sets of characters written as ascending ranges of code points.

* `CodeRanges.contains`: membership, which stops at the first range past the character;
* `CodeRanges.mem_of_contains`: a character found lies in one of the ranges;
* `CodeRanges.contains_of_mem`: in a table in ascending order, every character of a range is found;
* `CodeRanges.Apart`, `CodeRanges.contains_eq_false_of_apart`: tables without a common character.
-/

namespace ExprLexer.Unicode

/-- Ranges of code points, each by its first and last member, in ascending order. -/
abbrev CodeRanges := List (Nat × Nat)

namespace CodeRanges

/-- Whether a code point lies in one of the ranges. -/
def containsCode : CodeRanges → Nat → Bool
  | [], _ => false
  | (first, last) :: later, code =>
    if code < first then false else code ≤ last || containsCode later code

/-- Whether a character lies in one of the ranges. -/
def contains (ranges : CodeRanges) (c : Char) : Bool := containsCode ranges c.toNat

/-- The ranges do not overlap and ascend. -/
def Ascending (ranges : CodeRanges) : Prop :=
  (∀ range ∈ ranges, range.1 ≤ range.2) ∧ ranges.Pairwise fun earlier later => earlier.2 < later.1

/-- A code point found lies in one of the ranges. -/
theorem mem_of_containsCode {ranges : CodeRanges} {code : Nat}
    (found : containsCode ranges code = true) :
    ∃ range ∈ ranges, range.1 ≤ code ∧ code ≤ range.2 := by
  induction ranges with
  | nil => simp [containsCode] at found
  | cons range later ih =>
    obtain ⟨first, last⟩ := range
    rw [containsCode] at found
    split at found
    · simp at found
    · rw [Bool.or_eq_true, decide_eq_true_eq] at found
      rcases found with inside | elsewhere
      · exact ⟨(first, last), by simp, by omega, inside⟩
      · obtain ⟨range, member, bounds⟩ := ih elsewhere
        exact ⟨range, List.mem_cons_of_mem _ member, bounds⟩

/-- In a table in ascending order, every code point of a range is found. -/
theorem containsCode_of_mem {ranges : CodeRanges} (ascending : Ascending ranges) {code : Nat}
    {range : Nat × Nat} (member : range ∈ ranges) (lower : range.1 ≤ code)
    (upper : code ≤ range.2) : containsCode ranges code = true := by
  induction ranges with
  | nil => simp at member
  | cons head later ih =>
    obtain ⟨first, last⟩ := head
    obtain ⟨nonempty, apart⟩ := ascending
    rw [List.pairwise_cons] at apart
    have ordered : first ≤ last := nonempty (first, last) (by simp)
    rw [containsCode]
    rcases List.mem_cons.mp member with here | there
    · subst here
      have notBelow : ¬ code < first := by simpa using lower
      simp [notBelow, upper]
    · have beyond : last < range.1 := apart.1 range there
      have notBelow : ¬ code < first := by omega
      have found := ih ⟨fun r h => nonempty r (List.mem_cons_of_mem _ h), apart.2⟩ there
      simp [notBelow, found]

/-- A character found lies in one of the ranges. -/
theorem mem_of_contains {ranges : CodeRanges} {c : Char} (found : ranges.contains c = true) :
    ∃ range ∈ ranges, range.1 ≤ c.toNat ∧ c.toNat ≤ range.2 :=
  mem_of_containsCode found

/-- In a table in ascending order, every character of a range is found. -/
theorem contains_of_mem {ranges : CodeRanges} (ascending : Ascending ranges) {c : Char}
    {range : Nat × Nat} (member : range ∈ ranges) (lower : range.1 ≤ c.toNat)
    (upper : c.toNat ≤ range.2) : ranges.contains c = true :=
  containsCode_of_mem ascending member lower upper

/-- No range of one table meets a range of the other. -/
def Apart (one other : CodeRanges) : Prop :=
  ∀ range ∈ one, ∀ range' ∈ other, range.2 < range'.1 ∨ range'.2 < range.1

instance (one other : CodeRanges) : Decidable (Apart one other) :=
  inferInstanceAs (Decidable (∀ range ∈ one, ∀ range' ∈ other, _ ∨ _))

/-- No character is found in both of two tables that are apart. -/
theorem contains_eq_false_of_apart {one other : CodeRanges} (apart : Apart one other) {c : Char}
    (found : one.contains c = true) : other.contains c = false := by
  cases both : other.contains c with
  | false => rfl
  | true =>
    obtain ⟨range, member, lower, upper⟩ := mem_of_contains found
    obtain ⟨range', member', lower', upper'⟩ := mem_of_contains both
    have between := apart range member range' member'
    omega

end CodeRanges

end ExprLexer.Unicode
