/-!
The operators of expressions, with how tightly they bind and which way they group.

* `Operator.all`: every operator;
* `Operator.lookup`: the operator that one or two characters spell;
* `Operator.lookup_eq_some_iff`: it finds exactly the operator of that spelling;
* `Precedence.bindsTighter`: the order of binding.
-/

namespace ExprLexer

/-- How tightly an operator binds.  Several tiers share a level. -/
inductive Precedence
  | assignment
  | logicalOr
  | logicalAnd
  | equal
  | notEqual
  | greaterThan
  | greaterThanOrEqual
  | lessThan
  | lessThanOrEqual
  | addition
  | division
  | power
  | unary
deriving DecidableEq

namespace Precedence

/-- The level of a tier: the higher, the tighter. -/
def level : Precedence → Int
  | unary => 7
  | power => 4
  | division => 3
  | addition => 2
  | greaterThan | greaterThanOrEqual | lessThan | lessThanOrEqual => 1
  | equal | notEqual => 0
  | logicalAnd => -1
  | logicalOr => -2
  | assignment => -3

/-- Whether the first tier binds strictly tighter than the second. -/
def bindsTighter (first second : Precedence) : Bool := second.level < first.level

end Precedence

/-- The operators. -/
inductive Operator
  | increment
  | decrement
  | add
  | subtract
  | multiply
  | divide
  | raise
  | notEqual
  | negate
  | conjunction
  | disjunction
  | equal
  | assign
  | atLeast
  | above
  | atMost
  | below
deriving DecidableEq

namespace Operator

/-- The characters of an operator. -/
def symbol : Operator → List Char
  | increment => ['+', '+']
  | decrement => ['-', '-']
  | add => ['+']
  | subtract => ['-']
  | multiply => ['*']
  | divide => ['/']
  | raise => ['^']
  | notEqual => ['!', '=']
  | negate => ['!']
  | conjunction => ['&', '&']
  | disjunction => ['|', '|']
  | equal => ['=', '=']
  | assign => ['=']
  | atLeast => ['>', '=']
  | above => ['>']
  | atMost => ['<', '=']
  | below => ['<']

/-- The operator as written. -/
def lexeme (op : Operator) : String := String.ofList op.symbol

/-- The tier of an operator. -/
def precedence : Operator → Precedence
  | increment | decrement | negate => .unary
  | add | subtract => .addition
  | multiply | divide => .division
  | raise => .power
  | notEqual => .notEqual
  | equal => .equal
  | conjunction => .logicalAnd
  | disjunction => .logicalOr
  | assign => .assignment
  | atLeast => .greaterThanOrEqual
  | above => .greaterThan
  | atMost => .lessThanOrEqual
  | below => .lessThan

/-- Whether repeated use groups from left to right.  It does not for unary operators, assignment
and powers. -/
def leftAssoc : Operator → Bool
  | increment | decrement | negate | raise | assign => false
  | _ => true

/-- Every operator. -/
def all : List Operator :=
  [increment, decrement, add, subtract, multiply, divide, raise, notEqual, negate, conjunction,
    disjunction, equal, assign, atLeast, above, atMost, below]

/-- The operator spelled by one character, or by two. -/
def lookup (first : Char) (second : Option Char) : Option Operator :=
  all.find? fun op => op.symbol == first :: second.toList

theorem mem_all (op : Operator) : op ∈ all := by
  cases op <;> decide

/-- Operators differ in their symbols. -/
theorem symbol_injective {first second : Operator} (same : first.symbol = second.symbol) :
    first = second := by
  cases first <;> cases second <;> simp_all [symbol]

/-- A lookup finds exactly the operator of that spelling. -/
theorem lookup_eq_some_iff {first : Char} {second : Option Char} {op : Operator} :
    lookup first second = some op ↔ op.symbol = first :: second.toList := by
  constructor
  · intro found
    simpa using List.find?_some found
  · intro spelled
    cases outcome : lookup first second with
    | none =>
      have missed := List.find?_eq_none.mp outcome op (mem_all op)
      simp [spelled] at missed
    | some other =>
      have spelledToo : other.symbol = first :: second.toList := by
        simpa using List.find?_some outcome
      rw [symbol_injective (spelledToo.trans spelled.symm)]

end Operator

end ExprLexer
