/-!
# Comparison operators

The six operators of a condition, their symbols, and what each asks of an order.
-/

namespace TableQuery

inductive Comparison where
  | equal
  | notEqual
  | less
  | greater
  | atMost
  | atLeast
  deriving Repr, DecidableEq

namespace Comparison

def symbol : Comparison → String
  | equal => "="
  | notEqual => "!="
  | less => "<"
  | greater => ">"
  | atMost => "<="
  | atLeast => ">="

def ofSymbol? (symbol : String) : Option Comparison :=
  match symbol with
  | "=" => some equal
  | "!=" => some notEqual
  | "<" => some less
  | ">" => some greater
  | "<=" => some atMost
  | ">=" => some atLeast
  | _ => none

@[simp]
theorem ofSymbol?_symbol (op : Comparison) : ofSymbol? op.symbol = some op := by
  cases op <;> rfl

theorem eq_symbol_of_ofSymbol? {symbol : String} {op : Comparison}
    (h : ofSymbol? symbol = some op) : symbol = op.symbol := by
  unfold ofSymbol? at h
  split at h <;> cases h <;> rfl

/-- Whether an order meets the operator.  Two sides that are not ordered are only
ever different. -/
def holds (op : Comparison) (order : Option Ordering) : Bool :=
  match op with
  | equal => order == some .eq
  | notEqual => order != some .eq
  | less => order == some .lt
  | greater => order == some .gt
  | atMost => order == some .lt || order == some .eq
  | atLeast => order == some .gt || order == some .eq

end Comparison
end TableQuery
