import ProviderRouting.Number.Binary64

/-!
# Costs

A cost is a double.  A catalog may also give a cost that is not a number; such a cost still has a
sign, and by it stands below or above every amount.
-/

namespace ProviderRouting

/-- What tokens cost. -/
inductive Cost where
  /-- An amount. -/
  | amount (value : Float)
  /-- No number, but a sign. -/
  | undefined (negative : Bool)
deriving Inhabited

namespace Cost

/-- No cost. -/
def zero : Cost := amount 0.0

/-- The cost as a double, without the sign of what is not a number. -/
def toDouble : Cost → Float
  | amount value => value
  | undefined _ => 0.0 / 0.0

/-- Whether a cost is below zero, which holds of amounts only. -/
def isNegative (cost : Cost) : Bool := cost.toDouble < 0.0

/-- The sum of two costs.  What is not a number outweighs amounts, on the left before the right;
the sum of opposite infinities is not a number either and has a minus sign. -/
def add : Cost → Cost → Cost
  | undefined negative, _ => undefined negative
  | amount _, undefined negative => undefined negative
  | amount left, amount right =>
    if (left + right).isNaN ∧ !left.isNaN ∧ !right.isNaN then undefined true
    else amount (left + right)

/-- The place of a cost in the total order of doubles: what is not a number stands at the end to
which its sign points. -/
def orderKey : Cost → Int
  | amount value => Binary64.orderKey value
  | undefined false => Binary64.orderKey (0.0 / 0.0)
  | undefined true => -Binary64.orderKey (0.0 / 0.0) - 1

end Cost

end ProviderRouting
