import BeaconCheck.Value.Basic

/-!
# Equality of values

`Value.same` compares values by content: scalars as `Scalar.same` does, lists item by
item, and objects by their entries, whose order does not matter.
-/

namespace BeaconCheck

mutual

/-- Two values have the same content. -/
def Value.same : Value → Value → Bool
  | .scalar s, .scalar t => s.same t
  | .list xs, .list ys => Value.sameItems xs ys
  | .object es, .object fs => es.length == fs.length && Value.sameEntries es fs
  | .pair a b, .pair c d => Value.same a c && Value.same b d
  | .set ms, .set ns => ms.length == ns.length && ms.all fun m => ns.any (Scalar.same m)
  | .enclosing x, .enclosing y => Value.same x y
  | _, _ => false

/-- Two lists have the same items. -/
def Value.sameItems : List Value → List Value → Bool
  | [], [] => true
  | x :: xs, y :: ys => Value.same x y && Value.sameItems xs ys
  | _, _ => false

/-- Every entry of the first list is found with the same value in the second. -/
def Value.sameEntries : List (Scalar × Value) → List (Scalar × Value) → Bool
  | [], _ => true
  | (k, x) :: es, fs => Value.sameUnder x (Entries.get? fs k) && Value.sameEntries es fs

/-- The value is there and has the same content. -/
def Value.sameUnder : Value → Option Value → Bool
  | x, some y => Value.same x y
  | _, none => false

end

end BeaconCheck
