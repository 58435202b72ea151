import BeaconCheck.Number.Basic
import BeaconCheck.Entries
import BeaconCheck.Text.Basic

/-!
# Values

The data of documents, pages and requests. A value is a scalar, a list, an object, or
one of the rarer kinds that only a YAML document can hold: pairs (the members of
ordered maps), sets, dates, times, raw bytes, and a reference from inside a list or
object to that list or object itself. Who looks for entries or items there finds those of
the list or object; to everyone else the reference has no parts.

Scalars are what an object can have as a key. `Scalar.same` is equality of keys and of
scalars: numbers and truth values compare by value, everything else by kind and
content. `Value.same` extends it to lists and objects, where the order of an object's
entries does not matter.
-/

namespace BeaconCheck

/-- A calendar date, with a time of day for a moment; a moment may have an offset from
universal time in minutes. -/
inductive Stamp where
  | date (year month day : Nat)
  | moment (year month day hour minute second micro : Nat) (offset : Option Int)
deriving DecidableEq, Repr, Inhabited

/-- A value without parts. -/
inductive Scalar where
  | null
  | bool (b : Bool)
  | number (n : Number)
  | text (s : Text)
  | bytes (bs : List UInt8)
  | stamp (t : Stamp)
deriving DecidableEq, Repr, Inhabited

/-- A value. -/
inductive Value where
  | scalar (s : Scalar)
  | list (items : List Value)
  | object (entries : List (Scalar × Value))
  | pair (first second : Value)
  | set (members : List Scalar)
  /-- The value stands for a list or object that it is inside of. -/
  | enclosing (target : Value)
deriving Repr, Inhabited

namespace Scalar

/-- The number that a truth value counts as. -/
def ofBool (b : Bool) : Number :=
  .int (if b then 1 else 0)

/-- Equality of scalars. Truth values count as the numbers 0 and 1. -/
def same : Scalar → Scalar → Bool
  | .null, .null => true
  | .bool a, .bool b => a == b
  | .bool a, .number y => (ofBool a).equals y
  | .number x, .bool b => x.equals (ofBool b)
  | .number x, .number y => x.equals y
  | .text s, .text t => s == t
  | .bytes a, .bytes b => a == b
  | .stamp s, .stamp t => s == t
  | _, _ => false

instance : BEq Scalar := ⟨same⟩

/-- The scalar counts as true: it is not null, false, zero, or empty. -/
def isTruthy : Scalar → Bool
  | .null => false
  | .bool b => b
  | .number n => !n.isZero
  | .text s => s != ""
  | .bytes bs => !bs.isEmpty
  | .stamp _ => true

end Scalar

namespace Value

@[match_pattern] abbrev null : Value := .scalar .null
@[match_pattern] abbrev bool (b : Bool) : Value := .scalar (.bool b)
@[match_pattern] abbrev number (n : Number) : Value := .scalar (.number n)
@[match_pattern] abbrev int (i : Int) : Value := .scalar (.number (.int i))
@[match_pattern] abbrev float (x : Binary64) : Value := .scalar (.number (.float x))
@[match_pattern] abbrev text (s : Text) : Value := .scalar (.text s)

/-- The value is null. -/
def isNull : Value → Bool
  | .null => true
  | _ => false

/-- The value counts as true: it is not null, false, zero, or empty. -/
def isTruthy : Value → Bool
  | .scalar s => s.isTruthy
  | .list items => !items.isEmpty
  | .object entries => !entries.isEmpty
  | .pair .. => true
  | .set members => !members.isEmpty
  | .enclosing _ => true

/-- The entries of an object; `none` for any other value. -/
def entries? : Value → Option (List (Scalar × Value))
  | .object entries => some entries
  | .enclosing (.object entries) => some entries
  | _ => none

/-- The items of a list; `none` for any other value. -/
def items? : Value → Option (List Value)
  | .list items => some items
  | .enclosing (.list items) => some items
  | _ => none

/-- The text of a text value. -/
def text? : Value → Option Text
  | .text s => some s
  | _ => none

/-- The value under a name among the entries of an object. -/
def field? (entries : List (Scalar × Value)) (name : Text) : Option Value :=
  Entries.get? entries (.text name)

/-- The value under a name, null where there is none. -/
def field (entries : List (Scalar × Value)) (name : Text) : Value :=
  (field? entries name).getD .null

/-- An object with names as keys. -/
def ofFields (fields : List (String × Value)) : Value :=
  .object (fields.map fun p => (.text p.1, p.2))

end Value

end BeaconCheck
