import Hashmark.Number.Complex
import Hashmark.Number.Decimal
import Hashmark.Text.Quoted

/-!
# Values

The values that conditions compute with: what literals write and what ambient constants may be.
Truth values count as the integers one and zero wherever integers are taken. A set has no equal
members and a dictionary no equal keys. A dictionary keeps the order in which its keys came. The
members of a set that is a constant stand in the order in which its host lists them, which shows in
its text and nowhere else.
-/

namespace Hashmark

/-- A value. -/
inductive Value where
  /-- The absence of a value. -/
  | none
  /-- The value written as three full stops. -/
  | ellipsis
  /-- A truth value. -/
  | bool (b : Bool)
  /-- An integer of any size. -/
  | int (n : Int)
  /-- A floating point number. -/
  | float (x : Float)
  /-- A complex number. -/
  | complex (z : Number.Complex)
  /-- A text. -/
  | text (s : String)
  /-- A sequence of bytes. -/
  | bytes (bs : List UInt8)
  /-- A sequence that cannot be changed. -/
  | tuple (items : List Value)
  /-- A sequence that could be changed, and is no key for that reason. -/
  | list (items : List Value)
  /-- A set. -/
  | set (items : List Value)
  /-- A dictionary: its keys with their values. -/
  | dict (entries : List (Value × Value))
  deriving Inhabited

namespace Value

/-- The integer that a value is or, being a truth value, counts as. -/
def toInt? : Value → Option Int
  | .bool b => some (if b then 1 else 0)
  | .int n => some n
  | _ => Option.none

/-- Whether a value counts as true: all do but nothing, zero, and what is empty. -/
def isTrue : Value → Bool
  | .none => false
  | .ellipsis => true
  | .bool b => b
  | .int n => n != 0
  | .float x => x != 0.0
  | .complex z => z.re != 0.0 || z.im != 0.0
  | .text s => s != ""
  | .bytes bs => !bs.isEmpty
  | .tuple items => !items.isEmpty
  | .list items => !items.isEmpty
  | .set items => !items.isEmpty
  | .dict entries => !entries.isEmpty

mutual

/-- Whether a value can be a key of a dictionary or a member of a set: no part of it is a list, a
set, or a dictionary. -/
def isKey : Value → Bool
  | .list _ => false
  | .set _ => false
  | .dict _ => false
  | .tuple items => areKeys items
  | _ => true

/-- Whether all values can be keys. -/
def areKeys : List Value → Bool
  | [] => true
  | v :: vs => isKey v && areKeys vs

end

/-- A numeric value in the smallest of the three kinds of numbers that has it. -/
inductive Numeric where
  /-- An integer. -/
  | int (n : Int)
  /-- A floating point number. -/
  | float (x : Float)
  /-- A complex number. -/
  | complex (z : Number.Complex)

/-- The number that a value is or counts as. -/
def toNumeric? : Value → Option Numeric
  | .bool b => some (.int (if b then 1 else 0))
  | .int n => some (.int n)
  | .float x => some (.float x)
  | .complex z => some (.complex z)
  | _ => Option.none

end Value

end Hashmark
