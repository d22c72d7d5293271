import ObjectBridge.Script.Heap
import ObjectBridge.Decimal.Notation
import ObjectBridge.Decimal.Reader
import ObjectBridge.Text.Quoted

/-!
# `ObjectBridge.Script.Convert`: conversions and operators on primitives

What can be said about values without asking an object anything. Values
that are objects are converted by the machine, which may have to call
their methods.
-/

set_option autoImplicit false

namespace ObjectBridge.Script

/-! ### Numbers in texts -/

/-- Blanks around the number in a text. -/
def isTextBlank (c : Char) : Bool := (Blank.isBlank c && c.toNat ≠ 0x85) || c.toNat = 0xFEFF

/-- The characters of a text without the blanks around them. -/
def trimmed (t : Text) : List Char :=
  let cs := t.toStringLossy.toList
  ((cs.dropWhile isTextBlank).reverse.dropWhile isTextBlank).reverse

/-- The value of a digit, in bases up to sixteen. -/
def digitOf? (base : Nat) (c : Char) : Option Nat :=
  let d := if c.isDigit then c.toNat - 48 else if 'a' ≤ c.toLower ∧ c.toLower ≤ 'f' then
      c.toLower.toNat - 87 else 16
  if d < base then some d else none

/-- The number that digits of a base spell. -/
def digits? (base : Nat) (ds : List Char) : Option Nat :=
  if ds = [] then none else ds.foldlM (fun n c => (digitOf? base c).map (n * base + ·)) 0

/-- The base that the beginning of a number calls for, and the digits. -/
def baseMark? : List Char → Option (Nat × List Char)
  | '0' :: 'x' :: ds | '0' :: 'X' :: ds => some (16, ds)
  | '0' :: 'o' :: ds | '0' :: 'O' :: ds => some (8, ds)
  | '0' :: 'b' :: ds | '0' :: 'B' :: ds => some (2, ds)
  | _ => none

/-- The sign at the front, and what it stands before. -/
def splitSign : List Char → Bool × List Char
  | '-' :: rest => (true, rest)
  | '+' :: rest => (false, rest)
  | rest => (false, rest)

/-- The number a text stands for, NaN when it stands for none. Numbers in
bases other than ten have to fit 64 bits, and have their sign behind the
mark of the base. -/
def numberOfText (t : Text) : Float :=
  let nan : Float := 0.0 / 0.0
  let cs := trimmed t
  match baseMark? cs with
  | some (base, ds) =>
    let (negative, ds) := splitSign ds
    match digits? base ds with
    | some n =>
      if n < Nat.pow 2 63 ∨ (negative ∧ n = Nat.pow 2 63) then
        if negative then -(Float.ofNat n) + 0.0 else Float.ofNat n
      else nan
    | none => nan
  | none =>
    if cs = [] then 0.0
    else
      let (negative, ds) := splitSign cs
      let magnitude : Float :=
        if ds = "Infinity".toList then 1.0 / 0.0
        else
          match Decimal.split? ds with
          | some d => d.toFloat
          | none => nan
      if negative then -magnitude else magnitude

/-- The big integer a text stands for. -/
def bigintOfText? (t : Text) : Option Int :=
  let cs := trimmed t
  match baseMark? cs with
  | some (base, ds) => (digits? base ds).map Int.ofNat
  | none =>
    if cs = [] then some 0
    else
      let (negative, ds) := splitSign cs
      (digits? 10 ds).map fun n => if negative then -(n : Int) else n

namespace Value

def truthy : Value → Bool
  | .undefined => false
  | .null => false
  | .bool b => b
  | .number n => !(n == 0.0 || n.isNaN)
  | .bigint n => n ≠ 0
  | .string t => !t.isEmpty
  | .symbol _ => true
  | .object _ => true

/-- The text of a primitive; symbols have none. -/
def text? : Value → Option Text
  | .undefined => some (.plain "undefined")
  | .null => some (.plain "null")
  | .bool b => some (.plain (if b then "true" else "false"))
  | .number n => some (.plain (Decimal.writeScript n))
  | .bigint n => some (.plain (toString n))
  | .string t => some t
  | .symbol _ => none
  | .object _ => none

/-- The text of a primitive for those who do not mind symbols. -/
def textOrSymbol : Value → Text
  | .symbol s => s.text
  | v => v.text?.getD default

/-- The text of a primitive where a symbol is its description. -/
def textOrLabel : Value → Text
  | .symbol s => s.label
  | v => v.text?.getD default

/-- The key that a primitive names. -/
def key : Value → Key
  | .symbol s => .symbol s
  | .number n =>
    -- Most keys of this kind are small whole numbers.
    let i := n.toUInt32
    if i.toFloat == n && i.toNat < Key.indexBound then .index i.toNat
    else .ofString (Decimal.writeScript n)
  | v => .ofText (v.text?.getD default)

/-- The number of a primitive. Symbols and big integers have none. -/
def number? : Value → Option Float
  | .undefined => some (0.0 / 0.0)
  | .null => some 0.0
  | .bool b => some (if b then 1.0 else 0.0)
  | .number n => some n
  | .string t => some (numberOfText t)
  | _ => none

/-- Equality without conversions. -/
def strictEq : Value → Value → Bool
  | .undefined, .undefined => true
  | .null, .null => true
  | .bool a, .bool b => a = b
  | .number a, .number b => a == b
  | .bigint a, .bigint b => a = b
  | .string a, .string b => a.same b
  | .symbol a, .symbol b => a.number = b.number
  | .object a, .object b => a = b
  | _, _ => false

/-- Is it the same value? Other than `strictEq`, this holds of NaN and
itself, and tells the two zeros apart. -/
def same (a b : Value) : Bool :=
  match a, b with
  | .number x, .number y =>
    if x.isNaN then y.isNaN else x == y && (x != 0.0 || x.toBits == y.toBits)
  | _, _ => strictEq a b

end Value

/-- Compares a whole number with a double, which is not NaN. -/
def compareInt (n : Int) (f : Float) : Ordering :=
  match Double.ofFloat f with
  | .nan => .eq
  | .infinite negative => if negative then .gt else .lt
  | .finite negative m q =>
    let signed : Int := if negative then -(m : Int) else m
    match q with
    | .ofNat e => compare n (signed * Int.ofNat (Nat.pow 2 e))
    | .negSucc e => compare (n * Int.ofNat (Nat.pow 2 (e + 1))) signed

namespace Value

/-- Equality of primitives, and of objects with objects, with
conversions. -/
def looseEq (a b : Value) : Bool :=
  let withNumber (n : Int) (f : Float) : Bool := !f.isNaN && compareInt n f == .eq
  match a, b with
  | .undefined, .null => true
  | .null, .undefined => true
  | .object _, _ => strictEq a b
  | _, .object _ => false
  | .symbol _, _ => strictEq a b
  | _, .symbol _ => false
  | .undefined, _ => strictEq a b
  | _, .undefined => false
  | .null, _ => strictEq a b
  | _, .null => false
  | .string _, .string _ => strictEq a b
  | .bigint _, .bigint _ => strictEq a b
  | .bigint n, .string t => bigintOfText? t = some n
  | .string t, .bigint n => bigintOfText? t = some n
  | .bigint n, other => (other.number?.map (withNumber n)).getD false
  | other, .bigint n => (other.number?.map (withNumber n)).getD false
  | _, _ =>
    match a.number?, b.number? with
    | some x, some y => x == y
    | _, _ => false

end Value

/-! ### Operators -/

/-- The remainder of a division that rounds towards zero. -/
def floatRem (a b : Float) : Float :=
  if a.isNaN || b.isNaN || a.isInf || b == 0.0 then 0.0 / 0.0
  else if b.isInf then a
  else
    match Double.ofFloat a, Double.ofFloat b with
    | .finite sa ma qa, .finite _ mb qb =>
      let q := min qa qb
      let x := ma * Nat.pow 2 (qa - q).toNat
      let y := mb * Nat.pow 2 (qb - q).toNat
      let rem := x % y
      let magnitude := if q < 0 then Float.ofScientific (rem * Nat.pow 5 q.natAbs) true q.natAbs
        else Float.ofNat (rem * Nat.pow 2 q.toNat)
      if sa then -magnitude else magnitude
    | _, _ => 0.0 / 0.0

/-- The next number in a direction. -/
def stepNumber (delta : Int) (n : Float) : Float := if delta < 0 then n - 1.0 else n + 1.0

/-- A power. One to an infinite power is no number. -/
def floatPow (a b : Float) : Float :=
  if b.isNaN || (a.abs == 1.0 && b.isInf) then 0.0 / 0.0 else a.pow b

/-- The low 32 bits of a number, rounded towards zero. -/
def toWord (n : Float) : UInt32 :=
  match (Double.ofFloat n).truncate? with
  | some i => (i % Int.ofNat (Nat.pow 2 32)).toNat.toUInt32
  | none => 0

/-- A word as a number with a sign. -/
def ofWord (w : UInt32) : Float := Float.ofInt w.toInt32.toInt

/-- Applies an operator to two words. -/
def wordOp (op : BinaryOp) (a b : Float) : Float :=
  let x := toWord a
  let y := toWord b
  match op with
  | .bitAnd => ofWord (x &&& y)
  | .bitOr => ofWord (x ||| y)
  | .bitXor => ofWord (x ^^^ y)
  | .shiftLeft => ofWord (x <<< (y &&& 31))
  | .shiftRight => Float.ofInt (x.toInt32.toInt >>> (y &&& 31).toNat)
  | _ => (x >>> (y &&& 31)).toFloat

/-- Compares numbers; without an order the answer is `false`. -/
def compareNumbers (op : BinaryOp) (x y : Float) : Bool :=
  match op with
  | .less => x < y
  | .greater => y < x
  | .lessEq => x ≤ y
  | _ => y ≤ x

/-- Compares primitives; without an order the answer is `false`. -/
def compareValues (op : BinaryOp) (a b : Value) : Option Bool :=
  let ofOrder (o : Ordering) : Bool := match op with
    | .less => o == .lt
    | .greater => o == .gt
    | .lessEq => o != .gt
    | _ => o != .lt
  match a, b with
  | .string x, .string y =>
    some (match op with
      | .less => x.less y
      | .greater => y.less x
      | .lessEq => !y.less x
      | _ => !x.less y)
  | .bigint x, .bigint y => some (ofOrder (compare x y))
  | .bigint x, .string t => some (((bigintOfText? t).map fun y => ofOrder (compare x y)).getD false)
  | .string t, .bigint y => some (((bigintOfText? t).map fun x => ofOrder (compare x y)).getD false)
  | .bigint x, _ => b.number?.map fun y => !y.isNaN && ofOrder (compareInt x y)
  | _, .bigint y => a.number?.map fun x => !x.isNaN && ofOrder (compareInt y x).swap
  | _, _ =>
    match a.number?, b.number? with
    | some x, some y => some (compareNumbers op x y)
    | _, _ => none

/-- Applies an operator to big integers; `none` where it has no result. -/
def bigintOp? (op : BinaryOp) (x y : Int) : Option Int :=
  match op with
  | .add => some (x + y)
  | .sub => some (x - y)
  | .mul => some (x * y)
  | .div => if y = 0 then none else some (x.tdiv y)
  | .rem => if y = 0 then none else some (x.tmod y)
  | .pow => if y < 0 then none else some (Int.pow x y.toNat)
  | .shiftLeft => some (if y < 0 then x >>> y.natAbs else x * Int.ofNat (Nat.pow 2 y.toNat))
  | .shiftRight => some (if y < 0 then x * Int.ofNat (Nat.pow 2 y.natAbs) else x >>> y.toNat)
  | _ => none

/-- Applies an operator to numbers. -/
def numberOp (op : BinaryOp) (x y : Float) : Float :=
  match op with
  | .add => x + y
  | .sub => x - y
  | .mul => x * y
  | .div => x / y
  | .rem => floatRem x y
  | .pow => floatPow x y
  | op => wordOp op x y

/-- Applies an operator to primitives; fails when a conversion is not
allowed. -/
def primitiveOp? (op : BinaryOp) (a b : Value) : Option Value :=
  match op, a, b with
  | .less, .number x, .number y | .greater, .number x, .number y | .lessEq, .number x, .number y
  | .greaterEq, .number x, .number y => some (.bool (compareNumbers op x y))
  | .less, _, _ | .greater, _, _ | .lessEq, _, _ | .greaterEq, _, _ =>
    (compareValues op a b).map .bool
  | _, .number x, .number y => some (.number (numberOp op x y))
  | .add, .string x, _ => b.text?.map fun y => .string (x ++ y)
  | .add, _, .string y => a.text?.map fun x => .string (x ++ y)
  | _, .bigint x, .bigint y => (bigintOp? op x y).map .bigint
  | _, _, _ => do return .number (numberOp op (← a.number?) (← b.number?))

/-- Why an operator cannot be applied to primitives: the kind of error and
its message. -/
def operandFault (op : BinaryOp) (a b : Value) : String × String :=
  let noNumber := ("TypeError", "Cannot convert a Symbol value to a number")
  let mixed := ("TypeError", "Cannot mix BigInt and other types, use explicit conversions")
  match a, b with
  | .bigint _, .bigint _ =>
    if op = .pow then ("RangeError", "exponent must be positive")
    else if op = .shiftRightZero then
      ("TypeError", "BigInts have no unsigned right shift, use >> instead")
    else ("RangeError", "Division by zero")
  | .symbol _, .string _ | .string _, .symbol _ =>
    if op = .add then ("TypeError", "Cannot convert a Symbol value to a string") else noNumber
  | .symbol _, .bigint _ | .bigint _, .symbol _ => if op = .add then mixed else noNumber
  | .symbol _, _ | _, .symbol _ => noNumber
  | _, _ => mixed

/-- The length an array gets when its length is set to a primitive. -/
def arrayLength? (v : Value) : Option Nat :=
  match v.number? with
  | some n =>
    match (Double.ofFloat n).toInt? with
    | some i => if 0 ≤ i ∧ i < Int.ofNat (Nat.pow 2 32) then some i.toNat else none
    | none => none
  | none => none

/-- A number rounded towards zero, as a position in something of the given
length; negative positions count from the end. -/
def positionIn (length : Nat) (n : Float) : Nat :=
  match (Double.ofFloat n).truncate? with
  | some i => if i < 0 then (i + length).toNat else min i.toNat length
  | none => if n.isNaN || n < 0.0 then 0 else length

/-- What `typeof` says of a value. -/
def typeName (h : Heap) : Value → String
  | .undefined => "undefined"
  | .null => "object"
  | .bool _ => "boolean"
  | .number _ => "number"
  | .bigint _ => "bigint"
  | .string _ => "string"
  | .symbol _ => "symbol"
  | .object o =>
    match (h.obj o).kind with
    | .function _ => "function"
    | _ => "object"

end ObjectBridge.Script
