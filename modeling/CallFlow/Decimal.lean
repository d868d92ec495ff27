namespace CallFlow

/-- The number `digits · 10 ^ exponent`. `shortest` is the decimal of fewest digits that reads back
as a floating-point number, the nearest one where several have that length; `nearest` is the number
that a decimal reads back as. Both decode the bits into a whole number times a power of two and then
compute with whole numbers only. -/
structure Decimal where
  digits : Nat
  exponent : Int
  deriving Repr, DecidableEq, Inhabited

namespace Decimal

/-- A positive fraction. -/
structure Ratio where
  num : Nat
  den : Nat

/-- The fraction `m · base ^ e`. -/
def Ratio.scaled (m base : Nat) (e : Int) : Ratio :=
  if 0 ≤ e then ⟨m * Nat.pow base e.toNat, 1⟩ else ⟨m, Nat.pow base (-e).toNat⟩

/-- Three-way comparison of `a` with `d · 10 ^ k`. -/
def Ratio.compareGrid (a : Ratio) (d : Nat) (k : Int) : Ordering :=
  let g := Ratio.scaled d 10 k
  compare (a.num * g.den) (g.num * a.den)

/-- The whole part of `a / 10 ^ k`. -/
def Ratio.floorGrid (a : Ratio) (k : Int) : Nat :=
  let g := Ratio.scaled 1 10 k
  a.num * g.den / (g.num * a.den)

/-- How many decimal digits a positive whole number has. -/
def digitCount (n : Nat) : Nat := (Nat.toDigits 10 n).length

/-- The exponent of the first decimal digit of a fraction above `10 ^ -400`. -/
def Ratio.magnitude (a : Ratio) : Int := (digitCount (a.num * Nat.pow 10 400 / a.den) : Int) - 401

/-- The decimals between `low` and `high` (inclusive if `closed`) that are the neighbours of
`value` on the grid of step `10 ^ k`; of two, the nearer one, of two equally near the even one. -/
def gridPoint? (low value high : Ratio) (closed : Bool) (k : Int) : Option Decimal :=
  let down := value.floorGrid k
  let up := down + 1
  let inside (d : Nat) : Bool :=
    match low.compareGrid d k, high.compareGrid d k with
    | .lt, .gt => true
    | .eq, _ => closed
    | _, .eq => closed
    | _, _ => false
  match inside down && 0 < down, inside up with
  | false, false => none
  | true, false => some ⟨down, k⟩
  | false, true => some ⟨up, k⟩
  | true, true =>
    match Ratio.compareGrid ⟨2 * value.num, value.den⟩ (down + up) k with
    | .lt => some ⟨down, k⟩
    | .gt => some ⟨up, k⟩
    | .eq => some ⟨if down % 2 = 0 then down else up, k⟩

/-- The decimal with the zeros at its end moved into the exponent. -/
def normalize (d : Decimal) : Decimal := go d (digitCount d.digits)
where
  go (d : Decimal) : Nat → Decimal
    | 0 => d
    | n + 1 => if d.digits % 10 = 0 then go ⟨d.digits / 10, d.exponent + 1⟩ n else d

/-- The weight of the sign among the bits of a number, `2 ^ 63`. -/
def signWeight : Nat := 0x8000000000000000

/-- The weight of the lowest bit of the exponent, `2 ^ 52`. -/
def exponentWeight : Nat := 0x10000000000000

/-- Sign, whole number `m` and exponent `q` with the absolute value `m · 2 ^ q`; none for an
infinity or not-a-number. -/
def decode? (x : Float) : Option (Bool × Nat × Int) :=
  let bits : Nat := x.toBits.toNat
  let negative := bits / signWeight == 1
  let field : Nat := bits / exponentWeight % 2048
  let fraction : Nat := bits % exponentWeight
  if field = 2047 then none
  else if field = 0 then some (negative, fraction, (-1074 : Int))
  else some (negative, fraction + exponentWeight, (field : Int) - 1075)

/-- The shortest decimal that reads back as `m · 2 ^ q`, for `m` above zero. -/
def shortest (m : Nat) (q : Int) : Decimal :=
  let value := Ratio.scaled (4 * m) 2 (q - 2)
  let gap := if m = exponentWeight && q > -1074 then 1 else 2
  let low := Ratio.scaled (4 * m - gap) 2 (q - 2)
  let high := Ratio.scaled (4 * m + 2) 2 (q - 2)
  let top := value.magnitude
  let found := (List.range 17).findSome? fun (n : Nat) =>
    gridPoint? low value high (m % 2 == 0) (top - (n : Int))
  normalize (found.getD ⟨value.floorGrid (top - 17), top - 17⟩)

/-- The bits of the double nearest to a positive fraction, ties to the even one; a fraction
beyond the range gives infinity. -/
def nearestBits (r : Ratio) : Nat :=
  let a : Int := r.num.log2
  let b : Int := r.den.log2
  let reach := Ratio.scaled r.den 2 (a - b)
  let log := if reach.num ≤ r.num * reach.den then a - b else a - b - 1
  let q := max (log - 52) (-1074)
  let unit := Ratio.scaled 1 2 q
  let num := r.num * unit.den
  let den := r.den * unit.num
  let whole := num / den
  let rest := 2 * (num % den)
  let m := if rest < den || (rest == den && whole % 2 == 0) then whole else whole + 1
  let bits := if m < exponentWeight then m else (q + 1074).toNat * exponentWeight + m
  min bits (2047 * exponentWeight)

/-- The double nearest to a decimal, with the sign given. -/
def nearest (negative : Bool) (d : Decimal) : Float :=
  let size := (digitCount d.digits : Int) + d.exponent
  let bits :=
    if d.digits = 0 || size < -330 then 0
    else if size > 330 then 2047 * exponentWeight
    else nearestBits (Ratio.scaled d.digits 10 d.exponent)
  Float.ofBits (UInt64.ofNat (bits + if negative then signWeight else 0))

/-- The double nearest to a whole number, or none when it lies beyond the doubles. -/
def ofInt? (i : Int) : Option Float :=
  let x := nearest (i < 0) ⟨i.natAbs, 0⟩
  if x.isInf then none else some x

/-- The whole number that a double is, if it is one. -/
def toInt? (x : Float) : Option Int :=
  match decode? x with
  | none => none
  | some (negative, m, q) =>
    let r := Ratio.scaled m 2 q
    if r.num % r.den = 0 then
      some (if negative then -(r.num / r.den : Nat) else (r.num / r.den : Nat))
    else none

/-- The smallest whole number that is not below a double, if the double is finite. -/
def ceil? (x : Float) : Option Int :=
  match decode? x with
  | none => none
  | some (negative, m, q) =>
    let r := Ratio.scaled m 2 q
    some (if negative then -(r.num / r.den : Nat) else ((r.num + (r.den - 1)) / r.den : Nat))

/-- How a number is laid out: the range of exponents of the first digit that is written without
an exponent, and the texts of the numbers that no decimal is. -/
structure Layout where
  fromExponent : Int
  toExponent : Int
  notANumber : String
  infinity : String

/-- Numbers of less than seventeen digits before the point, and fractions with at most three
zeros after it, are written in full. -/
def plain : Layout := ⟨-4, 15, "nan", "inf"⟩

/-- As in `plain`, with the names that JSON readers know. -/
def json : Layout := { plain with notANumber := "NaN", infinity := "Infinity" }

/-- An exponent: its sign always, and at least two digits. -/
def exponentText (e : Int) : String :=
  let digits := toString e.natAbs
  "e" ++ (if e < 0 then "-" else "+") ++ (if digits.length < 2 then "0" ++ digits else digits)

/-- The digits with the point where the layout wants it. -/
def Layout.digitsText (l : Layout) (d : Decimal) : String :=
  let ds := (toString d.digits).toList
  let point := (ds.length : Int) + d.exponent
  let first := point - 1
  if l.fromExponent ≤ first && first ≤ l.toExponent then
    if point ≤ 0 then "0." ++ String.ofList (List.replicate (-point).toNat '0' ++ ds)
    else if (ds.length : Int) ≤ point then
      String.ofList (ds ++ List.replicate (point.toNat - ds.length) '0') ++ ".0"
    else String.ofList (ds.take point.toNat) ++ "." ++ String.ofList (ds.drop point.toNat)
  else
    let tail := ds.drop 1
    String.ofList (ds.take 1) ++ (if tail.isEmpty then "" else "." ++ String.ofList tail) ++
      exponentText first

/-- The text of a double in a layout. -/
def Layout.text (l : Layout) (x : Float) : String :=
  if x.isNaN then l.notANumber
  else match decode? x with
    | none => if x < 0 then "-" ++ l.infinity else l.infinity
    | some (negative, m, q) =>
      (if negative then "-" else "") ++ if m = 0 then "0.0" else l.digitsText (shortest m q)

/-- The text of a double, as few digits as read back. -/
def floatText (x : Float) : String := plain.text x

end Decimal

end CallFlow
