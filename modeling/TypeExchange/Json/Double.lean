/-! Doubles: reading a decimal in rounded steps, and the shortest decimal text. -/
namespace TypeExchange.Json

/-- The number `mantissa * 2 ^ exponent`, which is not negative. -/
structure Binary where
  mantissa : Nat
  exponent : Int
  deriving DecidableEq, Repr

def powerOf2 (n : Nat) : Nat := Nat.pow 2 n

def powerOf10 (n : Nat) : Nat := Nat.pow 10 n

def Binary.zero : Binary := ⟨0, -1074⟩

/-- The whole number nearest to `num / den`, the even one of two that are equally near. -/
def roundQuotient (num den : Nat) : Nat :=
  let below := num / den
  match compare (2 * (num % den)) den with
  | .lt => below
  | .eq => below + below % 2
  | .gt => below + 1

/-- The exponent with which `num / den` has a mantissa of 53 bits, or of fewer if there is no
smaller exponent. -/
def mantissaExponent (num den : Nat) : Int :=
  let e : Int := Int.ofNat num.log2 - Int.ofNat den.log2 - 53
  let isShort : Bool := num * powerOf2 (-e).toNat < powerOf2 53 * (den * powerOf2 e.toNat)
  max (if isShort then e else e + 1) (-1074)

/-- The double nearest to `num / den`, unless that is beyond all doubles. -/
def Binary.nearest? (num den : Nat) : Option Binary :=
  if num = 0 then some zero
  else
    let e := mantissaExponent num den
    let m := roundQuotient (num * powerOf2 (-e).toNat) (den * powerOf2 e.toNat)
    let b : Binary := if m = powerOf2 53 then ⟨powerOf2 52, e + 1⟩ else ⟨m, e⟩
    if 971 < b.exponent then none else some b

def Binary.times? (a b : Binary) : Option Binary :=
  let e := a.exponent + b.exponent
  nearest? (a.mantissa * b.mantissa * powerOf2 e.toNat) (powerOf2 (-e).toNat)

def Binary.over? (a b : Binary) : Option Binary :=
  let e := a.exponent - b.exponent
  nearest? (a.mantissa * powerOf2 e.toNat) (b.mantissa * powerOf2 (-e).toNat)

/-- The double nearest to `10 ^ n`. -/
def Binary.power10? (n : Nat) : Option Binary := nearest? (powerOf10 n) 1

/-- `b * 10 ^ q`, rounded at each step: a greater power than `10 ^ 308` is no double, so smaller
numbers are divided more than once. The first argument bounds the steps. -/
def Binary.scale? : Nat → Binary → Int → Option Binary
  | 0, b, _ => some b
  | n + 1, b, q =>
    if q.natAbs ≤ 308 then
      (power10? q.natAbs).bind fun p => if 0 ≤ q then b.times? p else b.over? p
    else if b.mantissa = 0 then some b
    else if 0 ≤ q then none
    else
      (power10? 308).bind fun p => (b.over? p).bind fun b => scale? n b (q + 308)

/-- A decimal whose digits are kept while they fit into 64 bits. -/
structure Significand where
  digits : Nat
  exponent : Int
  deriving DecidableEq, Repr

/-- Whether one more digit fits. -/
def Significand.fits (s : Significand) (digit : Nat) : Bool :=
  s.digits * 10 + digit < 0x10000000000000000

/-- Adds the digits before the point. After the first that does not fit they only count. -/
def Significand.addWhole (s : Significand) : List Nat → Significand
  | [] => s
  | d :: ds =>
    if s.fits d then addWhole { s with digits := s.digits * 10 + d } ds
    else { s with exponent := s.exponent + (ds.length + 1) }

/-- Adds the digits after the point. Those from the first that does not fit are dropped. -/
def Significand.addFraction (s : Significand) : List Nat → Significand
  | [] => s
  | d :: ds =>
    if s.fits d then addFraction ⟨s.digits * 10 + d, s.exponent - 1⟩ ds else s

/-- The double that a decimal is read as, which need not be the nearest. -/
def Binary.ofDecimal? (whole fraction : List Nat) (exponent : Int) : Option Binary :=
  let s := ((⟨0, 0⟩ : Significand).addWhole whole).addFraction fraction
  (nearest? s.digits 1).bind fun b => b.scale? 4 (s.exponent + exponent)

/-- Compares `a * 2 ^ p` with `d * 10 ^ q`. -/
def compareScaled (a : Nat) (p : Int) (d : Nat) (q : Int) : Ordering :=
  compare (a * powerOf2 p.toNat * powerOf10 (-q).toNat)
    (d * powerOf10 q.toNat * powerOf2 (-p).toNat)

/-- Whether `d * 10 ^ q` reads back as `b`: it lies no further than half a step away. The bounds
belong to the interval where the mantissa is even. -/
def readsBack (b : Binary) (d : Nat) (q : Int) : Bool :=
  let low := if b.mantissa = powerOf2 52 ∧ -1074 < b.exponent then 4 * b.mantissa - 1
    else 4 * b.mantissa - 2
  let high := 4 * b.mantissa + 2
  let p := b.exponent - 2
  let even := b.mantissa % 2 == 0
  let fromLow := compareScaled low p d q
  let fromHigh := compareScaled high p d q
  (fromLow == .lt || (even && fromLow == .eq)) && (fromHigh == .gt || (even && fromHigh == .eq))

/-- The quotient of `b` by `10 ^ q`, rounded down. -/
def quotient (b : Binary) (q : Int) : Nat :=
  b.mantissa * powerOf2 b.exponent.toNat * powerOf10 (-q).toNat /
    (powerOf10 q.toNat * powerOf2 (-b.exponent).toNat)

/-- The greatest power of ten that is not above `b`, sought upwards from `q`. -/
def leadingPower (b : Binary) : Nat → Int → Int
  | 0, q => q
  | n + 1, q => if quotient b (q + 1) = 0 then q else leadingPower b n (q + 1)

/-- The neighbour of `b` on the grid of `10 ^ q` that reads back. If both do it is the nearer one,
and the even one where they are equally near. -/
def gridPoint? (b : Binary) (q : Int) : Option Nat :=
  let below := quotient b q
  let above := below + 1
  match readsBack b below q, readsBack b above q with
  | true, true =>
    match compareScaled (2 * b.mantissa) b.exponent (below + above) q with
    | .gt => some above
    | .eq => some (if below % 2 = 0 then below else above)
    | .lt => some below
  | true, false => some below
  | false, true => some above
  | false, false => none

/-- The digits and the power of ten of the coarsest grid with a point that reads back. -/
def shortest (b : Binary) : Nat → Int → Nat × Int
  | 0, q => (quotient b q, q)
  | n + 1, q => match gridPoint? b q with
    | some d => (d, q)
    | none => shortest b n (q - 1)

/-- `d * 10 ^ q` with at least one decimal place where the point stands among the sixteen first
places or at most four zeros before the digits; elsewhere with an exponent that has a sign. -/
def decimalText (d : Nat) (q : Int) : String :=
  let digits := (toString d).toList
  let point := digits.length + q
  let zeros (n : Int) : List Char := List.replicate n.toNat '0'
  String.ofList <|
    if 0 ≤ q ∧ point ≤ 16 then digits ++ zeros q ++ ['.', '0']
    else if 0 < point ∧ point ≤ 16 then
      digits.take point.toNat ++ '.' :: digits.drop point.toNat
    else if -5 < point ∧ point ≤ 0 then '0' :: '.' :: (zeros (-point) ++ digits)
    else
      let fraction := match digits.drop 1 with
        | [] => []
        | rest => '.' :: rest
      let sign := if 0 < point then ['+'] else []
      digits.take 1 ++ fraction ++ 'e' :: (sign ++ (toString (point - 1)).toList)

def Binary.text (b : Binary) : String :=
  if b.mantissa = 0 then "0.0"
  else
    let top := leadingPower b 700 (-330)
    let (d, q) := shortest b 17 top
    if d % 10 = 0 then decimalText (d / 10) (q + 1) else decimalText d q

end TypeExchange.Json
