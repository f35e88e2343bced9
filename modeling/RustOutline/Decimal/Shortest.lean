import RustOutline.Decimal.Binary

/-! The decimal text of a double: the fewest digits that read back, and of those the nearest. -/
namespace RustOutline.Decimal

/-- The digits `0.d₁d₂… · 10 ^ point` as one number `digits` of known length. -/
structure Digits where
  digits : Nat
  point : Int
deriving DecidableEq, Repr

private def pow10 (e : Int) : Nat × Nat :=
  match e with
  | .ofNat n => (Nat.pow 10 n, 1)
  | .negSucc n => (1, Nat.pow 10 (n + 1))

/-- The least `j ≤ fuel` with `den ≤ num · 10 ^ (j + 1)`. -/
private def leadingZeros (num den : Nat) : Nat → Nat
  | 0 => 0
  | fuel + 1 => if den ≤ num * 10 then 0 else leadingZeros (num * 10) den fuel + 1

/-- The exponent `k` with `10 ^ (k - 1) ≤ num / den < 10 ^ k`. -/
private def magnitude (num den : Nat) : Int :=
  if den ≤ num then (Nat.toDigits 10 (num / den)).length
  else -(leadingZeros num den 400 : Int)

/-- A decimal with `count` digits inside the rounding interval of the value, the nearer of the
value's two neighbours on that grid. All numbers are quarters of `2 ^ exponent`. -/
private def onGrid (value low high : Nat) (closed : Bool) (scale : Nat × Nat) (k : Int)
    (count : Nat) : Option Nat :=
  let (stepNum, stepDen) := pow10 (k - count)
  -- one grid step is stepNum / stepDen, one unit is scale.1 / scale.2
  let unit := scale.1 * stepDen
  let grid := scale.2 * stepNum
  let below := value * unit / grid
  let inside (g : Nat) : Bool :=
    if closed then low * unit ≤ g * grid && g * grid ≤ high * unit
    else low * unit < g * grid && g * grid < high * unit
  let down := inside below
  let up := inside (below + 1)
  if down && up then
    let left := value * unit - below * grid
    let right := (below + 1) * grid - value * unit
    some (if left < right || (left == right && below % 2 == 0) then below else below + 1)
  else if down then some below
  else if up then some (below + 1)
  else none

private def firstHit (value low high : Nat) (closed : Bool) (scale : Nat × Nat) (k : Int) :
    Nat → Nat → Digits
  | count, 0 => ⟨(onGrid value low high closed scale k count).getD 0, k⟩
  | count, fuel + 1 =>
    match onGrid value low high closed scale k count with
    | some g => if g == Nat.pow 10 count then ⟨1, k + 1⟩ else ⟨g, k⟩
    | none => firstHit value low high closed scale k (count + 1) fuel

/-- The shortest decimal of a positive dyadic number that rounds to it. -/
def Dyadic.shortest (d : Dyadic) : Digits :=
  let m := d.mantissa
  let scale : Nat × Nat := match d.exponent with
    | .ofNat e => (Nat.pow 2 e, 4)
    | .negSucc e => (1, 4 * Nat.pow 2 (e + 1))
  let low := if m == hiddenBit && d.exponent != -1074 then 4 * m - 1 else 4 * m - 2
  let k := magnitude (4 * m * scale.1) scale.2
  firstHit (4 * m) low (4 * m + 2) (m % 2 == 0) scale k 1 17

/-- Notation of decimal text: positional for points in `low..high`, otherwise with an exponent of
at least two figures; a whole number keeps `.0`. -/
def Digits.render (n : Digits) (low high : Int) : List Char :=
  let ds := Nat.toDigits 10 n.digits
  let trimmed := (ds.reverse.dropWhile (· == '0')).reverse
  let ds := if trimmed.isEmpty then ['0'] else trimmed
  let len : Int := ds.length
  if low < n.point && n.point ≤ high then
    if n.point ≤ 0 then ['0', '.'] ++ List.replicate (-n.point).toNat '0' ++ ds
    else if len ≤ n.point then ds ++ List.replicate (n.point - len).toNat '0' ++ ['.', '0']
    else ds.take n.point.toNat ++ ['.'] ++ ds.drop n.point.toNat
  else
    let e := n.point - 1
    let size := Nat.toDigits 10 e.natAbs
    let figures := if size.length < 2 then '0' :: size else size
    let fraction := ds.drop 1
    ds.take 1 ++ (if fraction.isEmpty then [] else '.' :: fraction) ++ ['e'] ++
      [if e < 0 then '-' else '+'] ++ figures

def text (x : Float) : List Char :=
  match Double.ofFloat x with
  | .nan => ['n', 'a', 'n']
  | .infinite negative => (if negative then ['-'] else []) ++ ['i', 'n', 'f']
  | .finite d =>
    let sign := if d.negative then ['-'] else []
    if d.mantissa == 0 then sign ++ ['0', '.', '0']
    else sign ++ d.shortest.render (-4) 16

end RustOutline.Decimal
