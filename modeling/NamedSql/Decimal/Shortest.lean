import NamedSql.Decimal.Binary
import NamedSql.Decimal.Scale

/-!
# The shortest decimal that reads back

The reals nearer to a float than to its neighbours form an interval. Its ends lie half way to the
neighbours, and they belong to it where the significand is even, since reading rounds ties to even.
Among the multiples of `10 ^ k` in the interval, for the greatest `k` that has one, the nearest to
the float is its shortest decimal. All arithmetic is exact.
-/

namespace NamedSql.Decimal

inductive Tie where
  | toEven
  | up
  deriving DecidableEq, Repr

/-- A float and a grid of decimals, measured in a common unit. -/
structure Grid where
  /-- The length of `10 ^ k`. -/
  step : Nat
  point : Nat
  low : Nat
  high : Nat
  closed : Bool

namespace Grid

/-- The float `m * 2 ^ q` on the grid of multiples of `10 ^ k`. A quarter of `2 ^ q` is fine enough:
the gap below a power of two is half the gap above. -/
def of (m : Nat) (q k : Int) : Grid :=
  let quarter := upScale 2 (q - 2) * upScale 10 (-k)
  let below := if m = Binary.leadingBit ∧ q ≠ Binary.leastExponent then 1 else 2
  { step := upScale 10 k * upScale 2 (2 - q)
    point := 4 * m * quarter
    low := (4 * m - below) * quarter
    high := (4 * m + 2) * quarter
    closed := m % 2 = 0 }

def holds (g : Grid) (n : Nat) : Bool :=
  if g.closed then g.low ≤ n * g.step && n * g.step ≤ g.high
  else g.low < n * g.step && n * g.step < g.high

def floor (g : Grid) : Nat := g.point / g.step

def nearer (g : Grid) (tie : Tie) : Nat :=
  let n := g.floor
  let past := 2 * (g.point - n * g.step)
  if past < g.step then n
  else if g.step < past then n + 1
  else match tie with
    | .up => n + 1
    | .toEven => n + n % 2

def hit? (g : Grid) (tie : Tie) : Option Nat :=
  match g.holds g.floor, g.holds (g.floor + 1) with
  | true, true => some (g.nearer tie)
  | true, false => some g.floor
  | false, true => some (g.floor + 1)
  | false, false => none

end Grid

def refine (m : Nat) (q : Int) (tie : Tie) : Nat → Int → Scaled
  | 0, k => ⟨(Grid.of m q k).nearer tie, k⟩
  | steps + 1, k =>
    match (Grid.of m q k).hit? tie with
    | some n => ⟨n, k⟩
    | none => refine m q tie steps (k - 1)

/-- A power of ten above `m * 2 ^ q`: the binary logarithm times a little less than `log 2`,
rounded up generously. -/
def topPower (m : Nat) (q : Int) : Int := (m.log2 + q) * 1233 / 4096 + 2

/-- The shortest decimal that reads back as `m * 2 ^ q`. Seventeen digits always suffice. -/
def shortest (m : Nat) (q : Int) (tie : Tie) : Scaled :=
  if m = 0 then ⟨0, 0⟩ else refine m q tie 20 (topPower m q)

end NamedSql.Decimal
