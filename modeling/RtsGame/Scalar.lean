import Mathlib.Data.Rat.Lemmas
import Mathlib.Algebra.Order.Ring.Rat
import Mathlib.Data.Nat.Cast.Order.Ring

/-!
# Single-precision arithmetic

The simulation computes positions, hit points and timers in `float`.  The
model takes the arithmetic as a parameter: a type with the operations that the
source calls, of which nothing is assumed except that small integer constants
compare as integers do.  A statement about every such type holds for rounded
IEEE arithmetic as well as for exact arithmetic.
-/

namespace RtsGame

/--
The operations on `float` that the source uses.  `lit q` is the value
of a decimal literal, `ceil` is `std::ceil` followed by the cast to
`std::size_t`.
-/
class Scalar (F : Type) extends Add F, Sub F, Mul F, Div F, Neg F, LT F, LE F where
  lit : Rat -> F
  sqrt : F -> F
  sin : F -> F
  cos : F -> F
  atan2 : F -> F -> F
  ceil : F -> Nat
  decLt : (a b : F) -> Decidable (a < b)
  decLe : (a b : F) -> Decidable (a ≤ b)
  lit_lt : forall m n : Nat, m ≤ 2 ^ 24 -> n ≤ 2 ^ 24 ->
    (lit m < lit n <-> m < n)
  lit_le : forall m n : Nat, m ≤ 2 ^ 24 -> n ≤ 2 ^ 24 ->
    (lit m ≤ lit n <-> m ≤ n)

namespace Scalar

variable {F : Type} [Scalar F]

instance instDecidableLt (a b : F) : Decidable (a < b) := decLt a b

instance instDecidableLe (a b : F) : Decidable (a ≤ b) := decLe a b

/-- `static_cast<float>` of an unsigned integer. -/
def ofNat (n : Nat) : F := lit n

/-- `std::max`, which keeps its first argument unless the second is larger. -/
def max (a b : F) : F := if a < b then b else a

theorem lit_pos {n : Nat} (hn : 0 < n) (hle : n ≤ 2 ^ 24) :
    (lit 0 : F) < lit n := by
  simpa using (lit_lt (F := F) 0 n (by simp) hle).mpr hn

theorem not_lit_le_zero {n : Nat} (hn : 0 < n) (hle : n ≤ 2 ^ 24) :
    ¬ (lit n : F) ≤ lit 0 := by
  intro h
  have hzero : n ≤ 0 := (lit_le (F := F) n 0 hle (by simp)).mp (by simpa using h)
  lia

end Scalar

/-!
## Rational arithmetic

The rational numbers are one such arithmetic, in which a concrete run can be
evaluated.  The square root is exact on squares of rationals and otherwise
rounded down to a multiple of a small unit; the angles are polynomial
approximations that are exact at zero.
-/

/-- The integer square root, computed two binary digits at a time. -/
def natSqrt : Nat -> Nat -> Nat
  | 0, _ => 0
  | fuel + 1, n =>
      let half := 2 * natSqrt fuel (n / 4)
      if (half + 1) * (half + 1) ≤ n then half + 1 else half

namespace Rational

def sqrt (q : Rat) : Rat :=
  let n := q.num.toNat * q.den * 4 ^ 20
  mkRat (natSqrt (n.log2 / 2 + 1) n) (q.den * 2 ^ 20)

def sin (q : Rat) : Rat :=
  q - q ^ 3 / 6 + q ^ 5 / 120

def cos (q : Rat) : Rat :=
  1 - q ^ 2 / 2 + q ^ 4 / 24

def pi : Rat := 3.14159265358979323846

def atanUnit (t : Rat) : Rat :=
  t * (pi / 4 + 0.273 * (1 - |t|))

def atan2 (y x : Rat) : Rat :=
  if y = 0 ∧ 0 ≤ x then 0
  else if |y| ≤ |x| then
    if 0 < x then atanUnit (y / x)
    else if 0 ≤ y then atanUnit (y / x) + pi else atanUnit (y / x) - pi
  else
    if 0 < y then pi / 2 - atanUnit (x / y) else - (pi / 2) - atanUnit (x / y)

end Rational

instance instScalarRat : Scalar Rat where
  lit := id
  sqrt := Rational.sqrt
  sin := Rational.sin
  cos := Rational.cos
  atan2 := Rational.atan2
  ceil := fun q => q.ceil.toNat
  decLt := fun a b => inferInstanceAs (Decidable (a < b))
  decLe := fun a b => inferInstanceAs (Decidable (a ≤ b))
  lit_lt := fun _ _ _ _ => Nat.cast_lt
  lit_le := fun _ _ _ _ => Nat.cast_le

example : Rational.sqrt (9 / 4) = 3 / 2 := by decide +kernel

end RtsGame
