import Mathlib.Algebra.Order.Floor.Ring
import Mathlib.Data.Rat.Floor
import RobotFirmware.BinaryRounding

/-!
# Reading the Lua configuration

`config.cpp` looks numbers up in the global `config` module by category and
symbol.  The module is an ordinary Lua table, so every reader takes the table
it sees as an argument.  Doubles are modelled exactly by an ordered field; only
where a product is truncated to an `int` its rounding is modelled as well, since
it decides the result.
-/

namespace RobotFirmware

/-- The numeric entries of the Lua `config` module, by category and symbol. -/
structure Config (K : Type*) where
  entry : String → String → Option K

namespace Config

variable {K : Type*}

def number (config : Config K) (cat sym : String) (fallback : K) : K :=
  if cat.isEmpty || sym.isEmpty then
    fallback
  else
    (config.entry cat sym).getD fallback

variable [Ring K] [LinearOrder K] [FloorRing K]

/-- `static_cast<int>` of a double: truncation toward zero. -/
def toInt (value : K) : Int :=
  if 0 ≤ value then ⌊value⌋ else ⌈value⌉

def integer (config : Config K) (cat sym : String) (fallback : Int) : Int :=
  toInt (config.number cat sym fallback)

/-- The double that is nearest to the exact result of an operation, if that is in
the range of the normal doubles. -/
def double {K : Type*} [Field K] [LinearOrder K] [FloorRing K] (value : K) : K :=
  BinaryRounding.roundToPrecision 53 value

theorem toInt_double_intCast {K : Type*} [Field K] [LinearOrder K] [FloorRing K]
    [IsStrictOrderedRing K] {n : Int} (nonneg : 0 ≤ n) (small : n < 2 ^ 53) :
    toInt (double (n : K)) = n := by
  have inRange : |(n : K)| < 2 ^ 53 := by
    rw [abs_of_nonneg (Int.cast_nonneg nonneg)]
    exact_mod_cast small
  rw [double, BinaryRounding.roundToPrecision_intCast inRange, toInt,
    if_pos (Int.cast_nonneg nonneg), Int.floor_intCast]

/-- A time in seconds that is a little below nine milliseconds: the product is
rounded up. -/
example : toInt (double (1000.0 * (5188146770730811 / 2 ^ 59 : Rat))) = 9 := by decide +kernel

/-- A configuration for the bench: a shot takes two periods of a millisecond,
of which the first is warm-up. -/
def bench : Config Rat :=
  ⟨fun _ sym => if sym = "warmup_time" ∨ sym = "shoot_time" then some (1 / 1000) else some 1⟩

end Config

end RobotFirmware
