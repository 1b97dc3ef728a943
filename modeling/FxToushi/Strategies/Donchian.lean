import Mathlib.Tactic.Linarith

namespace FxToushi.Strategies

/-! # Donchian breakouts

The part of the Donchian strategies that finds a breakout of the bands and
chooses a direction for it.
-/

inductive DonchianMode where
  | bidirectional
  | longOnly
  | upperOnly
deriving Repr, DecidableEq

inductive Breakout where
  | upper
  | lower
deriving Repr, DecidableEq

def resolveDirection : DonchianMode → Breakout → Option String
  | .upperOnly, .upper => some "long"
  | .upperOnly, .lower => none
  | .longOnly, _ => some "long"
  | .bidirectional, .upper => some "long"
  | .bidirectional, .lower => some "short"

/-- The latest values of the bands, the close and the range. -/
structure DonchianBands where
  upper : Rat
  lower : Rat
  close : Rat
  atr : Rat
deriving Repr, DecidableEq

def breakoutBuffer (bands : DonchianBands) (bufferMin bufferMult : Rat) : Rat :=
  max bufferMin (bands.atr * bufferMult)

/-- The band that is broken, with its level. -/
def breakoutOf (bands : DonchianBands) (buffer : Rat) : Option (Breakout × Rat) :=
  if bands.upper + buffer < bands.close then some (.upper, bands.upper)
  else if bands.close < bands.lower - buffer then some (.lower, bands.lower)
  else none

end FxToushi.Strategies
