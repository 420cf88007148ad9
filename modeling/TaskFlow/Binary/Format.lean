/-
TaskFlow.Binary.Format — binary floating point formats and their finite magnitudes.

A magnitude is held as its code: the exponent field above the fraction field, read as one natural
number. Codes are ordered as the magnitudes they stand for, and the code after `c` is the next
larger magnitude.

  §1 Formats    — `Format`, with `double` (64 bits) and `single` (32 bits).
  §2 Magnitudes — `steps` gives the magnitude of a code, counted in the format's smallest step.
  §3 Rounding   — `roundHalfEven` rounds a ratio of natural numbers to the nearest natural number,
                  `nearest` rounds it to the nearest code; a tie goes to the even neighbour.
-/

namespace TaskFlow.Binary

/-! ## §1 Formats -/

/-- A binary format: `fractionBits` stored bits, smallest step `2 ^ -scale`, and the number of
exponent codes that stand for finite magnitudes. -/
structure Format where
  fractionBits : Nat
  scale : Nat
  binades : Nat
deriving DecidableEq, Repr

/-- Double precision. -/
def double : Format := ⟨52, 1074, 2047⟩

/-- Single precision. -/
def single : Format := ⟨23, 149, 255⟩

namespace Format

/-- Codes below this limit are finite. -/
def limit (f : Format) : Nat :=
  f.binades * Nat.pow 2 f.fractionBits

/-! ## §2 Magnitudes -/

/-- The significand of a code, with the leading bit that normal codes leave out. -/
def significand (f : Format) (code : Nat) : Nat :=
  if code < Nat.pow 2 f.fractionBits then code
  else code % Nat.pow 2 f.fractionBits + Nat.pow 2 f.fractionBits

/-- The power of two that the significand is multiplied by, counted in steps. -/
def shift (f : Format) (code : Nat) : Nat :=
  code / Nat.pow 2 f.fractionBits - 1

/-- The magnitude of a code in units of `2 ^ -scale`. -/
def steps (f : Format) (code : Nat) : Nat :=
  f.significand code * Nat.pow 2 (f.shift code)

end Format

/-! ## §3 Rounding -/

/-- The natural number nearest to `num / den`; a tie goes to the even one. -/
def roundHalfEven (num den : Nat) : Nat :=
  let q := num / den
  let r := num % den
  if 2 * r < den then q
  else if den < 2 * r then q + 1
  else if q % 2 = 0 then q else q + 1

/-- The code nearest to the ratio `num / den`. The result may lie past the format's limit, which
says that the ratio rounds to no finite magnitude. -/
def Format.nearest (f : Format) (num den : Nat) : Nat :=
  let scaled := num * Nat.pow 2 f.scale
  let whole := scaled / den
  let shift := if whole < Nat.pow 2 (f.fractionBits + 1) then 0 else Nat.log2 whole - f.fractionBits
  shift * Nat.pow 2 f.fractionBits + roundHalfEven scaled (den * Nat.pow 2 shift)

end TaskFlow.Binary
