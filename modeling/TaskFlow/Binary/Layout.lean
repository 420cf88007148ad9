/-
TaskFlow.Binary.Layout — how a decimal is laid out as text.

  §1 Layouts  — `Layout` says where positional notation ends, whether a whole number keeps a
                fraction and how an exponent is signed; three layouts are in use.
  §2 Printing — `Decimal.print` lays one decimal out; `Finite.print` and `Double.print` add the sign.
-/
import TaskFlow.Binary.Shortest
import TaskFlow.Text.Numeral

namespace TaskFlow.Binary

open TaskFlow.Text

/-! ## §1 Layouts -/

/-- The choices a decimal's text depends on. The exponent is that of the leading digit. -/
structure Layout where
  /-- Leading exponents for which the digits are written out in place. -/
  positional : Int → Bool
  /-- A whole number written in place ends in `.0`. -/
  keepsFraction : Bool
  /-- A positive exponent has a plus sign. -/
  plusSign : Bool

/-- JSON text: positional for leading exponents from -5 to 15, and always with a fraction or an
exponent. -/
def jsonLayout : Layout := ⟨fun e => -5 ≤ e && e ≤ 15, true, true⟩

/-- Documents: as JSON text, but a positive exponent has no sign. -/
def documentLayout : Layout := { jsonLayout with plusSign := false }

/-- Plain text: always positional, and a whole number has no fraction. -/
def plainLayout : Layout := ⟨fun _ => true, false, false⟩

/-! ## §2 Printing -/

/-- Digits with the point after the first `whole` of them; zeros fill both sides as needed. -/
def placePoint (digits : List Char) (whole : Int) (keepsFraction : Bool) : List Char :=
  if (digits.length : Int) ≤ whole then
    digits ++ List.replicate (whole.toNat - digits.length) '0' ++
      (if keepsFraction then ['.', '0'] else [])
  else if 0 < whole then
    digits.take whole.toNat ++ '.' :: digits.drop whole.toNat
  else
    '0' :: '.' :: (List.replicate (-whole).toNat '0' ++ digits)

/-- Scientific notation: one digit, the fraction if there is one, and the exponent. -/
def scientific (digits : List Char) (leading : Int) (plusSign : Bool) : List Char :=
  let mantissa := match digits with
    | first :: second :: rest => first :: '.' :: second :: rest
    | _ => digits
  mantissa ++ 'e' :: ((if plusSign ∧ 0 ≤ leading then ['+'] else []) ++ ofInt leading)

/-- The text of a decimal in a layout. -/
def Decimal.print (d : Decimal) (layout : Layout) : List Char :=
  let digits := ofNat d.coefficient
  let leading := d.exponent + digits.length - 1
  if layout.positional leading then placePoint digits (leading + 1) layout.keepsFraction
  else scientific digits leading layout.plusSign

/-- The text of a finite double: the shortest decimal that reads back, behind its sign. -/
def Finite.print (x : Finite) (layout : Layout) : List Char :=
  let magnitude := (double.shortest x.code).print layout
  if x.negative then '-' :: magnitude else magnitude

/-- The text of a double. -/
def Double.print (x : Double) (layout : Layout) : List Char :=
  match x with
  | .nan => "NaN".toList
  | .infinite false => "inf".toList
  | .infinite true => "-inf".toList
  | .finite y => y.print layout

end TaskFlow.Binary
