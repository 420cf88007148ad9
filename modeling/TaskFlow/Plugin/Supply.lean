/-
TaskFlow.Plugin.Supply — random identifiers.

A supply is a seed. It can be divided into branches that are seeds of their own, so that every place
that needs an identifier has its own supply and no state passes between them.

  §1 Supplies    — `Supply` and `branch`.
  §2 Identifiers — `Supply.uuid` is a version 4 identifier; `Supply.hexId` is one without hyphens.
-/
import TaskFlow.Text.Literal

namespace TaskFlow

/-! ## §1 Supplies -/

/-- A source of random identifiers. -/
structure Supply where
  seed : UInt64
deriving DecidableEq, Repr, Inhabited

namespace Supply

/-- A mixing step that spreads every bit of a word over the whole word. -/
def mix (x : UInt64) : UInt64 :=
  let x := x + 0x9E3779B97F4A7C15
  let x := (x ^^^ (x >>> 30)) * 0xBF58476D1CE4E5B9
  let x := (x ^^^ (x >>> 27)) * 0x94D049BB133111EB
  x ^^^ (x >>> 31)

/-- The `n`-th branch of a supply. -/
def branch (s : Supply) (n : Nat) : Supply :=
  ⟨mix (mix s.seed ^^^ mix (UInt64.ofNat n + 1))⟩

/-! ## §2 Identifiers -/

/-- The sixteen hexadecimal digits of a word. -/
def hexWord (w : UInt64) : List Char :=
  let digits := Text.hexDigits w.toNat
  List.replicate (16 - digits.length) '0' ++ digits

/-- The thirty-two digits of a version 4 identifier: the thirteenth is 4 and the seventeenth is one
of 8, 9, a and b. -/
def digits (s : Supply) : List Char :=
  let first := hexWord (mix s.seed)
  let variant := ['8', '9', 'a', 'b'][(s.seed % 4).toNat]?.getD '8'
  let second := hexWord (mix (s.seed ^^^ 0x5851F42D4C957F2D))
  first.take 12 ++ '4' :: first.drop 13 ++ variant :: second.drop 1

/-- A version 4 identifier without hyphens. -/
def hexId (s : Supply) : String :=
  String.ofList s.digits

/-- A version 4 identifier. -/
def uuid (s : Supply) : String :=
  let d := s.digits
  String.ofList (d.take 8 ++ '-' :: (d.drop 8).take 4 ++ '-' :: (d.drop 12).take 4 ++ '-' ::
    (d.drop 16).take 4 ++ '-' :: d.drop 20)

end Supply

end TaskFlow
