/-
TaskFlow.Text.Numeral — decimal numerals of whole numbers.

  §1 Digits    — `digit?` reads one ASCII digit, `digitChar` writes one.
  §2 Reading   — `natural?` reads a non-empty run of digits; `unsigned?` and `signed?` add the
                 sign and a range and refuse what lies outside it.
  §3 Writing   — `ofNat` and `ofInt`.
-/

namespace TaskFlow.Text

/-! ## §1 Digits -/

/-- The value of an ASCII digit. -/
def digit? (c : Char) : Option Nat :=
  if '0' ≤ c ∧ c ≤ '9' then some (c.toNat - '0'.toNat) else none

/-- An ASCII digit. -/
def isDigit (c : Char) : Bool :=
  (digit? c).isSome

/-- The digit of a number below ten. -/
def digitChar (d : Nat) : Char :=
  Char.ofNat ('0'.toNat + d)

/-! ## §2 Reading -/

/-- The value of a run of digits read after `acc`; anything else in the run is refused. -/
def readDigits (acc : Nat) : List Char → Option Nat
  | [] => some acc
  | c :: rest => (digit? c).bind fun d => readDigits (10 * acc + d) rest

/-- A non-empty run of ASCII digits. -/
def natural? : List Char → Option Nat
  | [] => none
  | cs => readDigits 0 cs

/-- Natural numbers of 64 bits stay below this bound. -/
def wordBound : Nat := 0x10000000000000000

/-- A natural number with an optional plus sign, below `bound`. -/
def unsigned? (bound : Nat) (cs : List Char) : Option Nat :=
  let digits := match cs with
    | '+' :: rest => rest
    | _ => cs
  (natural? digits).filter (· < bound)

/-- A whole number with an optional sign, at least `-half` and below `half`. -/
def signed? (half : Nat) (cs : List Char) : Option Int :=
  let number : Option Int := match cs with
    | '+' :: rest => (natural? rest).map Int.ofNat
    | '-' :: rest => (natural? rest).map fun n => -Int.ofNat n
    | _ => (natural? cs).map Int.ofNat
  number.filter fun z => -(half : Int) ≤ z ∧ z < half

/-! ## §3 Writing -/

/-- The decimal digits of a natural number, most significant first. -/
def ofNat (n : Nat) : List Char :=
  if n < 10 then [digitChar n] else ofNat (n / 10) ++ [digitChar (n % 10)]

/-- The decimal numeral of a whole number, with a minus sign when it is negative. -/
def ofInt : Int → List Char
  | .ofNat n => ofNat n
  | .negSucc n => '-' :: ofNat (n + 1)

/-- `ofNat` as a `String`. -/
def natText (n : Nat) : String :=
  String.ofList (ofNat n)

/-- `ofInt` as a `String`. -/
def intText (z : Int) : String :=
  String.ofList (ofInt z)

end TaskFlow.Text
