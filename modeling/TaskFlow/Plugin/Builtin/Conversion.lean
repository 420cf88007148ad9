/-
TaskFlow.Plugin.Builtin.Conversion — conversions between types.

Each conversion maps every argument: one argument gives a value, several give a sequence.

  §1 Numbers — `toLong`, `toDouble`, `toSingle`.
  §2 Bytes   — `base64`.
  §3 Plugins — text, int, long, float, double, boolean, b64, binary, removeKey.
-/
import TaskFlow.Binary.Read
import TaskFlow.Plugin.Arity

namespace TaskFlow.Plugin.Conversion

open TaskFlow TaskFlow.Plugin TaskFlow.Text TaskFlow.Binary

/-! ## §1 Numbers -/

/-- The whole part of a float between the ends of the 64-bit range; the upper end itself goes to
the greatest integer. -/
def floatToLong (x : Double) : Except PluginError Int64 :=
  match x with
  | .finite y =>
    if y.withinLong then .ok (Int64.ofInt x.saturate) else .error (.promotion "float")
  | _ => .error (.promotion "float")

/-- The whole number that a value stands for. A text that is no 64-bit integer is read as a float
and cut to its whole part. -/
def toLong (plugin : String) : Value → Except PluginError Int64
  | .float x => floatToLong x
  | .boolean b => .ok (if b then 1 else 0)
  | .text s =>
    match Value.long? (trim s.toList), Double.read? (trim s.toList) with
    | some n, _ => .ok n
    | none, some x => floatToLong x
    | none, none => failed plugin s!"cannot convert '{s}' to a number"
  | v => v.promote

/-- The float that a value stands for. -/
def toDouble (plugin : String) : Value → Except PluginError Double
  | .integer n => .ok (Double.ofInt n.toInt)
  | .float x => .ok x
  | .boolean b => .ok (Double.ofInt (if b then 1 else 0))
  | .text s =>
    match Double.read? (trim s.toList) with
    | some x => .ok x
    | none => failed plugin s!"cannot convert '{s}' to a number"
  | v => failed plugin s!"cannot convert {v.typeName} to a number"

/-- The float that a value stands for, rounded to single precision; `1.1` stays `1.1`. -/
def toSingle (plugin : String) (v : Value) : Except PluginError Double := do
  let x ← toDouble plugin v
  match x.narrow? with
  | some y => .ok y
  | none => failed plugin s!"{v.toText} is out of range"

/-! ## §2 Bytes -/

/-- The UTF-8 bytes of a text. -/
def utf8 (s : String) : List Nat :=
  s.toUTF8.toList.map UInt8.toNat

/-- The digit of base 64 for a number below sixty-four. -/
def base64Digit (n : Nat) : Char :=
  if n < 26 then Char.ofNat ('A'.toNat + n)
  else if n < 52 then Char.ofNat ('a'.toNat + (n - 26))
  else if n < 62 then Char.ofNat ('0'.toNat + (n - 52))
  else if n = 62 then '+' else '/'

/-- The base 64 text of bytes: four digits for three bytes, filled up with `=`. -/
def base64 : List Nat → List Char
  | [] => []
  | [a] => [base64Digit (a / 4), base64Digit (a % 4 * 16), '=', '=']
  | [a, b] =>
    [base64Digit (a / 4), base64Digit (a % 4 * 16 + b / 16), base64Digit (b % 16 * 4), '=']
  | a :: b :: c :: rest =>
    base64Digit (a / 4) :: base64Digit (a % 4 * 16 + b / 16) ::
      base64Digit (b % 16 * 4 + c / 64) :: base64Digit (c % 64) :: base64 rest

/-! ## §3 Plugins -/

/-- The text form. -/
def text : Definition := each "text" fun v => .ok (.text v.toText)

/-- A whole number of 32 bits. -/
def int : Definition :=
  each "int" fun v => do
    let n ← toLong "int" v
    if -0x80000000 ≤ n.toInt ∧ n.toInt < 0x80000000 then .ok (.integer n)
    else failed "int" s!"{intText n.toInt} does not fit in 32 bits"

/-- A whole number of 64 bits. -/
def long : Definition := each "long" fun v => (toLong "long" v).map .integer

/-- A float of double precision. -/
def double : Definition := each "double" fun v => (toDouble "double" v).map .float

/-- A float of single precision. -/
def float : Definition := each "float" fun v => (toSingle "float" v).map .float

/-- The truth of a value. -/
def boolean : Definition := each "boolean" fun v => .ok (.boolean v.isTruthy)

/-- The base 64 text of the text form. -/
def b64 : Definition :=
  each "b64" fun v => .ok (.text (String.ofList (base64 (utf8 v.toText))))

/-- The bytes of the text form. -/
def binary : Definition :=
  each "binary" fun v =>
    .ok (.sequence ((utf8 v.toText).map fun b => .integer (Int64.ofNat b)))

/-- A map without some keys; any other value as it is. -/
def dropKeys (keys : List String) : Value → Value
  | .map fields => .map (fields.filter fun field => !keys.contains field.1)
  | v => v

/-- The first argument without the keys that the others name: a map, or every map of a sequence.
Anything else gives null. -/
def removeKey : Definition :=
  ⟨"removeKey", fun _ args => do
    (Arity.atLeast 2).check "removeKey" args
    match args with
    | .map fields :: rest => .ok (dropKeys (rest.map Value.toText) (.map fields))
    | .sequence items :: rest => .ok (.sequence (items.map (dropKeys (rest.map Value.toText))))
    | _ => .ok .null⟩

/-- The plugins of this module. -/
def all : List Definition := [text, int, long, float, double, boolean, b64, binary, removeKey]

end TaskFlow.Plugin.Conversion
