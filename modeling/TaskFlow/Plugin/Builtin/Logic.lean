/-
TaskFlow.Plugin.Builtin.Logic — comparison and boolean logic.

`Value.isTruthy` says what counts as true.
-/
import TaskFlow.Plugin.Arity

namespace TaskFlow.Plugin.Logic

open TaskFlow TaskFlow.Plugin

/-- All arguments equal the first one. -/
def eq : Definition :=
  ⟨"eq", fun _ args => do
    (Arity.atLeast 2).check "eq" args
    match args with
    | first :: rest => .ok (.boolean (rest.all fun v => v.equals first))
    | [] => .ok (.boolean true)⟩

/-- The first number stands in the relation to each other one. Arguments behind the first that does
not are not looked at. -/
def holdsForAll (relation : Int → Int → Bool) (first : Int64) :
    List Value → Except PluginError Bool
  | [] => .ok true
  | v :: rest => do
    let n ← v.promote
    if relation first.toInt n.toInt then holdsForAll relation first rest else .ok false

/-- A comparison of the first argument with all others. -/
def comparing (name : String) (relation : Int → Int → Bool) : Definition :=
  ⟨name, fun _ args => do
    (Arity.atLeast 2).check name args
    match args with
    | first :: rest =>
      let n ← first.promote
      let holds ← holdsForAll relation n rest
      .ok (.boolean holds)
    | [] => .ok (.boolean true)⟩

/-- The first argument is greater than all others. -/
def gt : Definition := comparing "gt" fun a b => decide (b < a)

/-- The first argument is less than all others. -/
def lt : Definition := comparing "lt" fun a b => decide (a < b)

/-- All arguments are true. -/
def and : Definition :=
  ⟨"and", fun _ args => do
    (Arity.atLeast 1).check "and" args
    .ok (.boolean (args.all Value.isTruthy))⟩

/-- Some argument is true. -/
def or : Definition :=
  ⟨"or", fun _ args => do
    (Arity.atLeast 1).check "or" args
    .ok (.boolean (args.any Value.isTruthy))⟩

/-- The opposite of every argument. -/
def not : Definition := each "not" fun v => .ok (.boolean !v.isTruthy)

/-- A test of one argument. -/
def testing (name : String) (test : Value → Bool) : Definition :=
  ⟨name, fun _ args => do
    (Arity.exactly 1).check name args
    .ok (.boolean (args.all test))⟩

/-- The argument is null. -/
def isNull : Definition := testing "isNull" Value.isNull

/-- The argument is not null. -/
def notNull : Definition := testing "notNull" fun v => !v.isNull

/-- The second argument if the first is true, else the third. -/
def ternary : Definition :=
  ⟨"ternary", fun _ args => do
    (Arity.exactly 3).check "ternary" args
    match args with
    | [condition, yes, no] => .ok (if condition.isTruthy then yes else no)
    | _ => .ok .null⟩

/-- The plugins of this module. -/
def all : List Definition := [eq, gt, lt, and, or, not, isNull, notNull, ternary]

end TaskFlow.Plugin.Logic
