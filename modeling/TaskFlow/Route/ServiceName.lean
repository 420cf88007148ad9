/-
TaskFlow.Route.ServiceName — names of function routes and monitors.

A service name has at least two tokens joined by dots. A token is made of lower case ASCII letters
and digits; `_` and `-` stand only between them.

  §1 The pattern — `token`, `serviceName`.
  §2 Checking    — `isServiceName` and `checkRoute`.
-/
import TaskFlow.Error
import TaskFlow.Route.Pattern

namespace TaskFlow

/-! ## §1 The pattern -/

namespace Pattern

/-- Lower case ASCII letters and digits. -/
def letter : Pattern := .oneOf [('a', 'z'), ('0', '9')]

/-- The characters that may stand inside a token but not at its ends. -/
def joiner : Pattern := .oneOf [('_', '_'), ('-', '-')]

/-- The dot between tokens. -/
def dot : Pattern := .oneOf [('.', '.')]

/-- Runs of letters with runs of joiners between them. -/
def token : Pattern := .seq letter.plus (.star (.seq joiner.plus letter.plus))

/-- Two or more tokens with dots between them. -/
def serviceName : Pattern := .seq token (Pattern.plus (.seq dot token))

end Pattern

/-! ## §2 Checking -/

/-- The text is a service name. -/
def isServiceName (text : String) : Bool :=
  Pattern.serviceName.accepts text.toList

/-- A route must be a service name. -/
def checkRoute (route : String) : Except Error Unit :=
  if isServiceName route then .ok () else .error (.invalidRoute route)

end TaskFlow
