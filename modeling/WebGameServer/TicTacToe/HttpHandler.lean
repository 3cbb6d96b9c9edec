import Mathlib.Data.Char
import Mathlib.Data.List.Lex

namespace WebGameServer
set_option autoImplicit true

/-- A text of a request or a file, by its characters. -/
abbrev Text := List Char

inductive HttpStatus where
  | ok
  | notFound
  | methodNotAllowed
  deriving DecidableEq

/-- What `http_handler` sets on the connection. -/
structure Response where
  status : Option HttpStatus
  contentType : Option Text
  body : Text
  deriving DecidableEq

def Response.initial : Response := ⟨none, none, []⟩

/-- The branches of `http_handler`, with the part of the uri that they read. -/
inductive Route where
  | notAllowed
  | signup
  | info (token : Text)
  | login (token : Text)
  | submit (token : Text)
  | cancel (token : Text)
  | file (uri : Text)
  deriving DecidableEq

/-- The tests of `http_handler`, in their order. -/
def dispatch (method uri : Text) : Route :=
  if method ≠ "GET".toList then .notAllowed
  else if uri = "/signup".toList ∨ uri = "/signup/".toList then .signup
  else if "/info/".toList <+: uri then .info (uri.drop "/info/".length)
  else if "/login/".toList <+: uri then .login (uri.drop "/login/".length)
  else if "/submit/".toList <+: uri then .submit (uri.drop "/submit/".length)
  else if "/cancel/".toList <+: uri then .cancel (uri.drop "/cancel/".length)
  else .file uri

end WebGameServer
