import Mathlib.Data.List.Basic

/-!
The parts of Python that the modelled functions lean on: the exceptions they
raise and test for, truth values of strings and options, and the string methods
they call.
-/
namespace Skyline.Python

/-- The exceptions that modelled code raises or that a call it makes raises. -/
inductive Exn
  /-- An attribute that does not exist, by its name. -/
  | attributeError (name : String)
  | keyError (key : String)
  | valueError (message : String)
  | expiredSignatureError
  /-- Any other `jose.JWTError`. -/
  | jwtError (message : String)
  | httpException (statusCode : Nat) (detail : String)
  | exception (message : String)
  /-- `httpx.ConnectError` or `httpx.TimeoutException`. -/
  | networkError
  | retryError
  | portForwardClientError (statusCode : Nat) (detail : String)
  /-- A call to a service or to the database that failed. -/
  | callFailed (call : String)
  deriving DecidableEq, Repr

def Exn.str : Exn → String
  | .attributeError name => name
  | .keyError key => "'" ++ key ++ "'"
  | .valueError message => message
  | .expiredSignatureError => "Signature has expired."
  | .jwtError message => message
  | .httpException statusCode detail => toString statusCode ++ ": " ++ detail
  | .exception message => message
  | .networkError => "network error"
  | .retryError => "RetryError"
  | .portForwardClientError statusCode detail => "PortForward API Error (" ++ toString statusCode ++ "): " ++ detail
  | .callFailed call => call

/-- The truth value of a string: only the empty one is false. -/
def truthy (s : String) : Bool := s != ""
/-- The truth value of an optional string: `None` and the empty string are false. -/
def truthy? : Option String → Bool
  | none => false
  | some s => truthy s

/-- `s or default`, for an optional string. -/
def orElse (s : Option String) (default : String) : String :=
  match s with
  | some t => if truthy t then t else default
  | none => default

/-- `d[key]`, where the value is in the dictionary `d` or not. -/
def getitem {α : Type} (value : Option α) (key : String) : Except Exn α :=
  match value with
  | some a => .ok a
  | none => .error (.keyError key)

def startswith (s p : String) : Bool := p.toList.isPrefixOf s.toList

def count (s : String) (c : Char) : Nat := s.toList.count c

end Skyline.Python
