import Mathlib.Tactic.Common

/-! Errors of the platform's interface. -/

namespace DataMax.Domain

inductive StatusCode where
  | badRequest
  | internalServerError
  deriving DecidableEq

structure ApiError where
  status : StatusCode
  code : String
  message : String
  deriving DecidableEq

namespace ApiError

def badRequest (code message : String) : ApiError := ⟨.badRequest, code, message⟩

def internal (code message : String) : ApiError := ⟨.internalServerError, code, message⟩

end ApiError

end DataMax.Domain
