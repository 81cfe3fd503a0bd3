import HeaderBindings.NativeType.Registry

/-!
# Rejections

A declaration is rejected as a whole when one of its types or arguments cannot be bound. Each cause
belongs to a family and quotes the text that it is about.
-/
namespace HeaderBindings.Argument

inductive Family
  | general | missingToken | doubleIndirection | unreturnableArray | unsupportedType
deriving DecidableEq, Repr

inductive Cause
  | unbalanced
  | foreignName (libraryPrefix : Text)
  | noType
  | noName
  | noAxis
  | doubleIndirection
  | returnedArray
  | unknownType
  | arrayByValue
  | pointerToScalar
  | unsupportedWidth (base bits : Text)
deriving DecidableEq, Repr

structure Rejection where
  cause : Cause
  text : Text
deriving DecidableEq, Repr

def Cause.family : Cause → Family
  | .unbalanced => .general
  | .foreignName _ => .general
  | .noType => .missingToken
  | .noName => .missingToken
  | .noAxis => .missingToken
  | .doubleIndirection => .doubleIndirection
  | .returnedArray => .unreturnableArray
  | .unknownType => .unsupportedType
  | .arrayByValue => .unsupportedType
  | .pointerToScalar => .unsupportedType
  | .unsupportedWidth .. => .unsupportedType

def Cause.reason : Cause → String
  | .unbalanced => "unbalanced parentheses in argument list"
  | .foreignName p => "name does not start with '" ++ String.ofList p ++ "'"
  | .noType => "cannot find a type"
  | .noName => "cannot find an argument name"
  | .noAxis => "array argument name has no usable axis name"
  | .doubleIndirection => "cannot express double indirection"
  | .returnedArray => "arrays cannot be returned"
  | .unknownType => "unsupported type"
  | .arrayByValue => "array type must be passed by pointer"
  | .pointerToScalar => "unsupported type: pointer to non-array type"
  | .unsupportedWidth base bits => (NativeType.LookupError.unsupportedWidth base bits).message

def Rejection.message (r : Rejection) : String :=
  r.cause.reason ++ ": '" ++ String.ofList r.text ++ "'"

/-- Why a declaration was not classified: it was rejected, or a type profile is of no use. -/
inductive Refusal
  | rejected (r : Rejection)
  | misuse (cause : Misuse)
deriving DecidableEq, Repr

def reject {α : Type} (cause : Cause) (text : Text) : Except Refusal α :=
  .error (.rejected ⟨cause, text⟩)

end HeaderBindings.Argument
