import Mathlib.Data.List.Basic

namespace TjoQuery

/-! The error classification of `errors.go`: `ErrorCode`, `TjoError` and `ValidationError`,
and `IsCode`, `GetCode` and `GetHTTPStatus`, which look for a `*TjoError` along the chain
`errors.As` walks.  An `error` is read as its dynamic type: `errors.As` tests each error of
the chain for the type `*TjoError` and goes on through `Unwrap`.  A `*ValidationError`
embeds a `TjoError` but is not a `*TjoError`, so `errors.As` passes it by and looks at the
embedded `Err` that its promoted `Unwrap` returns; and `WrapError` of a nil error returns a
nil `*TjoError`, which `errors.As` takes, and which `GetCode` then dereferences. -/

namespace Errors

/-- `type ErrorCode int`; the codes of the `iota` block are `0` to `8`. -/
abbrev ErrorCode := Int

def ErrInternal : ErrorCode := 0
def ErrValidation : ErrorCode := 1
def ErrNotFound : ErrorCode := 2
def ErrUnauthorized : ErrorCode := 3
def ErrForbidden : ErrorCode := 4
def ErrDatabase : ErrorCode := 5
def ErrExternal : ErrorCode := 6
def ErrConfiguration : ErrorCode := 7
def ErrTimeout : ErrorCode := 8

def ErrorCode.String (c : ErrorCode) : String :=
  if c = ErrInternal then "internal"
  else if c = ErrValidation then "validation"
  else if c = ErrNotFound then "not_found"
  else if c = ErrUnauthorized then "unauthorized"
  else if c = ErrForbidden then "forbidden"
  else if c = ErrDatabase then "database"
  else if c = ErrExternal then "external"
  else if c = ErrConfiguration then "configuration"
  else if c = ErrTimeout then "timeout"
  else "unknown"

def ErrorCode.HTTPStatus (c : ErrorCode) : Nat :=
  if c = ErrValidation then 400
  else if c = ErrNotFound then 404
  else if c = ErrUnauthorized then 401
  else if c = ErrForbidden then 403
  else if c = ErrTimeout then 504
  else if c = ErrExternal then 502
  else 500

/-- An `error` value by its dynamic type.  `TjoError`'s `Context` is left out: nothing
here reads it. -/
inductive GoError
  /-- the nil interface -/
  | nil
  /-- `errors.New(msg)`, or any other error without `Unwrap` or `As` -/
  | text (msg : String)
  /-- a non-nil `*TjoError` -/
  | tjo (Op : String) (Err : GoError) (Code : ErrorCode)
  /-- a nil `*TjoError` held in an `error`, which is not the nil interface -/
  | nilTjo
  /-- a non-nil `*ValidationError`: the embedded `TjoError`'s fields, then `Fields` -/
  | validation (Op : String) (Err : GoError) (Code : ErrorCode) (Fields : List (String × String))
  /-- `fmt.Errorf` with one `%w`: the formatted message and the wrapped error -/
  | wrap (msg : String) (err : GoError)
  deriving DecidableEq, Repr

namespace GoError

/-- `errors.As(err, &gErr)` for `gErr` a `*TjoError`: `none` is `false`; otherwise the
pointer it stores in `gErr`, `none` for the nil pointer. -/
def asTjoError : GoError → Option (Option (String × GoError × ErrorCode))
  | nil | text _ => none
  | tjo op err code => some (some (op, err, code))
  | nilTjo => some none
  | validation _ err _ _ | wrap _ err => err.asTjoError

end GoError

open GoError

/-- `WrapError` as the `error` its caller returns: the nil `*TjoError` for a nil `err`. -/
def WrapError (op : String) (err : GoError) (code : ErrorCode) : GoError :=
  match err with
  | nil => nilTjo
  | err => tjo op err code

def NewError (op message : String) (code : ErrorCode) : GoError := tjo op (text message) code

def NewValidationError (fields : List (String × String)) : GoError :=
  validation "validation" (text "validation failed") ErrValidation fields

/-! `IsCode`, `GetCode` and `GetHTTPStatus` read `gErr.Code`; `none` is the panic of that
read through a nil pointer. -/

def IsCode (err : GoError) (code : ErrorCode) : Option Bool :=
  match err.asTjoError with
  | some (some (_, _, c)) => some (c = code)
  | some none => none
  | none => some false

def GetCode (err : GoError) : Option ErrorCode :=
  match err.asTjoError with
  | some (some (_, _, c)) => some c
  | some none => none
  | none => some ErrInternal

def GetHTTPStatus (err : GoError) : Option Nat := (GetCode err).map ErrorCode.HTTPStatus

@[simp] theorem HTTPStatus_internal : ErrInternal.HTTPStatus = 500 := by decide

/-! ## Along a chain of `%w` wrappers -/

/-- `err` wrapped by `fmt.Errorf` once for each message, the first outermost. -/
def wraps (msgs : List String) (err : GoError) : GoError := msgs.foldr wrap err

@[simp] theorem asTjoError_wraps (msgs : List String) (err : GoError) :
    (wraps msgs err).asTjoError = err.asTjoError := by
  induction msgs with
  | nil => rfl
  | cons msg msgs ih => exact ih

theorem GetCode_wraps (msgs : List String) :
    (∀ op err code, GetCode (wraps msgs (tjo op err code)) = some code ∧
      GetHTTPStatus (wraps msgs (tjo op err code)) = some code.HTTPStatus) ∧
    (∀ fields, IsCode (wraps msgs (NewValidationError fields)) ErrValidation = some false ∧
      GetCode (wraps msgs (NewValidationError fields)) = some ErrInternal ∧
      GetHTTPStatus (wraps msgs (NewValidationError fields)) = some 500) ∧
    ∀ op code code', IsCode (wraps msgs (WrapError op nil code)) code' = none ∧
      GetCode (wraps msgs (WrapError op nil code)) = none := by
  refine ⟨fun op err code => ?tjo, fun fields => ?validation, fun op code code' => ?nilTjo⟩
  case tjo => simp [GetHTTPStatus, GetCode, asTjoError]
  case validation => simp [IsCode, GetHTTPStatus, GetCode, NewValidationError, asTjoError]
  case nilTjo => simp [IsCode, GetCode, WrapError, asTjoError]

end Errors

end TjoQuery
