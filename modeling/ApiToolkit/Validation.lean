import ApiToolkit.Strings

/-!
# Validation errors

`ValidationError`, `ValidationErrors`, `convertError`, `buildMessage`, the three `Validate*` methods
and the tag name function of `src/validation/validation.go`. The checks themselves are
`go-playground/validator`'s: what `StructCtx` or `StructPartialCtx` returns is an input, `nil`, the
slice `validator.ValidationErrors` of its field errors, or another error. A field error is what
`buildMessage` and `convertError` read of it: its field, tag, parameter and the text `%v` makes of
its value. Whether a value is a struct (`isStruct`, by reflection) is an input too.

`convertError` returns a lone field error as a `ValidationError`, and several as `ValidationErrors`,
whose text is the texts of its errors joined by `"; "`; a lone `ValidationErrors` reads the same as
its one error, so the text is the join of the field errors' texts either way
(`convertError_text`). The tag name function reports a field under the name part of its `json` tag,
the text before its first comma, and under its Go name where that part is empty or `-`
(`tagNameFunc_spec`).
-/

namespace ApiToolkit.Validation

/-- `ValidationError`. -/
structure ValidationError where
  Field : String
  Message : String
  Value : String
  deriving DecidableEq, Repr

/-- `ValidationError.Error`: the field and the message, or the message alone. -/
def ValidationError.Error (e : ValidationError) : String :=
  if e.Field ≠ "" then e.Field ++ ": " ++ e.Message else e.Message

/-- `ValidationErrors`. -/
structure ValidationErrors where
  Errors : List ValidationError
  deriving DecidableEq, Repr

/-- `ValidationErrors.Error`: a fixed text for no error, the text of a lone error, and otherwise
the texts of the errors joined by `"; "`. -/
def ValidationErrors.Error (e : ValidationErrors) : String :=
  match e.Errors with
  | [] => "validation failed"
  | [e0] => e0.Error
  | errs => "; ".intercalate (errs.map ValidationError.Error)

/-- What `buildMessage` and `convertError` read of a `validator.FieldError`: `Field()`, `Tag()`,
`Param()`, and `Value()` as `%v` prints it. -/
structure FieldError where
  Field : String
  Tag : String
  Param : String
  Value : String
  deriving DecidableEq, Repr

/-- What the validator returns: the slice `validator.ValidationErrors`, or another error. -/
inductive StructError
  | fields (ve : List FieldError)
  | other (text : String)
  deriving DecidableEq, Repr

/-- The errors the package returns: a `ValidationError`, a `ValidationErrors`, or the validator's
other error, passed through. -/
inductive GoError
  | validation (e : ValidationError)
  | validations (e : ValidationErrors)
  | other (text : String)
  deriving DecidableEq, Repr

/-- The method `Error` of each error. -/
def GoError.Error : GoError → String
  | validation e => e.Error
  | validations e => e.Error
  | other text => text

/-- `buildMessage`: a message for the tags `required`, `min`, `max`, `len` and `oneof`, and one
that names the tag for any other. -/
def buildMessage (fe : FieldError) : String :=
  match fe.Tag with
  | "required" => "is required"
  | "min" => "must be at least " ++ fe.Param
  | "max" => "must be at most " ++ fe.Param
  | "len" => "must be " ++ fe.Param ++ " in length"
  | "oneof" => "must be one of [" ++ fe.Param ++ "]"
  | tag =>
    if fe.Param ≠ "" then "failed \x27" ++ tag ++ "\x27=" ++ fe.Param ++ " validation"
    else "failed \x27" ++ tag ++ "\x27 validation"

/-- The `ValidationError` the loop of `convertError` appends for a field error. -/
def toValidationError (fe : FieldError) : ValidationError :=
  ⟨fe.Field, buildMessage fe, fe.Value⟩

/-- `convertError`: `nil` stays `nil`, the validator's field errors become one `ValidationError`
when there is one and a `ValidationErrors` otherwise, and any other error is returned as it is. -/
def convertError : Option StructError → Option GoError
  | none => none
  | some (.fields ve) =>
    let errs : ValidationErrors := ⟨ve.map toValidationError⟩
    match errs.Errors with
    | [e0] => some (.validation e0)
    | _ => some (.validations errs)
  | some (.other text) => some (.other text)

/-- The error of a missing argument, with no field. -/
def required (message : String) : GoError := .validation ⟨"", message, ""⟩

section Validate

variable {V : Type} (isStruct : V → Bool) (StructCtx : V → Option StructError)

/-- `playgroundValidator.Validate`, on a value that is `nil` or not: a struct is validated, any
other value passes. -/
def Validate : Option V → Option GoError
  | none => some (required "value is required")
  | some v => if isStruct v then convertError (StructCtx v) else none

/-- `playgroundValidator.ValidateStruct`. -/
def ValidateStruct : Option V → Option GoError
  | none => some (required "object is required")
  | some obj => convertError (StructCtx obj)

/-- `playgroundValidator.ValidateField`, with `StructPartialCtx` for the validator's check of one
field. -/
def ValidateField (StructPartialCtx : V → String → Option StructError) (obj : Option V) (field : String) :
    Option GoError :=
  match obj with
  | none => some (required "object is required")
  | some obj =>
    if trimSpace field = "" then some (required "field name is required")
    else convertError (StructPartialCtx obj field)

end Validate

/-- The function `NewPlaygroundValidator` registers with `RegisterTagNameFunc`, on the field's
`json` tag and its Go name: the name part of the tag, unless it is empty or `-`. -/
def tagNameFunc (tag fieldName : String) : String :=
  if tag = "" then fieldName
  else
    let name := splitFirst tag ','
    if name = "-" ∨ name = "" then fieldName else name

/-! ## The text of an error -/

/-- The text of a `ValidationErrors` is the texts of its errors joined by `"; "`, a lone error's
text included; only no error has the fixed text. -/
theorem ValidationErrors_Error_eq (es : List ValidationError) :
    ValidationErrors.Error ⟨es⟩ = if es = [] then "validation failed" else "; ".intercalate (es.map ValidationError.Error) := by
  match es with
  | [] => rfl
  | [_] => rfl
  | _ :: _ :: _ => rfl

/-- The text of the error `convertError` makes of the validator's field errors, one or several, is
their texts joined by `"; "`, each the field and the message of `buildMessage`, or the message
alone for a field with no name. -/
theorem convertError_text (ve : List FieldError) :
    (convertError (some (.fields ve))).map GoError.Error =
      some (if ve = [] then "validation failed"
        else "; ".intercalate (ve.map fun fe =>
          if fe.Field ≠ "" then fe.Field ++ ": " ++ buildMessage fe else buildMessage fe)) := by
  have htext : ∀ l : List FieldError, (l.map toValidationError).map ValidationError.Error =
      l.map fun fe => if fe.Field ≠ "" then fe.Field ++ ": " ++ buildMessage fe else buildMessage fe := by
    intro l; simp only [List.map_map]; rfl
  match ve with
  | [] => rfl
  | [fe] => simp only [convertError, List.map, Option.map_some']; rfl
  | fe :: fe' :: ve =>
    simp only [convertError, Option.map_some', GoError.Error, ValidationErrors_Error_eq]
    simp only [List.map_cons, reduceCtorEq, if_false, ← htext]
    rfl

/-! ## The names of fields -/

/-- A field is reported under the name part of its `json` tag, the text before the tag's first
comma, when that part is neither empty nor `-`, and under its Go name otherwise: for the tag split as
a name without a comma followed by nothing or by a comma and the options, the result is that name,
or the Go name for an empty name or `-`. -/
theorem tagNameFunc_spec (tag fieldName name : String) (rest : List Char)
    (hsplit : tag.toList = name.toList ++ rest) (hname : ',' ∉ name.toList)
    (hrest : rest = [] ∨ rest.head? = some ',') :
    tagNameFunc tag fieldName = if name = "" ∨ name = "-" then fieldName else name := by
  unfold tagNameFunc
  rw [splitFirst_eq_of_append hsplit hname hrest]
  by_cases h0 : tag = ""
  · -- an empty tag has the empty name part
    have hn : name = "" := by
      rw [h0] at hsplit
      exact String.ext (List.append_eq_nil.1 hsplit.symm).1
    simp [h0, hn]
  · simp only [if_neg h0, or_comm]

/-- The tag `json:"email,omitempty"` names the field `email`. -/
theorem tagNameFunc_spec_omitempty :
    "email,omitempty".toList = "email".toList ++ ",omitempty".toList ∧ ',' ∉ "email".toList ∧
      (",omitempty".toList = [] ∨ ",omitempty".toList.head? = some ',') ∧
      tagNameFunc "email,omitempty" "Email" = if "email" = "" ∨ "email" = "-" then "Email" else "email" :=
  have hsplit : "email,omitempty".toList = "email".toList ++ ",omitempty".toList := rfl
  have hname : ',' ∉ "email".toList := by decide
  have hrest : ",omitempty".toList = [] ∨ ",omitempty".toList.head? = some ',' := .inr rfl
  ⟨hsplit, hname, hrest, tagNameFunc_spec _ _ _ _ hsplit hname hrest⟩

end ApiToolkit.Validation
