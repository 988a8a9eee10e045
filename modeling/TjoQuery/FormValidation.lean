import Mathlib.Data.List.AList
import TjoQuery.ClientIP
import TjoQuery.Validate

namespace TjoQuery

/-! The form validator `Validation` of the root package, concatenated into `config.go`.
Every validator is one check: when its condition fails it calls `AddError`, which keeps
the first message of a key and drops the later ones.  The conditions that call into
`govalidator`, `strconv.ParseFloat` and `time.Parse` are the library's: they are the fields
of `Library`.  `len` counts bytes, and `%d` writes an `int` as `toString` does. -/

open Strings Strconv

/-- The library predicates the validators ask: `govalidator.IsEmail`, `IsPrintableASCII`,
`IsAlphanumeric` and `IsURL`, and whether `strconv.ParseFloat(value, 64)` and
`time.Parse("2006-01-02", value)` return no error. -/
structure Library where
  IsEmail : String → Bool
  IsPrintableASCII : String → Bool
  IsAlphanumeric : String → Bool
  IsURL : String → Bool
  ParseFloat : String → Bool
  ParseDate : String → Bool

/-- A request's form, read through `r.Form.Get`: the field's first value, `""` if none. -/
def Form := String → String

/-- `Validation`: `Data` is left out, since no method reads it. -/
structure Validation where
  Errors : AList fun _ : String => String

namespace Validation

/-- `Validator(data)`: no errors yet. -/
def Validator : Validation := ⟨∅⟩

/-- `Valid`: `len(v.Errors) == 0`. -/
def Valid (v : Validation) : Bool := v.Errors.entries.isEmpty

/-- `AddError`: the first message of a key stays. -/
def AddError (v : Validation) (key message : String) : Validation :=
  if v.Errors.lookup key = none then ⟨v.Errors.insert key message⟩ else v

def Has (form : Form) (field : String) : Bool := trimSpace (form field) ≠ ""

/-- `Check`: every validator below but `IsEmail` is this, with its own condition and
message. -/
def Check (v : Validation) (ok : Bool) (key message : String) : Validation :=
  if !ok then v.AddError key message else v

/-- `Required`: the loop over `fields`. -/
def Required (v : Validation) (form : Form) (fields : List String) : Validation :=
  fields.foldl (fun v field => v.Check (Has form field) field "This field cannot be blank") v

/-- `IsEmail` makes two checks, and returns after the first when it fails. -/
def IsEmail (lib : Library) (v : Validation) (field value : String) : Validation :=
  if value.utf8ByteSize > 254 then v.AddError field "Email address too long"
  else if !lib.IsEmail value then v.AddError field "Invalid email address"
  else v

def Equals (v : Validation) (eq : Bool) (field verified : String) : Validation :=
  v.Check eq field ("This field must equal: " ++ verified)

def IsInt (v : Validation) (field value : String) : Validation :=
  v.Check (Atoi value).isSome field "This field must be an integer"

def IsFloat (lib : Library) (v : Validation) (field value : String) : Validation :=
  v.Check (lib.ParseFloat value) field "This field must be a floating point number"

def IsString (lib : Library) (v : Validation) (field value : String) : Validation :=
  v.Check (lib.IsPrintableASCII value) field "This field must contain only printable characters"

def IsDateISO (lib : Library) (v : Validation) (field value : String) : Validation :=
  v.Check (lib.ParseDate value) field "This field must be a date in the form of YYYY-MM-DD"

def NoSpaces (v : Validation) (field value : String) : Validation :=
  v.Check (!value.data.contains ' ') field "This field cannot contain spaces"

def MaxLength (v : Validation) (field value : String) (maxLength : Int) : Validation :=
  v.Check (!decide ((value.utf8ByteSize : Int) > maxLength)) field
    ("This field must not exceed " ++ toString maxLength ++ " characters")

def MinLength (v : Validation) (field value : String) (minLength : Int) : Validation :=
  v.Check (!decide ((value.utf8ByteSize : Int) < minLength)) field
    ("This field must be at least " ++ toString minLength ++ " characters")

def IsAlphanumeric (lib : Library) (v : Validation) (field value : String) : Validation :=
  v.Check (lib.IsAlphanumeric value) field "This field must contain only letters and numbers"

def IsURL (lib : Library) (v : Validation) (field value : String) : Validation :=
  v.Check (lib.IsURL value) field "This field must be a valid URL"

/-- `html.EscapeString`, the `strings.Replacer` of `&`, `'`, `<`, `>` and `"`. -/
def escapeChar : Char → List Char
  | '&' => "&amp;".data
  | '\'' => "&#39;".data
  | '<' => "&lt;".data
  | '>' => "&gt;".data
  | '"' => "&#34;".data
  | c => [c]

def EscapeHTML (value : String) : String := ⟨value.data.flatMap escapeChar⟩

/-! ## Every call is a run of checks -/

structure Attempt where
  ok : Bool
  key : String
  message : String
  deriving DecidableEq, Repr

def checks (v : Validation) (as : List Attempt) : Validation :=
  as.foldl (fun v a => v.Check a.ok a.key a.message) v

def firstFailure (as : List Attempt) (key : String) : Option String :=
  (as.find? fun a => !a.ok && a.key == key).map Attempt.message

inductive Call
  | Required (fields : List String)
  | Check (ok : Bool) (key message : String)
  | IsEmail (field value : String)
  | Equals (eq : Bool) (field verified : String)
  | IsInt (field value : String)
  | IsFloat (field value : String)
  | IsString (field value : String)
  | IsDateISO (field value : String)
  | NoSpaces (field value : String)
  | MaxLength (field value : String) (maxLength : Int)
  | MinLength (field value : String) (minLength : Int)
  | IsAlphanumeric (field value : String)
  | IsURL (field value : String)

section Calls

variable (lib : Library) (form : Form)

def Call.apply : Call → Validation → Validation
  | .Required fields, v => v.Required form fields
  | .Check ok key message, v => v.Check ok key message
  | .IsEmail field value, v => Validation.IsEmail lib v field value
  | .Equals eq field verified, v => v.Equals eq field verified
  | .IsInt field value, v => v.IsInt field value
  | .IsFloat field value, v => Validation.IsFloat lib v field value
  | .IsString field value, v => Validation.IsString lib v field value
  | .IsDateISO field value, v => Validation.IsDateISO lib v field value
  | .NoSpaces field value, v => v.NoSpaces field value
  | .MaxLength field value maxLength, v => v.MaxLength field value maxLength
  | .MinLength field value minLength, v => v.MinLength field value minLength
  | .IsAlphanumeric field value, v => Validation.IsAlphanumeric lib v field value
  | .IsURL field value, v => Validation.IsURL lib v field value

/-- The checks a call makes.  `IsEmail` makes one: the length check when it fails, the
library's otherwise. -/
def Call.attempts : Call → List Attempt
  | .Required fields =>
      fields.map fun field => ⟨Has form field, field, "This field cannot be blank"⟩
  | .Check ok key message => [⟨ok, key, message⟩]
  | .IsEmail field value =>
      if value.utf8ByteSize > 254 then [⟨false, field, "Email address too long"⟩]
      else [⟨lib.IsEmail value, field, "Invalid email address"⟩]
  | .Equals eq field verified => [⟨eq, field, "This field must equal: " ++ verified⟩]
  | .IsInt field value => [⟨(Atoi value).isSome, field, "This field must be an integer"⟩]
  | .IsFloat field value =>
      [⟨lib.ParseFloat value, field, "This field must be a floating point number"⟩]
  | .IsString field value =>
      [⟨lib.IsPrintableASCII value, field, "This field must contain only printable characters"⟩]
  | .IsDateISO field value =>
      [⟨lib.ParseDate value, field, "This field must be a date in the form of YYYY-MM-DD"⟩]
  | .NoSpaces field value => [⟨!value.data.contains ' ', field, "This field cannot contain spaces"⟩]
  | .MaxLength field value maxLength =>
      [⟨!decide ((value.utf8ByteSize : Int) > maxLength), field,
        "This field must not exceed " ++ toString maxLength ++ " characters"⟩]
  | .MinLength field value minLength =>
      [⟨!decide ((value.utf8ByteSize : Int) < minLength), field,
        "This field must be at least " ++ toString minLength ++ " characters"⟩]
  | .IsAlphanumeric field value =>
      [⟨lib.IsAlphanumeric value, field, "This field must contain only letters and numbers"⟩]
  | .IsURL field value => [⟨lib.IsURL value, field, "This field must be a valid URL"⟩]

def run (v : Validation) (calls : List Call) : Validation :=
  calls.foldl (fun v c => c.apply lib form v) v

theorem checks_append (v : Validation) (as bs : List Attempt) :
    v.checks (as ++ bs) = (v.checks as).checks bs := List.foldl_append _ _ _ _

theorem Call.apply_eq (c : Call) (v : Validation) :
    c.apply lib form v = v.checks (Call.attempts lib form c) := by
  cases c with
  | Required fields =>
      simp only [Call.apply, Validation.Required, Call.attempts, checks, List.foldl_map]
  | IsEmail field value =>
      simp only [Call.apply, Validation.IsEmail, Call.attempts]
      split_ifs <;> simp_all [checks, Validation.Check]
  | _ => rfl

theorem run_eq (v : Validation) (calls : List Call) :
    run lib form v calls = v.checks (calls.flatMap (Call.attempts lib form)) := by
  induction calls generalizing v with
  | nil => rfl
  | cons c calls ih => rw [run, List.foldl_cons, ← run, ih, Call.apply_eq, List.flatMap_cons,
      checks_append]

end Calls

/-! ## The first failure of a key is what stays -/

theorem lookup_AddError (v : Validation) (k m key : String) :
    (v.AddError k m).Errors.lookup key =
      if key = k then (v.Errors.lookup k).or (some m) else v.Errors.lookup key := by
  unfold AddError
  split_ifs with hnone hkey hkey
  · subst hkey
    simp [hnone, AList.lookup_insert]
  · exact AList.lookup_insert_ne hkey
  · subst hkey
    obtain ⟨m', hm'⟩ := Option.ne_none_iff_exists'.mp hnone
    simp [hm']
  · rfl

theorem Valid_AddError (v : Validation) (k m : String) : (v.AddError k m).Valid = false := by
  unfold AddError Valid
  split_ifs with hnone
  · simp [AList.insert_entries]
  · obtain ⟨m', hm'⟩ := Option.ne_none_iff_exists'.mp hnone
    have hmem : k ∈ v.Errors := AList.lookup_isSome.mp (by simp [hm'])
    cases h : v.Errors.entries with
    | nil => simp [AList.mem_keys, AList.keys, h] at hmem
    | cons _ _ => rfl

theorem lookup_checks (v : Validation) (as : List Attempt) (key : String) :
    (v.checks as).Errors.lookup key = (v.Errors.lookup key).or (firstFailure as key) := by
  induction as generalizing v with
  | nil => simp [checks, firstFailure]
  | cons a as ih =>
      rw [checks, List.foldl_cons, ← checks, ih]
      cases hok : a.ok
      · by_cases hkey : key = a.key
        · subst hkey
          rcases h : v.Errors.lookup a.key with _ | m <;>
            simp [Check, hok, lookup_AddError, firstFailure, h]
        · simp [Check, hok, lookup_AddError, hkey, firstFailure, List.find?_cons,
            Ne.symm hkey]
      · simp [Check, hok, firstFailure, List.find?_cons]

theorem Valid_checks (v : Validation) (as : List Attempt) :
    (v.checks as).Valid = (v.Valid && as.all Attempt.ok) := by
  induction as generalizing v with
  | nil => simp [checks]
  | cons a as ih =>
      rw [checks, List.foldl_cons, ← checks, ih]
      cases hok : a.ok <;> simp [Check, hok, Valid_AddError]

/-- Over every sequence of validator calls on a fresh `Validation`, each key ends with the
message of the first check on it that failed, a later failure never replacing it and a key
no check failed having none, and `Valid` holds exactly when every check passed. -/
theorem run_Validator (lib : Library) (form : Form) (calls : List Call) (key : String) :
    (Validator.run lib form calls).Errors.lookup key =
        firstFailure (calls.flatMap (Call.attempts lib form)) key ∧
      (Validator.run lib form calls).Valid =
        (calls.flatMap (Call.attempts lib form)).all Attempt.ok := by
  rw [run_eq, lookup_checks, Valid_checks]
  exact ⟨Option.none_or, Bool.true_and _⟩

/-- The order of the calls decides which message a field keeps, never which fields fail:
calls in any other order leave the same fields with an error, and the same `Valid`. -/
theorem run_perm (lib : Library) (form : Form) {calls calls' : List Call}
    (h : calls.Perm calls') (key : String) :
    ((Validator.run lib form calls).Errors.lookup key).isSome =
        ((Validator.run lib form calls').Errors.lookup key).isSome ∧
      (Validator.run lib form calls).Valid = (Validator.run lib form calls').Valid := by
  have hmem := fun a => (h.flatMap_right (Call.attempts lib form)).mem_iff (a := a)
  rw [run_eq, run_eq, lookup_checks, lookup_checks, Valid_checks, Valid_checks]
  simp only [Validator, AList.lookup_empty, Option.none_or, firstFailure, Option.isSome_map']
  constructor
  · rw [Bool.eq_iff_iff, List.find?_isSome, List.find?_isSome]
    exact exists_congr fun a => and_congr_left fun _ => hmem a
  · rw [Bool.eq_iff_iff, Bool.and_eq_true, Bool.and_eq_true, List.all_eq_true, List.all_eq_true]
    exact and_congr_right fun _ => forall_congr' fun a => imp_congr_left (hmem a)

theorem run_perm_swap :
    [Call.Required ["email"], Call.NoSpaces "name" "a b"].Perm
        [Call.NoSpaces "name" "a b", Call.Required ["email"]] ∧
      ((Validator.run ⟨fun _ => true, fun _ => true, fun _ => true, fun _ => true, fun _ => true,
          fun _ => true⟩ (fun _ => "") [.Required ["email"], .NoSpaces "name" "a b"]).Errors.lookup
          "name").isSome =
        ((Validator.run ⟨fun _ => true, fun _ => true, fun _ => true, fun _ => true, fun _ => true,
          fun _ => true⟩ (fun _ => "") [.NoSpaces "name" "a b", .Required ["email"]]).Errors.lookup
          "name").isSome ∧
      (Validator.run ⟨fun _ => true, fun _ => true, fun _ => true, fun _ => true, fun _ => true,
          fun _ => true⟩ (fun _ => "") [.Required ["email"], .NoSpaces "name" "a b"]).Valid =
        (Validator.run ⟨fun _ => true, fun _ => true, fun _ => true, fun _ => true, fun _ => true,
          fun _ => true⟩ (fun _ => "") [.NoSpaces "name" "a b", .Required ["email"]]).Valid :=
  ⟨List.Perm.swap _ _ _, run_perm _ _ (List.Perm.swap _ _ _) "name"⟩

example :
    (Validator.run ⟨fun _ => false, fun _ => true, fun _ => true, fun _ => true, fun _ => true,
      fun _ => true⟩ (fun _ => "") [.Required ["email"], .IsEmail "email" ""]).Errors.lookup
      "email" = some "This field cannot be blank" := by decide

/-! ## `EscapeHTML` -/

/-- The five entities `EscapeHTML` writes, with the character each stands for. -/
def entities : List (String × Char) :=
  [("&amp;", '&'), ("&#39;", '\''), ("&lt;", '<'), ("&gt;", '>'), ("&#34;", '"')]

def unescape : List Char → List Char
  | [] => []
  | c :: s =>
      match entities.find? fun e => e.1.data.isPrefixOf (c :: s) with
      | some e => e.2 :: unescape (s.drop (e.1.length - 1))
      | none => c :: unescape s
termination_by l => l.length
decreasing_by all_goals (simp_wf; try omega)

theorem unescape_escapeChar (c : Char) (s : List Char) :
    unescape (escapeChar c ++ s) = c :: unescape s := by
  unfold escapeChar
  split
  case h_6 _ hamp _ _ _ _ =>
    rw [List.singleton_append, unescape.eq_2]
    simp [entities, List.find?, List.isPrefixOf, beq_false_of_ne (Ne.symm hamp)]
  all_goals
    show unescape ('&' :: _) = _
    rw [unescape.eq_2]
    simp [entities, List.find?, List.isPrefixOf]
    rfl

theorem not_markup_of_mem_escapeChar {c x : Char} (hx : x ∈ escapeChar c) :
    x ∉ ['<', '>', '"', '\''] := by
  unfold escapeChar at hx
  split at hx
  case h_6 =>
    rw [List.mem_singleton.mp hx]
    simp_all
  all_goals revert x; decide

/-- `EscapeHTML` leaves no `<`, `>`, `"` or `'` in what it returns, and loses nothing:
reading back its five entities gives the input, so no two inputs escape alike. -/
theorem EscapeHTML_safe (s : String) :
    (∀ c ∈ (EscapeHTML s).data, c ∉ ['<', '>', '"', '\'']) ∧
      (⟨unescape (EscapeHTML s).data⟩ : String) = s := by
  refine ⟨fun x hx => ?_, ?_⟩
  · obtain ⟨c, -, hc⟩ := List.mem_flatMap.mp hx
    exact not_markup_of_mem_escapeChar hc
  · have hround : ∀ cs : List Char, unescape (cs.flatMap escapeChar) = cs := by
      intro cs
      induction cs with
      | nil => simp [unescape]
      | cons c cs ih => rw [List.flatMap_cons, unescape_escapeChar, ih]
    exact congrArg String.mk (hround s.data)

end Validation

end TjoQuery
