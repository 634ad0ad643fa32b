import Mathlib.Data.Rat.Defs
import Mathlib.Data.List.Infix
import TelemetryLab.Lib.Table
import TelemetryLab.Pca.Model

/-! Request bodies and error answers of the handlers (`api_server.cpp`).

The JSON library reads texts, which is a parameter of each handler; how the code
reads a value it has got is the documented behaviour of the library.
-/

set_option autoImplicit false
namespace TelemetryLab.Server
open Pca (Json Thrown)

/-! ## Exceptions -/

theorem mapError_ok_iff {E F A : Type} (f : E → F) {x : Except E A} {a : A} : x.mapError f = .ok a ↔ x = .ok a := by
  cases x with
  | error what => exact iff_of_false nofun nofun
  | ok value => simp only [Except.mapError, Except.ok.injEq]

/-- What the `catch` of a handler can get. -/
inductive Raised where
  | parseError (what : String)
  /-- `nlohmann::json::out_of_range` -/
  | outOfRange (what : String)
  | brokenConnection (what : String)
  | sqlError (what : String)
  | systemError (what : String)
  | thrown (what : Thrown)
  deriving DecidableEq, Repr

def Raised.what : Raised → String
  | .parseError what | .outOfRange what | .brokenConnection what | .sqlError what | .systemError what => what
  | .thrown (.runtimeError what) | .thrown (.invalidArgument what) | .thrown (.typeError what) => what
  | .thrown .undefined => ""

/-- `msg.find(text) != std::string::npos` -/
def mentions (msg text : String) : Bool := decide (text.toList <:+: msg.toList)

def classifyHttpError : Raised → String
  | .parseError _ => "E_HTTP_JSON_PARSE_ERROR"
  | .outOfRange _ => "E_HTTP_MISSING_FIELD"
  | .thrown (.invalidArgument _) => "E_HTTP_INVALID_ARGUMENT"
  | .brokenConnection _ => "E_DB_CONNECT_FAILED"
  | .sqlError _ => "E_DB_QUERY_FAILED"
  | raised =>
    if mentions raised.what "count must be" || mentions raised.what "Must be" || mentions raised.what "Too many" then
      "E_HTTP_INVALID_ARGUMENT"
    else "E_INTERNAL"

/-- The codes that the handlers answer with 400. -/
def isClientError (code : String) : Bool :=
  decide (code = "E_HTTP_JSON_PARSE_ERROR" ∨ code = "E_HTTP_MISSING_FIELD" ∨ code = "E_HTTP_INVALID_ARGUMENT" ∨
    code = "E_HTTP_BAD_REQUEST")

structure ErrorAnswer where
  message : String
  status : Nat
  code : String
  /-- Pairs of a field and what is wrong with it. -/
  fieldErrors : List (String × String)
  deriving DecidableEq, Repr

def sendError (message : String) (status : Nat) (code : String) : ErrorAnswer := ⟨message, status, code, []⟩

/-! ## Inserts -/

/-- The key of a new row: the text of a UUID no row has yet. -/
structure NewKey {A : Type} (rows : Table String A) where
  id : String
  nonempty : id ≠ ""
  fresh : id ∉ rows

/-- How a call that inserts a row comes back, an empty key for no row, and what it has stored. -/
inductive Created {A : Type} (rows : Table String A) where
  | stored (key : NewKey rows)
  /-- The commit has taken effect, but its confirmation is lost. -/
  | unconfirmed (key : NewKey rows) (raised : Raised)
  | empty
  | failed (raised : Raised)

/-- No statement of the call failed. -/
def Created.Succeeded {A : Type} {rows : Table String A} : Created rows → Prop
  | .stored _ | .empty => True
  | .unconfirmed _ _ | .failed _ => False

/-! ## Values -/

section Values

variable {R A : Type}

def typeError (number : Nat) (message : String) : Raised :=
  .thrown (.typeError ("[json.exception.type_error." ++ toString number ++ "] " ++ message))

/-- `j.at(key)` -/
def atKey (key : String) : Json R → Except Raised (Json R)
  | .object fields =>
    match fields.lookup key with
    | some value => .ok value
    | none => .error (.outOfRange ("[json.exception.out_of_range.403] key '" ++ key ++ "' not found"))
  | j => .error (typeError 304 ("cannot use at() with " ++ j.typeName))

/-- `j.value(key, otherwise)`, where the field is read as the type of `otherwise`. -/
def valueOr (key : String) (read : Json R → Except Raised A) (otherwise : A) : Json R → Except Raised A
  | .object fields =>
    match fields.lookup key with
    | some value => read value
    | none => .ok otherwise
  | j => .error (typeError 306 ("cannot use value() with " ++ j.typeName))

/-- `j[key]` of a field that `j.contains(key)` has found; only objects contain fields. -/
def contained (key : String) : Json R → Option (Json R)
  | .object fields => fields.lookup key
  | _ => none

def mustBe (type : String) (j : Json R) : Raised :=
  typeError 302 ("type must be " ++ type ++ ", but is " ++ j.typeName)

def getString : Json R → Except Raised String
  | .string s => .ok s
  | j => .error (mustBe "string" j)

def getDouble [Arith R] : Json R → Except Raised R
  | .number x => .ok x
  | .integer z => .ok (Arith.ofInt z)
  | j => .error (mustBe "number" j)

/-- A field that is there is read, and one that is missing has its default. -/
theorem valueOr_ok_iff (key : String) (read : Json R → Except Raised A) (otherwise : A)
    (fields : List (String × Json R)) : (∃ v, valueOr key read otherwise (.object fields) = .ok v) ↔
      ∀ value, fields.lookup key = some value → ∃ v, read value = .ok v := by
  cases found : fields.lookup key with
  | none => exact iff_of_true ⟨otherwise, by simp only [valueOr, found]⟩ fun _ absent => nomatch absent
  | some value => simp only [valueOr, found, Option.some.injEq, forall_eq']

def isNumber : Json R → Bool
  | .number _ | .integer _ => true
  | _ => false

theorem getDouble_ok_iff [Arith R] (j : Json R) : (∃ x, getDouble j = .ok x) ↔ isNumber j = true := by
  cases j with
  | number x => exact iff_of_true ⟨x, rfl⟩ rfl
  | integer z => exact iff_of_true ⟨Arith.ofInt z, rfl⟩ rfl
  | _ => exact iff_of_false (fun ⟨_, read⟩ => nomatch read) (by simp [isNumber])

/-- The elements a loop over `j` visits: a scalar is visited as itself. -/
def elements : Json R → List (Json R)
  | .null => []
  | .array values => values
  | .object fields => fields.map Prod.snd
  | j => [j]

end Values

/-! ## Numbers of request bodies

A double of a request is a rational, as in the configurations it ends up in.
-/

/-- `static_cast<int>` of a 64-bit integer. -/
def toInt (z : Int) : Int := z.bmod 4294967296

/-- A conversion to `int` that is out of range is undefined for doubles only. -/
def getInt : Json ℚ → Except Raised Int
  | .number x =>
    let truncated := x.num.tdiv x.den
    if toInt truncated = truncated then .ok truncated else .error (.thrown .undefined)
  | .integer z => .ok (toInt z)
  | .bool b => .ok (if b then 1 else 0)
  | j => .error (mustBe "number" j)

def getRational : Json ℚ → Except Raised ℚ
  | .number x => .ok x
  | .integer z => .ok z
  | j => .error (mustBe "number" j)

/-- `get<std::vector<..>>` -/
def getVector {A : Type} (read : Json ℚ → Except Raised A) : Json ℚ → Except Raised (List A)
  | .array values => values.mapM read
  | j => .error (mustBe "array" j)

end TelemetryLab.Server
