/-!
# JSON values

## Main definitions

* `Json.Number` — an integer, or a binary64 number
* `Json.Value` — a JSON value
* `Json.Value.setField`, `Json.Value.ofFields` — objects, which keep their keys in order and
  without repetition
-/

namespace MethodRoutes.Json

/-- A number. Whole numbers between `-2 ^ 63` and `2 ^ 64 - 1` are kept exactly; everything else
is a binary64 number. -/
inductive Number where
  /-- A whole number. -/
  | integer (value : Int)
  /-- A binary64 number. -/
  | float (value : Float)
  deriving Repr

/-- A JSON value. In an object that was read, the fields stand in ascending order of their keys. -/
inductive Value where
  | null
  | bool (value : Bool)
  | number (value : Number)
  | string (value : String)
  | array (items : List Value)
  | object (fields : List (String × Value))

namespace Value

instance : Inhabited Value := ⟨.null⟩

/-- A whole number as a value. -/
def int (n : Int) : Value := .number (.integer n)

/-- A natural number as a value. -/
def nat (n : Nat) : Value := int n

/-- Whether the value is `null`. -/
def isNull : Value → Bool
  | null => true
  | _ => false

theorem isNull_iff {v : Value} : v.isNull = true ↔ v = null := by
  cases v <;> simp [isNull]

theorem isNull_eq_false {v : Value} (h : v ≠ null) : v.isNull = false := by
  rw [← Bool.not_eq_true, isNull_iff]
  exact h

/-- Give a key a value among fields in ascending order; an earlier value of the key is lost. -/
def setField (key : String) (value : Value) : List (String × Value) → List (String × Value)
  | [] => [(key, value)]
  | (k, v) :: rest =>
    if key < k then (key, value) :: (k, v) :: rest
    else if key = k then (key, value) :: rest
    else (k, v) :: setField key value rest

/-- The object with the given fields; of two fields with one key the later one stays. -/
def ofFields (fields : List (String × Value)) : Value :=
  object (fields.foldl (fun acc f => setField f.1 f.2 acc) [])

/-- The value of a key of an object. -/
def field? (value : Value) (key : String) : Option Value :=
  match value with
  | object fields => (fields.find? fun f => f.1 = key).map Prod.snd
  | _ => none

end Value

end MethodRoutes.Json
