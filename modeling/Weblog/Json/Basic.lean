import Weblog.Number.Binary64

/-!
# Weblog.Json.Basic

JSON values.

* `Number`: an integer or a number in double precision; the two are kept apart, so that `1` and
  `1.0` differ.
* `Json`: the values. An object is a list of fields in the order of their keys, each key once.
* `Fields`: the operations on the fields of an object.
-/

namespace Weblog

/-- A number as JSON texts write it: without a point or exponent an integer, otherwise a number in
double precision. -/
inductive Number where
  | integer (i : Int)
  | float (x : Binary64)
  deriving DecidableEq, Repr

/-- A JSON value. -/
inductive Json where
  | null
  | bool (b : Bool)
  | number (n : Number)
  | string (s : String)
  | array (items : List Json)
  | object (fields : List (String × Json))
  deriving Repr

/-- The fields of an object, in the order of their keys. -/
abbrev Fields := List (String × Json)

mutual

def Json.decEq : (a b : Json) → Decidable (a = b)
  | .null, .null => isTrue rfl
  | .bool a, .bool b => if h : a = b then isTrue (h ▸ rfl) else isFalse fun e => h (by cases e; rfl)
  | .number a, .number b =>
    if h : a = b then isTrue (h ▸ rfl) else isFalse fun e => h (by cases e; rfl)
  | .string a, .string b =>
    if h : a = b then isTrue (h ▸ rfl) else isFalse fun e => h (by cases e; rfl)
  | .array a, .array b =>
    match Json.decEqItems a b with
    | isTrue h => isTrue (h ▸ rfl)
    | isFalse h => isFalse fun e => h (by cases e; rfl)
  | .object a, .object b =>
    match Json.decEqFields a b with
    | isTrue h => isTrue (h ▸ rfl)
    | isFalse h => isFalse fun e => h (by cases e; rfl)
  | .null, .bool _ => isFalse (by simp)
  | .null, .number _ => isFalse (by simp)
  | .null, .string _ => isFalse (by simp)
  | .null, .array _ => isFalse (by simp)
  | .null, .object _ => isFalse (by simp)
  | .bool _, .null => isFalse (by simp)
  | .bool _, .number _ => isFalse (by simp)
  | .bool _, .string _ => isFalse (by simp)
  | .bool _, .array _ => isFalse (by simp)
  | .bool _, .object _ => isFalse (by simp)
  | .number _, .null => isFalse (by simp)
  | .number _, .bool _ => isFalse (by simp)
  | .number _, .string _ => isFalse (by simp)
  | .number _, .array _ => isFalse (by simp)
  | .number _, .object _ => isFalse (by simp)
  | .string _, .null => isFalse (by simp)
  | .string _, .bool _ => isFalse (by simp)
  | .string _, .number _ => isFalse (by simp)
  | .string _, .array _ => isFalse (by simp)
  | .string _, .object _ => isFalse (by simp)
  | .array _, .null => isFalse (by simp)
  | .array _, .bool _ => isFalse (by simp)
  | .array _, .number _ => isFalse (by simp)
  | .array _, .string _ => isFalse (by simp)
  | .array _, .object _ => isFalse (by simp)
  | .object _, .null => isFalse (by simp)
  | .object _, .bool _ => isFalse (by simp)
  | .object _, .number _ => isFalse (by simp)
  | .object _, .string _ => isFalse (by simp)
  | .object _, .array _ => isFalse (by simp)

def Json.decEqItems : (a b : List Json) → Decidable (a = b)
  | [], [] => isTrue rfl
  | [], _ :: _ => isFalse (by simp)
  | _ :: _, [] => isFalse (by simp)
  | x :: a, y :: b =>
    match Json.decEq x y, Json.decEqItems a b with
    | isTrue h, isTrue k => isTrue (h ▸ k ▸ rfl)
    | isFalse h, _ => isFalse fun e => h (by cases e; rfl)
    | _, isFalse k => isFalse fun e => k (by cases e; rfl)

def Json.decEqFields : (a b : List (String × Json)) → Decidable (a = b)
  | [], [] => isTrue rfl
  | [], _ :: _ => isFalse (by simp)
  | _ :: _, [] => isFalse (by simp)
  | (m, x) :: a, (n, y) :: b =>
    if h : m = n then
      match Json.decEq x y, Json.decEqFields a b with
      | isTrue j, isTrue k => isTrue (h ▸ j ▸ k ▸ rfl)
      | isFalse j, _ => isFalse fun e => j (by cases e; rfl)
      | _, isFalse k => isFalse fun e => k (by cases e; rfl)
    else isFalse fun e => h (by cases e; rfl)

end

instance : DecidableEq Json := Json.decEq

instance : Inhabited Json := ⟨.null⟩

namespace Number

/-- The integer, where it fits 64 bits with a sign. -/
def toInt64? : Number → Option Int
  | .integer i => if -9223372036854775808 ≤ i ∧ i < 9223372036854775808 then some i else none
  | .float _ => none

def toFloat : Number → Binary64
  | .integer i => Binary64.ofInt i
  | .float x => x

end Number

namespace Fields

def get? (key : String) : Fields → Option Json
  | [] => none
  | (k, v) :: rest => if k = key then some v else get? key rest

def has (key : String) (fs : Fields) : Bool := (get? key fs).isSome

def set (key : String) (value : Json) : Fields → Fields
  | [] => [(key, value)]
  | (k, v) :: rest =>
    if k = key then (key, value) :: rest
    else if key < k then (key, value) :: (k, v) :: rest
    else (k, v) :: set key value rest

/-- Gives a key a value unless it has one. -/
def setNew (key : String) (value : Json) (fs : Fields) : Fields :=
  if has key fs then fs else set key value fs

/-- The fields of a list of pairs; of a repeated key the last value. -/
def ofList (pairs : List (String × Json)) : Fields :=
  pairs.foldl (fun fs p => set p.1 p.2 fs) []

def keys (fs : Fields) : List String := fs.map (·.1)

@[simp] theorem get?_nil (key : String) : get? key [] = none := rfl

theorem get?_cons (key k : String) (v : Json) (rest : Fields) :
    get? key ((k, v) :: rest) = if k = key then some v else get? key rest := rfl

@[simp] theorem get?_set_self (key : String) (value : Json) (fs : Fields) :
    get? key (set key value fs) = some value := by
  induction fs with
  | nil => simp [set, get?]
  | cons f rest ih =>
    obtain ⟨k, v⟩ := f
    by_cases h : k = key
    · simp [set, h, get?]
    · by_cases hlt : key < k
      · simp [set, h, hlt, get?]
      · simp [set, h, hlt, get?, ih]

theorem get?_set_of_ne {key other : String} (h : other ≠ key) (value : Json) (fs : Fields) :
    get? other (set key value fs) = get? other fs := by
  induction fs with
  | nil => simp [set, get?, Ne.symm h]
  | cons f rest ih =>
    obtain ⟨k, v⟩ := f
    by_cases hk : k = key
    · subst hk
      simp [set, get?, Ne.symm h]
    · by_cases hlt : key < k
      · simp [set, hk, hlt, get?, Ne.symm h]
      · simp [set, hk, hlt, get?, ih]

theorem get?_set (key other : String) (value : Json) (fs : Fields) :
    get? other (set key value fs) = if other = key then some value else get? other fs := by
  by_cases h : other = key
  · subst h; simp
  · simp [h, get?_set_of_ne h]

end Fields

namespace Json

def ofInt (i : Int) : Json := .number (.integer i)

/-- A value in double precision. -/
def ofFloat (x : Binary64) : Json := .number (.float x)

/-- An object with the given fields; of a repeated key the last value. -/
def ofFields (pairs : List (String × Json)) : Json := .object (Fields.ofList pairs)

/-- The value of a key, where the value is an object that has it. -/
def field? (key : String) : Json → Option Json
  | .object fs => Fields.get? key fs
  | _ => none

def text? : Json → Option String
  | .string s => some s
  | _ => none

/-- The integer of a number that fits 64 bits with a sign. -/
def int64? : Json → Option Int
  | .number n => n.toInt64?
  | _ => none

end Json
end Weblog
