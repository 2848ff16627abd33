import Mathlib.Data.List.Sort
import Mathlib.Data.String.Basic
import RobotLlm.Lib.Json

/-!
# JSON as text

The compact text of a value with its keys sorted, and its length in bytes. A
float is held by its text, so every value has one.
-/

namespace RobotLlm.Lib.Json

def quote : Char := Char.ofNat 34
def backslash : Char := Char.ofNat 92

def hexPair (n : Nat) : List Char := [Nat.digitChar (n / 16), Nat.digitChar (n % 16)]

/-- A character of a string; characters from the space on stand for themselves,
but for quote and backslash. -/
def escaped (c : Char) : List Char :=
  match c.toNat with
  | 34 => [backslash, quote]
  | 92 => [backslash, backslash]
  | 10 => [backslash, 'n']
  | 13 => [backslash, 'r']
  | 9 => [backslash, 't']
  | 8 => [backslash, 'b']
  | 12 => [backslash, 'f']
  | n => if n < 32 then [backslash, 'u', '0', '0'] ++ hexPair n else [c]

def quoted (text : String) : List Char := quote :: (text.toList.flatMap escaped ++ [quote])

/-- `items` between brackets, with commas. -/
def enclosed (start stop : Char) (items : List (List Char)) : List Char := start :: ([','].intercalate items ++ [stop])

mutual

def dumps : Json → List Char
  | .null => "null".toList
  | .bool true => "true".toList
  | .bool false => "false".toList
  | .int value => (toString value).toList
  | .float text => text.toList
  | .str value => quoted value
  | .arr items => enclosed '[' ']' (dumpsItems items)
  | .obj fields =>
    enclosed '\x7b' '\x7d' (((dumpsFields fields).insertionSort fun a b => a.1 ≤ b.1).map fun field => quoted field.1 ++ ':' :: field.2)

def dumpsItems : List Json → List (List Char)
  | [] => []
  | item :: items => dumps item :: dumpsItems items

def dumpsFields : List (String × Json) → List (String × List Char)
  | [] => []
  | (key, value) :: fields => (key, dumps value) :: dumpsFields fields

end

/-- `len(text.encode("utf-8"))`. -/
def utf8Length (text : List Char) : Nat := (text.map fun c => c.utf8Size).sum

def byteLength (value : Json) : Nat := utf8Length (dumps value)

example : dumps (.obj [("b", .arr [.int 1, .null]), ("a", .str "x")]) = "\x7b\"a\":\"x\",\"b\":[1,null]\x7d".toList := by decide +kernel

theorem lookup_setField (name key : String) (entry : Json) (fields : List (String × Json)) :
    (setField name entry fields).lookup key = if key = name then some entry else fields.lookup key := by
  induction fields with
  | nil =>
    by_cases h : key = name
    · simp [setField, h]
    · have hne : (key == name) = false := by simpa using h
      simp [setField, List.lookup_cons, List.lookup_nil, hne, h]
  | cons field fields ih =>
    obtain ⟨first, value⟩ := field
    rw [setField]
    by_cases hfirst : first = name
    · subst hfirst
      by_cases h : key = first
      · simp [h]
      · have hne : (key == first) = false := by simpa using h
        simp [List.lookup_cons, List.lookup_nil, hne, h]
    · rw [if_neg hfirst]
      by_cases h : key = first
      · subst h
        simp [List.lookup_cons, List.lookup_nil, hfirst]
      · have hne : (key == first) = false := by simpa using h
        simpa [List.lookup_cons, List.lookup_nil, hne] using ih

theorem setField_setField (name : String) (first second : Json) (fields : List (String × Json)) :
    setField name second (setField name first fields) = setField name second fields := by
  induction fields with
  | nil => simp [setField]
  | cons field fields ih =>
    obtain ⟨key, value⟩ := field
    by_cases h : key = name
    · simp [setField, h]
    · simp [setField, h, ih]

theorem setField_eq_self {name : String} {entry : Json} {fields : List (String × Json)} (h : fields.lookup name = some entry) :
    setField name entry fields = fields := by
  induction fields with
  | nil => simp at h
  | cons field fields ih =>
    obtain ⟨key, value⟩ := field
    by_cases hkey : key = name
    · subst hkey
      simp only [List.lookup_cons, List.lookup_nil, beq_self_eq_true, Option.some.injEq] at h
      simp [setField, h]
    · have hne : (name == key) = false := by simpa using Ne.symm hkey
      simp only [List.lookup_cons, List.lookup_nil, hne] at h
      simp [setField, hkey, ih h]

end RobotLlm.Lib.Json
