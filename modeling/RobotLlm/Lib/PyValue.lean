import Mathlib.Algebra.Order.Ring.Cast

/-!
# Values of Python in memory

What a program hands from function to function as dictionaries. Its floats are
numbers of a field; a dictionary never holds a key twice.
-/

namespace RobotLlm.Lib

inductive PyValue (R : Type) where
  | none
  | bool (value : Bool)
  | int (value : Int)
  | float (value : R)
  | str (value : String)
  | list (items : List (PyValue R))
  | dict (fields : List (String × PyValue R))

abbrev PyDict (R : Type) := List (String × PyValue R)

namespace PyValue

variable {R : Type}

/-- `fields.get(key)`. -/
def field (fields : PyDict R) (key : String) : PyValue R := (fields.lookup key).getD .none

/-- `set(fields) == {..}`. -/
def hasKeys (fields : PyDict R) (keys : List String) : Bool :=
  keys.all (fields.map Prod.fst).contains && (fields.map Prod.fst).all keys.contains

def isStr (text : String) : PyValue R → Bool
  | .str value => value = text
  | _ => false

def str? : PyValue R → Option String
  | .str value => some value
  | _ => .none

def dict? : PyValue R → Option (PyDict R)
  | .dict fields => some fields
  | _ => .none

def bool? : PyValue R → Option Bool
  | .bool value => some value
  | _ => .none

/-- `value is not None`. -/
def isSome : PyValue R → Bool
  | .none => false
  | _ => true

def ofOption (write : α → PyValue R) : Option α → PyValue R
  | .none => .none
  | some value => write value

variable [Ring R] [DecidableEq R]

/-- The number that a value counts as in a comparison. -/
def number? : PyValue R → Option R
  | .bool value => some (if value then 1 else 0)
  | .int value => some value
  | .float value => some value
  | _ => .none

mutual

/-- `first == second`. -/
def equals : PyValue R → PyValue R → Bool
  | .none, .none => true
  | .str first, .str second => first = second
  | .list first, .list second => equalsItems first second
  | .dict first, .dict second => first.length = second.length && equalsFields first second
  | .bool first, second => second.number? = some (if first then 1 else 0)
  | .int first, second => second.number? = some (first : R)
  | .float first, second => second.number? = some first
  | _, _ => false

def equalsItems : List (PyValue R) → List (PyValue R) → Bool
  | [], [] => true
  | first :: firsts, second :: seconds => equals first second && equalsItems firsts seconds
  | _, _ => false

def equalsFields : PyDict R → PyDict R → Bool
  | [], _ => true
  | (key, value) :: fields, others =>
    (match others.lookup key with
      | some other => equals value other
      | .none => false) && equalsFields fields others

end

theorem equals_int {value : Int} {second : PyValue R} :
    equals (.int value) second = true ↔ second.number? = some (value : R) := by
  cases second <;> simp [equals, number?]

/-- Each field of the first of two equal dictionaries has its equal in the
second. -/
theorem equalsFields_field {fields others : PyDict R} (h : equalsFields fields others = true) {key : String}
    {value : PyValue R} (hmem : (key, value) ∈ fields) : equals value (field others key) = true := by
  induction fields with
  | nil => cases hmem
  | cons entry fields ih =>
    obtain ⟨name, first⟩ := entry
    rw [equalsFields, Bool.and_eq_true] at h
    rcases List.mem_cons.mp hmem with heq | hmem
    · cases heq
      have hfirst := h.1
      cases hlookup : others.lookup key with
      | none => simp [hlookup] at hfirst
      | some other => simpa [field, hlookup] using hfirst
    · exact ih h.2 hmem

end PyValue

end RobotLlm.Lib
