import RobotLlm.Lib.PyMath

/-!
# Values of JSON

What a strict decoder yields and an encoder takes. An object keeps its keys in
order; a strict decoder never yields the same key twice.
-/

namespace RobotLlm.Lib

inductive Json where
  | null
  | bool (value : Bool)
  | int (value : Int)
  /-- A number with a fraction or an exponent, by its text. -/
  | float (text : String)
  | str (value : String)
  | arr (items : List Json)
  | obj (fields : List (String × Json))

namespace Json

/-- The keys of an object are these, in whatever order. -/
def HasKeys (fields : List (String × Json)) (names : List String) : Prop :=
  (∀ name ∈ names, name ∈ fields.map Prod.fst) ∧ ∀ name ∈ fields.map Prod.fst, name ∈ names

instance : Decidable (HasKeys fields names) := inferInstanceAs (Decidable (_ ∧ _))

def IsStr (text : String) : Option Json → Prop
  | some (.str value) => value = text
  | _ => False

instance : (value : Option Json) → Decidable (IsStr text value)
  | some (.str _) => inferInstanceAs (Decidable (_ = _))
  | none | some .null | some (.bool _) | some (.int _) | some (.float _) | some (.arr _) | some (.obj _) => .isFalse id

/-- `value.get(name)` of a value that may not be an object. -/
def get? (name : String) : Json → Option Json
  | .obj fields => fields.lookup name
  | _ => none

/-- `{**value, name: entry}`: a known key keeps its place. -/
def setField (name : String) (entry : Json) : List (String × Json) → List (String × Json)
  | [] => [(name, entry)]
  | (key, old) :: fields => if key = name then (name, entry) :: fields else (key, old) :: setField name entry fields

def IsTrue : Option Json → Prop
  | some (.bool true) => True
  | _ => False

instance : (value : Option Json) → Decidable (IsTrue value)
  | some (.bool true) => .isTrue trivial
  | some (.bool false) => .isFalse id
  | none | some .null | some (.str _) | some (.int _) | some (.float _) | some (.arr _) | some (.obj _) => .isFalse id

def IsFalse : Option Json → Prop
  | some (.bool false) => True
  | _ => False

instance : (value : Option Json) → Decidable (IsFalse value)
  | some (.bool false) => .isTrue trivial
  | some (.bool true) => .isFalse id
  | none | some .null | some (.str _) | some (.int _) | some (.float _) | some (.arr _) | some (.obj _) => .isFalse id

/-- The value is the number `n`: an integer, a float or a truth value counted as
one, compared as Python compares them. -/
def IsNumber (F : Type) [PyFloat F] (n : Int) : Option Json → Bool
  | some (.int value) => value = n
  | some (.bool value) => value.toInt = n
  | some (.float text) =>
    let x : F := PyFloat.ofText text
    PyMath.le x (PyMath.ofInt n) && PyMath.le (PyMath.ofInt n) x
  | _ => false

mutual

/-- `value == literal`, for a literal without fractions. -/
def equals (F : Type) [PyFloat F] : Json → Json → Bool
  | .null, .null => true
  | .bool literal, value => IsNumber F literal.toInt (some value)
  | .int literal, value => IsNumber F literal (some value)
  | .str literal, .str value => literal = value
  | .arr literals, .arr values => equalsItems F literals values
  | .obj literals, .obj values => HasKeys values (literals.map Prod.fst) && equalsFields F literals values
  | _, _ => false

def equalsItems (F : Type) [PyFloat F] : List Json → List Json → Bool
  | [], [] => true
  | literal :: literals, value :: values => equals F literal value && equalsItems F literals values
  | _, _ => false

def equalsFields (F : Type) [PyFloat F] : List (String × Json) → List (String × Json) → Bool
  | [], _ => true
  | (name, literal) :: literals, values =>
    (match values.lookup name with
      | some value => equals F literal value
      | none => false) && equalsFields F literals values

end

/-- `bool(value)`. -/
def truthy (F : Type) [PyFloat F] : Option Json → Bool
  | none | some .null => false
  | some (.str value) => value ≠ ""
  | some (.arr items) => !items.isEmpty
  | some (.obj fields) => !fields.isEmpty
  | some value => !IsNumber F 0 (some value)

-- Reading one value

def toInt? : Option Json → Option Int
  | some (.int value) => some value
  | _ => none

def toStr? : Option Json → Option String
  | some (.str value) => some value
  | _ => none

def toBool? : Option Json → Option Bool
  | some (.bool value) => some value
  | _ => none

def toArr? : Option Json → Option (List Json)
  | some (.arr items) => some items
  | _ => none

/-- A value that may be `None`, or not be there at all. -/
def toOpt (read : Option Json → Option α) : Option Json → Option (Option α)
  | none | some .null => some none
  | value => (read value).map some

def ofOpt (write : α → Json) : Option α → Json
  | none => .null
  | some value => write value

@[simp] theorem toInt?_int (value : Int) : toInt? (some (.int value)) = some value := rfl
@[simp] theorem toStr?_str (value : String) : toStr? (some (.str value)) = some value := rfl
@[simp] theorem toBool?_bool (value : Bool) : toBool? (some (.bool value)) = some value := rfl
@[simp] theorem toArr?_arr (items : List Json) : toArr? (some (.arr items)) = some items := rfl

@[simp] theorem toOpt_ofOpt_int (value : Option Int) : toOpt toInt? (some (ofOpt .int value)) = some value := by
  cases value <;> rfl

@[simp] theorem toOpt_ofOpt_str (value : Option String) : toOpt toStr? (some (ofOpt .str value)) = some value := by
  cases value <;> rfl

@[simp] theorem toOpt_ofOpt_bool (value : Option Bool) : toOpt toBool? (some (ofOpt .bool value)) = some value := by
  cases value <;> rfl

theorem hasKeys_of_eq {fields : List (String × Json)} (names : List String) (h : fields.map Prod.fst = names) :
    HasKeys fields names := by
  subst h
  exact ⟨fun _ h => h, fun _ h => h⟩

theorem HasKeys.of_perm {fields : List (String × Json)} {keys names : List String} (h : HasKeys fields keys)
    (hp : keys.Perm names) : HasKeys fields names :=
  ⟨fun name hn => h.1 name (hp.mem_iff.mpr hn), fun name hn => hp.mem_iff.mp (h.2 name hn)⟩

end Json

end RobotLlm.Lib
