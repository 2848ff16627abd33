import RobotLlm.Lib.Check
import RobotLlm.Lib.Json

/-!
# Reading a text as JSON

A decoder of JSON takes the text in from left to right and calls a hook at
each object and at each constant that is no number. What it took in, to its
end or to where it had to stop, is a tree; the hooks fold over it in the same
order.
-/

namespace RobotLlm.Lib

inductive JsonPart where
  | value
  | items
  | pairs

/-- A JSON text as it was taken in, or as much of it as could be. -/
inductive JsonScan : JsonPart → Type where
  | null : JsonScan .value
  | bool (value : Bool) : JsonScan .value
  | int (value : Int) : JsonScan .value
  | float (text : String) : JsonScan .value
  /-- `NaN`, `Infinity` or `-Infinity`. -/
  | constant (name : String) : JsonScan .value
  | str (value : String) : JsonScan .value
  | arr (items : JsonScan .items) : JsonScan .value
  | obj (pairs : JsonScan .pairs) : JsonScan .value
  /-- The text is no JSON from here on. -/
  | broken : JsonScan .value
  /-- The value is nested deeper than the stack goes. -/
  | tooDeep : JsonScan .value
  /-- There is more text after the value. -/
  | extraData (value : JsonScan .value) : JsonScan .value
  | nil : JsonScan .items
  | cons (head : JsonScan .value) (rest : JsonScan .items) : JsonScan .items
  | noPairs : JsonScan .pairs
  | pair (name : String) (head : JsonScan .value) (rest : JsonScan .pairs) : JsonScan .pairs

abbrev JsonPart.Read : JsonPart → Type
  | .value => Json
  | .items => List Json
  | .pairs => List (String × Json)

/-- The hooks of a decoder, and what it raises itself. -/
structure JsonHooks (ε : Type) where
  objectPairs : List (String × Json) → Except ε Json
  parseConstant : String → Except ε Json
  valueError : ε
  recursionError : ε

namespace JsonScan

variable {ε : Type}

/-- `json.loads`, of the text that was taken in so. -/
def load (hooks : JsonHooks ε) : JsonScan part → Except ε part.Read
  | .null => .ok .null
  | .bool value => .ok (.bool value)
  | .int value => .ok (.int value)
  | .float text => .ok (.float text)
  | .constant name => hooks.parseConstant name
  | .str value => .ok (.str value)
  | .arr items => do return .arr (← load hooks items)
  | .obj pairs => do hooks.objectPairs (← load hooks pairs)
  | .broken => .error hooks.valueError
  | .tooDeep => .error hooks.recursionError
  | .extraData value => do
    let _ ← load hooks value
    .error hooks.valueError
  | .nil => .ok []
  | .cons head rest => do
    let head ← load hooks head
    return head :: (← load hooks rest)
  | .noPairs => .ok []
  | .pair name head rest => do
    let head ← load hooks head
    return (name, head) :: (← load hooks rest)

/-- No hook but those that standard JSON asks for: it has no constants, and an
object may repeat a key. -/
def standardHooks : JsonHooks Unit where
  objectPairs := fun pairs => .ok (.obj pairs)
  parseConstant := fun _ => .error ()
  valueError := ()
  recursionError := ()

def standard? (scan : JsonScan .value) : Option Json := (scan.load standardHooks).toOption

end JsonScan

/-- No object in the value repeats a key, at any level. -/
inductive Json.Distinct : Json → Prop
  | null : Distinct .null
  | bool : Distinct (.bool value)
  | int : Distinct (.int value)
  | float : Distinct (.float text)
  | str : Distinct (.str value)
  | arr (items : ∀ item ∈ values, Distinct item) : Distinct (.arr values)
  | obj (keys : (fields.map Prod.fst).Nodup) (values : ∀ field ∈ fields, Distinct field.2) : Distinct (.obj fields)

def JsonPart.Distinct : (part : JsonPart) → part.Read → Prop
  | .value, read => Json.Distinct read
  | .items, read => ∀ item ∈ read, Json.Distinct item
  | .pairs, read => ∀ field ∈ read, Json.Distinct field.2

/-- Hooks that take an object unless it repeats a key, and no constant. -/
structure JsonHooks.Strict (hooks : JsonHooks ε) : Prop where
  objectPairs : ∀ pairs value, hooks.objectPairs pairs = .ok value ↔ (pairs.map Prod.fst).Nodup ∧ value = .obj pairs
  parseConstant : ∀ name, ∃ e, hooks.parseConstant name = .error e

namespace JsonScan

theorem scalar_iff {value read : Json} (h : value.Distinct) :
    (Except.ok value : Except ε Json) = .ok read ↔ (Except.ok value : Except Unit Json) = .ok read ∧ read.Distinct := by
  simp only [Except.ok.injEq, iff_self_and]
  rintro rfl
  exact h

/-- Strict hooks read standard JSON that repeats no key, as what it says. -/
theorem load_ok_iff {hooks : JsonHooks ε} (hstrict : hooks.Strict) (scan : JsonScan part) (read : part.Read) :
    scan.load hooks = .ok read ↔ scan.load standardHooks = .ok read ∧ part.Distinct read := by
  induction scan with
  | null => exact scalar_iff .null
  | bool value => exact scalar_iff .bool
  | int value => exact scalar_iff .int
  | float text => exact scalar_iff .float
  | constant name =>
    obtain ⟨e, he⟩ := hstrict.parseConstant name
    simp [load, he, standardHooks]
  | str value => exact scalar_iff .str
  | arr items ih =>
    simp only [load, bind_ok_iff, pure, Except.pure, Except.ok.injEq, ih]
    constructor
    · rintro ⟨values, ⟨hload, hdistinct⟩, rfl⟩
      exact ⟨⟨values, hload, rfl⟩, Json.Distinct.arr hdistinct⟩
    · rintro ⟨⟨values, hload, rfl⟩, hdistinct⟩
      cases hdistinct with
      | arr hdistinct => exact ⟨values, ⟨hload, hdistinct⟩, rfl⟩
  | obj pairs ih =>
    simp only [load, bind_ok_iff, ih, hstrict.objectPairs]
    constructor
    · rintro ⟨fields, ⟨hload, hdistinct⟩, hkeys, rfl⟩
      exact ⟨⟨fields, hload, rfl⟩, Json.Distinct.obj hkeys hdistinct⟩
    · rintro ⟨⟨fields, hload, heq⟩, hdistinct⟩
      cases heq
      cases hdistinct with
      | obj hkeys hdistinct => exact ⟨fields, ⟨hload, hdistinct⟩, hkeys, rfl⟩
  | broken => simp [load]
  | tooDeep => simp [load]
  | extraData value ih => simp [load, bind_ok_iff]
  | nil =>
    simp only [load, Except.ok.injEq, iff_self_and]
    rintro rfl
    simp [JsonPart.Distinct]
  | cons head rest ihHead ihRest =>
    simp only [load, bind_ok_iff, pure, Except.pure, Except.ok.injEq, ihHead, ihRest]
    constructor
    · rintro ⟨value, ⟨hhead, hvalue⟩, values, ⟨hrest, hvalues⟩, rfl⟩
      exact ⟨⟨value, hhead, values, hrest, rfl⟩, List.forall_mem_cons.mpr ⟨hvalue, hvalues⟩⟩
    · rintro ⟨⟨value, hhead, values, hrest, rfl⟩, hdistinct⟩
      obtain ⟨hvalue, hvalues⟩ := List.forall_mem_cons.mp hdistinct
      exact ⟨value, ⟨hhead, hvalue⟩, values, ⟨hrest, hvalues⟩, rfl⟩
  | noPairs =>
    simp only [load, Except.ok.injEq, iff_self_and]
    rintro rfl
    simp [JsonPart.Distinct]
  | pair name head rest ihHead ihRest =>
    simp only [load, bind_ok_iff, pure, Except.pure, Except.ok.injEq, ihHead, ihRest]
    constructor
    · rintro ⟨value, ⟨hhead, hvalue⟩, fields, ⟨hrest, hfields⟩, rfl⟩
      exact ⟨⟨value, hhead, fields, hrest, rfl⟩, List.forall_mem_cons.mpr ⟨hvalue, hfields⟩⟩
    · rintro ⟨⟨value, hhead, fields, hrest, rfl⟩, hdistinct⟩
      obtain ⟨hvalue, hfields⟩ := List.forall_mem_cons.mp hdistinct
      exact ⟨value, ⟨hhead, hvalue⟩, fields, ⟨hrest, hfields⟩, rfl⟩

theorem standard?_eq_some_iff {scan : JsonScan .value} {value : Json} :
    scan.standard? = some value ↔ scan.load standardHooks = .ok value := by
  unfold standard?
  cases scan.load standardHooks <;> simp [Except.toOption]

end JsonScan

end RobotLlm.Lib
