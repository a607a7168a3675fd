import KotaRag.PyStr

/-!
# JSON values and Python dicts

Chunk metadata travels through the store as the text of a `metadata:<json>` tag: the
ingestion path writes it with `json.dumps` and `semantic_search` reads it back with
`json.loads` and `dict.get`. The values involved are JSON values; a Python `dict` is kept
as the list of its items in insertion order, which is what `dict.copy`, `dict.update` and
`dict.get` observe.
-/

namespace KotaRag

/-- A Python exception, by the name of its class. -/
structure PyErr where
  /-- the class name, such as `ValueError` -/
  name : PyStr
  deriving DecidableEq, Repr

/-- A Python block that may raise runs in `Except PyErr`; its first statement's outcome
decides the rest. -/
@[simp] theorem except_ok_bind {ε α β : Type} (a : α) (f : α → Except ε β) :
    (Except.ok a >>= f) = f a := rfl

@[simp] theorem except_error_bind {ε α β : Type} (e : ε) (f : α → Except ε β) :
    (Except.error e >>= f) = Except.error e := rfl

/-- `except ...: pass` around a value: an exception becomes `none`. -/
@[simp] theorem except_toOption_ok {ε α : Type} (a : α) :
    (Except.ok a : Except ε α).toOption = some a := rfl

@[simp] theorem except_toOption_error {ε α : Type} (e : ε) :
    (Except.error e : Except ε α).toOption = none := rfl

theorem except_toOption_eq_some {ε α : Type} {x : Except ε α} {a : α} :
    x.toOption = some a ↔ x = .ok a := by
  cases x <;> simp [eq_comm]

/-- A JSON value as `json.loads` returns it. Python keeps integers and floats apart. -/
inductive JsonVal where
  /-- `None` -/
  | null
  /-- `True`/`False` -/
  | bool (b : Bool)
  /-- an `int` -/
  | int (n : Int)
  /-- a `float` -/
  | float (x : Float)
  /-- a `str` -/
  | str (s : PyStr)
  /-- a `list` -/
  | arr (xs : List JsonVal)
  /-- a `dict` -/
  | obj (items : List (PyStr × JsonVal))

/-- Python truthiness of a JSON value, as `if value:` tests it. -/
def JsonVal.truthy : JsonVal → Bool
  | .null => false
  | .bool b => b
  | .int n => n != 0
  | .float x => x != 0
  | .str s => !s.isEmpty
  | .arr xs => !xs.isEmpty
  | .obj items => !items.isEmpty

/-- A Python `dict`, as its items in insertion order. -/
abbrev PyDict (α : Type) : Type := List (PyStr × α)

/-- `d.get(key, default)`. -/
def dictGet {α : Type} (d : PyDict α) (key : PyStr) (default : α) : α :=
  ((d.find? (·.1 == key)).map (·.2)).getD default

/-- `d[key] = value`: an existing key keeps its place, a new key goes last. -/
def dictSet {α : Type} (d : PyDict α) (key : PyStr) (value : α) : PyDict α :=
  if d.any (·.1 == key) then d.map fun kv => if kv.1 == key then (key, value) else kv
  else d ++ [(key, value)]

/-- `value.get(key, default)` on what `json.loads` returned: a `dict` answers as `dictGet`;
every other JSON value lacks the method, and the call raises `AttributeError` (`none`). -/
def JsonVal.get? : JsonVal → PyStr → JsonVal → Option JsonVal
  | .obj items, key, default => some (dictGet items key default)
  | _, _, _ => none

/-- A set key reads back. -/
theorem dictGet_dictSet_self {α : Type} (d : PyDict α) (key : PyStr) (value default : α) :
    dictGet (dictSet d key value) key default = value := by
  unfold dictGet dictSet
  split
  · rename_i h
    obtain ⟨kv, hkv, hk⟩ := List.any_eq_true.mp h
    induction d with
    | nil => simp at hkv
    | cons a d ih =>
      by_cases ha : a.1 = key
      · simp [ha]
      · have hkv' : kv ∈ d := by
          rcases List.mem_cons.mp hkv with rfl | h
          · simp at hk; exact absurd hk ha
          · exact h
        simpa [ha] using ih (List.any_eq_true.mpr ⟨kv, hkv', hk⟩) hkv'
  · rename_i h
    simp only [List.any_eq_true, not_exists, not_and] at h
    rw [List.find?_append, List.find?_eq_none.mpr (fun kv hkv => by simpa using h kv hkv)]
    simp

end KotaRag
