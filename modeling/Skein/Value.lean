import Skein.Wire

/-!
Python values as the code receives, stores and returns them. A mapping keeps its entries
in insertion order under string keys; `exact` records whether it is a plain `dict` or an
instance of a subclass such as `OrderedDict`, which `isinstance` accepts and
`type(x) is dict` does not. `bool` is folded into `int`, which it subclasses and equals.
A `datetime` is naive, as `_EPOCH + timedelta(...)` makes it, and is kept as its
microseconds after the epoch. An entity object carries its slots in `__slots__` order, and
`required` is the sentinel that marks a mandatory parameter. Errors name the exception the
code raises and the field or key it concerns.
-/

namespace Skein

/-- The classes the code passes to `isinstance`. -/
inductive PyType where
  | str
  | int
  | float
  | datetime
  | resources
  | file
  | service
  | resourceUsageReport
  deriving DecidableEq, Repr

/-- A Python value, entity objects and wire messages included. -/
inductive Value where
  | none
  | required
  | int (n : Int)
  | float (x : PyFloat)
  | str (s : String)
  | datetime (micros : Int)
  | list (items : List Value)
  | dict (exact : Bool) (entries : List (String × Value))
  | message (m : Proto.Message)
  | resources (memory vcores : Value)
  | file (source type visibility size timestamp : Value)
  | service (commands resources instances files env depends : Value)
  | job (name queue services : Value)
  | resourceUsageReport (memorySeconds vcoreSeconds numUsedContainers neededResources
      reservedResources usedResources : Value)
  | applicationReport (id name user queue tags host port trackingUrl state finalStatus
      progress usage diagnostics startTime finishTime : Value)
  deriving Inhabited

/-- The exceptions the code raises, each with the Python text it carries. -/
inductive Error where
  /-- `TypeError("parameter %r is required but wasn't provided")`. -/
  | required (field : String)
  /-- `TypeError("%s must be an instance of %s")`, with `", or None"` when nullable. -/
  | notInstance (field : String) (type : PyType) (nullable : Bool)
  /-- `TypeError("%s must be a list of %s")`, with `", or None"` when nullable. -/
  | notListOf (field : String) (type : PyType) (nullable : Bool)
  /-- `TypeError("%s must be a dict of %s -> %s, or None")` when nullable, else
  `TypeError("%s must be a list of %s -> %s")`. -/
  | notDictOf (field : String) (key value : PyType) (nullable : Bool)
  /-- `ValueError("%s must be in %r")`. -/
  | notInSet (field : String) (values : List String)
  /-- `ValueError("%s must be >= %d")`. -/
  | belowMin (field : String) (min : Int)
  /-- `TypeError("Expected mapping for %r")` from `_check_keys`. -/
  | expectedMapping (cls : String)
  /-- `ValueError("Unknown extra keys for %s:\n%s")`, with the offending keys. -/
  | unknownKeys (cls : String) (extra : List String)
  /-- `ValueError("There must be at least one command")`. -/
  | noCommand
  /-- `ValueError("There must be at least one service")`. -/
  | noService
  /-- `TypeError("Expected mapping for File")` from `_parse_file_spec`. -/
  | fileSpecNotMapping
  /-- `ValueError("Both 'archive' and 'file' specified")`. -/
  | fileAndArchive
  /-- `ValueError("Distributed files must be files/archives, not directories")`. -/
  | directory
  /-- `TypeError("Expected message of type %r")`. -/
  | expectedMessage (type : String)
  /-- `KeyError(key)` from `obj[key]`. -/
  | keyError (key : String)
  /-- `AttributeError`: the object has no attribute `attr`. -/
  | noAttribute (attr : String)
  /-- `TypeError`: a keyword argument the constructor does not take. -/
  | unexpectedKeyword (key : String)
  /-- `TypeError`: an unhashable value in a set test or as a mapping key. -/
  | unhashable
  /-- `TypeError`: `max(0, x)` with an `x` that does not compare with `0`. -/
  | unorderable
  /-- `TypeError`: `val[key]` on a value that is not a mapping. -/
  | notSubscriptable
  /-- `TypeError`: `timedelta(milliseconds=x)` with an `x` that is not a number. -/
  | timedelta
  /-- `OverflowError`: an instant outside the range of `datetime`. -/
  | overflow
  /-- `TypeError`: a value of the wrong type for the wire field `field`. -/
  | wireType (field : String)
  /-- `ValueError`: a label the wire enum of field `field` does not have. -/
  | wireLabel (field : String) (label : String)
  /-- `ValueError`: an enum code with no label. -/
  | wireCode (code : Int)
  /-- `ValueError("Value out of range: %d")`: an integer outside its wire field's type. -/
  | wireRange (field : String) (value : Int)
  /-- `ValueError("Can't infer format from filepath %r, please specify manually")`. -/
  | cannotInferFormat (path : String)
  /-- `ValueError("Unknown file format: %r")`. -/
  | unknownFormat (format : String)
  /-- `urlparse` given a value that is not a string. -/
  | urlType
  /-- `ValueError("Invalid IPv6 URL")` from `urlparse`. -/
  | invalidIPv6
  /-- An error of an external collaborator: a text codec or the file system. -/
  | external (what : String)
  deriving DecidableEq, Repr

namespace Value

/-- `isinstance(x, type)`. -/
def isInstance : Value → PyType → Bool
  | .str _, .str | .int _, .int | .float _, .float | .datetime _, .datetime => true
  | .resources .., .resources | .file .., .file | .service .., .service => true
  | .resourceUsageReport .., .resourceUsageReport => true
  | _, _ => false

/-- `x is None`. -/
def isNone : Value → Bool
  | .none => true
  | _ => false

/-- `bool(x)`: `None`, zeros, and empty strings and containers are false. -/
def truthy : Value → Bool
  | .none => false
  | .int n => n != 0
  | .float x => x.bits &&& 0x7FFFFFFFFFFFFFFF != 0
  | .str s => !s.isEmpty
  | .list items => !items.isEmpty
  | .dict _ entries => !entries.isEmpty
  | _ => true

/-- The entries of a mapping; other values have none. The code reads entries only where
it has checked that the value is a mapping. -/
def entries : Value → List (String × Value)
  | .dict _ entries => entries
  | _ => []

/-- `obj.get(k, default)`. -/
def getD (obj : Value) (k : String) (default : Value) : Value :=
  (obj.entries.lookup k).getD default

/-- `obj.get(k)`, which is `None` for an absent key. -/
def get (obj : Value) (k : String) : Value := obj.getD k .none

/-- `k in obj`. -/
def contains (obj : Value) (k : String) : Bool := (obj.entries.lookup k).isSome

/-- `obj[k]`, a `KeyError` for an absent key. -/
def index (obj : Value) (k : String) : Except Error Value :=
  match obj.entries.lookup k with
  | some v => pure v
  | .none => throw (.keyError k)

end Value

/-- `_if_none(x, y)`. -/
def ifNone (x y : Value) : Value :=
  match x with
  | .none => y
  | _ => x

/-- `is_list_of(x, typ)`. -/
def isListOf (x : Value) (typ : PyType) : Bool :=
  match x with
  | .list items => items.all (·.isInstance typ)
  | _ => false

/-- `is_dict_of(x, ktyp, vtyp)`; every key is a string. -/
def isDictOf (x : Value) (ktyp vtyp : PyType) : Bool :=
  match x with
  | .dict _ entries => entries.all fun e => (Value.str e.1).isInstance ktyp && e.2.isInstance vtyp
  | _ => false

/-- `if cond: raise err`. -/
def throwIf (cond : Bool) (err : Error) : Except Error Unit :=
  if cond then throw err else pure ()

/-- `{k: f(v) for k, v in entries}`, the values mapped in order. -/
def mapValues {α β : Type} (f : α → Except Error β) :
    List (String × α) → Except Error (List (String × β))
  | [] => pure []
  | (k, v) :: rest => do pure ((k, ← f v) :: (← mapValues f rest))

/-- `[f(x) for x in items]`, stopping at the first error. -/
def mapItems {α β : Type} (f : α → Except Error β) : List α → Except Error (List β)
  | [] => pure []
  | x :: xs => do pure ((← f x) :: (← mapItems f xs))

/-- What `datetime` arithmetic gives on the host, which the model does not compute. -/
structure Clock where
  /-- `int(x.timestamp() * 1000)` of the instant `x`, given by its microseconds:
  `timestamp()` reads a naive `datetime` in the host's local time zone and returns a float,
  which `* 1000` and `int` round. -/
  timestampMillis : Int → Int
  /-- `timedelta(milliseconds=x)` of a float `x`, in microseconds as `timedelta` rounds them,
  or the error it raises on a NaN or an infinity. -/
  floatMillis : PyFloat → Except Error Int

/-- The microseconds after the epoch of `datetime.min`, 0001-01-01 00:00. -/
def datetimeMin : Int := -62135596800000000

/-- The microseconds after the epoch of `datetime.max`, 9999-12-31 23:59:59.999999. -/
def datetimeMax : Int := 253402300799999999

/-- `_EPOCH + timedelta(microseconds=us)`, an `OverflowError` outside `datetime`'s range. -/
def instantOf (us : Int) : Except Error Value :=
  if datetimeMin ≤ us ∧ us ≤ datetimeMax then pure (.datetime us) else throw .overflow

/-- `_datetime_from_millis(x)`: the epoch plus `x` milliseconds. -/
def datetimeFromMillis (clock : Clock) : Value → Except Error Value
  | .int ms => instantOf (ms * 1000)
  | .float x => do instantOf (← clock.floatMillis x)
  | _ => throw .timedelta

section Except

variable {ε α β : Type}

@[simp] theorem ok_bind (a : α) (f : α → Except ε β) : (Except.ok a >>= f) = f a := rfl

@[simp] theorem error_bind (e : ε) (f : α → Except ε β) :
    (Except.error e >>= f) = Except.error e := rfl

@[simp] theorem pure_eq_ok (a : α) : (pure a : Except ε α) = Except.ok a := rfl

@[simp] theorem throw_eq_error (e : ε) : (throw e : Except ε α) = Except.error e := rfl

theorem bind_eq_ok {x : Except ε α} {f : α → Except ε β} {c : β} :
    x >>= f = .ok c ↔ ∃ b, x = .ok b ∧ f b = .ok c := by
  cases x <;> simp

theorem map_eq_ok {x : Except ε α} {f : α → β} {c : β} :
    f <$> x = .ok c ↔ ∃ b, x = .ok b ∧ f b = c := by
  cases x <;> simp [Functor.map, Except.map]

@[simp] theorem bind_unit_eq_ok {x : Except ε Unit} {f : Unit → Except ε β} {c : β} :
    x >>= f = .ok c ↔ x = .ok () ∧ f () = .ok c := by
  cases x <;> simp

@[simp] theorem forM_eq_ok {l : List α} {f : α → Except ε Unit} :
    l.forM f = .ok () ↔ ∀ a ∈ l, f a = .ok () := by
  induction l with
  | nil => simp
  | cons a l ih => simp [List.forM_cons, ih]

@[simp] theorem throwIf_eq_ok {cond : Bool} {err : Error} :
    throwIf cond err = .ok () ↔ cond = false := by
  cases cond <;> simp [throwIf]

@[simp] theorem mapItems_nil {f : α → Except Error β} : mapItems f [] = .ok [] := rfl

@[simp] theorem mapItems_cons {f : α → Except Error β} {x : α} {xs : List α} :
    mapItems f (x :: xs) = (do pure ((← f x) :: (← mapItems f xs))) := rfl

@[simp] theorem mapValues_nil {f : α → Except Error β} : mapValues f [] = .ok [] := rfl

@[simp] theorem mapValues_cons {f : α → Except Error β} {k : String} {v : α}
    {rest : List (String × α)} :
    mapValues f ((k, v) :: rest) = (do pure ((k, ← f v) :: (← mapValues f rest))) := rfl

/-- A computation fails when its first step fails or every result of that step leads to a
failure. -/
theorem bind_error_of {x : Except ε α} {f : α → Except ε β}
    (h : ∀ a, x = .ok a → ∃ e, f a = .error e) : ∃ e, x >>= f = .error e := by
  cases x with
  | error e => exact ⟨e, rfl⟩
  | ok a => exact h a rfl

end Except

end Skein
