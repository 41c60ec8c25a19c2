import Skein.Value

/-!
The checks of `Base`. Each field check reads one field's value and raises an error that
names the field. `_check_keys` tests a whole mapping against the keys a class accepts,
`_check_required` a whole object for the sentinel, and `kwarg` with `checkKwargs` give a
keyword call `cls(**kwargs)` its arguments. Each check has one lemma saying when it passes.
-/

namespace Skein

/-- Whether `hash(x)` exists: containers, entities and messages have none. -/
def Value.isHashable : Value → Bool
  | .none | .required | .int _ | .float _ | .str _ | .datetime _ => true
  | _ => false

/-- `cls._check_keys(obj, keys)`. -/
def checkKeys (cls : String) (keys : List String) (obj : Value) : Except Error Unit :=
  match obj with
  | .dict _ entries =>
      let extra := (entries.map Prod.fst).filter (· ∉ keys)
      if extra = [] then pure () else throw (.unknownKeys cls extra)
  | _ => throw (.expectedMapping cls)

/-- `self._check_required()`, given the slots with their values. -/
def checkRequired : List (String × Value) → Except Error Unit
  | [] => pure ()
  | (k, .required) :: _ => throw (.required k)
  | _ :: rest => checkRequired rest

/-- `self._check_in_set(field, values)`. -/
def checkInSet (field : String) (val : Value) (values : List String) : Except Error Unit :=
  if !val.isHashable then throw .unhashable
  else match val with
    | .str s => if s ∈ values then pure () else throw (.notInSet field values)
    | _ => throw (.notInSet field values)

/-- `self._check_is_type(field, type, nullable)`. -/
def checkIsType (field : String) (val : Value) (type : PyType) (nullable : Bool) :
    Except Error Unit :=
  if val.isInstance type || (nullable && val.isNone) then pure ()
  else throw (.notInstance field type nullable)

/-- `self._check_is_list_of(field, type, nullable)`. -/
def checkIsListOf (field : String) (val : Value) (type : PyType) (nullable : Bool) :
    Except Error Unit :=
  if isListOf val type || (nullable && val.isNone) then pure ()
  else throw (.notListOf field type nullable)

/-- `self._check_is_dict_of(field, key, val, nullable)`. -/
def checkIsDictOf (field : String) (attr : Value) (key val : PyType) (nullable : Bool) :
    Except Error Unit :=
  if isDictOf attr key val || (nullable && attr.isNone) then pure ()
  else throw (.notDictOf field key val nullable)

/-- `self._check_is_bounded_int(field, min, nullable)`. -/
def checkIsBoundedInt (field : String) (x : Value) (min : Int) (nullable : Bool) :
    Except Error Unit := do
  checkIsType field x .int nullable
  match x with
  | .int n => if n < min then throw (.belowMin field min) else pure ()
  | _ => pure ()

/-- The argument a keyword call `f(**kwargs)` passes for parameter `k`, or its default. -/
def kwarg (kwargs : List (String × Value)) (k : String) (default : Value) : Value :=
  (kwargs.lookup k).getD default

/-- A keyword call `f(**kwargs)` names only parameters of `f`. -/
def checkKwargs (params : List String) : List (String × Value) → Except Error Unit
  | [] => pure ()
  | (k, _) :: rest => if k ∈ params then checkKwargs params rest else throw (.unexpectedKeyword k)

@[simp] theorem checkKeys_dict {cls : String} {keys : List String} {exact : Bool}
    {entries : List (String × Value)} :
    checkKeys cls keys (.dict exact entries) = .ok () ↔ ∀ p ∈ entries, p.1 ∈ keys := by
  simp [checkKeys, List.filter_eq_nil_iff]

theorem checkKeys_ok {cls : String} {keys : List String} {obj : Value} :
    checkKeys cls keys obj = .ok () ↔
      ∃ exact entries, obj = .dict exact entries ∧ ∀ p ∈ entries, p.1 ∈ keys := by
  cases obj with
  | dict exact entries =>
    rw [checkKeys_dict]
    exact ⟨fun h => ⟨exact, entries, rfl, h⟩, fun ⟨_, _, he, h⟩ => by cases he; exact h⟩
  | _ => exact ⟨fun h => (nomatch h), fun ⟨_, _, h, _⟩ => (nomatch h)⟩

/-- A key outside `keys` is reported among the unknown keys. -/
theorem checkKeys_unknown {cls : String} {keys : List String} {exact : Bool}
    {entries : List (String × Value)} {k : String} (hk : k ∈ entries.map Prod.fst)
    (hbad : k ∉ keys) : ∃ extra, k ∈ extra ∧
      checkKeys cls keys (.dict exact entries) = .error (.unknownKeys cls extra) := by
  have hmem : k ∈ (entries.map Prod.fst).filter (· ∉ keys) :=
    List.mem_filter.mpr ⟨hk, by simpa using hbad⟩
  exact ⟨_, hmem, by simp only [checkKeys, if_neg (List.ne_nil_of_mem hmem)]; rfl⟩

theorem checkRequired_cons_of_ne {k : String} {v : Value} {rest : List (String × Value)}
    (hv : v ≠ .required) : checkRequired ((k, v) :: rest) = checkRequired rest := by
  cases v <;> first | rfl | exact absurd rfl hv

theorem checkRequired_ok {slots : List (String × Value)} :
    checkRequired slots = .ok () ↔ ∀ p ∈ slots, p.2 ≠ .required := by
  induction slots with
  | nil => simp [checkRequired]
  | cons p rest ih =>
    obtain ⟨k, v⟩ := p
    by_cases hv : v = .required
    · subst hv
      simp [checkRequired]
    · simp [checkRequired_cons_of_ne hv, ih, hv]

theorem checkInSet_ok {field : String} {val : Value} {values : List String} :
    checkInSet field val values = .ok () ↔ ∃ s, val = .str s ∧ s ∈ values := by
  cases val <;> simp [checkInSet, Value.isHashable]

theorem checkIsType_ok {field : String} {val : Value} {type : PyType} {nullable : Bool} :
    checkIsType field val type nullable = .ok () ↔
      (val.isInstance type || (nullable && val.isNone)) = true := by
  unfold checkIsType; split <;> simp_all

theorem checkIsListOf_ok {field : String} {val : Value} {type : PyType} {nullable : Bool} :
    checkIsListOf field val type nullable = .ok () ↔
      (isListOf val type || (nullable && val.isNone)) = true := by
  unfold checkIsListOf; split <;> simp_all

theorem checkIsDictOf_ok {field : String} {attr : Value} {key val : PyType} {nullable : Bool} :
    checkIsDictOf field attr key val nullable = .ok () ↔
      (isDictOf attr key val || (nullable && attr.isNone)) = true := by
  unfold checkIsDictOf; split <;> simp_all

/-- A bounded int that may not be `None` is an `int` at least `min`. -/
theorem checkIsBoundedInt_ok {field : String} {x : Value} {min : Int} :
    checkIsBoundedInt field x min false = .ok () ↔ ∃ n, x = .int n ∧ min ≤ n := by
  cases x with
  | int n =>
    have hi : (Value.int n).isInstance .int = true := rfl
    simp [checkIsBoundedInt, checkIsType, hi, Int.not_lt]
  | _ => exact ⟨fun h => (nomatch h), fun ⟨_, h, _⟩ => (nomatch h)⟩

theorem checkKwargs_ok {params : List String} {kwargs : List (String × Value)} :
    checkKwargs params kwargs = .ok () ↔ ∀ p ∈ kwargs, p.1 ∈ params := by
  induction kwargs with
  | nil => simp [checkKwargs]
  | cons p rest ih =>
    by_cases h : p.1 ∈ params <;> simp [checkKwargs, h, ih]

end Skein
