import Skein.Entities

/-!
What the errors say. Each field check raises an error that names the field it checks, so
every error of a class's constructor names a field of the class or of a class nested in it;
a nested field is named without the path to it. `_check_keys` reports exactly the keys of the
mapping that the class does not accept.
-/

namespace Skein

/-- The field an error of a field check names. -/
def Error.field? : Error → Option String
  | .required field | .notInstance field .. | .notListOf field .. | .notDictOf field ..
  | .notInSet field _ | .belowMin field _ => some field
  | _ => none

/-- The error names no field outside `fields`. -/
def Error.NamesIn (fields : List String) (e : Error) : Prop :=
  ∀ f, e.field? = some f → f ∈ fields

/-- Every error `x` can raise satisfies `p`. -/
def RaisesOnly {α : Type} (p : Error → Prop) (x : Except Error α) : Prop :=
  ∀ e, x = .error e → p e

namespace RaisesOnly

variable {α β : Type} {p : Error → Prop}

theorem ok (a : α) : RaisesOnly p (.ok a) := fun _ h => nomatch h

theorem error {e : Error} (h : p e) : RaisesOnly p (.error e : Except Error α) := by
  rintro _ ⟨⟩; exact h

theorem bind {x : Except Error α} {f : α → Except Error β} (hx : RaisesOnly p x)
    (hf : ∀ a, RaisesOnly p (f a)) : RaisesOnly p (x >>= f) := by
  cases x with
  | error e => rintro _ ⟨⟩; exact hx e rfl
  | ok a => exact hf a

theorem forM {l : List α} {f : α → Except Error Unit} (h : ∀ a ∈ l, RaisesOnly p (f a)) :
    RaisesOnly p (l.forM f) := by
  induction l with
  | nil => exact ok ()
  | cons a l ih =>
    exact (h a (List.mem_cons_self a l)).bind fun _ =>
      ih fun b hb => h b (List.mem_cons_of_mem a hb)

theorem namesIn_mono {fs gs : List String} {x : Except Error α} (hsub : fs ⊆ gs)
    (h : RaisesOnly (Error.NamesIn fs) x) : RaisesOnly (Error.NamesIn gs) x :=
  fun e he f hf => hsub (h e he f hf)

theorem throwIf {fs : List String} {c : Bool} {e : Error} (he : e.field? = none) :
    RaisesOnly (Error.NamesIn fs) (Skein.throwIf c e) := by
  unfold Skein.throwIf
  split
  · exact error fun f hf => by simp [he] at hf
  · exact ok ()

end RaisesOnly

section Checks

variable {fields : List String} {field : String} {val : Value} {type : PyType} {nullable : Bool}

theorem checkIsType_raises (h : field ∈ fields) :
    RaisesOnly (Error.NamesIn fields) (checkIsType field val type nullable) := by
  unfold checkIsType
  split
  · exact .ok ()
  · exact .error fun f hf => by cases hf; exact h

theorem checkIsListOf_raises (h : field ∈ fields) :
    RaisesOnly (Error.NamesIn fields) (checkIsListOf field val type nullable) := by
  unfold checkIsListOf
  split
  · exact .ok ()
  · exact .error fun f hf => by cases hf; exact h

theorem checkIsDictOf_raises {key : PyType} (h : field ∈ fields) :
    RaisesOnly (Error.NamesIn fields) (checkIsDictOf field val key type nullable) := by
  unfold checkIsDictOf
  split
  · exact .ok ()
  · exact .error fun f hf => by cases hf; exact h

theorem checkIsBoundedInt_raises {min : Int} (h : field ∈ fields) :
    RaisesOnly (Error.NamesIn fields) (checkIsBoundedInt field val min nullable) := by
  refine (checkIsType_raises h).bind fun _ => ?_
  split
  · split
    · exact .error fun f hf => by cases hf; exact h
    · exact .ok ()
  · exact .ok ()

/-- `_check_in_set` names its field, or raises the unhashable `TypeError`, which names none. -/
theorem checkInSet_raises {values : List String} (h : field ∈ fields) :
    RaisesOnly (Error.NamesIn fields) (checkInSet field val values) := by
  unfold checkInSet
  split
  · exact .error fun f hf => by cases hf
  · split
    · split
      · exact .ok ()
      · exact .error fun f hf => by cases hf; exact h
    · exact .error fun f hf => by cases hf; exact h

theorem checkRequired_raises {slots : List (String × Value)} :
    RaisesOnly (Error.NamesIn (slots.map Prod.fst)) (checkRequired slots) := by
  induction slots with
  | nil => exact .ok ()
  | cons p rest ih =>
    obtain ⟨k, v⟩ := p
    by_cases hv : v = .required
    · subst hv
      exact .error fun f hf => by cases hf; exact List.mem_cons_self _ _
    · rw [checkRequired_cons_of_ne hv]
      exact ih.namesIn_mono (List.subset_cons_self _ _)

end Checks

/-- `_check_keys` reports exactly the keys of the mapping that are not among `keys`. -/
theorem checkKeys_error {cls : String} {keys extra : List String} {exact : Bool}
    {entries : List (String × Value)}
    (h : checkKeys cls keys (.dict exact entries) = .error (.unknownKeys cls extra)) (k : String) :
    k ∈ extra ↔ k ∈ entries.map Prod.fst ∧ k ∉ keys := by
  dsimp only [checkKeys] at h
  split_ifs at h
  · cases h
  · cases h
    simp [List.mem_filter]

section Validate

theorem Resources.validate_raises {memory vcores : Value} {isRequest : Bool} :
    RaisesOnly (Error.NamesIn slots) (validate memory vcores isRequest) :=
  (checkIsBoundedInt_raises (by decide)).bind fun _ => checkIsBoundedInt_raises (by decide)

theorem Resources.validateObj_raises {x : Value} {isRequest : Bool} :
    RaisesOnly (Error.NamesIn slots) (validateObj x isRequest) := by
  unfold validateObj
  split
  · exact validate_raises
  · exact .error fun f hf => by cases hf

theorem File.validate_raises {source type visibility size timestamp : Value} :
    RaisesOnly (Error.NamesIn slots) (validate source type visibility size timestamp) :=
  (checkIsType_raises (by decide)).bind fun _ => (checkInSet_raises (by decide)).bind fun _ =>
    (checkInSet_raises (by decide)).bind fun _ => (checkIsBoundedInt_raises (by decide)).bind
      fun _ => checkIsBoundedInt_raises (by decide)

theorem File.validateObj_raises {x : Value} :
    RaisesOnly (Error.NamesIn slots) (validateObj x) := by
  unfold validateObj
  split
  · exact validate_raises
  · exact .error fun f hf => by cases hf

theorem Service.validate_raises {commands resources instances files env depends : Value} :
    RaisesOnly (Error.NamesIn (slots ++ Resources.slots ++ File.slots))
      (validate commands resources instances files env depends) :=
  (checkIsBoundedInt_raises (by decide)).bind fun _ =>
    (checkIsType_raises (by decide)).bind fun _ =>
    (Resources.validateObj_raises.namesIn_mono (by decide)).bind fun _ =>
    (checkIsDictOf_raises (by decide)).bind fun _ =>
    (RaisesOnly.forM fun _ _ => File.validateObj_raises.namesIn_mono (by decide)).bind fun _ =>
    (checkIsDictOf_raises (by decide)).bind fun _ =>
    (checkIsListOf_raises (by decide)).bind fun _ =>
    (RaisesOnly.throwIf (by rfl)).bind fun _ => checkIsListOf_raises (by decide)

theorem Service.validateObj_raises {x : Value} :
    RaisesOnly (Error.NamesIn (slots ++ Resources.slots ++ File.slots)) (validateObj x) := by
  unfold validateObj
  split
  · exact validate_raises
  · exact .error fun f hf => by cases hf

theorem Job.validate_raises {name queue services : Value} :
    RaisesOnly (Error.NamesIn (slots ++ Service.slots ++ Resources.slots ++ File.slots))
      (validate name queue services) :=
  (checkIsType_raises (by decide)).bind fun _ => (checkIsType_raises (by decide)).bind fun _ =>
    (checkIsDictOf_raises (by decide)).bind fun _ => (RaisesOnly.throwIf (by rfl)).bind fun _ =>
    RaisesOnly.forM fun _ _ => Service.validateObj_raises.namesIn_mono (by decide)

theorem ResourceUsageReport.validate_raises {memorySeconds vcoreSeconds numUsedContainers
    neededResources reservedResources usedResources : Value} :
    RaisesOnly (Error.NamesIn (slots ++ Resources.slots))
      (validate memorySeconds vcoreSeconds numUsedContainers neededResources reservedResources
        usedResources) :=
  (checkIsBoundedInt_raises (by decide)).bind fun _ =>
    (checkIsBoundedInt_raises (by decide)).bind fun _ =>
    (checkIsBoundedInt_raises (by decide)).bind fun _ =>
    (checkIsType_raises (by decide)).bind fun _ =>
    (Resources.validateObj_raises.namesIn_mono (by decide)).bind fun _ =>
    (checkIsType_raises (by decide)).bind fun _ =>
    (Resources.validateObj_raises.namesIn_mono (by decide)).bind fun _ =>
    (checkIsType_raises (by decide)).bind fun _ =>
    Resources.validateObj_raises.namesIn_mono (by decide)

theorem ResourceUsageReport.validateObj_raises {x : Value} :
    RaisesOnly (Error.NamesIn (slots ++ Resources.slots)) (validateObj x) := by
  unfold validateObj
  split
  · exact validate_raises
  · exact .error fun f hf => by cases hf

theorem ApplicationReport.validate_raises {id name user queue tags host port trackingUrl state
    finalStatus progress usage diagnostics startTime finishTime : Value} :
    RaisesOnly (Error.NamesIn (slots ++ ResourceUsageReport.slots ++ Resources.slots))
      (validate id name user queue tags host port trackingUrl state finalStatus progress usage
        diagnostics startTime finishTime) :=
  (checkIsType_raises (by decide)).bind fun _ => (checkIsType_raises (by decide)).bind fun _ =>
    (checkIsType_raises (by decide)).bind fun _ => (checkIsType_raises (by decide)).bind fun _ =>
    (checkIsListOf_raises (by decide)).bind fun _ =>
    (checkIsType_raises (by decide)).bind fun _ => (checkIsType_raises (by decide)).bind fun _ =>
    (checkIsType_raises (by decide)).bind fun _ => (checkIsType_raises (by decide)).bind fun _ =>
    (checkIsType_raises (by decide)).bind fun _ => (checkIsType_raises (by decide)).bind fun _ =>
    (checkIsType_raises (by decide)).bind fun _ =>
    (ResourceUsageReport.validateObj_raises.namesIn_mono (by decide)).bind fun _ =>
    (checkIsType_raises (by decide)).bind fun _ => (checkIsType_raises (by decide)).bind fun _ =>
    checkIsType_raises (by decide)

end Validate

section Constructors

/-- Every error of `Resources(...)` names one of its fields. -/
theorem Resources.init_raises {memory vcores : Value} :
    RaisesOnly (Error.NamesIn slots) (init memory vcores) :=
  (checkRequired_raises.namesIn_mono (by simp [slots])).bind fun _ =>
    validate_raises.bind fun _ => .ok _

/-- Every error of `File(...)` names one of its fields. -/
theorem File.init_raises {source type visibility size timestamp : Value} :
    RaisesOnly (Error.NamesIn slots) (init source type visibility size timestamp) :=
  (checkRequired_raises.namesIn_mono (by simp [slots])).bind fun _ =>
    validate_raises.bind fun _ => .ok _

/-- Every error of `Service(...)` names a field of `Service`, or of the `Resources` or a
`File` in it. -/
theorem Service.init_raises {commands resources instances files env depends : Value} :
    RaisesOnly (Error.NamesIn (slots ++ Resources.slots ++ File.slots))
      (init commands resources instances files env depends) :=
  (checkRequired_raises.namesIn_mono (by simp [slots])).bind fun _ =>
    validate_raises.bind fun _ => .ok _

example : Service.init (.list [.str "serve"]) (.resources (.int 0) (.int 1)) (.int 1) .none .none
    .none = .error (.belowMin "memory" 1) := rfl

/-- Every error of `Job(...)` names a field of `Job`, or of a `Service`, `Resources` or `File`
in it. -/
theorem Job.init_raises {services name queue : Value} :
    RaisesOnly (Error.NamesIn (slots ++ Service.slots ++ Resources.slots ++ File.slots))
      (init services name queue) :=
  (checkRequired_raises.namesIn_mono (by simp [slots])).bind fun _ =>
    validate_raises.bind fun _ => .ok _

theorem ResourceUsageReport.init_raises {memorySeconds vcoreSeconds numUsedContainers
    neededResources reservedResources usedResources : Value} :
    RaisesOnly (Error.NamesIn (slots ++ Resources.slots))
      (init memorySeconds vcoreSeconds numUsedContainers neededResources reservedResources
        usedResources) :=
  validate_raises.bind fun _ => .ok _

theorem ApplicationReport.init_raises {id name user queue tags host port trackingUrl state
    finalStatus progress usage diagnostics startTime finishTime : Value} :
    RaisesOnly (Error.NamesIn (slots ++ ResourceUsageReport.slots ++ Resources.slots))
      (init id name user queue tags host port trackingUrl state finalStatus progress usage
        diagnostics startTime finishTime) :=
  validate_raises.bind fun _ => .ok _

end Constructors

end Skein
