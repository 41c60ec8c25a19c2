import Skein.Checks

/-!
The six entity classes: each `__init__`, which stores its arguments, runs
`_check_required` (the two reports do not) and then `_validate`, and each `_validate`,
with its checks in the code's order. A nested entity is validated by its own class once
the enclosing check has established that class; a `Service` validates its `Resources` as
a request, with both fields at least 1. `call` is the keyword call `cls(**kwargs)`, which
fills every parameter the keywords leave out with its default.
-/

namespace Skein

namespace Resources

/-- `Resources.__slots__`. -/
def slots : List String := ["memory", "vcores"]

/-- `Resources._validate(is_request)`. -/
def validate (memory vcores : Value) (isRequest : Bool) : Except Error Unit := do
  let min := if isRequest then 1 else 0
  checkIsBoundedInt "vcores" vcores min false
  checkIsBoundedInt "memory" memory min false

/-- `x._validate(is_request)` on a value its caller has checked to be a `Resources`. -/
def validateObj (x : Value) (isRequest : Bool) : Except Error Unit :=
  match x with
  | .resources memory vcores => validate memory vcores isRequest
  | _ => throw (.noAttribute "_validate")

/-- `Resources(memory, vcores)`. -/
def init (memory vcores : Value) : Except Error Value := do
  checkRequired [("memory", memory), ("vcores", vcores)]
  validate memory vcores false
  pure (.resources memory vcores)

/-- `Resources(**kwargs)`. -/
def call (kwargs : List (String × Value)) : Except Error Value := do
  checkKwargs slots kwargs
  init (kwarg kwargs "memory" .required) (kwarg kwargs "vcores" .required)

end Resources

namespace File

/-- `File.__slots__`. -/
def slots : List String := ["source", "type", "visibility", "size", "timestamp"]

/-- The values `_check_in_set` admits for `type`. -/
def types : List String := ["FILE", "ARCHIVE"]

/-- The values `_check_in_set` admits for `visibility`. -/
def visibilities : List String := ["APPLICATION", "PUBLIC", "PRIVATE"]

/-- `File._validate()`. -/
def validate (source type visibility size timestamp : Value) : Except Error Unit := do
  checkIsType "source" source .str false
  checkInSet "type" type types
  checkInSet "visibility" visibility visibilities
  checkIsBoundedInt "size" size 0 false
  checkIsBoundedInt "timestamp" timestamp 0 false

/-- `f._validate()` on a value its caller has checked to be a `File`. -/
def validateObj (x : Value) : Except Error Unit :=
  match x with
  | .file source type visibility size timestamp => validate source type visibility size timestamp
  | _ => throw (.noAttribute "_validate")

/-- `File(source, type, visibility, size, timestamp)`. -/
def init (source type visibility size timestamp : Value) : Except Error Value := do
  checkRequired [("source", source), ("type", type), ("visibility", visibility),
    ("size", size), ("timestamp", timestamp)]
  validate source type visibility size timestamp
  pure (.file source type visibility size timestamp)

/-- `File(**kwargs)`, with the defaults `'FILE'`, `'APPLICATION'`, `0` and `0`. -/
def call (kwargs : List (String × Value)) : Except Error Value := do
  checkKwargs slots kwargs
  init (kwarg kwargs "source" .required) (kwarg kwargs "type" (.str "FILE"))
    (kwarg kwargs "visibility" (.str "APPLICATION")) (kwarg kwargs "size" (.int 0))
    (kwarg kwargs "timestamp" (.int 0))

end File

namespace Service

/-- `Service.__slots__`. -/
def slots : List String := ["commands", "resources", "instances", "files", "env", "depends"]

/-- `Service._validate()`. -/
def validate (commands resources instances files env depends : Value) : Except Error Unit := do
  checkIsBoundedInt "instances" instances 0 false
  checkIsType "resources" resources .resources false
  Resources.validateObj resources true
  checkIsDictOf "files" files .str .file false
  files.entries.forM fun e => File.validateObj e.2
  checkIsDictOf "env" env .str .str false
  checkIsListOf "commands" commands .str false
  throwIf (!commands.truthy) .noCommand
  checkIsListOf "depends" depends .str false

/-- `s._validate()` on a value its caller has checked to be a `Service`. -/
def validateObj (x : Value) : Except Error Unit :=
  match x with
  | .service commands resources instances files env depends =>
      validate commands resources instances files env depends
  | _ => throw (.noAttribute "_validate")

/-- `Service(commands, resources, instances, files, env, depends)`; a `None` mapping or
list becomes an empty one. -/
def init (commands resources instances files env depends : Value) : Except Error Value := do
  let files := ifNone files (.dict true [])
  let env := ifNone env (.dict true [])
  let depends := ifNone depends (.list [])
  checkRequired [("commands", commands), ("resources", resources), ("instances", instances),
    ("files", files), ("env", env), ("depends", depends)]
  validate commands resources instances files env depends
  pure (.service commands resources instances files env depends)

/-- `Service(**kwargs)`, with the defaults `instances=1` and `None` for the rest. -/
def call (kwargs : List (String × Value)) : Except Error Value := do
  checkKwargs slots kwargs
  init (kwarg kwargs "commands" .required) (kwarg kwargs "resources" .required)
    (kwarg kwargs "instances" (.int 1)) (kwarg kwargs "files" .none)
    (kwarg kwargs "env" .none) (kwarg kwargs "depends" .none)

end Service

namespace Job

/-- `Job.__slots__`. -/
def slots : List String := ["name", "queue", "services"]

/-- `Job._validate()`. -/
def validate (name queue services : Value) : Except Error Unit := do
  checkIsType "name" name .str false
  checkIsType "queue" queue .str true
  checkIsDictOf "services" services .str .service false
  throwIf (!services.truthy) .noService
  services.entries.forM fun e => Service.validateObj e.2

/-- `Job(services, name, queue)`. -/
def init (services name queue : Value) : Except Error Value := do
  checkRequired [("name", name), ("queue", queue), ("services", services)]
  validate name queue services
  pure (.job name queue services)

/-- `Job(**kwargs)`, with the defaults `name='skein'` and `queue=''`. -/
def call (kwargs : List (String × Value)) : Except Error Value := do
  checkKwargs slots kwargs
  init (kwarg kwargs "services" .required) (kwarg kwargs "name" (.str "skein"))
    (kwarg kwargs "queue" (.str ""))

end Job

namespace ResourceUsageReport

/-- `ResourceUsageReport.__slots__`. -/
def slots : List String :=
  ["memory_seconds", "vcore_seconds", "num_used_containers", "needed_resources",
    "reserved_resources", "used_resources"]

/-- `ResourceUsageReport._validate()`. -/
def validate (memorySeconds vcoreSeconds numUsedContainers neededResources reservedResources
    usedResources : Value) : Except Error Unit := do
  checkIsBoundedInt "memory_seconds" memorySeconds 0 false
  checkIsBoundedInt "vcore_seconds" vcoreSeconds 0 false
  checkIsBoundedInt "num_used_containers" numUsedContainers 0 false
  checkIsType "needed_resources" neededResources .resources false
  Resources.validateObj neededResources false
  checkIsType "reserved_resources" reservedResources .resources false
  Resources.validateObj reservedResources false
  checkIsType "used_resources" usedResources .resources false
  Resources.validateObj usedResources false

/-- `usage._validate()` on a value its caller has checked to be a `ResourceUsageReport`. -/
def validateObj (x : Value) : Except Error Unit :=
  match x with
  | .resourceUsageReport memorySeconds vcoreSeconds numUsedContainers neededResources
      reservedResources usedResources =>
      validate memorySeconds vcoreSeconds numUsedContainers neededResources reservedResources
        usedResources
  | _ => throw (.noAttribute "_validate")

/-- `ResourceUsageReport(...)`: no parameter has a default, and no `_check_required`. -/
def init (memorySeconds vcoreSeconds numUsedContainers neededResources reservedResources
    usedResources : Value) : Except Error Value := do
  validate memorySeconds vcoreSeconds numUsedContainers neededResources reservedResources
    usedResources
  pure (.resourceUsageReport memorySeconds vcoreSeconds numUsedContainers neededResources
    reservedResources usedResources)

end ResourceUsageReport

namespace ApplicationReport

/-- `ApplicationReport.__slots__`. -/
def slots : List String :=
  ["id", "name", "user", "queue", "tags", "host", "port", "tracking_url", "state",
    "final_status", "progress", "usage", "diagnostics", "start_time", "finish_time"]

/-- `ApplicationReport._validate()`. -/
def validate (id name user queue tags host port trackingUrl state finalStatus progress usage
    diagnostics startTime finishTime : Value) : Except Error Unit := do
  checkIsType "id" id .str false
  checkIsType "name" name .str false
  checkIsType "user" user .str false
  checkIsType "queue" queue .str false
  checkIsListOf "tags" tags .str false
  checkIsType "host" host .str true
  checkIsType "port" port .int true
  checkIsType "tracking_url" trackingUrl .str true
  checkIsType "state" state .str false
  checkIsType "final_status" finalStatus .str false
  checkIsType "progress" progress .float false
  checkIsType "usage" usage .resourceUsageReport false
  ResourceUsageReport.validateObj usage
  checkIsType "diagnostics" diagnostics .str true
  checkIsType "start_time" startTime .datetime false
  checkIsType "finish_time" finishTime .datetime false

/-- `ApplicationReport(...)`: no parameter has a default, and no `_check_required`. -/
def init (id name user queue tags host port trackingUrl state finalStatus progress usage
    diagnostics startTime finishTime : Value) : Except Error Value := do
  validate id name user queue tags host port trackingUrl state finalStatus progress usage
    diagnostics startTime finishTime
  pure (.applicationReport id name user queue tags host port trackingUrl state finalStatus
    progress usage diagnostics startTime finishTime)

end ApplicationReport

/-- `self._validate()`, dispatched on the class of `self`. -/
def Value.validate : Value → Except Error Unit
  | .resources m v => Resources.validate m v false
  | .file s t v z ts => File.validate s t v z ts
  | .service c r i f e d => Service.validate c r i f e d
  | .job n q s => Job.validate n q s
  | .resourceUsageReport ms vs n nr rr ur => ResourceUsageReport.validate ms vs n nr rr ur
  | .applicationReport i n u q tg h p url st fs pr us d t0 t1 =>
      ApplicationReport.validate i n u q tg h p url st fs pr us d t0 t1
  | _ => throw (.noAttribute "_validate")

mutual

/-- `x == y` on the values the code compares. Two entities compare by `Base.__eq__`: the
same class, and every slot `==` in `__slots__` order. Numbers compare by value (an `int`
equals a float of the same value, and a NaN equals nothing), lists item by item, and
mappings as `dict`s, key by key in any order; a message compares by its fields. -/
def Value.pyEq : Value → Value → Bool
  | .none, .none | .required, .required => true
  | .int a, .int b => a == b
  | .int a, .float x | .float x, .int a => x.eqInt a
  | .float x, .float y => x.eq y
  | .str s, .str t => s == t
  | .datetime a, .datetime b => a == b
  | .list xs, .list ys => Value.pyEqList xs ys
  | .dict _ es, .dict _ fs => es.length == fs.length && Value.pyEqEntries es fs
  | .message m, .message n => m == n
  | .resources m v, .resources m' v' => m.pyEq m' && v.pyEq v'
  | .file s t v z ts, .file s' t' v' z' ts' =>
      s.pyEq s' && t.pyEq t' && v.pyEq v' && z.pyEq z' && ts.pyEq ts'
  | .service c r i f e d, .service c' r' i' f' e' d' =>
      c.pyEq c' && r.pyEq r' && i.pyEq i' && f.pyEq f' && e.pyEq e' && d.pyEq d'
  | .job n q s, .job n' q' s' => n.pyEq n' && q.pyEq q' && s.pyEq s'
  | .resourceUsageReport ms vs n nr rr ur, .resourceUsageReport ms' vs' n' nr' rr' ur' =>
      ms.pyEq ms' && vs.pyEq vs' && n.pyEq n' && nr.pyEq nr' && rr.pyEq rr' && ur.pyEq ur'
  | .applicationReport i n u q tg h p url st fs pr us d t0 t1,
    .applicationReport i' n' u' q' tg' h' p' url' st' fs' pr' us' d' t0' t1' =>
      i.pyEq i' && n.pyEq n' && u.pyEq u' && q.pyEq q' && tg.pyEq tg' && h.pyEq h' &&
        p.pyEq p' && url.pyEq url' && st.pyEq st' && fs.pyEq fs' && pr.pyEq pr' &&
        us.pyEq us' && d.pyEq d' && t0.pyEq t0' && t1.pyEq t1'
  | _, _ => false

/-- `xs == ys` on two lists: the same length, and items `==` in order. -/
def Value.pyEqList : List Value → List Value → Bool
  | [], [] => true
  | x :: xs, y :: ys => x.pyEq y && Value.pyEqList xs ys
  | _, _ => false

/-- Every key of `es` is a key of `fs`, under which the value is `==` to its value in `es`. -/
def Value.pyEqEntries : List (String × Value) → List (String × Value) → Bool
  | [], _ => true
  | (k, v) :: rest, fs =>
      (match fs.lookup k with
        | some w => v.pyEq w
        | Option.none => false) && Value.pyEqEntries rest fs

end

section PyEq

/-! One equation per pair of shapes, true by definition. -/

@[simp] theorem pyEq_str {s t : String} : (Value.str s).pyEq (.str t) = (s == t) := rfl

@[simp] theorem pyEq_int {a b : Int} : (Value.int a).pyEq (.int b) = (a == b) := rfl

@[simp] theorem pyEq_float {x y : PyFloat} : (Value.float x).pyEq (.float y) = x.eq y := rfl

@[simp] theorem pyEq_datetime {a b : Int} : (Value.datetime a).pyEq (.datetime b) = (a == b) :=
  rfl

@[simp] theorem pyEq_str_none {s : String} : (Value.str s).pyEq .none = false := rfl

@[simp] theorem pyEq_int_none {n : Int} : (Value.int n).pyEq .none = false := rfl

@[simp] theorem pyEq_list {xs ys : List Value} :
    (Value.list xs).pyEq (.list ys) = Value.pyEqList xs ys := rfl

@[simp] theorem pyEqList_nil : Value.pyEqList [] [] = true := rfl

@[simp] theorem pyEqList_cons {x y : Value} {xs ys : List Value} :
    Value.pyEqList (x :: xs) (y :: ys) = (x.pyEq y && Value.pyEqList xs ys) := rfl

theorem pyEq_resources {m v m' v' : Value} :
    (Value.resources m v).pyEq (.resources m' v') = (m.pyEq m' && v.pyEq v') := rfl

theorem pyEq_resourceUsageReport {ms vs n nr rr ur ms' vs' n' nr' rr' ur' : Value} :
    (Value.resourceUsageReport ms vs n nr rr ur).pyEq
      (.resourceUsageReport ms' vs' n' nr' rr' ur') =
      (ms.pyEq ms' && vs.pyEq vs' && n.pyEq n' && nr.pyEq nr' && rr.pyEq rr' && ur.pyEq ur') :=
  rfl

theorem pyEq_applicationReport {i n u q tg h p url st fs pr us d t0 t1 i' n' u' q' tg' h' p'
    url' st' fs' pr' us' d' t0' t1' : Value} :
    (Value.applicationReport i n u q tg h p url st fs pr us d t0 t1).pyEq
      (.applicationReport i' n' u' q' tg' h' p' url' st' fs' pr' us' d' t0' t1') =
      (i.pyEq i' && n.pyEq n' && u.pyEq u' && q.pyEq q' && tg.pyEq tg' && h.pyEq h' &&
        p.pyEq p' && url.pyEq url' && st.pyEq st' && fs.pyEq fs' && pr.pyEq pr' &&
        us.pyEq us' && d.pyEq d' && t0.pyEq t0' && t1.pyEq t1') := rfl

/-- A float is `==` to itself exactly when it is not a NaN. -/
@[simp] theorem PyFloat.eq_self (x : PyFloat) : x.eq x = !x.isNaN := by
  simp [PyFloat.eq]

end PyEq

/-- `1 == 1.0`, and a NaN is not `==` to itself. -/
example : (Value.int 1).pyEq (.float ⟨0x3FF0000000000000⟩) = true ∧
    (Value.float ⟨0x7FF8000000000000⟩).pyEq (.float ⟨0x7FF8000000000000⟩) = false := by
  decide

end Skein
