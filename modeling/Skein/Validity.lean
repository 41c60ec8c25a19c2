import Skein.FromDict
import Skein.FromProtobuf

/-!
The validity of the data model, stated as predicates of its own and matched against the
code's checks: each `_validate` passes exactly on the valid objects of its class. A
`Service` asks its `Resources` for at least 1 of each, a report only for 0. Every
construction path of `Job` ends in `Job.__init__`, which validates, so every job the
code hands out is valid and its re-validation in `to_dict` and `to_protobuf` passes.
-/

namespace Skein

/-- An `int` at least `min`. -/
def Value.IntAtLeast (min : Int) (v : Value) : Prop := ∃ n, v = .int n ∧ min ≤ n

/-- A `str`. -/
def Value.IsStr (v : Value) : Prop := ∃ s, v = .str s

/-- An `int`. -/
def Value.IsInt (v : Value) : Prop := ∃ n, v = .int n

/-- A `float`. -/
def Value.IsFloat (v : Value) : Prop := ∃ x, v = .float x

/-- A `datetime`. -/
def Value.IsDatetime (v : Value) : Prop := ∃ micros, v = .datetime micros

/-- A mapping, plain or not, whose every value satisfies `p`. -/
def Value.IsDictOf (p : Value → Prop) : Value → Prop
  | .dict _ entries => ∀ e ∈ entries, p e.2
  | _ => False

/-- A list whose every item satisfies `p`. -/
def Value.IsListOf (p : Value → Prop) : Value → Prop
  | .list items => ∀ i ∈ items, p i
  | _ => False

/-- A `Resources` whose two fields are ints at least `min`: 1 for a request, 0 for a
report. -/
def Resources.Valid (min : Int) : Value → Prop
  | .resources memory vcores => memory.IntAtLeast min ∧ vcores.IntAtLeast min
  | _ => False

/-- A valid `File`: a string source, type in `{FILE, ARCHIVE}`, visibility in
`{APPLICATION, PUBLIC, PRIVATE}`, and size and timestamp ints at least 0. -/
def File.Valid : Value → Prop
  | .file source type visibility size timestamp =>
      source.IsStr ∧ (∃ s, type = .str s ∧ s ∈ ["FILE", "ARCHIVE"]) ∧
      (∃ s, visibility = .str s ∧ s ∈ ["APPLICATION", "PUBLIC", "PRIVATE"]) ∧
      size.IntAtLeast 0 ∧ timestamp.IntAtLeast 0
  | _ => False

/-- A valid `Service`: instances at least 0, resources a request, files a mapping to valid
files, env a mapping to strings, at least one command, all commands and depends strings. -/
def Service.Valid : Value → Prop
  | .service commands resources instances files env depends =>
      instances.IntAtLeast 0 ∧ Resources.Valid 1 resources ∧ files.IsDictOf File.Valid ∧
      env.IsDictOf Value.IsStr ∧ commands.IsListOf Value.IsStr ∧ commands ≠ .list [] ∧
      depends.IsListOf Value.IsStr
  | _ => False

/-- A valid `Job`: a string name, a string or `None` queue, and a nonempty mapping to
valid services. -/
def Job.Valid : Value → Prop
  | .job name queue services =>
      name.IsStr ∧ (queue.IsStr ∨ queue = .none) ∧ services.IsDictOf Service.Valid ∧
      services.entries ≠ []
  | _ => False

/-- A valid `ResourceUsageReport`: three ints at least 0 and three report-role
`Resources`. -/
def ResourceUsageReport.Valid : Value → Prop
  | .resourceUsageReport memorySeconds vcoreSeconds numUsedContainers neededResources
      reservedResources usedResources =>
      memorySeconds.IntAtLeast 0 ∧ vcoreSeconds.IntAtLeast 0 ∧ numUsedContainers.IntAtLeast 0 ∧
      Resources.Valid 0 neededResources ∧ Resources.Valid 0 reservedResources ∧
      Resources.Valid 0 usedResources
  | _ => False

/-- A valid `ApplicationReport`: strings, with `host`, `tracking_url` and `diagnostics`
possibly `None`, a list of string tags, an int or `None` port, a float progress, a valid
usage report and two instants. -/
def ApplicationReport.Valid : Value → Prop
  | .applicationReport id name user queue tags host port trackingUrl state finalStatus progress
      usage diagnostics startTime finishTime =>
      id.IsStr ∧ name.IsStr ∧ user.IsStr ∧ queue.IsStr ∧ tags.IsListOf Value.IsStr ∧
      (host.IsStr ∨ host = .none) ∧ (port.IsInt ∨ port = .none) ∧
      (trackingUrl.IsStr ∨ trackingUrl = .none) ∧ state.IsStr ∧ finalStatus.IsStr ∧
      progress.IsFloat ∧ ResourceUsageReport.Valid usage ∧
      (diagnostics.IsStr ∨ diagnostics = .none) ∧ startTime.IsDatetime ∧ finishTime.IsDatetime
  | _ => False

section Instances

variable {v : Value}

@[simp] theorem isInstance_str : v.isInstance .str ↔ v.IsStr := by
  cases v <;> simp [Value.isInstance, Value.IsStr]

@[simp] theorem isInstance_int : v.isInstance .int ↔ v.IsInt := by
  cases v <;> simp [Value.isInstance, Value.IsInt]

@[simp] theorem isInstance_float : v.isInstance .float ↔ v.IsFloat := by
  cases v <;> simp [Value.isInstance, Value.IsFloat]

@[simp] theorem isInstance_datetime : v.isInstance .datetime ↔ v.IsDatetime := by
  cases v <;> simp [Value.isInstance, Value.IsDatetime]

theorem isListOf_iff {t : PyType} : isListOf v t ↔ v.IsListOf (·.isInstance t) := by
  cases v <;> simp [isListOf, Value.IsListOf]

theorem isDictOf_iff {t : PyType} : isDictOf v .str t ↔ v.IsDictOf (·.isInstance t) := by
  cases v with
  | dict exact entries =>
    have hk : ∀ s, (Value.str s).isInstance .str = true := fun _ => rfl
    simp [isDictOf, Value.IsDictOf, hk]
  | _ => simp [isDictOf, Value.IsDictOf]

@[simp] theorem isNone_iff : v.isNone ↔ v = .none := by
  cases v <;> simp [Value.isNone]

theorem Value.IsListOf.truthy_iff {p : Value → Prop} (h : v.IsListOf p) :
    v.truthy ↔ v ≠ .list [] := by
  cases v <;> first | exact h.elim | simp [Value.truthy, List.isEmpty_iff]

theorem Value.IsDictOf.truthy_iff {p : Value → Prop} (h : v.IsDictOf p) :
    v.truthy ↔ v.entries ≠ [] := by
  cases v <;> first | exact h.elim | simp [Value.truthy, Value.entries, List.isEmpty_iff]

theorem Value.IsDictOf.entries_forall {p : Value → Prop} (h : v.IsDictOf p) :
    ∀ e ∈ v.entries, p e.2 := by
  cases v <;> first | exact h.elim | exact h

theorem Value.IsDictOf.of_entries {p q : Value → Prop} (h : v.IsDictOf p)
    (hq : ∀ e ∈ v.entries, q e.2) : v.IsDictOf q := by
  cases v <;> first | exact h.elim | exact hq

theorem Value.IsDictOf.mono {p q : Value → Prop} (hpq : ∀ x, p x → q x) (h : v.IsDictOf p) :
    v.IsDictOf q := by
  cases v <;> first | exact h.elim | exact fun e he => hpq _ (h e he)

theorem Value.IsListOf.eq_list {p : Value → Prop} (h : v.IsListOf p) :
    ∃ items, v = .list items ∧ ∀ i ∈ items, p i := by
  cases v <;> first | exact h.elim | exact ⟨_, rfl, h⟩

theorem Value.IsDictOf.eq_dict {p : Value → Prop} (h : v.IsDictOf p) :
    ∃ exact entries, v = .dict exact entries ∧ ∀ e ∈ entries, p e.2 := by
  cases v <;> first | exact h.elim | exact ⟨_, _, rfl, h⟩

theorem Value.IsListOf.ifNone_eq {p : Value → Prop} {d : Value} (h : v.IsListOf p) :
    ifNone v d = v := by
  cases v <;> first | exact h.elim | rfl

theorem Value.IsDictOf.ifNone_eq {p : Value → Prop} {d : Value} (h : v.IsDictOf p) :
    ifNone v d = v := by
  cases v <;> first | exact h.elim | rfl

end Instances

theorem Resources.Valid.mono {min min' : Int} {x : Value} (hle : min' ≤ min)
    (h : Resources.Valid min x) : Resources.Valid min' x := by
  cases x with
  | resources memory vcores =>
    obtain ⟨⟨a, ha, hma⟩, ⟨b, hb, hmb⟩⟩ := h
    exact ⟨⟨a, ha, by omega⟩, ⟨b, hb, by omega⟩⟩
  | _ => exact h.elim

theorem Resources.validate_ok {memory vcores : Value} {isRequest : Bool} :
    Resources.validate memory vcores isRequest = .ok () ↔
      Resources.Valid (if isRequest then 1 else 0) (.resources memory vcores) := by
  simp only [Resources.validate, bind_unit_eq_ok, checkIsBoundedInt_ok, Resources.Valid,
    Value.IntAtLeast, and_comm]

theorem Resources.validateObj_ok {x : Value} {isRequest : Bool} :
    Resources.validateObj x isRequest = .ok () ↔
      Resources.Valid (if isRequest then 1 else 0) x := by
  cases x <;> simp [Resources.validateObj, Resources.validate_ok, Resources.Valid]

theorem File.validate_ok {source type visibility size timestamp : Value} :
    File.validate source type visibility size timestamp = .ok () ↔
      File.Valid (.file source type visibility size timestamp) := by
  simp only [File.validate, bind_unit_eq_ok, checkIsType_ok, checkInSet_ok,
    checkIsBoundedInt_ok, File.Valid, Value.IntAtLeast, File.types, File.visibilities,
    isInstance_str, Bool.false_and, Bool.or_false]

theorem File.validateObj_ok {x : Value} : File.validateObj x = .ok () ↔ File.Valid x := by
  cases x <;> simp [File.validateObj, File.validate_ok, File.Valid]

theorem Resources.valid_isInstance {min : Int} {x : Value} (h : Resources.Valid min x) :
    x.isInstance .resources := by
  cases x <;> simp_all [Resources.Valid, Value.isInstance]

theorem File.valid_isInstance {x : Value} (h : File.Valid x) : x.isInstance .file := by
  cases x <;> simp_all [File.Valid, Value.isInstance]

theorem Service.valid_isInstance {x : Value} (h : Service.Valid x) :
    x.isInstance .service := by
  cases x <;> simp_all [Service.Valid, Value.isInstance]

theorem Service.validate_ok {commands resources instances files env depends : Value} :
    Service.validate commands resources instances files env depends = .ok () ↔
      Service.Valid (.service commands resources instances files env depends) := by
  simp only [Service.validate, bind_unit_eq_ok, checkIsBoundedInt_ok, checkIsType_ok,
    Resources.validateObj_ok, checkIsDictOf_ok, forM_eq_ok, File.validateObj_ok,
    checkIsListOf_ok, Bool.false_and, Bool.or_false, isDictOf_iff, isListOf_iff,
    isInstance_str, if_true, Service.Valid, Value.IntAtLeast, throwIf_eq_ok,
    Bool.not_eq_false']
  constructor
  · rintro ⟨hi, -, hr, hf, hfv, he, hc, hne, hd⟩
    exact ⟨hi, hr, hf.of_entries hfv, he, hc, hc.truthy_iff.mp hne, hd⟩
  · rintro ⟨hi, hr, hf, he, hc, hne, hd⟩
    exact ⟨hi, Resources.valid_isInstance hr, hr, hf.mono fun _ => File.valid_isInstance,
      hf.entries_forall, he, hc, hc.truthy_iff.mpr hne, hd⟩

theorem Service.validateObj_ok {x : Value} :
    Service.validateObj x = .ok () ↔ Service.Valid x := by
  cases x <;> simp [Service.validateObj, Service.validate_ok, Service.Valid]

theorem Job.validate_ok {name queue services : Value} :
    Job.validate name queue services = .ok () ↔ Job.Valid (.job name queue services) := by
  simp only [Job.validate, bind_unit_eq_ok, checkIsType_ok, checkIsDictOf_ok, forM_eq_ok,
    Service.validateObj_ok, isDictOf_iff, isInstance_str, Bool.false_and, Bool.or_false,
    Bool.true_and, Bool.or_eq_true, isNone_iff, Job.Valid, throwIf_eq_ok,
    Bool.not_eq_false']
  constructor
  · rintro ⟨hn, hq, hs, hne, hsv⟩
    exact ⟨hn, hq, hs.of_entries hsv, hs.truthy_iff.mp hne⟩
  · rintro ⟨hn, hq, hs, hne⟩
    exact ⟨hn, hq, hs.mono fun _ => Service.valid_isInstance, hs.truthy_iff.mpr hne,
      hs.entries_forall⟩

theorem ResourceUsageReport.valid_isInstance {x : Value} (h : ResourceUsageReport.Valid x) :
    x.isInstance .resourceUsageReport := by
  cases x <;> simp_all [ResourceUsageReport.Valid, Value.isInstance]

theorem ResourceUsageReport.validate_ok {memorySeconds vcoreSeconds numUsedContainers
    neededResources reservedResources usedResources : Value} :
    ResourceUsageReport.validate memorySeconds vcoreSeconds numUsedContainers neededResources
      reservedResources usedResources = .ok () ↔
      ResourceUsageReport.Valid (.resourceUsageReport memorySeconds vcoreSeconds
        numUsedContainers neededResources reservedResources usedResources) := by
  simp only [ResourceUsageReport.validate, bind_unit_eq_ok, checkIsBoundedInt_ok,
    checkIsType_ok, Resources.validateObj_ok, Bool.false_and, Bool.or_false,
    Bool.false_eq_true, if_false, ResourceUsageReport.Valid, Value.IntAtLeast]
  constructor
  · rintro ⟨hm, hv, hn, -, hnr, -, hrr, -, hur⟩
    exact ⟨hm, hv, hn, hnr, hrr, hur⟩
  · rintro ⟨hm, hv, hn, hnr, hrr, hur⟩
    exact ⟨hm, hv, hn, Resources.valid_isInstance hnr, hnr, Resources.valid_isInstance hrr,
      hrr, Resources.valid_isInstance hur, hur⟩

theorem ResourceUsageReport.validateObj_ok {x : Value} :
    ResourceUsageReport.validateObj x = .ok () ↔ ResourceUsageReport.Valid x := by
  cases x <;> simp [ResourceUsageReport.validateObj, ResourceUsageReport.validate_ok,
    ResourceUsageReport.Valid]

theorem ApplicationReport.validate_ok {id name user queue tags host port trackingUrl state
    finalStatus progress usage diagnostics startTime finishTime : Value} :
    ApplicationReport.validate id name user queue tags host port trackingUrl state finalStatus
      progress usage diagnostics startTime finishTime = .ok () ↔
      ApplicationReport.Valid (.applicationReport id name user queue tags host port trackingUrl
        state finalStatus progress usage diagnostics startTime finishTime) := by
  simp only [ApplicationReport.validate, bind_unit_eq_ok, checkIsType_ok, checkIsListOf_ok,
    isListOf_iff, isInstance_str, isInstance_int, isInstance_float, isInstance_datetime,
    ResourceUsageReport.validateObj_ok, Bool.false_and, Bool.or_false, Bool.true_and,
    Bool.or_eq_true, isNone_iff, ApplicationReport.Valid]
  constructor
  · rintro ⟨hi, hn, hu, hq, ht, hh, hp, hurl, hs, hf, hpr, -, hus, hd, h0, h1⟩
    exact ⟨hi, hn, hu, hq, ht, hh, hp, hurl, hs, hf, hpr, hus, hd, h0, h1⟩
  · rintro ⟨hi, hn, hu, hq, ht, hh, hp, hurl, hs, hf, hpr, hus, hd, h0, h1⟩
    exact ⟨hi, hn, hu, hq, ht, hh, hp, hurl, hs, hf, hpr,
      ResourceUsageReport.valid_isInstance hus, hus, hd, h0, h1⟩

theorem Value.IntAtLeast.ne_required {min : Int} {v : Value} (h : v.IntAtLeast min) :
    v ≠ .required := by
  obtain ⟨n, rfl, -⟩ := h; simp

theorem Value.IsStr.ne_required {v : Value} (h : v.IsStr) : v ≠ .required := by
  obtain ⟨s, rfl⟩ := h; simp

theorem Value.IsDictOf.ne_required {p : Value → Prop} {v : Value} (h : v.IsDictOf p) :
    v ≠ .required := by
  rintro rfl; exact h

theorem Value.IsListOf.ne_required {p : Value → Prop} {v : Value} (h : v.IsListOf p) :
    v ≠ .required := by
  rintro rfl; exact h

theorem Resources.Valid.ne_required {min : Int} {v : Value} (h : Resources.Valid min v) :
    v ≠ .required := by
  rintro rfl; exact h

/-- `Resources(memory, vcores)` succeeds exactly on a valid report-role `Resources`. -/
theorem Resources.init_ok {memory vcores x : Value} :
    Resources.init memory vcores = .ok x ↔
      Resources.Valid 0 (.resources memory vcores) ∧ x = .resources memory vcores := by
  simp only [Resources.init, bind_unit_eq_ok, Resources.validate_ok, pure_eq_ok,
    Except.ok.injEq, Bool.false_eq_true, if_false, checkRequired_ok]
  constructor
  · rintro ⟨-, hv, rfl⟩; exact ⟨hv, rfl⟩
  · rintro ⟨hv, rfl⟩
    refine ⟨?_, hv, rfl⟩
    simp [hv.1.ne_required, hv.2.ne_required]

/-- `File(...)` succeeds exactly on a valid `File`. -/
theorem File.init_ok {source type visibility size timestamp x : Value} :
    File.init source type visibility size timestamp = .ok x ↔
      File.Valid (.file source type visibility size timestamp) ∧
        x = .file source type visibility size timestamp := by
  simp only [File.init, bind_unit_eq_ok, File.validate_ok, pure_eq_ok, Except.ok.injEq,
    checkRequired_ok]
  constructor
  · rintro ⟨-, hv, rfl⟩; exact ⟨hv, rfl⟩
  · rintro ⟨hv, rfl⟩
    refine ⟨?_, hv, rfl⟩
    obtain ⟨hs, ⟨t, rfl, -⟩, ⟨v, rfl, -⟩, hz, hts⟩ := hv
    simp [hs.ne_required, hz.ne_required, hts.ne_required]

/-- `Service(...)` succeeds exactly when, once `None` mappings and lists are replaced by
empty ones, the service is valid. -/
theorem Service.init_ok {commands resources instances files env depends x : Value} :
    Service.init commands resources instances files env depends = .ok x ↔
      Service.Valid (.service commands resources instances (ifNone files (.dict true []))
        (ifNone env (.dict true [])) (ifNone depends (.list []))) ∧
      x = .service commands resources instances (ifNone files (.dict true []))
        (ifNone env (.dict true [])) (ifNone depends (.list [])) := by
  simp only [Service.init, bind_unit_eq_ok, Service.validate_ok, pure_eq_ok, Except.ok.injEq,
    checkRequired_ok]
  constructor
  · rintro ⟨-, hv, rfl⟩; exact ⟨hv, rfl⟩
  · rintro ⟨hv, rfl⟩
    refine ⟨?_, hv, rfl⟩
    obtain ⟨hi, hr, hf, he, hc, -, hd⟩ := hv
    simp [hi.ne_required, hr.ne_required, hf.ne_required, he.ne_required, hc.ne_required,
      hd.ne_required]

theorem Service.init_valid {commands resources instances files env depends : Value}
    (h : Service.Valid (.service commands resources instances files env depends)) :
    Service.init commands resources instances files env depends =
      .ok (.service commands resources instances files env depends) := by
  obtain ⟨-, -, hf, he, -, -, hd⟩ := id h
  rw [Service.init_ok, hf.ifNone_eq, he.ifNone_eq, hd.ifNone_eq]
  exact ⟨h, rfl⟩

theorem ResourceUsageReport.init_valid {memorySeconds vcoreSeconds numUsedContainers
    neededResources reservedResources usedResources : Value}
    (h : ResourceUsageReport.Valid (.resourceUsageReport memorySeconds vcoreSeconds
      numUsedContainers neededResources reservedResources usedResources)) :
    ResourceUsageReport.init memorySeconds vcoreSeconds numUsedContainers neededResources
      reservedResources usedResources = .ok (.resourceUsageReport memorySeconds vcoreSeconds
        numUsedContainers neededResources reservedResources usedResources) := by
  simp [ResourceUsageReport.init, ResourceUsageReport.validate_ok.mpr h]

theorem ApplicationReport.init_valid {id name user queue tags host port trackingUrl state
    finalStatus progress usage diagnostics startTime finishTime : Value}
    (h : ApplicationReport.Valid (.applicationReport id name user queue tags host port
      trackingUrl state finalStatus progress usage diagnostics startTime finishTime)) :
    ApplicationReport.init id name user queue tags host port trackingUrl state finalStatus
      progress usage diagnostics startTime finishTime = .ok (.applicationReport id name user
        queue tags host port trackingUrl state finalStatus progress usage diagnostics startTime
        finishTime) := by
  simp [ApplicationReport.init, ApplicationReport.validate_ok.mpr h]

/-- `Job(services, name, queue)` succeeds exactly on a valid job. -/
theorem Job.init_ok {services name queue x : Value} :
    Job.init services name queue = .ok x ↔
      Job.Valid (.job name queue services) ∧ x = .job name queue services := by
  simp only [Job.init, bind_unit_eq_ok, Job.validate_ok, pure_eq_ok, Except.ok.injEq,
    checkRequired_ok]
  constructor
  · rintro ⟨-, hv, rfl⟩; exact ⟨hv, rfl⟩
  · rintro ⟨hv, rfl⟩
    refine ⟨?_, hv, rfl⟩
    obtain ⟨hn, hq, hs, -⟩ := hv
    have hq : queue ≠ .required := by rcases hq with hq | rfl; exacts [hq.ne_required, by simp]
    simp [hn.ne_required, hq, hs.ne_required]

/-- `File(source)`: the defaults `'FILE'`, `'APPLICATION'`, `0` and `0` pass `File._validate`. -/
theorem File.call_source (s : String) :
    File.call [("source", .str s)] =
      .ok (.file (.str s) (.str "FILE") (.str "APPLICATION") (.int 0) (.int 0)) := by
  show File.init (.str s) (.str "FILE") (.str "APPLICATION") (.int 0) (.int 0) = _
  exact File.init_ok.mpr ⟨⟨⟨s, rfl⟩, ⟨_, rfl, by decide⟩, ⟨_, rfl, by decide⟩,
    ⟨0, rfl, Int.le_refl 0⟩, ⟨0, rfl, Int.le_refl 0⟩⟩, rfl⟩

/-- `Service(commands, resources)`: the default `instances=1` and the `None` files, env and
depends, which become empty, pass `Service._validate`. -/
theorem Service.call_required {commands resources : Value} (hc : commands.IsListOf Value.IsStr)
    (hne : commands ≠ .list []) (hr : Resources.Valid 1 resources) :
    Service.call [("commands", commands), ("resources", resources)] =
      .ok (.service commands resources (.int 1) (.dict true []) (.dict true []) (.list [])) := by
  show Service.init commands resources (.int 1) .none .none .none = _
  exact Service.init_ok.mpr ⟨⟨⟨1, rfl, by decide⟩, hr, (fun _ h => nomatch h),
    (fun _ h => nomatch h), hc, hne, (fun _ h => nomatch h)⟩, rfl⟩

/-- `Job(services)`: the defaults `name='skein'` and `queue=''` pass `Job._validate`. -/
theorem Job.call_services {services : Value} (hs : services.IsDictOf Service.Valid)
    (hne : services.entries ≠ []) :
    Job.call [("services", services)] = .ok (.job (.str "skein") (.str "") services) := by
  show Job.init services (.str "skein") (.str "") = _
  exact Job.init_ok.mpr ⟨⟨⟨_, rfl⟩, .inl ⟨_, rfl⟩, hs, hne⟩, rfl⟩

theorem Base.fromJson_ok {codecs : Codecs} {f : Value → Except Error Value} {b : String}
    {x : Value} (h : Base.fromJson codecs f b = .ok x) : ∃ obj, f obj = .ok x := by
  obtain ⟨obj, -, h⟩ := bind_eq_ok.mp h
  exact ⟨obj, h⟩

theorem Base.fromYaml_ok {codecs : Codecs} {f : Value → Except Error Value} {b : String}
    {x : Value} (h : Base.fromYaml codecs f b = .ok x) : ∃ obj, f obj = .ok x := by
  obtain ⟨obj, -, h⟩ := bind_eq_ok.mp h
  exact ⟨obj, h⟩

theorem Base.fromFile_ok {codecs : Codecs} {f : Value → Except Error Value}
    {path : String} {format : Format} {x : Value}
    (h : Base.fromFile codecs f path format = .ok x) : ∃ obj, f obj = .ok x := by
  simp only [Base.fromFile, bind_eq_ok] at h
  obtain ⟨format, -, data, -, h⟩ := h
  split at h
  · exact Base.fromJson_ok h
  · exact Base.fromYaml_ok h

/-- `Job.from_dict` returns what `Job(...)` returns. -/
theorem Job.fromDict_init {obj x : Value} (h : Job.fromDict obj = .ok x) :
    ∃ services name queue, Job.init services name queue = .ok x := by
  simp only [Job.fromDict, bind_eq_ok] at h
  obtain ⟨_, -, services, -, h⟩ := h
  exact ⟨_, _, _, h⟩

/-- `Job.from_protobuf` returns what `Job(...)` returns. -/
theorem Job.fromProtobuf_init {schema : Proto.Schema} {msg : Proto.Message} {x : Value}
    (h : Job.fromProtobuf schema msg = .ok x) :
    ∃ services name queue, Job.init services name queue = .ok x := by
  cases msg with
  | job m =>
    obtain ⟨services, -, h⟩ := bind_eq_ok.mp h
    exact ⟨_, _, _, h⟩
  | _ => simp [Job.fromProtobuf] at h

/-- The jobs a construction path returns: `Job(...)`, `Job.from_dict`, `Job.from_json`,
`Job.from_yaml`, `Job.from_file` under any codecs, and `Job.from_protobuf`. -/
inductive Job.Constructed : Value → Prop
  | init {services name queue x : Value} : Job.init services name queue = .ok x →
      Job.Constructed x
  | fromDict {obj x : Value} : Job.fromDict obj = .ok x → Job.Constructed x
  | fromJson {codecs : Codecs} {b : String} {x : Value} :
      Base.fromJson codecs Job.fromDict b = .ok x → Job.Constructed x
  | fromYaml {codecs : Codecs} {b : String} {x : Value} :
      Base.fromYaml codecs Job.fromDict b = .ok x → Job.Constructed x
  | fromFile {codecs : Codecs} {path : String} {format : Format} {x : Value} :
      Base.fromFile codecs Job.fromDict path format = .ok x → Job.Constructed x
  | fromProtobuf {schema : Proto.Schema} {msg : Proto.Message} {x : Value} :
      Job.fromProtobuf schema msg = .ok x → Job.Constructed x

theorem Job.Constructed.init_result {x : Value} (h : Job.Constructed x) :
    ∃ services name queue, Job.init services name queue = .ok x := by
  cases h with
  | init h => exact ⟨_, _, _, h⟩
  | fromDict h => exact Job.fromDict_init h
  | fromJson h => exact (Base.fromJson_ok h).elim fun _ h => Job.fromDict_init h
  | fromYaml h => exact (Base.fromYaml_ok h).elim fun _ h => Job.fromDict_init h
  | fromFile h => exact (Base.fromFile_ok h).elim fun _ h => Job.fromDict_init h
  | fromProtobuf h => exact Job.fromProtobuf_init h

/-- Every job a construction path returns is valid, and re-validating it, as `to_dict`
and `to_protobuf` do first, passes. -/
theorem Job.constructed_valid {x : Value} (h : Job.Constructed x) :
    Job.Valid x ∧ x.validate = .ok () := by
  obtain ⟨services, name, queue, h⟩ := h.init_result
  obtain ⟨hv, rfl⟩ := Job.init_ok.mp h
  exact ⟨hv, Job.validate_ok.mpr hv⟩

theorem Job.constructed_valid_fromDict :
    let j : Value := .job (.str "skein") .none (.dict true [("web",
      .service (.list [.str "serve"]) (.resources (.int 1) (.int 1)) (.int 1) (.dict true [])
        (.dict true []) (.list []))])
    Job.Constructed j ∧ Job.Valid j ∧ j.validate = .ok () :=
  have h : Job.Constructed _ := .fromDict (rfl : Job.fromDict (.dict true [("name", .str "skein"),
    ("services", .dict true [("web", .dict true [("commands", .list [.str "serve"]),
      ("resources", .dict true [("memory", .int 1), ("vcores", .int 1)])])])]) = .ok _)
  ⟨h, Job.constructed_valid h⟩

end Skein
