import Skein.MappingRoundTrip

/-!
The text and file forms. `to_json` and `to_yaml` write the mapping form through external
dumpers, and `to_file` writes the text of the format `_infer_format` picks onto a disk, which
`from_file` reads back through `from_json`, or through `yaml.safe_load` and `from_dict`. Both
directions pick the format by the same `_infer_format`.

`json.loads` reads back the mapping `json.dumps` wrote. `yaml.dump` sorts the keys of every
mapping it writes, so `yaml.safe_load` reads back the mapping with its keys sorted
(`Value.sortKeys`). `from_dict` reads the mapping of a `Resources`, `File`, `Service` or `Job`
by key, so the sorted mapping reads back as the job with the entries of its own mappings
sorted: the job up to an order that `==` on `dict`s does not see.
-/

namespace Skein

section SortEntries

variable {α β : Type}

/-- `e` inserted before the first entry whose key is not less than its own. Keys compare as
Python compares strings, by code points (`String.decLt`). -/
def insertEntry (e : String × α) : List (String × α) → List (String × α)
  | [] => [e]
  | f :: fs => if (String.decLt f.1 e.1).decide then f :: insertEntry e fs else e :: f :: fs

/-- The entries sorted by key, in the order `yaml.dump` writes the items of a mapping. -/
def sortEntries : List (String × α) → List (String × α)
  | [] => []
  | e :: es => insertEntry e (sortEntries es)

theorem insertEntry_perm (e : String × α) : ∀ es : List (String × α),
    (insertEntry e es).Perm (e :: es)
  | [] => .refl _
  | f :: fs => by
    unfold insertEntry
    split
    · exact ((insertEntry_perm e fs).cons f).trans (.swap e f fs)
    · exact .refl _

theorem sortEntries_perm : ∀ es : List (String × α), (sortEntries es).Perm es
  | [] => .refl _
  | e :: es => (insertEntry_perm e _).trans ((sortEntries_perm es).cons e)

/-- Reading the values of entries and inserting one more commute: the sort looks at keys
only. -/
theorem mapValues_insertEntry {f : α → Except Error β} {k : String} {a : α} {b : β}
    (hb : f a = .ok b) : ∀ {es : List (String × α)} {vs : List (String × β)},
    mapValues f es = .ok vs → mapValues f (insertEntry (k, a) es) = .ok (insertEntry (k, b) vs)
  | [], _, h => by cases h; simp [insertEntry, hb]
  | (k', a') :: es, _, h => by
    simp only [mapValues_cons, bind_eq_ok, pure_eq_ok, Except.ok.injEq] at h
    obtain ⟨b', hb', vs, hvs, rfl⟩ := h
    cases hlt : (String.decLt k' k).decide
    · simp [insertEntry, hlt, hb, hb', hvs]
    · simp [insertEntry, hlt, hb', mapValues_insertEntry hb hvs]

/-- Reading the values of sorted entries reads the values and sorts them. -/
theorem mapValues_sortEntries {f : α → Except Error β} :
    ∀ {es : List (String × α)} {vs : List (String × β)},
    mapValues f es = .ok vs → mapValues f (sortEntries es) = .ok (sortEntries vs)
  | [], _, h => by cases h; rfl
  | (_, _) :: _, _, h => by
    simp only [mapValues_cons, bind_eq_ok, pure_eq_ok, Except.ok.injEq] at h
    obtain ⟨_, hb, _, hvs, rfl⟩ := h
    exact mapValues_insertEntry hb (mapValues_sortEntries hvs)

theorem Value.IsDictOf.sort {p : Value → Prop} {exact : Bool} {es : List (String × Value)}
    (h : (Value.dict exact es).IsDictOf p) : (Value.dict exact (sortEntries es)).IsDictOf p :=
  fun e he => h e ((sortEntries_perm es).subset he)

end SortEntries

mutual

/-- `x` with the entries of every mapping in it sorted by key, at any depth of its lists and
mappings and in the slots of its `Resources`, `File`, `Service` and `Job` objects. Of a
mapping form, it is the mapping `yaml.safe_load` reads back from what `yaml.dump`, which
sorts keys, writes. -/
def Value.sortKeys : Value → Value
  | .list items => .list (Value.sortKeysList items)
  | .dict exact entries => .dict exact (sortEntries (Value.sortKeysEntries entries))
  | .resources memory vcores => .resources memory.sortKeys vcores.sortKeys
  | .file source type visibility size timestamp =>
      .file source.sortKeys type.sortKeys visibility.sortKeys size.sortKeys timestamp.sortKeys
  | .service commands request instances files env depends =>
      .service commands.sortKeys request.sortKeys instances.sortKeys files.sortKeys
        env.sortKeys depends.sortKeys
  | .job name queue services => .job name.sortKeys queue.sortKeys services.sortKeys
  | x => x

def Value.sortKeysList : List Value → List Value
  | [] => []
  | x :: xs => x.sortKeys :: Value.sortKeysList xs

def Value.sortKeysEntries : List (String × Value) → List (String × Value)
  | [] => []
  | (k, v) :: rest => (k, v.sortKeys) :: Value.sortKeysEntries rest

end

section SortKeys

/-! One equation per shape of value, true by definition. -/

@[simp] theorem sortKeys_str {s : String} : (Value.str s).sortKeys = .str s := rfl

@[simp] theorem sortKeys_int {n : Int} : (Value.int n).sortKeys = .int n := rfl

@[simp] theorem sortKeys_none : Value.none.sortKeys = .none := rfl

theorem sortKeys_list {items : List Value} :
    (Value.list items).sortKeys = .list (Value.sortKeysList items) := rfl

theorem sortKeys_dict {exact : Bool} {entries : List (String × Value)} :
    (Value.dict exact entries).sortKeys =
      .dict exact (sortEntries (Value.sortKeysEntries entries)) := rfl

theorem sortKeys_service {commands resources instances files env depends : Value} :
    (Value.service commands resources instances files env depends).sortKeys =
      .service commands.sortKeys resources.sortKeys instances.sortKeys files.sortKeys
        env.sortKeys depends.sortKeys := rfl

theorem sortKeys_job {name queue services : Value} :
    (Value.job name queue services).sortKeys =
      .job name.sortKeys queue.sortKeys services.sortKeys := rfl

theorem Value.sortKeysList_of_forall :
    ∀ {items : List Value}, (∀ i ∈ items, i.sortKeys = i) → Value.sortKeysList items = items
  | [], _ => rfl
  | x :: xs, h => by
    show x.sortKeys :: Value.sortKeysList xs = x :: xs
    rw [h x (List.mem_cons_self _ _),
      Value.sortKeysList_of_forall fun i hi => h i (List.mem_cons_of_mem _ hi)]

theorem Value.sortKeysEntries_of_forall : ∀ {entries : List (String × Value)},
    (∀ e ∈ entries, e.2.sortKeys = e.2) → Value.sortKeysEntries entries = entries
  | [], _ => rfl
  | (k, v) :: rest, h => by
    show (k, v.sortKeys) :: Value.sortKeysEntries rest = (k, v) :: rest
    rw [h (k, v) (List.mem_cons_self _ _),
      Value.sortKeysEntries_of_forall fun e he => h e (List.mem_cons_of_mem _ he)]

theorem Value.sortKeysEntries_eq_map : ∀ entries : List (String × Value),
    Value.sortKeysEntries entries = entries.map fun e => (e.1, e.2.sortKeys)
  | [] => rfl
  | (k, v) :: rest => congrArg ((k, v.sortKeys) :: ·) (Value.sortKeysEntries_eq_map rest)

theorem Value.IsListOf.sortKeys_str {v : Value} (h : v.IsListOf Value.IsStr) : v.sortKeys = v := by
  obtain ⟨items, rfl, h⟩ := h.eq_list
  rw [sortKeys_list, Value.sortKeysList_of_forall fun i hi => by obtain ⟨s, rfl⟩ := h i hi; rfl]

theorem Value.sortKeysEntries_str {exact : Bool} {entries : List (String × Value)}
    (h : (Value.dict exact entries).IsDictOf Value.IsStr) :
    Value.sortKeysEntries entries = entries :=
  Value.sortKeysEntries_of_forall fun e he => by obtain ⟨s, hs⟩ := h e he; rw [hs]; rfl

theorem Resources.Valid.sortKeys {min : Int} {x : Value} (h : Resources.Valid min x) :
    x.sortKeys = x := by
  cases x with
  | resources memory vcores =>
    obtain ⟨⟨a, rfl, -⟩, ⟨b, rfl, -⟩⟩ := h
    rfl
  | _ => exact h.elim

theorem File.Valid.sortKeys {x : Value} (h : File.Valid x) : x.sortKeys = x := by
  cases x with
  | file source type visibility size timestamp =>
    obtain ⟨⟨s, rfl⟩, ⟨t, rfl, -⟩, ⟨v, rfl, -⟩, ⟨z, rfl, -⟩, ⟨ts, rfl, -⟩⟩ := h
    rfl
  | _ => exact h.elim

/-- A valid service whose files are plain, with its keys sorted: its files and env sorted by
key, the rest as it was. -/
theorem Service.sortKeys_plain {commands resources instances env depends : Value}
    {files : List (String × Value)}
    (h : Service.Valid (.service commands resources instances (.dict true files) env depends))
    {exact : Bool} {es : List (String × Value)} (he : env = .dict exact es) :
    (Value.service commands resources instances (.dict true files) env depends).sortKeys =
      .service commands resources instances (.dict true (sortEntries files))
        (.dict exact (sortEntries es)) depends := by
  subst he
  obtain ⟨⟨n, rfl, -⟩, hr, hfs, hes, hc, -, hd⟩ := h
  rw [sortKeys_service, hc.sortKeys_str, hr.sortKeys, hd.sortKeys_str, sortKeys_dict,
    sortKeys_dict, Value.sortKeysEntries_of_forall fun e he => (hfs e he).sortKeys,
    Value.sortKeysEntries_str hes, sortKeys_int]

theorem Service.Valid.sortKeys {x : Value} (h : Service.Valid x) (hp : Service.filesPlain x) :
    Service.Valid x.sortKeys ∧ Service.filesPlain x.sortKeys := by
  obtain ⟨cs, r, n, fs, ex, es, ds, rfl, -, -, -, -, -⟩ := h.plain hp
  rw [Service.sortKeys_plain h rfl]
  obtain ⟨hi, hr, hfs, hes, hc, hne, hd⟩ := h
  exact ⟨⟨hi, hr, hfs.sort, hes.sort, hc, hne, hd⟩, rfl⟩

theorem Job.Valid.sortKeys {j : Value} (h : Job.Valid j) (hp : Job.mappingsPlain j) :
    Job.Valid j.sortKeys := by
  obtain ⟨n, queue, ss, rfl, hq, hss⟩ := h.plain hp
  have hq' : queue.sortKeys = queue := by rcases hq with ⟨s, rfl⟩ | rfl <;> rfl
  rw [sortKeys_job, sortKeys_str, hq', sortKeys_dict, Value.sortKeysEntries_eq_map]
  refine ⟨⟨n, rfl⟩, hq, fun e he => ?_, ?_⟩
  · obtain ⟨e', he', rfl⟩ := List.mem_map.mp ((sortEntries_perm _).subset he)
    exact ((hss e' he').1.sortKeys (hss e' he').2).1
  · simpa [Value.entries, ← List.length_eq_zero, (sortEntries_perm _).length_eq] using h.2.2.2

end SortKeys

/-- The writing side of the external text codecs: `json.dumps` and
`yaml.dump(..., default_flow_style=False)`. -/
structure Dumpers where
  jsonDumps : Value → String
  yamlDump : Value → String

/-- The loader of `format` reads back what its dumper writes for the mapping `d`: `json.loads`
the mapping itself, and `yaml.safe_load` the mapping with its keys sorted, in the order
`yaml.dump` writes them. -/
def Codecs.ReadsBack (codecs : Codecs) (dumpers : Dumpers) (format : String) (d : Value) :
    Prop :=
  if format = "json" then codecs.jsonLoads (dumpers.jsonDumps d) = .ok d
  else codecs.yamlSafeLoad (dumpers.yamlDump d) = .ok d.sortKeys

/-- What each path of the file system holds. -/
abbrev Disk := String → Option String

/-- `open(path, mode='w').write(data)`. -/
def Disk.write (disk : Disk) (path data : String) : Disk :=
  fun p => if p = path then some data else disk p

/-- The codecs with `open(path).read()` reading `disk`; a path the disk does not hold is
read as the codecs read it. -/
def Codecs.onDisk (codecs : Codecs) (disk : Disk) : Codecs :=
  { codecs with
    readFile := fun p => match disk p with
      | some data => pure data
      | none => codecs.readFile p }

/-- `self.to_json(skip_nulls)`. -/
def Value.toJson (clock : Clock) (dumpers : Dumpers) (skipNulls : Bool) (x : Value) :
    Except Error String :=
  dumpers.jsonDumps <$> x.toDict clock skipNulls

/-- `self.to_yaml(skip_nulls)`. -/
def Value.toYaml (clock : Clock) (dumpers : Dumpers) (skipNulls : Bool) (x : Value) :
    Except Error String :=
  dumpers.yamlDump <$> x.toDict clock skipNulls

/-- `self.to_file(path, format, skip_nulls)`, as the disk it leaves. The method
`getattr(self, 'to_' + format)` is `to_json` or `to_yaml`: `_infer_format` returns no other
format. -/
def Value.toFile (clock : Clock) (dumpers : Dumpers) (x : Value) (path : String)
    (format : Format) (skipNulls : Bool) (disk : Disk) : Except Error Disk := do
  let format ← inferFormat path format
  let data ← if format = "json" then x.toJson clock dumpers skipNulls
    else x.toYaml clock dumpers skipNulls
  pure (disk.write path data)

@[simp] theorem Disk.write_same {disk : Disk} {path data : String} :
    disk.write path data path = some data :=
  if_pos rfl

theorem Disk.write_other {disk : Disk} {path data p : String} (h : p ≠ path) :
    disk.write path data p = disk p :=
  if_neg h

theorem Codecs.onDisk_write {codecs : Codecs} {disk : Disk} {path data : String} :
    (codecs.onDisk (disk.write path data)).readFile path = .ok data := by
  simp [Codecs.onDisk]

section RoundTrip

variable {clock : Clock} {skip : Bool}

/-- Entries whose values `g` reads back, from their mapping forms with sorted keys, as the
values with sorted keys, convert to entries that `g` reads back so. -/
theorem convertEntries_sortKeys {m : Method} {g : Value → Except Error Value}
    {entries : List (String × Value)}
    (h : ∀ e ∈ entries, convert m e.2 >>= (g ∘ Value.sortKeys) = .ok e.2.sortKeys) :
    ∃ ds, convertEntries m entries = .ok ds ∧
      mapValues g (Value.sortKeysEntries ds) = .ok (Value.sortKeysEntries entries) := by
  induction entries with
  | nil => exact ⟨[], rfl, rfl⟩
  | cons e es ih =>
    obtain ⟨k, v⟩ := e
    obtain ⟨d, hd, hg : g d.sortKeys = _⟩ := bind_eq_ok.mp (h _ (List.mem_cons_self _ _))
    obtain ⟨ds, hds, hgs⟩ := ih fun e he => h e (List.mem_cons_of_mem _ he)
    exact ⟨(k, d) :: ds, by simp [hd, hds], by simp [Value.sortKeysEntries, hg, hgs]⟩

/-! The mappings `to_dict` writes, with their keys sorted, and read by `from_dict`: the same
calls as on the mappings in `__slots__` order. -/

theorem Resources.sortKeys_mapping {memory vcores : Value} :
    (Value.dict true [("memory", memory), ("vcores", vcores)]).sortKeys =
      .dict true [("memory", memory.sortKeys), ("vcores", vcores.sortKeys)] := rfl

theorem File.sortKeys_mapping {source type visibility size timestamp : Value} :
    (Value.dict true [("source", source), ("type", type), ("visibility", visibility),
      ("size", size), ("timestamp", timestamp)]).sortKeys =
      .dict true [("size", size.sortKeys), ("source", source.sortKeys),
        ("timestamp", timestamp.sortKeys), ("type", type.sortKeys),
        ("visibility", visibility.sortKeys)] := rfl

theorem Service.sortKeys_mapping {commands resources instances files env depends : Value} :
    (Value.dict true [("commands", commands), ("resources", resources),
      ("instances", instances), ("files", files), ("env", env), ("depends", depends)]).sortKeys =
      .dict true [("commands", commands.sortKeys), ("depends", depends.sortKeys),
        ("env", env.sortKeys), ("files", files.sortKeys), ("instances", instances.sortKeys),
        ("resources", resources.sortKeys)] := rfl

theorem Job.sortKeys_mapping {name queue services : Value} :
    (Value.dict true [("name", name), ("queue", queue), ("services", services)]).sortKeys =
      .dict true [("name", name.sortKeys), ("queue", queue.sortKeys),
        ("services", services.sortKeys)] := rfl

theorem Job.sortKeys_mapping_noQueue {name services : Value} :
    (Value.dict true [("name", name), ("services", services)]).sortKeys =
      .dict true [("name", name.sortKeys), ("services", services.sortKeys)] := rfl

theorem File.fromDict_sortedMapping {source type visibility size timestamp : Value} :
    File.fromDict (.dict true [("size", size), ("source", source), ("timestamp", timestamp),
      ("type", type), ("visibility", visibility)]) =
      File.init source type visibility size timestamp := rfl

theorem Service.fromDict_sortedMapping {commands resources instances files env depends : Value} :
    Service.fromDict (.dict true [("commands", commands), ("depends", depends), ("env", env),
      ("files", files), ("instances", instances), ("resources", resources)]) =
      (do
        let resources ← resourcesFromDict resources
        Service.init commands resources instances (← filesFromDict files) env depends) := rfl

theorem File.fromDict_sortKeys_toDict {x : Value} (h : File.Valid x) :
    convert (.toDict clock skip) x >>= (File.fromDict ∘ Value.sortKeys) = .ok x.sortKeys := by
  cases x with
  | file source type visibility size timestamp =>
    have hv := File.validate_ok.mpr h
    have hi := File.init_ok.mpr ⟨h, rfl⟩
    rw [h.sortKeys]
    obtain ⟨⟨s, rfl⟩, ⟨t, rfl, -⟩, ⟨v, rfl, -⟩, ⟨z, rfl, -⟩, ⟨ts, rfl, -⟩⟩ := h
    simp [convert_file, hv, Method.finish, File.sortKeys_mapping, File.fromDict_sortedMapping, hi]
  | _ => exact h.elim

theorem Service.fromDict_sortKeys_toDict {x : Value} (h : Service.Valid x)
    (hp : Service.filesPlain x) :
    convert (.toDict clock skip) x >>= (Service.fromDict ∘ Value.sortKeys) = .ok x.sortKeys := by
  obtain ⟨cs, r, n, fs, ex, es, ds', rfl, hc, hr, hfs, he, hd⟩ := h.plain hp
  have hr0 := hr.mono (by decide : (0 : Int) ≤ 1)
  obtain ⟨memory, vcores, rfl, hrd⟩ := @Resources.toDict_eq clock skip _ hr0
  obtain ⟨⟨a, rfl, -⟩, ⟨b, rfl, -⟩⟩ := id hr0
  obtain ⟨ds, hds, hmap⟩ := @convertEntries_sortKeys (.toDict clock skip) File.fromDict fs
    fun e he => File.fromDict_sortKeys_toDict (hfs e he)
  rw [Value.sortKeysEntries_of_forall fun e he => (hfs e he).sortKeys] at hmap
  have hs := (h.sortKeys hp).1
  rw [Service.sortKeys_plain h rfl] at hs ⊢
  -- what `to_dict` writes, in `__slots__` order
  have hconv : convert (.toDict clock skip) (.service (.list cs) (.resources (.int a) (.int b))
      (.int n) (.dict true fs) (.dict ex es) (.list ds')) = .ok (.dict true [("commands", .list cs),
        ("resources", .dict true [("memory", .int a), ("vcores", .int b)]), ("instances", .int n),
        ("files", .dict true ds), ("env", .dict ex es), ("depends", .list ds')]) := by
    simp [convert_service, Service.validate_ok.mpr h, convert_of_isListOf_str hc,
      convert_of_isDictOf_str he, convert_of_isListOf_str hd, hrd, hds, Method.finish]
  -- what `from_dict` reads from it with its keys sorted
  rw [hconv, ok_bind, Function.comp_apply, Service.sortKeys_mapping, Resources.sortKeys_mapping,
    hc.sortKeys_str, hd.sortKeys_str, sortKeys_dict, sortKeys_dict,
    Value.sortKeysEntries_str he, Service.fromDict_sortedMapping]
  simp [Service.resourcesFromDict, Resources.fromDict_mapping, Resources.init_ok.mpr ⟨hr0, rfl⟩,
    Service.filesFromDict, mapValues_sortEntries hmap, Service.init_valid hs]

/-- The mapping form of a valid job whose mappings are plain, and the job `from_dict` reads
back from it with its keys sorted: the job with its keys sorted. -/
theorem Job.Valid.toDict_fromDict_sortKeys {j : Value} (h : Job.Valid j)
    (hp : Job.mappingsPlain j) :
    ∃ d, j.toDict clock skip = .ok d ∧ Job.fromDict d.sortKeys = .ok j.sortKeys := by
  refine bind_eq_ok.mp ?_
  have hj := h.sortKeys hp
  obtain ⟨n, queue, ss, rfl, hq, hss⟩ := h.plain hp
  obtain ⟨ds, hds, hmap⟩ := @convertEntries_sortKeys (.toDict clock skip) Service.fromDict ss
    fun e he => Service.fromDict_sortKeys_toDict (hss e he).1 (hss e he).2
  have hsd : Job.servicesFromDict (Value.dict true ds).sortKeys =
      .ok (.dict true (sortEntries (Value.sortKeysEntries ss))) := by
    simp [sortKeys_dict, Job.servicesFromDict, mapValues_sortEntries hmap]
  have hq' : queue.sortKeys = queue := by rcases hq with ⟨s, rfl⟩ | rfl <;> rfl
  rw [sortKeys_job, sortKeys_str, hq', sortKeys_dict] at hj ⊢
  have hi := Job.init_ok.mpr ⟨hj, rfl⟩
  have hv := Job.validate_ok.mpr h
  rcases hq with ⟨q, rfl⟩ | rfl
  · simp [Value.toDict, Value.isEntity, convert_job, hv, hds, Method.finish,
      Job.sortKeys_mapping, Job.fromDict_mapping, hsd, hi]
  · cases skip <;> simp [Value.toDict, Value.isEntity, convert_job, hv, hds, Method.finish,
      Job.sortKeys_mapping, Job.sortKeys_mapping_noQueue, Job.fromDict_mapping,
      Job.fromDict_mapping_noQueue, hsd, hi]

variable {dumpers : Dumpers} {codecs : Codecs} {j : Value}

theorem Job.fromJson_toJson (h : Job.Valid j) (hp : Job.mappingsPlain j)
    (hjson : ∀ d, j.toDict clock skip = .ok d → codecs.jsonLoads (dumpers.jsonDumps d) = .ok d) :
    j.toJson clock dumpers skip >>= Base.fromJson codecs Job.fromDict = .ok j := by
  obtain ⟨d, hd, hr⟩ := @Job.Valid.toDict_fromDict clock skip j h hp
  simp [Value.toJson, hd, Base.fromJson, hjson d hd, hr]

theorem Job.fromYaml_toYaml (h : Job.Valid j) (hp : Job.mappingsPlain j)
    (hyaml : ∀ d, j.toDict clock skip = .ok d →
      codecs.yamlSafeLoad (dumpers.yamlDump d) = .ok d.sortKeys) :
    j.toYaml clock dumpers skip >>= Base.fromYaml codecs Job.fromDict = .ok j.sortKeys := by
  obtain ⟨d, hd, hr⟩ := @Job.Valid.toDict_fromDict_sortKeys clock skip j h hp
  simp [Value.toYaml, hd, Base.fromYaml, hyaml d hd, hr]

/-- A valid job whose mappings are plain, written by `to_file` and read by `from_file` at the
same path and format, reads back under codecs whose loader of that format reads back what its
dumper wrote: as it was from JSON, and with the keys of its mappings sorted from YAML. The
write leaves every other path as it was. -/
theorem Job.fromFile_toFile {path : String} {format : Format} {f : String} {disk disk' : Disk}
    (h : Job.Valid j) (hp : Job.mappingsPlain j) (hf : inferFormat path format = .ok f)
    (hr : ∀ d, j.toDict clock skip = .ok d → codecs.ReadsBack dumpers f d)
    (hw : j.toFile clock dumpers path format skip disk = .ok disk') :
    Base.fromFile (codecs.onDisk disk') Job.fromDict path format =
        .ok (if f = "json" then j else j.sortKeys) ∧
      ∀ p, p ≠ path → disk' p = disk p := by
  simp only [Value.toFile, hf, ok_bind] at hw
  simp only [Base.fromFile, hf, ok_bind]
  by_cases hj : f = "json"
  · simp only [Codecs.ReadsBack, if_pos hj] at hw hr ⊢
    obtain ⟨data, hdata, ⟨⟩⟩ := bind_eq_ok.mp hw
    refine ⟨?_, fun p hne => Disk.write_other hne⟩
    simpa [Codecs.onDisk_write, hdata] using
      @Job.fromJson_toJson clock skip dumpers (codecs.onDisk _) j h hp hr
  · simp only [Codecs.ReadsBack, if_neg hj] at hw hr ⊢
    obtain ⟨data, hdata, ⟨⟩⟩ := bind_eq_ok.mp hw
    refine ⟨?_, fun p hne => Disk.write_other hne⟩
    simpa [Codecs.onDisk_write, hdata, Base.fromYaml] using
      @Job.fromYaml_toYaml clock skip dumpers (codecs.onDisk _) j h hp hr

end RoundTrip

theorem Job.fromFile_toFile_yaml :
    let clock : Clock := ⟨fun us => us / 1000, fun _ => throw .timedelta⟩
    let j : Value := .job (.str "skein") .none (.dict true [("web", .service (.list [.str "serve"])
      (.resources (.int 1) (.int 1)) (.int 1) (.dict true []) (.dict true []) (.list []))])
    let mapping : Value := .dict true [("name", .str "skein"), ("services", .dict true [("web",
      .dict true [("commands", .list [.str "serve"]),
        ("resources", .dict true [("memory", .int 1), ("vcores", .int 1)]),
        ("instances", .int 1), ("files", .dict true []), ("env", .dict true []),
        ("depends", .list [])])])]
    let text : String := "name: skein\nservices:\n  web:\n    commands:\n    - serve\n" ++
      "    depends: []\n    env: \x7b\x7d\n    files: \x7b\x7d\n    instances: 1\n" ++
      "    resources:\n      memory: 1\n      vcores: 1\n"
    let dumpers : Dumpers := ⟨fun _ => "", fun d => if d.pyEq mapping then text else ""⟩
    let codecs : Codecs := ⟨fun s => .error (.external s),
      fun s => if s = text then .ok (.dict true [("name", .str "skein"), ("services",
        .dict true [("web", .dict true [("commands", .list [.str "serve"]),
          ("depends", .list []), ("env", .dict true []), ("files", .dict true []),
          ("instances", .int 1),
          ("resources", .dict true [("memory", .int 1), ("vcores", .int 1)])])])])
        else .error (.external s),
      fun p => .error (.external p)⟩
    ∃ disk', j.toFile clock dumpers "job.yaml" .infer true (fun _ => none) = .ok disk' ∧
      Base.fromFile (codecs.onDisk disk') Job.fromDict "job.yaml" .infer = .ok j.sortKeys ∧
      ∀ p, p ≠ "job.yaml" → disk' p = none := by
  intro clock j mapping text dumpers codecs
  have hv : Job.Valid j := Job.validate_ok.mp rfl
  have hd : j.toDict clock true = .ok mapping := rfl
  have hr : ∀ d, j.toDict clock true = .ok d → codecs.ReadsBack dumpers "yaml" d := by
    intro d h
    obtain rfl := Except.ok.inj (hd.symm.trans h)
    have heq : mapping.pyEq mapping = true := by decide
    show codecs.yamlSafeLoad (if mapping.pyEq mapping then text else "") = .ok mapping.sortKeys
    simp only [codecs, heq, ite_true]
    rfl
  exact ⟨_, rfl, @Job.fromFile_toFile clock true dumpers codecs j "job.yaml" .infer "yaml"
    (fun _ => none) _ hv rfl rfl hr rfl⟩

end Skein
