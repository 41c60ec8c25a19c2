import Skein.Validity
import Skein.Convert

/-!
The mapping form read back: `from_dict` of what `to_dict` writes. A valid `Resources`,
`File`, `Service` or `Job` comes back as it was, for either value of `skip_nulls`, as long
as the mappings inside it are plain `dict`s, which `_convert` recurses into. A mapping of a
subclass of `dict` is copied with its entities in it, and `from_dict` cannot read an
entity.
-/

namespace Skein

section Convert

variable {m : Method}

theorem convertList_of_isStr {items : List Value} (h : ∀ i ∈ items, i.IsStr) :
    convertList m items = .ok items := by
  induction items with
  | nil => rfl
  | cons x xs ih =>
    obtain ⟨s, rfl⟩ := h x (List.mem_cons_self _ _)
    simp [ih fun i hi => h i (List.mem_cons_of_mem _ hi)]

theorem convertEntries_of_isStr {entries : List (String × Value)}
    (h : ∀ e ∈ entries, e.2.IsStr) : convertEntries m entries = .ok entries := by
  induction entries with
  | nil => rfl
  | cons e es ih =>
    obtain ⟨k, v⟩ := e
    obtain ⟨s, rfl⟩ := h _ (List.mem_cons_self _ _)
    simp [ih fun i hi => h i (List.mem_cons_of_mem _ hi)]

theorem convert_of_isStr_or_none {v : Value} (h : v.IsStr ∨ v = .none) : convert m v = .ok v := by
  rcases h with ⟨s, rfl⟩ | rfl <;> rfl

theorem convert_of_isInt_or_none {v : Value} (h : v.IsInt ∨ v = .none) : convert m v = .ok v := by
  rcases h with ⟨n, rfl⟩ | rfl <;> rfl

/-- A list of strings converts to itself. -/
theorem convert_of_isListOf_str {v : Value} (h : v.IsListOf Value.IsStr) :
    convert m v = .ok v := by
  obtain ⟨items, rfl, h⟩ := h.eq_list
  simp [convertList_of_isStr h]

/-- A mapping to strings, plain or not, converts to itself. -/
theorem convert_of_isDictOf_str {v : Value} (h : v.IsDictOf Value.IsStr) :
    convert m v = .ok v := by
  obtain ⟨exact, entries, rfl, h⟩ := h.eq_dict
  cases exact <;> simp [convertEntries_of_isStr h]

/-- Entries that `g` reads back one by one convert to entries that `g` reads back. -/
theorem convertEntries_mapM {g : Value → Except Error Value} {entries : List (String × Value)}
    (h : ∀ e ∈ entries, convert m e.2 >>= g = .ok e.2) :
    convertEntries m entries >>= mapValues g = .ok entries := by
  induction entries with
  | nil => rfl
  | cons e es ih =>
    obtain ⟨k, v⟩ := e
    obtain ⟨d, hd, hg⟩ : ∃ d, convert m v = .ok d ∧ g d = .ok v :=
      bind_eq_ok.mp (h _ (List.mem_cons_self _ _))
    obtain ⟨ds, hds, hgs⟩ := bind_eq_ok.mp (ih fun e he => h e (List.mem_cons_of_mem _ he))
    simp [hd, hds, hg, hgs]

end Convert

/-- The `files` of a service is a plain `dict`, which `_convert` recurses into. -/
def Service.filesPlain : Value → Bool
  | .service _ _ _ (.dict true _) _ _ => true
  | _ => false

/-- The `services` of a job is a plain `dict`, and so is the `files` of each service. -/
def Job.mappingsPlain : Value → Bool
  | .job _ _ (.dict true services) => services.all fun e => Service.filesPlain e.2
  | _ => false

/-- A valid service whose files are a plain `dict`, taken apart. -/
theorem Service.Valid.plain {x : Value} (h : Service.Valid x) (hp : Service.filesPlain x) :
    ∃ commands resources n files exact env depends,
      x = .service (.list commands) resources (.int n) (.dict true files) (.dict exact env)
        (.list depends) ∧
      (Value.list commands).IsListOf Value.IsStr ∧ Resources.Valid 1 resources ∧
      (∀ e ∈ files, File.Valid e.2) ∧ (Value.dict exact env).IsDictOf Value.IsStr ∧
      (Value.list depends).IsListOf Value.IsStr := by
  cases x with
  | service commands resources instances files env depends =>
    obtain ⟨⟨n, rfl, -⟩, hr, hf, he, hc, -, hd⟩ := h
    obtain ⟨exact, fs, rfl, hfs⟩ := hf.eq_dict
    cases exact
    · simp [Service.filesPlain] at hp
    obtain ⟨cs, rfl, -⟩ := hc.eq_list
    obtain ⟨ex, es, rfl, -⟩ := he.eq_dict
    obtain ⟨ds, rfl, -⟩ := hd.eq_list
    exact ⟨cs, _, n, fs, ex, es, ds, rfl, hc, hr, hfs, he, hd⟩
  | _ => exact h.elim

/-- A valid job whose mappings are plain, taken apart. -/
theorem Job.Valid.plain {j : Value} (h : Job.Valid j) (hp : Job.mappingsPlain j) :
    ∃ name queue services, j = .job (.str name) queue (.dict true services) ∧
      (queue.IsStr ∨ queue = .none) ∧
      ∀ e ∈ services, Service.Valid e.2 ∧ Service.filesPlain e.2 := by
  cases j with
  | job name queue services =>
    obtain ⟨⟨n, rfl⟩, hq, hs, -⟩ := h
    obtain ⟨exact, ss, rfl, hss⟩ := hs.eq_dict
    cases exact
    · simp [Job.mappingsPlain] at hp
    have hps : ∀ e ∈ ss, Service.filesPlain e.2 := by simpa [Job.mappingsPlain] using hp
    exact ⟨n, queue, ss, rfl, hq, fun e he => ⟨hss e he, hps e he⟩⟩
  | _ => exact h.elim

section FromDict

/-! The mappings `to_dict` writes, read by `from_dict`. -/

theorem Resources.fromDict_mapping {memory vcores : Value} :
    Resources.fromDict (.dict true [("memory", memory), ("vcores", vcores)]) =
      Resources.init memory vcores := rfl

theorem File.fromDict_mapping {source type visibility size timestamp : Value} :
    File.fromDict (.dict true [("source", source), ("type", type), ("visibility", visibility),
      ("size", size), ("timestamp", timestamp)]) =
      File.init source type visibility size timestamp := rfl

theorem Service.fromDict_mapping {commands resources instances files env depends : Value} :
    Service.fromDict (.dict true [("commands", commands), ("resources", resources),
      ("instances", instances), ("files", files), ("env", env), ("depends", depends)]) =
      (do
        let resources ← resourcesFromDict resources
        Service.init commands resources instances (← filesFromDict files) env depends) := rfl

theorem Job.fromDict_mapping {name queue services : Value} :
    Job.fromDict (.dict true [("name", name), ("queue", queue), ("services", services)]) =
      (do Job.init (← servicesFromDict services) name queue) := rfl

theorem Job.fromDict_mapping_noQueue {name services : Value} :
    Job.fromDict (.dict true [("name", name), ("services", services)]) =
      (do Job.init (← servicesFromDict services) name .none) := rfl

end FromDict

section RoundTrip

variable {clock : Clock} {skip : Bool}

theorem Resources.toDict_eq {x : Value} (h : Resources.Valid 0 x) :
    ∃ memory vcores, x = .resources memory vcores ∧
      convert (.toDict clock skip) x =
        .ok (.dict true [("memory", memory), ("vcores", vcores)]) := by
  cases x with
  | resources memory vcores =>
    have hv : Resources.validate memory vcores false = .ok () := Resources.validate_ok.mpr h
    obtain ⟨⟨a, rfl, -⟩, ⟨b, rfl, -⟩⟩ := h
    exact ⟨_, _, rfl, by simp [convert_resources, hv, Method.finish]⟩
  | _ => exact h.elim

theorem Resources.fromDict_toDict {x : Value} (h : Resources.Valid 0 x) :
    convert (.toDict clock skip) x >>= Resources.fromDict = .ok x := by
  obtain ⟨memory, vcores, rfl, hd⟩ := Resources.toDict_eq h
  rw [hd, ok_bind, Resources.fromDict_mapping, Resources.init_ok.mpr ⟨h, rfl⟩]

theorem File.fromDict_toDict {x : Value} (h : File.Valid x) :
    convert (.toDict clock skip) x >>= File.fromDict = .ok x := by
  cases x with
  | file source type visibility size timestamp =>
    have hv := File.validate_ok.mpr h
    have hi := File.init_ok.mpr ⟨h, rfl⟩
    obtain ⟨⟨s, rfl⟩, ⟨t, rfl, -⟩, ⟨v, rfl, -⟩, ⟨z, rfl, -⟩, ⟨ts, rfl, -⟩⟩ := h
    simp [convert_file, hv, Method.finish, File.fromDict_mapping, hi]
  | _ => exact h.elim

theorem Service.fromDict_toDict {x : Value} (h : Service.Valid x) (hp : Service.filesPlain x) :
    convert (.toDict clock skip) x >>= Service.fromDict = .ok x := by
  obtain ⟨cs, r, n, fs, ex, es, ds', rfl, hc, hr, hfs, he, hd⟩ := h.plain hp
  have hr0 := hr.mono (by decide : (0 : Int) ≤ 1)
  obtain ⟨memory, vcores, rfl, hrd⟩ := @Resources.toDict_eq clock skip _ hr0
  obtain ⟨ds, hds, hmap⟩ := bind_eq_ok.mp (@convertEntries_mapM (.toDict clock skip) File.fromDict
    fs fun e he => File.fromDict_toDict (hfs e he))
  simp [convert_service, Service.validate_ok.mpr h, convert_of_isListOf_str hc,
    convert_of_isDictOf_str he, convert_of_isListOf_str hd, hrd, hds, Method.finish,
    Service.fromDict_mapping, Service.resourcesFromDict, Resources.fromDict_mapping,
    Resources.init_ok.mpr ⟨hr0, rfl⟩, Service.filesFromDict, hmap, Service.init_valid h]

/-- The mapping form of a valid job whose mappings are plain, and the job `from_dict` reads
back from it. -/
theorem Job.Valid.toDict_fromDict {j : Value} (h : Job.Valid j) (hp : Job.mappingsPlain j) :
    ∃ d, j.toDict clock skip = .ok d ∧ Job.fromDict d = .ok j := by
  refine bind_eq_ok.mp ?_
  obtain ⟨n, queue, ss, rfl, hq, hss⟩ := h.plain hp
  obtain ⟨ds, hds, hmap⟩ := bind_eq_ok.mp (@convertEntries_mapM (.toDict clock skip)
    Service.fromDict ss fun e he => Service.fromDict_toDict (hss e he).1 (hss e he).2)
  have hsd : Job.servicesFromDict (.dict true ds) = .ok (.dict true ss) := by
    simp [Job.servicesFromDict, hmap]
  have hv := Job.validate_ok.mpr h
  have hi := Job.init_ok.mpr ⟨h, rfl⟩
  rcases hq with ⟨q, rfl⟩ | rfl
  · simp [Value.toDict, Value.isEntity, convert_job, hv, hds, Method.finish,
      Job.fromDict_mapping, hsd, hi]
  · cases skip <;> simp [Value.toDict, Value.isEntity, convert_job, hv, hds, Method.finish,
      Job.fromDict_mapping, Job.fromDict_mapping_noQueue, hsd, hi]

/-- A valid job whose mappings are plain reads back from its mapping form, for either value of
`skip_nulls`; a `None` queue is left out or written as `None`, and reads back as `None`. -/
theorem Job.fromDict_toDict_of_plain {j : Value} (h : Job.Valid j) (hp : Job.mappingsPlain j) :
    j.toDict clock skip >>= Job.fromDict = .ok j :=
  bind_eq_ok.mpr (h.toDict_fromDict hp)

theorem Job.fromDict_toDict_web :
    let clock : Clock := ⟨fun us => us / 1000, fun _ => throw .timedelta⟩
    (Value.job (.str "skein") .none (.dict true [("web", .service (.list [.str "serve"])
        (.resources (.int 1) (.int 1)) (.int 1) (.dict true []) (.dict true [])
        (.list []))])).toDict clock true >>= Job.fromDict =
      .ok (.job (.str "skein") .none (.dict true [("web", .service (.list [.str "serve"])
        (.resources (.int 1) (.int 1)) (.int 1) (.dict true []) (.dict true []) (.list []))])) :=
  Job.fromDict_toDict_of_plain (Job.validate_ok.mp rfl) rfl

/-- A job whose `services` is a mapping of a subclass of `dict` does not read back:
`_convert` copies the mapping with its services in it, and `Service.from_dict` is given a
service where it expects a mapping. -/
theorem Job.fromDict_toDict_subclass {name queue : Value} {services : List (String × Value)}
    (h : Job.Valid (.job name queue (.dict false services))) :
    (Value.job name queue (.dict false services)).toDict clock skip >>= Job.fromDict =
      .error (.expectedMapping "Service") := by
  have hv := Job.validate_ok.mpr h
  obtain ⟨⟨n, rfl⟩, hq, hs, hne⟩ := h
  obtain ⟨⟨k, s⟩, rest, rfl⟩ := List.exists_cons_of_ne_nil hne
  have hsv : Service.Valid s := hs _ (List.mem_cons_self _ _)
  cases s with
  | service c r i f e d =>
    have hsd : Job.servicesFromDict (.dict false ((k, .service c r i f e d) :: rest)) =
        .error (.expectedMapping "Service") := rfl
    rcases hq with ⟨q, rfl⟩ | rfl
    · simp [Value.toDict, Value.isEntity, convert_job, hv, Method.finish, Job.fromDict_mapping,
        hsd]
    · cases skip <;> simp [Value.toDict, Value.isEntity, convert_job, hv, Method.finish,
        Job.fromDict_mapping, Job.fromDict_mapping_noQueue, hsd]
  | _ => exact hsv.elim

/-- `Job(services=OrderedDict(...))` does not read back from its mapping form. -/
theorem Job.fromDict_toDict_orderedDict :
    let clock : Clock := ⟨fun us => us / 1000, fun _ => throw .timedelta⟩
    Job.call [("services", .dict false [("web", .service (.list [.str "serve"])
        (.resources (.int 1) (.int 1)) (.int 1) (.dict true []) (.dict true []) (.list []))])] =
      .ok (.job (.str "skein") (.str "") (.dict false [("web", .service (.list [.str "serve"])
        (.resources (.int 1) (.int 1)) (.int 1) (.dict true []) (.dict true []) (.list []))])) ∧
    (Value.job (.str "skein") (.str "") (.dict false [("web", .service (.list [.str "serve"])
        (.resources (.int 1) (.int 1)) (.int 1) (.dict true []) (.dict true [])
        (.list []))])).toDict clock true >>= Job.fromDict = .error (.expectedMapping "Service") :=
  ⟨rfl, rfl⟩

end RoundTrip

section Reports

/-! The reports write their snake_case slots and read camelCase keys. -/

variable {clock : Clock} {skip : Bool}

theorem ResourceUsageReport.fromDict_slotMapping {memorySeconds vcoreSeconds numUsedContainers
    neededResources reservedResources usedResources : Value} :
    ResourceUsageReport.fromDict (.dict true [("memory_seconds", memorySeconds),
      ("vcore_seconds", vcoreSeconds), ("num_used_containers", numUsedContainers),
      ("needed_resources", neededResources), ("reserved_resources", reservedResources),
      ("used_resources", usedResources)]) =
      .error (.unknownKeys "ResourceUsageReport" ResourceUsageReport.slots) := rfl

theorem ResourceUsageReport.toDict_eq {r : Value} (h : ResourceUsageReport.Valid r) :
    ∃ memorySeconds vcoreSeconds numUsedContainers neededResources reservedResources
      usedResources, convert (.toDict clock skip) r = .ok (.dict true
        [("memory_seconds", memorySeconds), ("vcore_seconds", vcoreSeconds),
          ("num_used_containers", numUsedContainers), ("needed_resources", neededResources),
          ("reserved_resources", reservedResources), ("used_resources", usedResources)]) := by
  cases r with
  | resourceUsageReport ms vs n nr rr ur =>
    have hv := ResourceUsageReport.validate_ok.mpr h
    obtain ⟨⟨a, rfl, -⟩, ⟨b, rfl, -⟩, ⟨c, rfl, -⟩, hnr, hrr, hur⟩ := h
    obtain ⟨m1, v1, rfl, h1⟩ := @Resources.toDict_eq clock skip _ hnr
    obtain ⟨m2, v2, rfl, h2⟩ := @Resources.toDict_eq clock skip _ hrr
    obtain ⟨m3, v3, rfl, h3⟩ := @Resources.toDict_eq clock skip _ hur
    exact ⟨.int a, .int b, .int c, .dict true [("memory", m1), ("vcores", v1)],
      .dict true [("memory", m2), ("vcores", v2)], .dict true [("memory", m3), ("vcores", v3)],
      by simp [convert_resourceUsageReport, hv, h1, h2, h3, Method.finish]⟩
  | _ => exact h.elim

/-- A valid usage report's mapping form is rejected by its own `from_dict`, all six of its
keys as unknown. -/
theorem ResourceUsageReport.fromDict_toDict {r : Value} (h : ResourceUsageReport.Valid r) :
    r.toDict clock skip >>= ResourceUsageReport.fromDict =
      .error (.unknownKeys "ResourceUsageReport" ResourceUsageReport.slots) := by
  have he : r.isEntity := by cases r <;> first | exact h.elim | rfl
  obtain ⟨_, _, _, _, _, _, hd⟩ := @ResourceUsageReport.toDict_eq clock skip _ h
  rw [Value.toDict, if_pos he, hd, ok_bind, ResourceUsageReport.fromDict_slotMapping]

/-- An all-zero usage report does not read back from its mapping form. -/
theorem ResourceUsageReport.fromDict_toDict_zero :
    let clock : Clock := ⟨fun us => us / 1000, fun _ => throw .timedelta⟩
    ResourceUsageReport.init (.int 0) (.int 0) (.int 0) (.resources (.int 0) (.int 0))
        (.resources (.int 0) (.int 0)) (.resources (.int 0) (.int 0)) =
      .ok (.resourceUsageReport (.int 0) (.int 0) (.int 0) (.resources (.int 0) (.int 0))
        (.resources (.int 0) (.int 0)) (.resources (.int 0) (.int 0))) ∧
    (Value.resourceUsageReport (.int 0) (.int 0) (.int 0) (.resources (.int 0) (.int 0))
        (.resources (.int 0) (.int 0)) (.resources (.int 0) (.int 0))).toDict clock true >>=
        ResourceUsageReport.fromDict =
      .error (.unknownKeys "ResourceUsageReport" ["memory_seconds", "vcore_seconds",
        "num_used_containers", "needed_resources", "reserved_resources", "used_resources"]) :=
  ⟨rfl, rfl⟩

theorem ApplicationReport.fromDict_unknown {exact : Bool} {entries : List (String × Value)}
    {k : String} (hk : k ∈ entries.map Prod.fst) (hbad : k ∉ ApplicationReport.keys) :
    ∃ extra, k ∈ extra ∧ ApplicationReport.fromDict clock (.dict exact entries) =
      .error (.unknownKeys "ApplicationReport" extra) := by
  obtain ⟨extra, hk, he⟩ := @checkKeys_unknown "ApplicationReport" _ exact _ _ hk hbad
  exact ⟨extra, hk, by rw [ApplicationReport.fromDict, he]; rfl⟩

/-- A valid application report's mapping form is rejected by its own `from_dict`, which
reports `final_status` among the unknown keys. -/
theorem ApplicationReport.fromDict_toDict {a : Value} (h : ApplicationReport.Valid a) :
    ∃ extra, "final_status" ∈ extra ∧ a.toDict clock skip >>= ApplicationReport.fromDict clock =
      .error (.unknownKeys "ApplicationReport" extra) := by
  cases a with
  | applicationReport id name user queue tags host port trackingUrl state finalStatus progress
      usage diagnostics startTime finishTime =>
    have hv := ApplicationReport.validate_ok.mpr h
    obtain ⟨⟨_, rfl⟩, ⟨_, rfl⟩, ⟨_, rfl⟩, ⟨_, rfl⟩, ht, hh, hp, hurl, ⟨_, rfl⟩, ⟨_, rfl⟩,
      ⟨_, rfl⟩, hus, hd, ⟨_, rfl⟩, ⟨_, rfl⟩⟩ := h
    obtain ⟨_, _, _, _, _, _, hdu⟩ := @ResourceUsageReport.toDict_eq clock skip _ hus
    simp only [Value.toDict, Value.isEntity, if_true, convert_applicationReport, hv, ok_bind,
      convert_str, convert_float, convert_datetime, convert_of_isListOf_str ht,
      convert_of_isStr_or_none hh, convert_of_isInt_or_none hp, convert_of_isStr_or_none hurl,
      convert_of_isStr_or_none hd, hdu, Method.finish, pure_eq_ok]
    refine ApplicationReport.fromDict_unknown ?_ (by decide)
    simp
  | _ => exact h.elim

end Reports

end Skein
