import Skein.ServiceFiles
import Skein.MappingRoundTrip
import Skein.Spec

/-!
The jobs the readers return are in mapping normal form. `Service.from_dict` builds its
`files` as a plain `dict`, from a list of file specs or from any mapping, and `Job.from_dict`
builds its `services` as a plain `dict` from any mapping; its `env` it keeps as given.
`from_protobuf` builds plain `dict`s from every map field, `env` included. A job the code
reads, from a mapping, a JSON or YAML text, a file or the wire, never holds a `dict` subclass
where `_convert` would copy it, and its mapping form reads back as the same job.
-/

namespace Skein

theorem exists_of_mem_mapValues {α β : Type} {f : α → Except Error β} :
    ∀ {entries : List (String × α)} {vals : List (String × β)}, mapValues f entries = .ok vals →
      ∀ p ∈ vals, ∃ a, f a = .ok p.2
  | [], _, h, _, hp => by cases h; cases hp
  | (_, a) :: _, _, h, p, hp => by
    simp only [mapValues_cons, bind_eq_ok, pure_eq_ok, Except.ok.injEq] at h
    obtain ⟨b, hb, bs, hbs, rfl⟩ := h
    rcases List.mem_cons.mp hp with rfl | hp
    · exact ⟨a, hb⟩
    · exact exists_of_mem_mapValues hbs p hp

/-- `files` read from a mapping is never a mapping of a subclass of `dict`: a list of specs
and any mapping become a plain `dict`, and anything else is kept as it is. -/
theorem Service.filesFromDict_ne_subclass {v : Value} {entries : List (String × Value)}
    (h : Service.filesFromDict v = .ok (.dict false entries)) : False := by
  cases v <;> first
    | (obtain ⟨_, -, h⟩ := map_eq_ok.mp h; cases h)
    | cases h

/-- `Service.from_dict` builds its files as a plain `dict`. -/
theorem Service.fromDict_filesPlain {obj s : Value} (h : Service.fromDict obj = .ok s) :
    Service.filesPlain s = true := by
  obtain ⟨_, files, _, hfiles, h⟩ := Service.fromDict_call h
  obtain ⟨-, h⟩ := bind_unit_eq_ok.mp h
  obtain ⟨⟨-, -, hf, -⟩, rfl⟩ := Service.init_ok.mp h
  cases files with
  | dict exact entries =>
    cases exact
    · exact (Service.filesFromDict_ne_subclass hfiles).elim
    · rfl
  | none => rfl
  | _ => exact hf.elim

/-- Entries read one by one, by a reader whose every result satisfies `P`, all satisfy `P`. -/
theorem all_of_mapValues {α : Type} {read : α → Except Error Value} {P : Value → Bool}
    (hread : ∀ {a v}, read a = .ok v → P v = true) {entries : List (String × α)}
    {vals : List (String × Value)} (h : mapValues read entries = .ok vals) :
    vals.all (fun e => P e.2) = true :=
  List.all_eq_true.mpr fun e he => (exists_of_mem_mapValues h e he).elim fun _ ha => hread ha

/-- `Job.from_dict` builds its services as a plain `dict` of services whose files are plain. -/
theorem Job.fromDict_mappingsPlain {obj j : Value} (h : Job.fromDict obj = .ok j) :
    Job.mappingsPlain j = true := by
  obtain ⟨_, -, services, hs, h⟩ := by simpa only [Job.fromDict, bind_eq_ok] using h
  obtain ⟨⟨-, -, hsv, -⟩, rfl⟩ := Job.init_ok.mp h
  generalize obj.get "services" = v at hs hsv
  cases v with
  | dict exact entries =>
    obtain ⟨ss, hss, rfl⟩ := map_eq_ok.mp hs
    exact all_of_mapValues Service.fromDict_filesPlain hss
  | _ => cases hs; exact hsv.elim

theorem Service.fromProtobuf_plain {schema : Proto.Schema} {msg : Proto.Message} {s : Value}
    (h : Service.fromProtobuf schema msg = .ok s) :
    Service.dictsPlain s = true ∧ Service.filesPlain s = true := by
  cases msg with
  | service m =>
    obtain ⟨_, -, h⟩ := bind_eq_ok.mp h
    obtain ⟨_, -, h⟩ := bind_eq_ok.mp h
    obtain ⟨-, rfl⟩ := Service.init_ok.mp h
    exact ⟨rfl, rfl⟩
  | _ => cases h

/-- `Job.from_protobuf` builds plain `dict`s from the map fields of the message: the services,
and each service's files and env. -/
theorem Job.fromProtobuf_plain {schema : Proto.Schema} {msg : Proto.Message} {j : Value}
    (h : Job.fromProtobuf schema msg = .ok j) :
    Job.dictsPlain j = true ∧ Job.mappingsPlain j = true := by
  cases msg with
  | job m =>
    obtain ⟨ss, hss, h⟩ := bind_eq_ok.mp h
    obtain ⟨-, rfl⟩ := Job.init_ok.mp h
    exact ⟨all_of_mapValues (fun h => (Service.fromProtobuf_plain h).1) hss,
      all_of_mapValues (fun h => (Service.fromProtobuf_plain h).2) hss⟩
  | _ => cases h

/-- Every job that `Job.from_dict` returns, and so every job `from_json`, `from_yaml` or
`from_file` returns, and every job `Job.from_protobuf` returns, reads back from its mapping
form, for both values of `skip_nulls`. -/
theorem Job.fromDict_toDict_of_read {clock : Clock} {skip : Bool} {j : Value}
    (h : (∃ obj, Job.fromDict obj = .ok j) ∨ ∃ schema msg, Job.fromProtobuf schema msg = .ok j) :
    j.toDict clock skip >>= Job.fromDict = .ok j := by
  have hp : Job.mappingsPlain j := h.elim (fun ⟨_, h⟩ => Job.fromDict_mappingsPlain h)
    fun ⟨_, _, h⟩ => (Job.fromProtobuf_plain h).2
  have hc : Job.Constructed j := h.elim (fun ⟨_, h⟩ => .fromDict h) fun ⟨_, _, h⟩ => .fromProtobuf h
  obtain ⟨_, _, _, hi⟩ := hc.init_result
  obtain ⟨hv, rfl⟩ := Job.init_ok.mp hi
  exact bind_eq_ok.mpr (hv.toDict_fromDict hp)

/-- A job read from a mapping with its services in an `OrderedDict` and its files as a list of
specs reads back from its mapping form. -/
theorem Job.fromDict_toDict_of_read_orderedDict :
    let obj : Value := .dict true [("name", .str "skein"), ("services", .dict false [("web",
      .dict true [("commands", .list [.str "serve"]),
        ("resources", .dict true [("memory", .int 1), ("vcores", .int 1)]),
        ("files", .list [.dict true [("archive", .str "hdfs://nn/env.tar.gz")]])])])]
    let clock : Clock := ⟨fun us => us / 1000, fun _ => throw .timedelta⟩
    ∃ j, Job.fromDict obj = .ok j ∧ j.toDict clock true >>= Job.fromDict = .ok j := by
  intro obj _
  exact ⟨_, rfl, Job.fromDict_toDict_of_read (.inl ⟨obj, rfl⟩)⟩

end Skein
