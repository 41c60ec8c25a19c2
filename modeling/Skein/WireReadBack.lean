import Mathlib.Data.List.Nodup
import Skein.WireRoundTrip
import Skein.Reports
import Skein.MappingNormalForm

/-!
The wire form read and written back: `to_protobuf` of what `from_protobuf` returns. An enum
code is read as its label and written as the code of that label, a map field is read into a
plain `dict` and written in the same order, and a repeated field is read into a list. So every
message that `Job.from_protobuf` accepts is, when its integers fit their fields, the message
`to_protobuf` writes for what it reads: the wire form of a job is unique, and reading it is
injective. A report's millisecond counts are read as instants and written as what the host's
`timestamp()` makes of them, which is where a report's message can change.

With the job specifications of `Skein.Spec`, `Job.from_protobuf` succeeds exactly on the wire
forms of the specifications that have a queue (`Spec.Job.fromProtobuf_iff`).
-/

namespace Skein

/-- A label's code is the code it was read from: the labels of an enum are distinct. -/
theorem WireEnum.value_of_name {e : WireEnum} {label : String} {code : Int}
    (h : e.name code = some label) : e.value label = some code := by
  unfold WireEnum.name at h
  split at h
  · obtain ⟨hlt, rfl⟩ := List.get?_eq_some.mp h
    simp [WireEnum.value, List.get_mem, List.indexOf_getElem e.nodup, Int.toNat_of_nonneg ‹_›]
  · cases h

namespace Wire

theorem readEnum_of_enumName {e : WireEnum} {name label : String} {code : Int}
    (h : enumName e code = .ok label) : readEnum e name (.str label) = .ok code := by
  unfold enumName at h
  split at h
  · cases h
    simp [readEnum, WireEnum.value_of_name ‹_›]
  · cases h

@[simp] theorem mapItems_readString_map {name : String} (ss : List String) :
    mapItems (readString name) (ss.map .str) = .ok ss := by
  induction ss with
  | nil => rfl
  | cons s ss ih => simp [readString, ih]

@[simp] theorem mapValues_readString_map {name : String} (ps : List (String × String)) :
    mapValues (readString name) (ps.map fun e => (e.1, .str e.2)) = .ok ps := by
  induction ps with
  | nil => rfl
  | cons p ps ih => simp [readString, ih]

/-- A map field read by `from_protobuf`, each value of which converts back to the message it
was read from when it fits, converts back to the same map field when all its values fit. -/
theorem convertEntries_of_mapValues {m : Method} {α : Type} {name : String}
    {as : Proto.Message → Option α} {wrap : α → Proto.Message} {back : α → Except Error Value}
    {fits : Value → Bool} (has : ∀ a, as (wrap a) = some a)
    (hb : ∀ {a v}, back a = .ok v → fits v → convert m v = .ok (.message (wrap a))) :
    ∀ {msgs : List (String × α)} {vals : List (String × Value)}, mapValues back msgs = .ok vals →
      (∀ e ∈ vals, fits e.2) →
      ∃ ds, convertEntries m vals = .ok ds ∧ mapValues (readMessage name as) ds = .ok msgs
  | [], _, h, _ => by cases h; exact ⟨[], rfl, rfl⟩
  | (k, a) :: rest, _, h, hf => by
    simp only [mapValues_cons, bind_eq_ok, pure_eq_ok, Except.ok.injEq] at h
    obtain ⟨v, hv, vs, hvs, rfl⟩ := h
    obtain ⟨ds, hds, hms⟩ := @convertEntries_of_mapValues m α name as wrap back fits has hb _ _
      hvs fun e he => hf e (List.mem_cons_of_mem _ he)
    exact ⟨(k, .message (wrap a)) :: ds, by simp [hb hv (hf _ (List.mem_cons_self _ _)), hds],
      by simp [readMessage, has, hms]⟩

end Wire

open Wire

/-- `_datetime_from_millis` of a whole number of milliseconds is that many milliseconds after
the epoch, when it succeeds. -/
theorem datetimeFromMillis_int_eq_ok {clock : Clock} {ms : Int} {v : Value}
    (h : datetimeFromMillis clock (.int ms) = .ok v) : v = .datetime (ms * 1000) := by
  simp only [datetimeFromMillis, instantOf] at h
  split at h
  · exact (Except.ok.inj h).symm
  · cases h

section ReadBack

variable {clock : Clock} {schema : Proto.Schema}

@[simp] theorem convertList_map_str {m : Method} (ss : List String) :
    convertList m (ss.map .str) = .ok (ss.map .str) :=
  convertList_of_isStr fun _ hi => by obtain ⟨s, -, rfl⟩ := List.mem_map.mp hi; exact ⟨s, rfl⟩

@[simp] theorem convertEntries_map_str {m : Method} (ps : List (String × String)) :
    convertEntries m (ps.map fun e => (e.1, .str e.2)) = .ok (ps.map fun e => (e.1, .str e.2)) :=
  convertEntries_of_isStr fun _ hi => by obtain ⟨p, -, rfl⟩ := List.mem_map.mp hi; exact ⟨_, rfl⟩

theorem Resources.convert_fromProtobuf {m : Proto.Resources} {x : Value}
    (h : Resources.fromProtobuf (.resources m) = .ok x) (hfit : x.wireFits clock schema) :
    convert (.toProtobuf clock schema) x = .ok (.message (.resources m)) := by
  obtain ⟨-, h⟩ := bind_unit_eq_ok.mp h
  obtain ⟨hv, ⟨⟩⟩ := bind_unit_eq_ok.mp h
  simp only [wireFits_resources, fitsInt_int, Bool.and_eq_true] at hfit
  simp [convert_resources, hv, Method.finish, Proto.Resources.make, field, readInt,
    List.lookup_cons, hfit]

theorem File.convert_fromProtobuf {m : Proto.File} {x : Value}
    (h : File.fromProtobuf schema (.file m) = .ok x) (hfit : x.wireFits clock schema) :
    convert (.toProtobuf clock schema) x = .ok (.message (.file m)) := by
  obtain ⟨t, ht, h⟩ := bind_eq_ok.mp h
  obtain ⟨v, hv, h⟩ := bind_eq_ok.mp h
  obtain ⟨hval, rfl⟩ := File.init_ok.mp h
  simp only [wireFits_file, fitsInt_int, Bool.and_eq_true] at hfit
  rw [convert_file]
  simp [File.validate_ok.mpr hval, Method.finish, Proto.File.make, field, readString, readInt,
    List.lookup_cons, readEnum_of_enumName ht, readEnum_of_enumName hv, hfit]

theorem Service.convert_fromProtobuf {m : Proto.Service} {x : Value}
    (h : Service.fromProtobuf schema (.service m) = .ok x) (hfit : x.wireFits clock schema) :
    convert (.toProtobuf clock schema) x = .ok (.message (.service m)) := by
  obtain ⟨r, hr, h⟩ := bind_eq_ok.mp h
  obtain ⟨fs, hfs, h⟩ := bind_eq_ok.mp h
  obtain ⟨-, h⟩ := bind_unit_eq_ok.mp h
  obtain ⟨hv, ⟨⟩⟩ := bind_unit_eq_ok.mp h
  simp only [ifNone] at hv hfit ⊢
  simp only [wireFits_service, fitsInt_int, wireFits_dict, Bool.and_eq_true,
    Value.wireFitsEntries_iff] at hfit
  obtain ⟨⟨hn, hrf⟩, hff⟩ := hfit
  obtain ⟨ds, hds, hms⟩ := @convertEntries_of_mapValues (.toProtobuf clock schema) _ "files"
    Proto.Message.asFile .file _ _ (fun _ => rfl) File.convert_fromProtobuf _ _ hfs hff
  rw [convert_service]
  simp [hv, Resources.convert_fromProtobuf hr hrf, hds, Method.finish, Proto.Service.make, field,
    readInt, readMessage, readMap, readRepeated, List.lookup_cons, Proto.Message.asResources, hms,
    hn]

theorem ResourceUsageReport.convert_fromProtobuf {m : Proto.ResourceUsageReport} {r : Value}
    (h : ResourceUsageReport.fromProtobuf (.resourceUsageReport m) = .ok r)
    (hfit : r.wireFits clock schema) :
    r.isEntity ∧
      convert (.toProtobuf clock schema) r = .ok (.message (.resourceUsageReport m)) := by
  obtain ⟨n1, h1, h⟩ := bind_eq_ok.mp h
  obtain ⟨n2, h2, h⟩ := bind_eq_ok.mp h
  obtain ⟨n3, h3, h⟩ := bind_eq_ok.mp h
  obtain ⟨hv, ⟨⟩⟩ := bind_unit_eq_ok.mp h
  simp only [wireFits_resourceUsageReport, fitsInt_int, Bool.and_eq_true] at hfit
  obtain ⟨⟨⟨⟨⟨ha, hb⟩, hc⟩, hf1⟩, hf2⟩, hf3⟩ := hfit
  refine ⟨rfl, ?_⟩
  rw [convert_resourceUsageReport]
  simp [hv, Resources.convert_fromProtobuf h1 hf1, Resources.convert_fromProtobuf h2 hf2,
    Resources.convert_fromProtobuf h3 hf3, Method.finish, Proto.ResourceUsageReport.make, field,
    readInt, readMessage, Proto.Message.asResources, List.lookup_cons, ha, hb, hc]

/-- What `to_protobuf` writes for a report `ApplicationReport.from_protobuf` read: the message
it was read from, with each instant written as the host's milliseconds for it. -/
theorem ApplicationReport.convert_fromProtobuf {m : Proto.ApplicationReport} {a : Value}
    (h : ApplicationReport.fromProtobuf clock schema (.applicationReport m) = .ok a)
    (hfit : a.wireFits clock schema) :
    a.isEntity ∧ convert (.toProtobuf clock schema) a = .ok (.message (.applicationReport
      { m with startTime := clock.timestampMillis (m.startTime * 1000)
               finishTime := clock.timestampMillis (m.finishTime * 1000) })) := by
  obtain ⟨st, hst, h⟩ := bind_eq_ok.mp h
  obtain ⟨fs, hfs, h⟩ := bind_eq_ok.mp h
  obtain ⟨u, hu, h⟩ := bind_eq_ok.mp h
  obtain ⟨t0, ht0, h⟩ := bind_eq_ok.mp h
  obtain ⟨t1, ht1, h⟩ := bind_eq_ok.mp h
  obtain ⟨hv, ⟨⟩⟩ := bind_unit_eq_ok.mp h
  obtain rfl := datetimeFromMillis_int_eq_ok ht0
  obtain rfl := datetimeFromMillis_int_eq_ok ht1
  simp only [wireFits_applicationReport, fitsInt_int, fitsTime_datetime, Bool.and_eq_true] at hfit
  obtain ⟨⟨⟨hpf, husf⟩, h0f⟩, h1f⟩ := hfit
  refine ⟨rfl, ?_⟩
  rw [convert_applicationReport]
  simp only [hv, convert_str, convert_list, convertList_map_str, Except.map_ok, convert_int,
    convert_float, (ResourceUsageReport.convert_fromProtobuf hu husf).2, convert_datetime,
    Method.clock, Method.finish, List.map, Proto.ApplicationReport.make_slots, ok_bind, map_bind,
    pure_eq_ok]
  simp [readString, readRepeated, readEnum_of_enumName hst, readEnum_of_enumName hfs, readFloat,
    readMessage, Proto.Message.asResourceUsageReport, readInt, hpf, h0f, h1f]

theorem Job.convert_fromProtobuf {m : Proto.Job} {j : Value}
    (h : Job.fromProtobuf schema (.job m) = .ok j) (hfit : j.wireFits clock schema) :
    j.isEntity ∧ convert (.toProtobuf clock schema) j = .ok (.message (.job m)) := by
  obtain ⟨ss, hss, h⟩ := bind_eq_ok.mp h
  obtain ⟨-, h⟩ := bind_unit_eq_ok.mp h
  obtain ⟨hv, ⟨⟩⟩ := bind_unit_eq_ok.mp h
  simp only [wireFits_job, wireFits_dict, Value.wireFitsEntries_iff] at hfit
  obtain ⟨ds, hds, hms⟩ := @convertEntries_of_mapValues (.toProtobuf clock schema) _ "services"
    Proto.Message.asService .service _ _ (fun _ => rfl) Service.convert_fromProtobuf _ _ hss hfit
  refine ⟨rfl, ?_⟩
  rw [convert_job]
  simp [hv, hds, Method.finish, Proto.Job.make, field, readString, readMap, List.lookup_cons, hms]

/-- Every message that `Job.from_protobuf` accepts, whose integers fit their fields, is the
message `to_protobuf` writes for the job it reads: its services, their resources and files,
and the files' enum codes. -/
theorem Job.toProtobuf_of_fromProtobuf {msg : Proto.Message} {j : Value}
    (h : Job.fromProtobuf schema msg = .ok j) (hfit : j.wireFits clock schema) :
    j.toProtobuf clock schema = .ok msg := by
  cases msg with
  | job m =>
    obtain ⟨he, hc⟩ := Job.convert_fromProtobuf h hfit
    exact Value.toProtobuf_of_convert he hc
  | _ => cases h

theorem Job.toProtobuf_of_fromProtobuf_archive :
    let clock : Clock := ⟨fun us => us / 1000, fun _ => throw .timedelta⟩
    let schema : Proto.Schema := ⟨⟨["FILE", "ARCHIVE"], by decide⟩,
      ⟨["PUBLIC", "PRIVATE", "APPLICATION"], by decide⟩, ⟨[], List.nodup_nil⟩,
      ⟨[], List.nodup_nil⟩, fun _ => .int32, List.Perm.refl _, by decide⟩
    let msg : Proto.Message := .job ⟨"skein", "default",
      [("web", ⟨2, ⟨1024, 1⟩, [("env.zip", ⟨"hdfs://nn/env.zip", 1, 2, 10, 5⟩)],
        [("PORT", "8080")], ["unzip env.zip", "serve"], []⟩),
       ("worker", ⟨0, ⟨512, 2⟩, [], [], ["work"], ["web"]⟩)]⟩
    ∃ j, Job.fromProtobuf schema msg = .ok j ∧ j.wireFits clock schema ∧
      j.toProtobuf clock schema = .ok msg :=
  ⟨_, rfl, rfl, Job.toProtobuf_of_fromProtobuf rfl rfl⟩

namespace Spec

theorem Job.withWireQueue_of_isSome {j : Job} (h : j.queue.isSome) : j.withWireQueue = j := by
  obtain ⟨_, _ | _, _, _⟩ := j
  · cases h
  · rfl

/-- On a value whose integers fit the wire, `Job.from_protobuf` succeeds exactly on the wire
forms of the job specifications that have a queue, and reads each as the specification's
value: it is a bijection between the messages it accepts and those specifications. -/
theorem Job.fromProtobuf_iff {msg : Proto.Message} {v : Value} (hfit : v.wireFits clock schema) :
    Skein.Job.fromProtobuf schema msg = .ok v ↔
      ∃ j : Job, j.queue.isSome ∧ j.toValue = v ∧ v.toProtobuf clock schema = .ok msg := by
  constructor
  · intro h
    cases msg with
    | job m =>
      obtain ⟨hd, -⟩ := Skein.Job.fromProtobuf_plain h
      obtain ⟨he, hc⟩ := Skein.Job.convert_fromProtobuf h hfit
      obtain ⟨_, -, hi⟩ := bind_eq_ok.mp h
      obtain ⟨hv, rfl⟩ := Skein.Job.init_ok.mp hi
      obtain ⟨j, hj⟩ := Job.exists_of_valid hv hd
      refine ⟨j, ?_, hj, Value.toProtobuf_of_convert he hc⟩
      obtain ⟨_, _ | _, _, _⟩ := j
      · cases hj
      · rfl
    | _ => cases h
  · rintro ⟨j, hq, rfl, hm⟩
    have := j.fromProtobuf_toProtobuf hfit
    rwa [hm, ok_bind, Job.withWireQueue_of_isSome hq] at this

theorem Job.fromProtobuf_iff_web :
    let clock : Clock := ⟨fun us => us / 1000, fun _ => throw .timedelta⟩
    let schema : Proto.Schema := ⟨⟨["FILE", "ARCHIVE"], by decide⟩,
      ⟨["PUBLIC", "PRIVATE", "APPLICATION"], by decide⟩, ⟨[], List.nodup_nil⟩,
      ⟨[], List.nodup_nil⟩, fun _ => .int32, List.Perm.refl _, by decide⟩
    let v : Value := .job (.str "skein") (.str "default") (.dict true [("web", .service
      (.list [.str "serve"]) (.resources (.int 1) (.int 1)) (.int 1) (.dict true [])
      (.dict true []) (.list []))])
    v.wireFits clock schema ∧
      (Skein.Job.fromProtobuf schema (.job ⟨"skein", "default",
          [("web", ⟨1, ⟨1, 1⟩, [], [], ["serve"], []⟩)]⟩) = .ok v ↔
        ∃ j : Job, j.queue.isSome ∧ j.toValue = v ∧ v.toProtobuf clock schema =
          .ok (.job ⟨"skein", "default", [("web", ⟨1, ⟨1, 1⟩, [], [], ["serve"], []⟩)]⟩)) :=
  ⟨rfl, Job.fromProtobuf_iff rfl⟩

end Spec

end ReadBack

end Skein
