import Skein.WireRoundTrip

/-!
The job specification the data model stands for: records whose fields carry the invariants
`_validate` checks, so that no invalid specification can be built. A record's value in the
model has plain mappings and passes `_validate`. Conversely, every valid job whose mappings
are plain is the value of exactly one specification. Every specification whose integers fit
the wire travels over it and comes back with no queue read back as the queue `''`.
-/

namespace Skein

namespace Spec

/-- A resource request: at least 1 MB of memory and 1 virtual core. -/
@[ext] structure Resources where
  memory : Nat
  vcores : Nat
  memory_pos : 0 < memory
  vcores_pos : 0 < vcores

/-- A file to distribute: a source, a type and a visibility among the labels `File` admits,
a size and a timestamp. -/
@[ext] structure File where
  source : String
  type : String
  visibility : String
  size : Nat
  timestamp : Nat
  type_mem : type ∈ Skein.File.types
  visibility_mem : visibility ∈ Skein.File.visibilities

/-- A service: at least one command, a resource request, a number of instances, files by
destination, an environment and the services it depends on. -/
@[ext] structure Service where
  commands : List String
  resources : Resources
  instances : Nat
  files : List (String × File)
  env : List (String × String)
  depends : List String
  commands_ne : commands ≠ []

/-- A job: a name, a queue or none, and at least one service by name. -/
@[ext] structure Job where
  name : String
  queue : Option String
  services : List (String × Service)
  services_ne : services ≠ []

/-- The `Resources` of a request. -/
def Resources.toValue (r : Resources) : Value :=
  .resources (.int r.memory) (.int r.vcores)

/-- The `File` of a file. -/
def File.toValue (f : File) : Value :=
  .file (.str f.source) (.str f.type) (.str f.visibility) (.int f.size) (.int f.timestamp)

/-- The `Service` of a service, with plain mappings. -/
def Service.toValue (s : Service) : Value :=
  .service (.list (s.commands.map .str)) s.resources.toValue (.int s.instances)
    (.dict true (s.files.map fun e => (e.1, e.2.toValue)))
    (.dict true (s.env.map fun e => (e.1, .str e.2))) (.list (s.depends.map .str))

/-- The job as the wire carries it: no queue becomes the queue `''`. -/
def Job.withWireQueue (j : Job) : Job :=
  { j with queue := some (j.queue.getD "") }

/-- The `Job` of a job, with a plain mapping of services. -/
def Job.toValue (j : Job) : Value :=
  .job (.str j.name) (j.queue.elim .none .str)
    (.dict true (j.services.map fun e => (e.1, e.2.toValue)))

end Spec

/-- A service whose `files` and `env` are plain `dict`s. -/
def Service.dictsPlain : Value → Bool
  | .service _ _ _ (.dict true _) (.dict true _) _ => true
  | _ => false

/-- A job whose `services`, and every service's `files` and `env`, are plain `dict`s. -/
def Job.dictsPlain : Value → Bool
  | .job _ _ (.dict true services) => services.all fun e => Service.dictsPlain e.2
  | _ => false

/-- A list whose every item is an image of `f` is the image of a list. -/
theorem exists_map_eq_of_forall {α β : Type} {f : α → β} :
    ∀ {l : List β}, (∀ b ∈ l, ∃ a, f a = b) → ∃ as : List α, as.map f = l
  | [], _ => ⟨[], rfl⟩
  | _ :: _, h => by
    obtain ⟨a, ha⟩ := h _ (List.mem_cons_self _ _)
    obtain ⟨as, has⟩ := exists_map_eq_of_forall fun b hb => h b (List.mem_cons_of_mem _ hb)
    exact ⟨a :: as, by rw [List.map_cons, ha, has]⟩

/-- A mapping whose every value is an image of `f` is the image of a mapping. -/
theorem exists_entries_eq_of_forall {α : Type} {f : α → Value}
    {entries : List (String × Value)} (h : ∀ e ∈ entries, ∃ a, f a = e.2) :
    ∃ as : List (String × α), as.map (fun e => (e.1, f e.2)) = entries :=
  @exists_map_eq_of_forall _ _ (fun e => (e.1, f e.2)) entries fun e he =>
    let ⟨a, ha⟩ := h e he
    ⟨(e.1, a), by show (e.1, f a) = e; rw [ha]⟩

namespace Spec

section Sound

theorem isListOf_map_str (l : List String) : (Value.list (l.map .str)).IsListOf Value.IsStr := by
  rintro _ hi
  obtain ⟨s, -, rfl⟩ := List.mem_map.mp hi
  exact ⟨s, rfl⟩

theorem isDictOf_map {α : Type} {f : α → Value} {p : Value → Prop} (hf : ∀ a, p (f a))
    (l : List (String × α)) : (Value.dict true (l.map fun e => (e.1, f e.2))).IsDictOf p := by
  rintro _ he
  obtain ⟨e, -, rfl⟩ := List.mem_map.mp he
  exact hf e.2

theorem Resources.valid (r : Resources) : Skein.Resources.Valid 1 r.toValue :=
  ⟨⟨_, rfl, by have := r.memory_pos; omega⟩, ⟨_, rfl, by have := r.vcores_pos; omega⟩⟩

theorem File.valid (f : File) : Skein.File.Valid f.toValue :=
  ⟨⟨_, rfl⟩, ⟨_, rfl, f.type_mem⟩, ⟨_, rfl, f.visibility_mem⟩, ⟨_, rfl, by omega⟩,
    ⟨_, rfl, by omega⟩⟩

theorem Service.valid (s : Service) : Skein.Service.Valid s.toValue :=
  ⟨⟨_, rfl, by omega⟩, s.resources.valid, isDictOf_map File.valid _,
    isDictOf_map (fun _ => ⟨_, rfl⟩) _, isListOf_map_str _, by simpa using s.commands_ne,
    isListOf_map_str _⟩

theorem Job.valid (j : Job) : Skein.Job.Valid j.toValue := by
  refine ⟨⟨_, rfl⟩, ?_, isDictOf_map Service.valid _,
    by simpa [Value.entries] using j.services_ne⟩
  cases j.queue
  · exact .inr rfl
  · exact .inl ⟨_, rfl⟩

@[simp] theorem Service.dictsPlain_toValue (s : Service) : Skein.Service.dictsPlain s.toValue :=
  rfl

@[simp] theorem Service.filesPlain_toValue (s : Service) : Skein.Service.filesPlain s.toValue :=
  rfl

theorem Job.dictsPlain_toValue (j : Job) : Skein.Job.dictsPlain j.toValue :=
  List.all_eq_true.mpr fun _ he => by
    obtain ⟨e, -, rfl⟩ := List.mem_map.mp he
    exact e.2.dictsPlain_toValue

theorem Job.mappingsPlain_toValue (j : Job) : Skein.Job.mappingsPlain j.toValue :=
  List.all_eq_true.mpr fun _ he => by
    obtain ⟨e, -, rfl⟩ := List.mem_map.mp he
    exact e.2.filesPlain_toValue

end Sound

section Complete

theorem Resources.exists_of_valid {v : Value} (h : Skein.Resources.Valid 1 v) :
    ∃ r : Resources, r.toValue = v := by
  cases v with
  | resources memory vcores =>
    obtain ⟨⟨m, rfl, hm⟩, ⟨n, rfl, hn⟩⟩ := h
    exact ⟨⟨m.toNat, n.toNat, by omega, by omega⟩, by simp [toValue, hm, hn]; omega⟩
  | _ => exact h.elim

theorem File.exists_of_valid {v : Value} (h : Skein.File.Valid v) :
    ∃ f : File, f.toValue = v := by
  cases v with
  | file source type visibility size timestamp =>
    obtain ⟨⟨s, rfl⟩, ⟨t, rfl, ht⟩, ⟨vis, rfl, hv⟩, ⟨z, rfl, hz⟩, ⟨ts, rfl, hts⟩⟩ := h
    exact ⟨⟨s, t, vis, z.toNat, ts.toNat, ht, hv⟩, by simp [toValue]; omega⟩
  | _ => exact h.elim

theorem strs_of_isListOf {items : List Value} (h : (Value.list items).IsListOf Value.IsStr) :
    ∃ strs : List String, strs.map .str = items :=
  exists_map_eq_of_forall fun i hi => (h i hi).elim fun s hs => ⟨s, hs.symm⟩

theorem Service.exists_of_valid {v : Value} (h : Skein.Service.Valid v)
    (hp : Skein.Service.dictsPlain v) : ∃ s : Service, s.toValue = v := by
  cases v with
  | service commands resources instances files env depends =>
    obtain ⟨⟨n, rfl, hn⟩, hr, hf, he, hc, hne, hd⟩ := h
    obtain ⟨r, rfl⟩ := Resources.exists_of_valid hr
    obtain ⟨cs, rfl, -⟩ := hc.eq_list
    obtain ⟨ds, rfl, -⟩ := hd.eq_list
    obtain ⟨_ | _, fs, rfl, hfs⟩ := hf.eq_dict <;>
      obtain ⟨_ | _, es, rfl, hes⟩ := he.eq_dict <;> simp [Skein.Service.dictsPlain] at hp
    obtain ⟨cmds, rfl⟩ := strs_of_isListOf hc
    obtain ⟨deps, rfl⟩ := strs_of_isListOf hd
    obtain ⟨files, rfl⟩ :=
      exists_entries_eq_of_forall fun e he => File.exists_of_valid (hfs e he)
    obtain ⟨env, rfl⟩ := @exists_entries_eq_of_forall String Value.str _ fun e he =>
      (hes e he).elim fun s hs => ⟨s, hs.symm⟩
    refine ⟨⟨cmds, r, n.toNat, files, env, deps, by rintro rfl; exact hne rfl⟩, ?_⟩
    simp [toValue]
    omega
  | _ => exact h.elim

theorem Job.exists_of_valid {v : Value} (h : Skein.Job.Valid v) (hp : Skein.Job.dictsPlain v) :
    ∃ j : Job, j.toValue = v := by
  cases v with
  | job name queue services =>
    obtain ⟨⟨n, rfl⟩, hq, hs, hne⟩ := h
    obtain ⟨_ | _, ss, rfl, hss⟩ := hs.eq_dict <;> simp [Skein.Job.dictsPlain] at hp
    obtain ⟨services, rfl⟩ := exists_entries_eq_of_forall fun e he =>
      Service.exists_of_valid (hss e he) (hp e.1 e.2 he)
    have hq' : ∃ q : Option String, q.elim .none .str = queue := by
      rcases hq with ⟨q, rfl⟩ | rfl
      exacts [⟨some q, rfl⟩, ⟨none, rfl⟩]
    obtain ⟨q, rfl⟩ := hq'
    exact ⟨⟨n, q, services, by rintro rfl; exact hne rfl⟩, rfl⟩
  | _ => exact h.elim

end Complete

section Injective

theorem Resources.toValue_injective : Function.Injective Resources.toValue := by
  intro r r' h
  simp only [toValue, Value.resources.injEq, Value.int.injEq] at h
  exact Resources.ext (by omega) (by omega)

theorem File.toValue_injective : Function.Injective File.toValue := by
  intro f f' h
  simp only [toValue, Value.file.injEq, Value.str.injEq, Value.int.injEq] at h
  obtain ⟨h1, h2, h3, h4, h5⟩ := h
  exact File.ext h1 h2 h3 (by omega) (by omega)

theorem entries_map_injective {α : Type} {f : α → Value} (hf : Function.Injective f) :
    Function.Injective (List.map fun e : String × α => (e.1, f e.2)) :=
  List.map_injective_iff.mpr fun _ _ h => Prod.ext (Prod.mk.inj h).1 (hf (Prod.mk.inj h).2)

theorem Service.toValue_injective : Function.Injective Service.toValue := by
  intro s s' h
  simp only [toValue, Value.service.injEq, Value.list.injEq, Value.int.injEq, Value.dict.injEq,
    true_and] at h
  obtain ⟨hc, hr, hi, hf, he, hd⟩ := h
  exact Service.ext (List.map_injective_iff.mpr (fun _ _ => Value.str.inj) hc)
    (Resources.toValue_injective hr) (by omega) (entries_map_injective File.toValue_injective hf)
    (entries_map_injective (fun _ _ => Value.str.inj) he)
    (List.map_injective_iff.mpr (fun _ _ => Value.str.inj) hd)

theorem Job.toValue_injective : Function.Injective Job.toValue := by
  intro j j' h
  simp only [toValue, Value.job.injEq, Value.str.injEq, Value.dict.injEq, true_and] at h
  obtain ⟨hn, hq, hs⟩ := h
  refine Job.ext hn ?_ (entries_map_injective Service.toValue_injective hs)
  cases hj : j.queue <;> cases hj' : j'.queue <;> simp_all

end Injective

/-- The valid jobs whose mappings are plain are exactly the values of job specifications. -/
theorem Job.valid_iff {v : Value} :
    Skein.Job.Valid v ∧ Skein.Job.dictsPlain v ↔ ∃ j : Job, j.toValue = v := by
  constructor
  · rintro ⟨h, hp⟩
    exact Job.exists_of_valid h hp
  · rintro ⟨j, rfl⟩
    exact ⟨j.valid, j.dictsPlain_toValue⟩

/-- `Job._validate`, on a job whose mappings are plain, passes exactly on the values of job
specifications. -/
theorem Job.validate_iff {v : Value} :
    v.validate = .ok () ∧ Skein.Job.dictsPlain v ↔ ∃ j : Job, j.toValue = v := by
  rw [← Job.valid_iff]
  cases v with
  | job name queue services => simp only [Value.validate, Skein.Job.validate_ok]
  | _ => simp [Skein.Job.dictsPlain]

@[simp] theorem Service.wireImage_toValue (s : Service) :
    Skein.Service.wireImage s.toValue = s.toValue :=
  rfl

theorem Job.wireImage_toValue (j : Job) :
    Skein.Job.wireImage j.toValue = j.withWireQueue.toValue := by
  obtain ⟨name, queue, services, hne⟩ := j
  cases queue <;> simp [toValue, withWireQueue, Skein.Job.wireImage, Value.entries, ifNone]

/-- Every job specification whose integers fit the wire travels over it and comes back with
no queue read as the queue `''`. -/
theorem Job.fromProtobuf_toProtobuf (j : Job) {clock : Clock} {schema : Proto.Schema}
    (hfit : j.toValue.wireFits clock schema) :
    j.toValue.toProtobuf clock schema >>= Skein.Job.fromProtobuf schema =
      .ok j.withWireQueue.toValue := by
  rw [← j.wireImage_toValue]
  exact bind_eq_ok.mpr (j.valid.toProtobuf_fromProtobuf j.mappingsPlain_toValue hfit)

end Spec

end Skein
