import Skein.FileSpec

/-!
The files of a `Service` read from a mapping. A list of file specs becomes a mapping through
`dict(File._parse_file_spec(v) for v in files)`: each spec's file is stored under its dest, and
a later spec with the same dest replaces the earlier one without an error. A mapping of
canonical `File` mappings, written instead as the list of those mappings each with its dest
added, reads to the same service.
-/

namespace Skein

namespace File

section DictInsert

variable {l : List (String × Value)} {k k' : String} {v : Value}

theorem lookup_cons_eq_ite {a : String} {b : Value} :
    ((a, b) :: l).lookup k = if k = a then some b else l.lookup k := by
  by_cases h : k = a
  · subst h
    simp [List.lookup_cons]
  · simp [List.lookup_cons, beq_false_of_ne h, h]

/-- `d[k] = v` changes the value at `k` and no other. -/
theorem dictInsert_lookup :
    (dictInsert l k v).lookup k' = if k' = k then some v else l.lookup k' := by
  induction l with
  | nil => simp [dictInsert, lookup_cons_eq_ite]
  | cons p rest ih =>
    obtain ⟨a, b⟩ := p
    by_cases ha : a = k
    · subst ha
      by_cases h : k' = a <;> simp [dictInsert, lookup_cons_eq_ite, h]
    · by_cases h : k' = a
      · subst h
        simp [dictInsert, lookup_cons_eq_ite, ha]
      · simp [dictInsert, lookup_cons_eq_ite, ha, h, ih]

theorem mem_dictInsert {p : String × Value} (hp : p ∈ dictInsert l k v) :
    p ∈ l ∨ p = (k, v) := by
  induction l with
  | nil => simpa [dictInsert] using hp
  | cons q rest ih =>
    unfold dictInsert at hp
    split at hp
    · rcases List.mem_cons.mp hp with rfl | h
      · exact .inr rfl
      · exact .inl (List.mem_cons_of_mem _ h)
    · rcases List.mem_cons.mp hp with rfl | h
      · exact .inl (List.mem_cons_self _ _)
      · exact (ih h).imp_left (List.mem_cons_of_mem _)

theorem dictInsert_keys_nodup (h : (l.map Prod.fst).Nodup) :
    ((dictInsert l k v).map Prod.fst).Nodup := by
  induction l with
  | nil => simp [dictInsert]
  | cons p rest ih =>
    obtain ⟨a, b⟩ := p
    simp only [List.map_cons, List.nodup_cons] at h
    unfold dictInsert
    split
    · simpa [*] using h
    · refine List.nodup_cons.mpr ⟨fun hm => ?_, ih h.2⟩
      obtain ⟨q, hq, rfl⟩ := List.mem_map.mp hm
      rcases mem_dictInsert hq with hq | rfl
      · exact h.1 (List.mem_map_of_mem _ hq)
      · contradiction

theorem dictInsert_of_not_mem (h : k ∉ l.map Prod.fst) : dictInsert l k v = l ++ [(k, v)] := by
  induction l with
  | nil => rfl
  | cons p rest ih =>
    simp only [List.map_cons, List.mem_cons, not_or] at h
    simp [dictInsert, Ne.symm h.1, ih h.2]

end DictInsert

/-- The pair a file spec reads to: the dest `_parse_file_spec` returns, as a key of
`files`, and the file. -/
def ReadsTo (v : Value) (p : String × Value) : Prop :=
  ∃ dest, parseFileSpec v = .ok (dest, p.2) ∧ destKey dest = .ok p.1

/-- `dict(pairs)` onto `acc`: each pair stored under its key in turn. -/
def insertAll (acc : List (String × Value)) (pairs : List (String × Value)) :
    List (String × Value) :=
  pairs.foldl (fun a p => dictInsert a p.1 p.2) acc

theorem insertAll_lookup {acc pairs : List (String × Value)} {k : String} :
    (insertAll acc pairs).lookup k = (pairs.reverse.lookup k).or (acc.lookup k) := by
  induction pairs generalizing acc with
  | nil => simp [insertAll]
  | cons p rest ih =>
    obtain ⟨a, b⟩ := p
    simp only [insertAll, List.foldl_cons] at ih ⊢
    rw [ih, dictInsert_lookup, List.reverse_cons, List.lookup_append, Option.or_assoc]
    by_cases h : k = a <;> simp [lookup_cons_eq_ite, h]

theorem insertAll_keys_nodup {acc pairs : List (String × Value)} (h : (acc.map Prod.fst).Nodup) :
    ((insertAll acc pairs).map Prod.fst).Nodup := by
  induction pairs generalizing acc with
  | nil => exact h
  | cons p rest ih => exact ih (dictInsert_keys_nodup h)

/-- A list of file specs reads, onto `acc`, to the pairs the specs read to, stored in turn. -/
theorem parseFileSpecs_ok {specs : List Value} {acc fs : List (String × Value)}
    (h : parseFileSpecs specs acc = .ok fs) :
    ∃ pairs, List.Forall₂ ReadsTo specs pairs ∧ fs = insertAll acc pairs := by
  induction specs generalizing acc with
  | nil => exact ⟨[], .nil, (Except.ok.inj h).symm⟩
  | cons v rest ih =>
    obtain ⟨⟨dest, f⟩, hv, h⟩ := bind_eq_ok.mp h
    obtain ⟨key, hkey, h⟩ := bind_eq_ok.mp h
    obtain ⟨pairs, hpairs, rfl⟩ := ih h
    exact ⟨(key, f) :: pairs, .cons ⟨dest, hv, hkey⟩ hpairs, rfl⟩

end File

/-- On success, `Service.from_dict` has read the files and made the keyword call with them. -/
theorem Service.fromDict_call {obj s : Value} (h : Service.fromDict obj = .ok s) :
    ∃ resources files instances, Service.filesFromDict (obj.get "files") = .ok files ∧
      Service.call ([("resources", resources), ("files", files), ("env", obj.get "env"),
        ("commands", obj.get "commands"), ("depends", obj.get "depends")] ++ instances) =
        .ok s := by
  obtain ⟨_, -, resources, -, files, hfiles, h⟩ := by
    simpa only [Service.fromDict, Service.kwargsCall, bind_eq_ok] using h
  refine ⟨resources, files, ?_⟩
  split at h
  · obtain ⟨v, -, h⟩ := bind_eq_ok.mp h
    exact ⟨[("instances", v)], hfiles, h⟩
  · exact ⟨[], hfiles, h⟩

/-- The keyword call of `Service.from_dict` builds a service holding the files it is given. -/
theorem Service.call_files {resources files env commands depends s : Value}
    {instances : List (String × Value)}
    (h : Service.call ([("resources", resources), ("files", files), ("env", env),
      ("commands", commands), ("depends", depends)] ++ instances) = .ok s) :
    ∃ commands resources instances env depends,
      s = .service commands resources instances (ifNone files (.dict true [])) env depends := by
  obtain ⟨-, h⟩ := bind_unit_eq_ok.mp h
  obtain ⟨-, rfl⟩ := Service.init_ok.mp h
  exact ⟨_, _, _, _, _, rfl⟩

/-- A list of file specs reads onto `acc` exactly when every spec reads to a pair, and then
to the pairs stored in turn: a repeated dest is no error. -/
theorem File.parseFileSpecs_eq_ok {specs : List Value} {acc fs : List (String × Value)} :
    parseFileSpecs specs acc = .ok fs ↔
      ∃ pairs, List.Forall₂ ReadsTo specs pairs ∧ fs = insertAll acc pairs := by
  refine ⟨parseFileSpecs_ok, ?_⟩
  rintro ⟨pairs, hpairs, rfl⟩
  induction hpairs generalizing acc with
  | nil => rfl
  | cons hv _ ih =>
    obtain ⟨dest, hv, hkey⟩ := hv
    simp only [parseFileSpecs, hv, hkey, ok_bind]
    exact ih

/-- A service mapping whose `files` is a list of file specs reads exactly when its keys are
known, its resources read, every spec reads to a string dest and a file, and the keyword call
accepts the mapping that stores each spec's file under its dest in turn: a later spec with the
same dest replaces the earlier one, and no repeated dest raises. -/
theorem Service.fromDict_filesList {obj s : Value} {specs : List Value}
    (hf : obj.get "files" = .list specs) :
    Service.fromDict obj = .ok s ↔
      checkKeys "Service" slots obj = .ok () ∧
      ∃ resources, resourcesFromDict (obj.get "resources") = .ok resources ∧
      ∃ pairs : List (String × Value), List.Forall₂ File.ReadsTo specs pairs ∧
        kwargsCall obj resources (.dict true (File.insertAll [] pairs)) = .ok s := by
  have hfiles : ∀ files, filesFromDict (obj.get "files") = .ok files ↔
      ∃ pairs, List.Forall₂ File.ReadsTo specs pairs ∧
        files = .dict true (File.insertAll [] pairs) := fun files => by
    simp only [hf, filesFromDict, map_eq_ok, File.parseFileSpecs_eq_ok]
    constructor
    · rintro ⟨_, ⟨pairs, hp, rfl⟩, rfl⟩
      exact ⟨pairs, hp, rfl⟩
    · rintro ⟨pairs, hp, rfl⟩
      exact ⟨_, ⟨pairs, hp, rfl⟩, rfl⟩
  simp only [Service.fromDict, bind_eq_ok, hfiles]
  constructor
  · rintro ⟨⟨⟩, hk, r, hr, _, ⟨pairs, hp, rfl⟩, hc⟩
    exact ⟨hk, r, hr, pairs, hp, hc⟩
  · rintro ⟨hk, r, hr, pairs, hp, hc⟩
    exact ⟨(), hk, r, hr, _, ⟨pairs, hp, rfl⟩, hc⟩

theorem Service.fromDict_filesList_sameDest :
    let specs : List Value :=
      [.dict true [("file", .str "a/x.txt")], .dict true [("file", .str "b/x.txt")]]
    let obj : Value := .dict true [("commands", .list [.str "serve"]),
      ("resources", .dict true [("memory", .int 1), ("vcores", .int 1)]), ("files", .list specs)]
    let s : Value := .service (.list [.str "serve"]) (.resources (.int 1) (.int 1)) (.int 1)
      (.dict true [("x.txt", .file (.str "b/x.txt") (.str "FILE") (.str "APPLICATION") (.int 0)
        (.int 0))]) (.dict true []) (.list [])
    obj.get "files" = .list specs ∧
      (Service.fromDict obj = .ok s ↔
        checkKeys "Service" Service.slots obj = .ok () ∧
        ∃ resources, Service.resourcesFromDict (obj.get "resources") = .ok resources ∧
        ∃ pairs : List (String × Value), List.Forall₂ File.ReadsTo specs pairs ∧
          Service.kwargsCall obj resources (.dict true (File.insertAll [] pairs)) = .ok s) :=
  ⟨rfl, Service.fromDict_filesList rfl⟩

/-- Two file specs with the same dest: `Service.from_dict` raises nothing and keeps only the
second spec's file. -/
theorem Service.fromDict_sameDest :
    Service.fromDict (.dict true [("commands", .list [.str "serve"]),
        ("resources", .dict true [("memory", .int 1), ("vcores", .int 1)]),
        ("files", .list [.dict true [("file", .str "a/x.txt")],
          .dict true [("file", .str "b/x.txt")]])]) =
      .ok (.service (.list [.str "serve"]) (.resources (.int 1) (.int 1)) (.int 1)
        (.dict true [("x.txt", .file (.str "b/x.txt") (.str "FILE") (.str "APPLICATION") (.int 0)
          (.int 0))]) (.dict true []) (.list [])) :=
  rfl

/-- `obj[k] = v` on a mapping: a present key keeps its place. -/
def Value.set (obj : Value) (k : String) (v : Value) : Value :=
  match obj with
  | .dict exact entries => .dict exact (File.dictInsert entries k v)
  | obj => obj

theorem Value.lookup_set {exact : Bool} {entries : List (String × Value)} {k k' : String}
    {v : Value} : ((Value.dict exact entries).set k v).entries.lookup k' =
      if k' = k then some v else entries.lookup k' :=
  File.dictInsert_lookup

/-- `_parse_file_spec` of a canonical `File` mapping with its dest added returns that dest and
the file `File.from_dict` builds from the mapping. -/
theorem File.parseFileSpec_set_dest {v f : Value} {dest : String} (h : File.fromDict v = .ok f) :
    parseFileSpec (v.set "dest" (.str dest)) = .ok (.str dest, f) := by
  obtain ⟨_, hk, h⟩ := bind_eq_ok.mp h
  obtain ⟨exact, es, rfl, hes⟩ := checkKeys_ok.mp hk
  obtain ⟨-, h⟩ := bind_unit_eq_ok.mp h
  obtain ⟨hv, rfl⟩ := File.init_ok.mp h
  simp only [kwarg, Value.entries] at hv ⊢
  obtain ⟨⟨src, hsrc⟩, ⟨t, ht, htm⟩, -, -, -⟩ := id hv
  have hsource : es.lookup "source" = some (.str src) := by
    revert hsrc
    cases es.lookup "source" <;> simp
  have hupper : Py.upper t = t := by
    rcases List.mem_pair.mp htm with rfl | rfl <;> rfl
  have hnone : ∀ k, k ∉ File.slots → es.lookup k = none := fun k hk =>
    List.lookup_eq_none_iff.mpr fun p hp => bne_iff_ne.mpr fun h => hk (h ▸ hes p hp)
  have hkeys : ∀ p ∈ dictInsert es "dest" (.str dest), p.1 ∈ slots ∨ p.1 = "dest" :=
    fun p hp => (mem_dictInsert hp).elim (fun hp => .inl (hes p hp)) fun hp => .inr (by rw [hp])
  rw [hsource, Option.getD_some, ht] at hv ⊢
  show parseFileSpec (.dict exact (dictInsert es "dest" (.str dest))) = _
  simp [parseFileSpec, specKey, specSourceType, specDest, Value.contains, Value.index,
    Value.getD, Value.entries, dictInsert_lookup, hnone "file" (by decide),
    hnone "archive" (by decide), hsource, ht, hupper, File.init_ok.mpr ⟨hv, rfl⟩]
  exact fun a b hab => hkeys (a, b) hab

/-- The list of a files mapping's canonical `File` mappings, each with its dest added, reads
onto `acc` to the files `File.from_dict` builds, in the mapping's order, when the dests are
distinct and new to `acc`. -/
theorem File.parseFileSpecs_set_dest {D fs acc : List (String × Value)}
    (h : mapValues File.fromDict D = .ok fs) (hD : (D.map Prod.fst).Nodup)
    (hacc : ∀ p ∈ D, p.1 ∉ acc.map Prod.fst) :
    parseFileSpecs (D.map fun p => p.2.set "dest" (.str p.1)) acc = .ok (acc ++ fs) := by
  induction D generalizing acc fs with
  | nil => cases h; simp [parseFileSpecs]
  | cons p rest ih =>
    obtain ⟨k, v⟩ := p
    obtain ⟨f, hf, h⟩ := bind_eq_ok.mp h
    obtain ⟨fs', hfs', ⟨⟩⟩ := bind_eq_ok.mp h
    simp only [List.map_cons, List.nodup_cons, List.mem_map, not_exists, not_and] at hD
    have hk : k ∉ acc.map Prod.fst := hacc (k, v) (List.mem_cons_self _ _)
    have hrest : ∀ p ∈ rest, p.1 ∉ (acc ++ [(k, f)]).map Prod.fst := fun p hp hm => by
      rw [List.map_append, List.mem_append] at hm
      rcases hm with hm | hm
      · exact hacc p (List.mem_cons_of_mem _ hp) hm
      · exact hD.1 p hp (by simpa using hm)
    simp only [List.map_cons, parseFileSpecs, parseFileSpec_set_dest hf, ok_bind, destKey,
      pure_eq_ok, dictInsert_of_not_mem hk, ih hfs' hD.2 hrest, List.append_assoc,
      List.singleton_append]

/-- `Service.from_dict` reads only the keys of a mapping, its `files` through
`filesFromDict`, and its other keys' values. -/
theorem Service.fromDict_congr {obj obj' : Value}
    (hk : checkKeys "Service" slots obj' = checkKeys "Service" slots obj)
    (hl : ∀ k, k ≠ "files" → obj'.entries.lookup k = obj.entries.lookup k)
    (hf : filesFromDict (obj'.get "files") = filesFromDict (obj.get "files")) :
    Service.fromDict obj' = Service.fromDict obj := by
  have hg : ∀ k, k ≠ "files" → obj'.get k = obj.get k := fun k hk => by
    simp only [Value.get, Value.getD, hl k hk]
  simp only [Service.fromDict, Service.kwargsCall, hk, hf, Value.contains, Value.index,
    hl "instances" (by decide),
    hg "resources" (by decide), hg "env" (by decide), hg "commands" (by decide),
    hg "depends" (by decide)]

/-- A service mapping whose `files` is a mapping of canonical `File` mappings reads to the same
service when the mapping is replaced by the list of its `File` mappings, each with its dest
added under `dest`. -/
theorem Service.fromDict_filesAsList {obj s : Value} {exact : Bool} {D : List (String × Value)}
    (hf : obj.get "files" = .dict exact D) (hD : (D.map Prod.fst).Nodup)
    (h : Service.fromDict obj = .ok s) :
    Service.fromDict (obj.set "files" (.list (D.map fun p => p.2.set "dest" (.str p.1)))) =
      .ok s := by
  obtain ⟨_, hk, _, -, files, hfiles, -⟩ := by
    simpa only [Service.fromDict, bind_eq_ok] using h
  obtain ⟨ex, entries, rfl, hes⟩ := checkKeys_ok.mp hk
  rw [hf] at hfiles
  obtain ⟨fs, hfs, rfl⟩ := map_eq_ok.mp hfiles
  have hlist := @File.parseFileSpecs_set_dest D fs [] hfs hD (by simp)
  rw [← h]
  refine Service.fromDict_congr ?_ (fun _ hk => Value.lookup_set.trans (if_neg hk)) ?_
  · rw [hk]
    refine checkKeys_ok.mpr ⟨ex, _, rfl, fun p hp => ?_⟩
    rcases File.mem_dictInsert hp with hp | rfl
    · exact hes p hp
    · show "files" ∈ slots
      decide
  · rw [hf]
    simp [Value.get, Value.getD, Value.lookup_set, filesFromDict, hlist, hfs]

theorem Service.fromDict_filesAsList_hdfs :
    let D : List (String × Value) :=
      [("data.txt", .dict true [("source", .str "hdfs://nn/data.txt"), ("type", .str "FILE")])]
    let obj : Value := .dict true [("commands", .list [.str "serve"]),
      ("resources", .dict true [("memory", .int 1), ("vcores", .int 1)]), ("files", .dict true D)]
    Service.fromDict (obj.set "files" (.list (D.map fun p => p.2.set "dest" (.str p.1)))) =
      .ok (.service (.list [.str "serve"]) (.resources (.int 1) (.int 1)) (.int 1)
        (.dict true [("data.txt", .file (.str "hdfs://nn/data.txt") (.str "FILE")
          (.str "APPLICATION") (.int 0) (.int 0))]) (.dict true []) (.list [])) :=
  @Service.fromDict_filesAsList (.dict true [("commands", .list [.str "serve"]),
    ("resources", .dict true [("memory", .int 1), ("vcores", .int 1)]),
    ("files", .dict true [("data.txt", .dict true [("source", .str "hdfs://nn/data.txt"),
      ("type", .str "FILE")])])]) _ true _ rfl (by decide) rfl

end Skein
