import Skein.Validity

/-!
The file specs of a `files` list, read by `File._parse_file_spec`. With a `dest` key the
spec's source is kept as it is; without one, the source is replaced by the path of its URL,
whose last segment, less an archive extension for an archive, is the dest. That segment has
no `/`, but it may be empty: the guard `if name is None` never fires.
-/

namespace Skein

namespace File

theorem stripExt_prefixOf (name : String) (exts : List String) :
    (stripExt name exts).toList <+: name.toList := by
  induction exts with
  | nil => exact List.prefix_refl _
  | cons ext exts ih =>
    simp only [stripExt]
    split
    · exact List.take_prefix _ _
    · exact ih

theorem specSourceType_type {obj s t : Value} {key : Option String}
    (h : specSourceType obj key = .ok (s, t)) : ∃ ty, t = .str ty := by
  cases key with
  | none =>
    simp only [specSourceType, bind_eq_ok] at h
    obtain ⟨_, -, _, -, h⟩ := h
    split at h
    · cases h; exact ⟨_, rfl⟩
    · cases h
  | some key =>
    simp only [specSourceType, bind_eq_ok] at h
    obtain ⟨_, -, _, -, h⟩ := h
    cases h; exact ⟨_, rfl⟩

theorem specSourceType_source {obj s t : Value} {key : Option String}
    (h : specSourceType obj key = .ok (s, t)) : obj.index (key.getD "source") = .ok s := by
  cases key with
  | none =>
    simp only [specSourceType, bind_eq_ok] at h
    obtain ⟨_, -, s', hs, h⟩ := h
    split at h
    · cases h; exact hs
    · cases h
  | some key =>
    simp only [specSourceType, bind_eq_ok] at h
    obtain ⟨_, -, s', hs, h⟩ := h
    cases h; exact hs

theorem specKey_mem {obj : Value} {key : Option String} (h : specKey obj = .ok key) :
    key.getD "source" ∈ ["file", "archive", "source"] := by
  unfold specKey at h
  split at h
  · split at h
    · cases h
    · cases h; simp
  · split at h <;> cases h <;> simp

/-- What an accepted file spec is made of: its form, its source and type, the source and
dest `specDest` gives for them, and the file built from those. -/
theorem parseFileSpec_ok {obj dest f : Value} (h : parseFileSpec obj = .ok (dest, f)) :
    ∃ key s t source, specKey obj = .ok key ∧ specSourceType obj key = .ok (s, t) ∧
      specDest obj s t = .ok (source, dest) ∧
      init source t (obj.getD "visibility" (.str "APPLICATION")) (obj.getD "size" (.int 0))
        (obj.getD "timestamp" (.int 0)) = .ok f := by
  cases obj with
  | dict exact entries =>
    simp only [parseFileSpec, bind_eq_ok] at h
    obtain ⟨key, hk, ⟨s, t⟩, hst, ⟨source, d⟩, hd, r, hr, h⟩ := h
    cases h
    exact ⟨key, s, t, source, hk, hst, hd, hr⟩
  | _ => cases h

/-- With a `dest` key, the file of a file spec keeps the spec's source as it is. -/
theorem parseFileSpec_withDest {obj dest f : Value} (hd : obj.contains "dest" = true)
    (h : parseFileSpec obj = .ok (dest, f)) :
    obj.index "dest" = .ok dest ∧ ∃ k ∈ ["file", "archive", "source"], ∃ s t v z ts,
      obj.index k = .ok s ∧ f = .file s t v z ts := by
  obtain ⟨key, s, t, source, hk, hst, hsd, hi⟩ := parseFileSpec_ok h
  simp only [specDest, hd, if_true, bind_eq_ok, pure_eq_ok, Except.ok.injEq,
    Prod.mk.injEq] at hsd
  obtain ⟨d, hdest, rfl, rfl⟩ := hsd
  exact ⟨hdest, _, specKey_mem hk, s, t, _, _, _, specSourceType_source hst,
    (File.init_ok.mp hi).2⟩

theorem parseFileSpec_withDest_hdfs :
    (Value.dict true [("file", .str "hdfs://nn/dir/x.txt"), ("dest", .str "x.txt")]).index
        "dest" = .ok (.str "x.txt") ∧
      ∃ k ∈ ["file", "archive", "source"], ∃ s t v z ts,
        (Value.dict true [("file", .str "hdfs://nn/dir/x.txt"), ("dest", .str "x.txt")]).index k =
          .ok s ∧ Value.file (.str "hdfs://nn/dir/x.txt") (.str "FILE") (.str "APPLICATION")
            (.int 0) (.int 0) = .file s t v z ts :=
  @parseFileSpec_withDest (.dict true [("file", .str "hdfs://nn/dir/x.txt"),
    ("dest", .str "x.txt")]) _ _ rfl rfl

/-- Without a `dest` key, the file of a file spec takes the path of its source's URL, and
the dest is that path's last segment, less the first archive extension it ends with for an
archive: a single segment, with no `/`. -/
theorem parseFileSpec_noDest {obj dest f : Value} (hd : obj.contains "dest" = false)
    (h : parseFileSpec obj = .ok (dest, f)) :
    ∃ k ∈ ["file", "archive", "source"], ∃ url path ty d v z ts,
      obj.index k = .ok (.str url) ∧ Py.urlPath url = .ok path ∧
      f = .file (.str path) (.str ty) v z ts ∧ dest = .str d ∧
      d = (if ty = "ARCHIVE" then stripExt (Py.basename path) archiveExts
        else Py.basename path) ∧ '/' ∉ d.toList := by
  obtain ⟨key, s, t, source, hk, hst, hsd, hi⟩ := parseFileSpec_ok h
  obtain ⟨ty, rfl⟩ := specSourceType_type hst
  simp only [specDest, hd, Bool.false_eq_true, if_false] at hsd
  cases s with
  | str url =>
    obtain ⟨path, hpath, hsd⟩ := bind_eq_ok.mp hsd
    simp only [pure_eq_ok, Except.ok.injEq, Prod.mk.injEq] at hsd
    obtain ⟨rfl, rfl⟩ := hsd
    refine ⟨_, specKey_mem hk, url, path, ty, _, _, _, _, specSourceType_source hst, hpath,
      (File.init_ok.mp hi).2, rfl, ?_, ?_⟩
    · by_cases ha : ty = "ARCHIVE"
      · subst ha; simp
      · simp [ha]
    · split
      · exact fun hm => Py.basename_no_slash path ((stripExt_prefixOf _ _).subset hm)
      · exact Py.basename_no_slash path
  | _ => cases hsd

theorem parseFileSpec_noDest_archive :
    let obj : Value := .dict true [("archive", .str "a/b/data.tar.gz")]
    obj.contains "dest" = false ∧
      parseFileSpec obj = .ok (.str "data", .file (.str "a/b/data.tar.gz") (.str "ARCHIVE")
        (.str "APPLICATION") (.int 0) (.int 0)) ∧
      ∃ k ∈ ["file", "archive", "source"], ∃ url path ty d v z ts,
        obj.index k = .ok (.str url) ∧ Py.urlPath url = .ok path ∧
        Value.file (.str "a/b/data.tar.gz") (.str "ARCHIVE") (.str "APPLICATION") (.int 0)
          (.int 0) = .file (.str path) (.str ty) v z ts ∧ Value.str "data" = .str d ∧
        d = (if ty = "ARCHIVE" then stripExt (Py.basename path) archiveExts
          else Py.basename path) ∧ '/' ∉ d.toList :=
  ⟨rfl, rfl, parseFileSpec_noDest rfl rfl⟩

/-- A file spec with an `hdfs` URL as its source: without `dest` the file's source is the
URL's path, with `dest` it is the URL. -/
theorem parseFileSpec_hdfs :
    parseFileSpec (.dict true [("file", .str "hdfs://nn/dir/x.txt")]) =
      .ok (.str "x.txt", .file (.str "/dir/x.txt") (.str "FILE") (.str "APPLICATION") (.int 0)
        (.int 0)) ∧
    parseFileSpec (.dict true [("file", .str "hdfs://nn/dir/x.txt"), ("dest", .str "x.txt")]) =
      .ok (.str "x.txt", .file (.str "hdfs://nn/dir/x.txt") (.str "FILE") (.str "APPLICATION")
        (.int 0) (.int 0)) :=
  ⟨rfl, rfl⟩

/-- A directory source, and an archive named only by its extension, are accepted with an empty
dest. -/
theorem parseFileSpec_emptyDest :
    parseFileSpec (.dict true [("file", .str "data/")]) =
      .ok (.str "", .file (.str "data/") (.str "FILE") (.str "APPLICATION") (.int 0) (.int 0)) ∧
    parseFileSpec (.dict true [("archive", .str "x/.zip")]) =
      .ok (.str "", .file (.str "x/.zip") (.str "ARCHIVE") (.str "APPLICATION") (.int 0)
        (.int 0)) :=
  ⟨rfl, rfl⟩

end File

end Skein
