import ObjectBridge.Manifest.Load
import ObjectBridge.Proofs.Manifest.Merge

/-!
# `ObjectBridge.Proofs.Manifest.Load`: one file, loaded and collected

A manifest can be loaded from its file, or be collected by a pattern that
matches nothing else. Loading checks what the file says (`toOption_load`);
collecting lays it over the empty manifest first (`toOption_loadGlob`).
That makes a difference only for a manifest that repeats itself:

* repeated media types are dropped;
* namespaces of one name at the top are laid over each other, and the
  repetition that loading objects to is gone before the check.

`loadGlob_of_single` says what comes of it in each case, and when the two
agree.

A pattern matches directories as well, and each match is read like a file.
`loadGlob_among_directories` says which directories make no difference and
what is reported for the others.
-/

set_option autoImplicit false

namespace ObjectBridge.Manifest

open Namespace

variable {files : FileTree} {path pattern : String} {m : Manifest}

/-- A file is loaded exactly when it can be read as a manifest that is valid. -/
theorem toOption_load (files : FileTree) (path : String) :
    (load files path).toOption = (readFile files path).toOption.filter (·.isValid) := by
  unfold load
  cases readFile files path with
  | error e => rfl
  | ok m =>
    show (if m.isValid = true then .ok m else .error _ : Except LoadError Manifest).toOption = _
    cases h : m.isValid <;> simp [Except.toOption, Option.filter, h]

/-- A pattern with one match loads that file into an empty manifest. -/
theorem loadGlob_of_glob? (h : files.glob? pattern = some [path]) :
    loadGlob files pattern = (readFile files path).bind fun m =>
      if (({} : Manifest).merge m).isValid then .ok (({} : Manifest).merge m)
      else .error (.invalidSet pattern (({} : Manifest).merge m).problems) := by
  unfold loadGlob
  rw [h]
  cases hread : readFile files path with
  | error e => simp [hread, bind, Except.bind]
  | ok m =>
    simp only [List.mapM_cons, List.mapM_nil, hread]
    rfl

/-- So it loads exactly when the file can be read and the result is valid. -/
theorem toOption_loadGlob (h : files.glob? pattern = some [path]) :
    (loadGlob files pattern).toOption =
      ((readFile files path).toOption.map (({} : Manifest).merge ·)).filter (·.isValid) := by
  rw [loadGlob_of_glob? h]
  cases readFile files path with
  | error e => rfl
  | ok m =>
    show (if (({} : Manifest).merge m).isValid = true then .ok _ else .error _ :
        Except LoadError Manifest).toOption = _
    cases h : (({} : Manifest).merge m).isValid <;> simp [Except.toOption, Option.filter, h]

/-- A manifest that repeats a name at the top is not valid. -/
theorem not_isValid_of_repeated (h : ¬ (names m.namespaces).Nodup) : m.isValid = false := by
  rw [← Bool.not_eq_true]
  intro hvalid
  exact h (distinct_of_isValid hvalid).nodup

/-- Laid over nothing, a manifest that repeats no name at the top is as
valid as it was. -/
theorem isValid_empty_merge (h : (names m.namespaces).Nodup) :
    (({} : Manifest).merge m).isValid = m.isValid := by
  rw [empty_merge h]
  rfl

/-- A file collected by a pattern that matches nothing else, beside the
same file loaded. -/
theorem loadGlob_of_single (h : files.glob? pattern = some [path]) :
    (∀ e, readFile files path = .error e → load files path = .error e ∧
      loadGlob files pattern = .error e) ∧
    (∀ m, readFile files path = .ok m → (names m.namespaces).Nodup →
      (loadGlob files pattern).toOption =
        (load files path).toOption.map fun m => { m with mime := m.mime.eraseDups }) ∧
    (∀ m, readFile files path = .ok m → ¬ (names m.namespaces).Nodup →
      (load files path).toOption = none ∧
      (loadGlob files pattern).toOption = (some (({} : Manifest).merge m)).filter (·.isValid)) ∧
    ((loadGlob files pattern).toOption = (load files path).toOption ↔
      ∀ m, readFile files path = .ok m → (m.isValid = true → m.mime.Nodup) ∧
        (¬ (names m.namespaces).Nodup → (({} : Manifest).merge m).isValid = false)) := by
  refine ⟨fun e he => ?unread, fun m hm hnodup => ?named, fun m hm hnodup => ?repeated, ?agree⟩
  case unread =>
    constructor
    · unfold load
      rw [he]
      rfl
    · rw [loadGlob_of_glob? h, he]
      rfl
  case named =>
    rw [toOption_loadGlob h, toOption_load, hm]
    show (some (({} : Manifest).merge m)).filter _ = ((some m).filter _).map _
    rw [Option.filter_some, Option.filter_some, isValid_empty_merge hnodup, empty_merge hnodup]
    split <;> rfl
  case repeated =>
    rw [toOption_loadGlob h, toOption_load, hm]
    show (some m).filter _ = none ∧ (some (({} : Manifest).merge m)).filter _ = _
    rw [Option.filter_some, not_isValid_of_repeated hnodup]
    exact ⟨rfl, rfl⟩
  case agree =>
    rw [toOption_loadGlob h, toOption_load]
    cases hm : readFile files path with
    | error e => simp [Except.toOption]
    | ok m =>
      simp only [Except.ok.injEq, forall_eq']
      show (some (({} : Manifest).merge m)).filter _ = (some m).filter _ ↔ _
      rw [Option.filter_some, Option.filter_some]
      by_cases hnodup : (names m.namespaces).Nodup
      · rw [isValid_empty_merge hnodup, empty_merge hnodup]
        cases hvalid : m.isValid with
        | false => simp [hnodup]
        | true =>
          -- Both succeed, and only the media types can differ.
          rw [if_pos rfl, if_pos rfl, Option.some.injEq, ← eraseDups_eq_self_iff]
          constructor
          · intro heq
            exact ⟨fun _ => congrArg Manifest.mime heq, fun hno => absurd hnodup hno⟩
          · rintro ⟨hmime, -⟩
            rw [hmime rfl]
      · rw [not_isValid_of_repeated hnodup]
        cases (({} : Manifest).merge m).isValid <;> simp [hnodup]

/-! ### Manifests that repeat themselves -/

/-- Two files: one repeats a media type, the other a namespace. -/
def repeating : FileTree :=
  .ofList [("types.json", some (.ofString "\x7b\"name\":\"x\",\"mime\":[\"t\",\"t\"]\x7d")),
    ("names.json", some (.ofString
    "\x7b\"name\":\"x\",\"namespaces\":[\x7b\"name\":\"a\"\x7d,\x7b\"name\":\"a\"\x7d]\x7d"))]

/-- Each of them is matched by its name and can be read. -/
theorem read_repeating :
    repeating.glob? "types.json" = some ["types.json"] ∧
    ((readFile repeating "types.json").toOption.any fun m =>
      m.isValid && m.mime == [.ofString "t", .ofString "t"]) = true ∧
    repeating.glob? "names.json" = some ["names.json"] ∧
    ((readFile repeating "names.json").toOption.any fun m =>
      m.name != [] && m.base == [] &&
        m.namespaces.map (·.name) == [.ofString "a", .ofString "a"] &&
        m.namespaces.all fun u => u.base == [] && u.children.isEmpty) = true := by
  decide +kernel

/-- The pattern matches one file. -/
theorem glob?_types : repeating.glob? "types.json" = some ["types.json"] := read_repeating.1

/-- A pattern that matches one file, whose media types are repeated. -/
theorem loadGlob_of_single_types :
    repeating.glob? "types.json" = some ["types.json"] ∧
    ((loadGlob repeating "types.json").toOption = (load repeating "types.json").toOption ↔
      ∀ m, readFile repeating "types.json" = .ok m → (m.isValid = true → m.mime.Nodup) ∧
        (¬ (names m.namespaces).Nodup → (({} : Manifest).merge m).isValid = false)) :=
  ⟨glob?_types, (loadGlob_of_single glob?_types).2.2.2⟩

/-- A file that was read, by what can be decided about it. -/
theorem exists_of_readFile (files : FileTree) (path : String) (p : Manifest → Bool)
    (h : (readFile files path).toOption.any p = true) :
    ∃ m, readFile files path = .ok m ∧ p m = true := by
  cases hread : readFile files path with
  | error e => simp [hread, Except.toOption] at h
  | ok m =>
    rw [hread] at h
    exact ⟨m, rfl, h⟩

/-- The manifest with two namespaces of one name, which have nothing else. -/
theorem exists_read_names : ∃ m u v, readFile repeating "names.json" = .ok m ∧ m.name ≠ [] ∧
    m.base = [] ∧ m.namespaces = [u, v] ∧ u.name = .ofString "a" ∧ v.name = .ofString "a" ∧
    ∀ w ∈ [u, v], w.base = [] ∧ w.children = [] := by
  obtain ⟨m, hm, hread⟩ := exists_of_readFile repeating "names.json" _ read_repeating.2.2.2
  simp only [Bool.and_eq_true, bne_iff_ne, beq_iff_eq, List.all_eq_true, List.isEmpty_iff] at hread
  obtain ⟨⟨⟨hname, hbase⟩, hpair⟩, hplain⟩ := hread
  obtain ⟨u, rest, hns, hu, hrest⟩ := List.map_eq_cons_iff.mp hpair
  obtain ⟨v, rest', rfl, hv, hlast⟩ := List.map_eq_cons_iff.mp hrest
  obtain rfl := List.map_eq_nil_iff.mp hlast
  rw [hns] at hplain
  exact ⟨m, u, v, hm, hname, hbase, hns, hu, hv, hplain⟩

/-- Two namespaces of one name become one. -/
theorem nil_mergeNamespaces_pair {u v : Namespace} (h : u.name = v.name) :
    mergeNamespaces [] [u, v] = [lay u v] := by
  rw [mergeNamespaces_cons, mergeNamespaces_cons, mergeNamespaces_nil]
  show upsert v.name (lay · v) v [u] = [lay u v]
  rw [upsert, if_pos h]

/-- A manifest of two namespaces that share a name, without children or
bases, is valid once it is laid over nothing. -/
theorem isValid_empty_merge_pair {u v : Namespace} (hname : m.name ≠ []) (hbase : m.base = [])
    (hm : m.namespaces = [u, v]) (hu : Path.IsName u.name) (huv : u.name = v.name)
    (hplain : ∀ w ∈ [u, v], w.base = [] ∧ w.children = []) :
    (({} : Manifest).merge m).isValid = true := by
  obtain ⟨⟨hubase, huchildren⟩, hvbase, hvchildren⟩ := by simpa using hplain
  have hlaid : (({} : Manifest).merge m).namespaces = [lay u v] := by
    show mergeNamespaces [] m.namespaces = [lay u v]
    rw [hm, nil_mergeNamespaces_pair huv]
  have hlay : lay u v = ⟨u.name, overlay u.className v.className, [], []⟩ := by
    unfold lay
    rw [hubase, hvbase, huchildren, hvchildren, mergeNamespaces_nil]
    rfl
  have htop : (({} : Manifest).merge m).base = [] := by
    show overlay [] m.base = []
    rw [nil_overlay, hbase]
  refine (isValid_iff _).mpr ⟨?_, ?_, ?_⟩
  · show overlay [] m.name ≠ []
    rwa [nil_overlay]
  · rw [hlaid, hlay, wellNamed_cons]
    exact ⟨hu, by simp, wellNamed_nil, wellNamed_nil⟩
  · -- No row has a base.
    intro e he hne
    rcases List.mem_cons.mp he with rfl | he
    · exact absurd htop hne
    · rw [walk, hlaid, hlay, walk_cons] at he
      simp at he
      exact absurd (by rw [he]) hne

/-- They part on media types that are repeated, and on names that are. -/
theorem not_agree_repeating :
    (repeating.glob? "types.json" = some ["types.json"] ∧
      (loadGlob repeating "types.json").toOption ≠ (load repeating "types.json").toOption) ∧
    (repeating.glob? "names.json" = some ["names.json"] ∧
      (load repeating "names.json").toOption = none ∧
      (loadGlob repeating "names.json").toOption ≠ none) := by
  obtain ⟨-, hany, hnames, -⟩ := read_repeating
  obtain ⟨m, u, v, hm, hname, hbase, hns, hu, hv, hplain⟩ := exists_read_names
  refine ⟨⟨glob?_types, ?types⟩, hnames, ?refused, ?taken⟩
  -- The repetition is read as it stands in a file, and dropped by merging it into the empty
  -- manifest.
  case types =>
    obtain ⟨m, hm, hread⟩ := exists_of_readFile repeating "types.json" _ hany
    obtain ⟨hvalid, hmime⟩ := by simpa using hread
    have hnodup := (distinct_of_isValid hvalid).nodup
    rw [toOption_loadGlob glob?_types, toOption_load, hm]
    show (some (({} : Manifest).merge m)).filter _ ≠ (some m).filter _
    rw [Option.filter_some, Option.filter_some, isValid_empty_merge hnodup, hvalid,
      if_pos rfl, if_pos rfl, empty_merge hnodup]
    intro hsame
    have hkept := congrArg Manifest.mime (Option.some.inj hsame)
    rw [eraseDups_eq_self_iff, hmime] at hkept
    exact absurd hkept (by decide)
  -- Two namespaces of one name are refused in a file, and merged into one otherwise.
  case refused =>
    have hrepeated : ¬ (names m.namespaces).Nodup := by
      rw [hns]
      simp [hu, hv]
    rw [toOption_load, hm]
    show (some m).filter _ = none
    rw [Option.filter_some, not_isValid_of_repeated hrepeated, if_neg Bool.false_ne_true]
  case taken =>
    have hproper : Path.IsName u.name := hu ▸ ⟨by decide, by decide⟩
    rw [toOption_loadGlob hnames, hm]
    show (some (({} : Manifest).merge m)).filter _ ≠ none
    rw [Option.filter_some, isValid_empty_merge_pair hname hbase hns hproper (hu.trans hv.symm)
      hplain, if_pos rfl]
    exact Option.some_ne_none _

/-! ### Directories among the matches -/

/-- What is in the way of a directory that is read like a file: it has no
format, or there is no document in it. -/
def obstacle? (files : FileTree) (path : String) : Option LoadError :=
  if files.isDir path then
    match ManifestFormat.ofPath? path with
    | none => some (.unknownExtension path)
    | some .json => some (.malformedFile path .json)
    | some .yaml => none
    | some .toml => none
  else none

/-- A directory reads as empty. -/
theorem read?_of_isDir (h : files.isDir path = true) : files.read? path = some [] := by
  unfold FileTree.isDir at h
  unfold FileTree.read?
  by_cases hroot : Files.clean path = "/"
  · simp only [hroot, if_true]
  · have hfind : files.entries.find? (Files.clean path) = some none := by
      simpa [hroot] using h
    simp only [if_neg hroot, hfind]
    rfl

/-- A directory is read as the empty manifest, unless something is in the
way. -/
theorem readFile_of_isDir (h : files.isDir path = true) :
    readFile files path = (obstacle? files path).elim (.ok {}) .error := by
  unfold readFile obstacle?
  rw [if_pos h, read?_of_isDir h]
  cases ManifestFormat.ofPath? path with
  | none => rfl
  | some format => cases format <;> rfl

/-- What is no directory is no obstacle. -/
theorem obstacle?_of_not_isDir (h : files.isDir path = false) : obstacle? files path = none := by
  unfold obstacle?
  rw [h, if_neg Bool.false_ne_true]

/-- The paths of a list that are not those of directories. -/
def regular (files : FileTree) (paths : List String) : List String :=
  paths.filter fun path => !files.isDir path

/-- What is read from paths in which only directories can be in the way. The
empty manifests that directories add make no difference. -/
theorem mapM_readFile_of_regular {paths : List String} {ms : List Manifest}
    (h : (regular files paths).mapM (readFile files) = .ok ms) :
    ∃ all, paths.mapM (readFile files) = (paths.findSome? (obstacle? files)).elim (.ok all) .error ∧
      ∀ m : Manifest, all.foldl merge m = ms.foldl merge m := by
  induction paths generalizing ms with
  | nil =>
    cases h
    exact ⟨[], rfl, fun _ => rfl⟩
  | cons path rest ih =>
    rw [List.mapM_cons, List.findSome?_cons]
    cases hdir : files.isDir path with
    | true =>
      have hrest : regular files (path :: rest) = regular files rest := by simp [regular, hdir]
      obtain ⟨all, hall, hfold⟩ := ih (hrest ▸ h)
      rw [readFile_of_isDir hdir, hall]
      cases obstacle? files path with
      | some e => exact ⟨all, rfl, hfold⟩
      | none =>
        -- A directory that is no obstacle is read as the empty manifest, which merges to nothing.
        refine ⟨{} :: all, ?_, fun m => ?_⟩
        · cases rest.findSome? (obstacle? files) <;> rfl
        · rw [List.foldl_cons, merge_empty, hfold]
    | false =>
      have hrest : regular files (path :: rest) = path :: regular files rest := by
        simp [regular, hdir]
      rw [hrest, List.mapM_cons] at h
      rw [obstacle?_of_not_isDir hdir]
      cases hread : readFile files path with
      | error e =>
        rw [hread] at h
        cases h
      | ok m₀ =>
        rw [hread] at h
        cases hothers : (regular files rest).mapM (readFile files) with
        | error e =>
          rw [hothers] at h
          cases h
        | ok others =>
          rw [hothers] at h
          cases h
          obtain ⟨all, hall, hfold⟩ := ih hothers
          refine ⟨m₀ :: all, ?_, fun m => hfold _⟩
          rw [hall]
          cases rest.findSome? (obstacle? files) <;> rfl

/-- Something is in the way exactly where a directory is matched that does
not look like a document that may be empty. -/
theorem findSome?_obstacle?_eq_none_iff {paths : List String} :
    paths.findSome? (obstacle? files) = none ↔ ∀ path ∈ paths, files.isDir path = true →
      ManifestFormat.ofPath? path = some .yaml ∨ ManifestFormat.ofPath? path = some .toml := by
  rw [List.findSome?_eq_none_iff]
  refine forall₂_congr fun path _ => ?_
  unfold obstacle?
  cases files.isDir path with
  | false => simp
  | true =>
    cases ManifestFormat.ofPath? path with
    | none => simp
    | some format => cases format <;> simp

/-- Without its repetitions, an ascending list is strictly ascending. -/
theorem pairwise_lt_eraseDups {paths : List String} (h : paths.Pairwise (· ≤ ·)) :
    paths.eraseDups.Pairwise (· < ·) := by
  match paths with
  | [] => exact .nil
  | path :: rest =>
    obtain ⟨hpath, hrest⟩ := List.pairwise_cons.mp h
    rw [List.eraseDups_cons, List.pairwise_cons]
    refine ⟨fun q hq => ?_, pairwise_lt_eraseDups (hrest.filter _)⟩
    obtain ⟨hmem, hne⟩ := List.mem_filter.mp (List.mem_eraseDups.mp hq)
    exact lt_of_le_of_ne (hpath q hmem) (Ne.symm (by simpa using hne))
termination_by paths.length
decreasing_by exact Nat.lt_succ_of_le (List.length_filter_le _ _)

/-- Matches are listed in ascending order. -/
theorem pairwise_lt_of_glob? {paths : List String} (h : files.glob? pattern = some paths) :
    paths.Pairwise (· < ·) := by
  obtain ⟨found, -, rfl⟩ := Option.map_eq_some_iff.mp h
  have hsorted : (found.mergeSort fun a b => a ≤ b).Pairwise fun a b => decide (a ≤ b) = true :=
    List.pairwise_mergeSort (by simpa using fun _ _ _ => String.le_trans)
      (by simpa using String.le_total) found
  exact pairwise_lt_eraseDups (by simpa using hsorted)

/-- Paths that are found in strict order are the ones that match. -/
theorem glob?_of_found? {paths : List String} (h : files.found? pattern = some paths)
    (hasc : paths.Pairwise (· < ·)) : files.glob? pattern = some paths := by
  have hsorted : paths.mergeSort (fun a b => a ≤ b) = paths :=
    List.mergeSort_of_pairwise (hasc.imp fun hab => by simpa using le_of_lt hab)
  unfold FileTree.glob?
  rw [h, Option.map_some, hsorted, (eraseDups_eq_self_iff _).mpr (hasc.imp ne_of_lt)]

/-- What becomes of manifests that are collected together with directories:
the first directory that is in the way is reported, and when there is none
the directories make no difference. -/
theorem loadGlob_among_directories {paths : List String} {ms : List Manifest}
    (hglob : files.glob? pattern = some paths)
    (hread : (regular files paths).mapM (readFile files) = .ok ms)
    (hvalid : (mergeAll ms).isValid = true) :
    (regular files paths).Pairwise (· < ·) ∧
    loadGlob files pattern = (paths.findSome? (obstacle? files)).elim (.ok (mergeAll ms)) .error ∧
    (loadGlob files pattern = .ok (mergeAll ms) ↔ ∀ path ∈ paths, files.isDir path = true →
      ManifestFormat.ofPath? path = some .yaml ∨ ManifestFormat.ofPath? path = some .toml) := by
  have hload : loadGlob files pattern = (paths.findSome? (obstacle? files)).elim (.ok (mergeAll ms))
      .error := by
    obtain ⟨all, hall, hfold⟩ := mapM_readFile_of_regular hread
    have hmerged : mergeAll all = mergeAll ms := hfold {}
    unfold loadGlob
    rw [hglob]
    cases paths with
    | nil =>
      -- Nothing merged is not valid, so there is a match.
      cases hread
      exact absurd hvalid (by decide)
    | cons path rest =>
      simp only [hall]
      cases (path :: rest).findSome? (obstacle? files) with
      | some e => rfl
      | none =>
        show (if (mergeAll all).isValid = true then .ok (mergeAll all) else .error _ :
            Except LoadError Manifest) = _
        rw [hmerged, if_pos hvalid]
        rfl
  refine ⟨(pairwise_lt_of_glob? hglob).filter _, hload, ?_⟩
  rw [hload, ← findSome?_obstacle?_eq_none_iff]
  cases paths.findSome? (obstacle? files) <;> simp

/-! ### A manifest beside a directory -/

/-- A directory of one manifest and one directory. -/
def shelved : FileTree :=
  .ofList [("m/a.json", some (.ofString "\x7b\"name\":\"x\"\x7d")), ("m/d.yaml", none)]

/-- What is found there, and what of it is a file that can be read. -/
theorem found_shelved :
    (shelved.found? "m/*" = some ["m/a.json", "m/d.yaml"] ∧
      regular shelved ["m/a.json", "m/d.yaml"] = ["m/a.json"]) ∧
    (shelved.found? "m/**" = some ["m", "m/a.json", "m/d.yaml"] ∧
      regular shelved ["m", "m/a.json", "m/d.yaml"] = ["m/a.json"]) ∧
    (readFile shelved "m/a.json").toOption.any (·.isValid) = true ∧
    ManifestFormat.ofPath? "m" = none ∧ ManifestFormat.ofPath? "m/d.yaml" = some .yaml ∧
    shelved.isDir "m/a.json" = false ∧ ["m", "m/a.json", "m/d.yaml"].Pairwise (· < ·) := by
  decide +kernel

/-- The manifest in the only file among these paths. -/
theorem exists_of_shelved (paths : List String) (h : regular shelved paths = ["m/a.json"]) :
    ∃ ms, (regular shelved paths).mapM (readFile shelved) = .ok ms ∧
      (mergeAll ms).isValid = true := by
  obtain ⟨m, hm, hvalid⟩ := exists_of_readFile shelved "m/a.json" (·.isValid) found_shelved.2.2.1
  have hmerged : (mergeAll [m]).isValid = true :=
    (isValid_empty_merge (distinct_of_isValid hvalid).nodup).trans hvalid
  refine ⟨[m], ?_, hmerged⟩
  rw [h, List.mapM_cons, List.mapM_nil, hm]
  rfl

/-- A pattern with no directory among its matches loads the files. -/
theorem loadGlob_shelved_children :
    shelved.glob? "m/*" = some ["m/a.json", "m/d.yaml"] ∧
    ∃ ms, (regular shelved ["m/a.json", "m/d.yaml"]).mapM (readFile shelved) = .ok ms ∧
      (mergeAll ms).isValid = true ∧ loadGlob shelved "m/*" = .ok (mergeAll ms) := by
  obtain ⟨⟨hfound, hregular⟩, -, -, -, hformat, hfile, hasc⟩ := found_shelved
  have hglob : shelved.glob? "m/*" = some ["m/a.json", "m/d.yaml"] :=
    glob?_of_found? hfound hasc.of_cons
  obtain ⟨ms, hread, hvalid⟩ := exists_of_shelved ["m/a.json", "m/d.yaml"] hregular
  refine ⟨hglob, ms, hread, hvalid, (loadGlob_among_directories hglob hread hvalid).2.2.mpr ?_⟩
  intro path hpath hdir
  obtain rfl | hpath := List.mem_cons.mp hpath
  · rw [hfile] at hdir
    cases hdir
  · obtain rfl := List.mem_singleton.mp hpath
    exact .inl hformat

/-- Directories are in the way of manifests that are all in order. -/
theorem not_undisturbed_shelved :
    ¬ ∀ (files : FileTree) (pattern : String) (paths : List String) (ms : List Manifest),
      files.glob? pattern = some paths → (regular files paths).mapM (readFile files) = .ok ms →
      (mergeAll ms).isValid = true → loadGlob files pattern = .ok (mergeAll ms) := by
  intro hclaim
  obtain ⟨-, ⟨hfound, hregular⟩, -, hformat, -, -, hasc⟩ := found_shelved
  have hglob : shelved.glob? "m/**" = some ["m", "m/a.json", "m/d.yaml"] :=
    glob?_of_found? hfound hasc
  obtain ⟨ms, hread, hvalid⟩ := exists_of_shelved ["m", "m/a.json", "m/d.yaml"] hregular
  -- The directory is among the paths itself, and its name tells no format.
  have hfirst : readFile shelved "m" = .error (.unknownExtension "m") := by
    unfold readFile
    rw [hformat]
  have hfails : loadGlob shelved "m/**" = .error (.unknownExtension "m") := by
    unfold loadGlob
    rw [hglob]
    show (List.mapM (readFile shelved) _).bind _ = _
    rw [List.mapM_cons, hfirst]
    rfl
  have hloads := hclaim shelved "m/**" _ ms hglob hread hvalid
  rw [hfails] at hloads
  cases hloads

end ObjectBridge.Manifest
