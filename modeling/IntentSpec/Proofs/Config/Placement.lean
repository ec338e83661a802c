import IntentSpec.Proofs.Config.Precedence
import IntentSpec.Proofs.Config.Tree
import IntentSpec.Proofs.Path.Normal

/-!
# Where the paths of a configuration lead

The paths of a configuration are made absolute one after the other.  Making one absolute sets an entry that is
there, so nothing else about the configuration changes, and its keys stay in order; a whole run is put
together from such steps.  A path that comes out is from the root and has no steps left, hence it is read
again as the place that it leads to, and making it absolute once more gives the same text, whatever the
directory, as long as it does not refer to variables.

* `Leads` — a text as a path from the root, and the place that it leads to.
* `Placing` — what making the paths at some keys absolute does to the entries of a configuration.
* `placing_of_foldlM` — a whole run, from `placing_assign` for one key.
* `normalizePaths_placed` — the paths of a valid configuration.
-/

namespace IntentSpec.Config

open Datum Text

/-! ## One path -/

/-- What a path of a configuration comes to: a text whose path is from the root, without steps, and leads to
where the path led. -/
structure Leads (environment : Environment) (base : Path) (raw s : String) : Prop where
  /-- The text starts with a slash. -/
  front : s.toList.head? = some '/'
  /-- Between slashes stands no dot by itself and no step to the parent. -/
  plain : ∀ piece ∈ splitAt '/' s.toList, piece ≠ ['.'] ∧ piece ≠ ['.', '.']
  /-- With the values of variables and the home directory put in, the path leads from the base directory to a
  place, and the text is that of the place. -/
  place : ∃ p, (Path.ofText (environment.expand raw)).expandHome? environment = some p ∧
    Path.ofText s = ⟨(base.join p).root, FileTree.placeOf base p⟩ ∧ s = (Path.ofText s).text

theorem absolutePath_eq_ok_iff (environment : Environment) (base : Path) (raw : String) (q : Path) :
    absolutePath environment base raw = .ok q ↔
      ∃ p, (Path.ofText (environment.expand raw)).expandHome? environment = some p ∧
        (base.join p).normal = q := by
  have joined (p : Path) : (if p.isAbsolute then p else base.join p) = base.join p := by
    unfold Path.join
    split <;> rfl
  unfold absolutePath
  rw [bind_eq_ok_iff]
  simp only [joined]
  cases (Path.ofText (environment.expand raw)).expandHome? environment with
  | none => simp [orFault]
  | some p => simp [orFault, pure, Except.pure]

section Absolute

variable {environment : Environment} {directory raw : String} {q : Path}
  (absolute : (Path.ofText directory).isAbsolute = true)
  (becomes : absolutePath environment (Path.ofText directory) raw = .ok q)
include absolute becomes

/-- What comes out is settled. -/
theorem settled_of_absolutePath : q.Settled := by
  obtain ⟨p, expands, rfl⟩ := (absolutePath_eq_ok_iff _ _ _ _).mp becomes
  have regular := (Path.regular_ofText _).expandHome? expands
  exact ((Path.regular_ofText directory).join regular).settled_normal (Path.isAbsolute_join absolute p)

/-- **An absolute path leads where the path led.** Steps to the parent are cancelled on the path
alone, and the place is read off the path in the same way. -/
theorem leads_of_absolutePath : Leads environment (Path.ofText directory) raw q.text := by
  have settled := settled_of_absolutePath absolute becomes
  obtain ⟨p, expands, rfl⟩ := (absolutePath_eq_ok_iff _ _ _ _).mp becomes
  have again := Path.ofText_text settled.regular
  refine ⟨settled.head?_text, fun piece here => ⟨?_, ?_⟩, p, expands, ?_, ?_⟩
  · rintro rfl
    exact settled.notMem_splitAt_text (.inl rfl) here
  · rintro rfl
    exact settled.notMem_splitAt_text (.inr rfl) here
  · rw [again, Path.normal_of_absolute (Path.isAbsolute_join absolute p)]
    rfl
  · rw [again]

/-- An absolute path without a reference to a variable is the same from anywhere. -/
theorem absolutePath_text (plain : '$' ∉ q.text.toList) (environment' : Environment) (base' : Path) :
    absolutePath environment' base' q.text = .ok q := by
  have settled := settled_of_absolutePath absolute becomes
  refine (absolutePath_eq_ok_iff _ _ _ _).mpr ⟨q, ?_, ?_⟩
  · rw [environment'.expand_of_notMem plain, Path.ofText_text settled.regular]
    exact Path.expandHome?_of_absolute environment' settled.absolute
  · rw [Path.join, if_pos settled.absolute, settled.normal_eq]

end Absolute

/-! ## One key -/

/-- A path is a text in the section of the paths. -/
theorem storedText?_eq_some_iff (key : String) (entries : List (Datum × Datum)) (raw : String) :
    storedText? key entries = some raw ↔
      nodeAt [pathSection, key] (.mapping entries) = some (.leaf (.text raw)) := by
  have node_eq (d : Datum) : d.text? = some raw ↔ d.node = .leaf (.text raw) := by
    cases d <;> simp [Datum.text?, Datum.node]
  have lookups : storedText? key entries =
      (lookup? pathSection entries).bind fun d => (d.find? key).bind Datum.text? := by
    have isLookup : atKey? (.text pathSection) entries = lookup? pathSection entries := rfl
    unfold storedText?
    rw [isLookup]
    cases lookup? pathSection entries with
    | none => rfl
    | some d => cases d <;> rfl
  rw [lookups, nodeAt_cons_mapping]
  simp only [Option.bind_eq_some_iff, nodeAt, Option.some.injEq, node_eq]

/-- What making the paths at some keys absolute does to the entries of a configuration. -/
structure Placing (environment : Environment) (base : Path) (keys : List String)
    (entries entries' : List (Datum × Datum)) : Prop where
  /-- Keys stay texts that stand once. -/
  keyed : (Datum.mapping entries').Keyed 2
  /-- Entries that sorting leaves as they are stay so. -/
  arranged : arrange? entries = some entries → arrange? entries' = some entries'
  /-- A path at one of the keys is made absolute. -/
  placed : ∀ key ∈ keys, ∀ raw, storedText? key entries = some raw →
    ∃ q, absolutePath environment base raw = .ok q ∧ storedText? key entries' = some q.text
  /-- All else stays as it is. -/
  others : ∀ path, (∀ key ∈ keys, ∀ raw, storedText? key entries = some raw → path ≠ [pathSection, key]) →
    nodeAt path (.mapping entries') = nodeAt path (.mapping entries)

/-- Without a path at the keys there is nothing to do. -/
theorem Placing.of_silent {environment : Environment} {base : Path} {keys : List String}
    {entries : List (Datum × Datum)} (keyed : (Datum.mapping entries).Keyed 2)
    (silent : ∀ key ∈ keys, storedText? key entries = none) : Placing environment base keys entries entries where
  keyed := keyed
  arranged := id
  placed key isKey raw stored := by
    rw [silent key isKey] at stored
    cases stored
  others _ _ := rfl

section Steps

variable {environment : Environment} {base : Path} {key : String} {keys : List String}
  {entries entries' : List (Datum × Datum)}

/-- A path is another one at other keys only. -/
theorem Placing.storedText?_eq (placing : Placing environment base keys entries entries') (new : key ∉ keys) :
    storedText? key entries' = storedText? key entries := by
  refine Option.ext fun raw => ?_
  rw [storedText?_eq_some_iff, storedText?_eq_some_iff, placing.others]
  rintro key' isKey - - same
  obtain rfl : key = key' := by simpa using same
  exact new isKey

theorem Placing.cons {between : List (Datum × Datum)} (new : key ∉ keys)
    (first : Placing environment base [key] entries between)
    (rest : Placing environment base keys between entries') :
    Placing environment base (key :: keys) entries entries' := by
  -- A key is not met again, so what a step has set stands at the end, and was not set before its turn.
  have others {k : String} (isKey : k ∈ keys) : storedText? k between = storedText? k entries :=
    first.storedText?_eq fun same => new (List.mem_singleton.mp same ▸ isKey)
  refine ⟨rest.keyed, rest.arranged ∘ first.arranged, ?_, fun path elsewhere => ?_⟩
  · refine List.forall_mem_cons.mpr ⟨fun raw stored => ?_, fun k isKey raw stored => ?_⟩
    · obtain ⟨q, becomes, isStored⟩ := first.placed key List.mem_cons_self raw stored
      exact ⟨q, becomes, (rest.storedText?_eq new).trans isStored⟩
    · exact rest.placed k isKey raw ((others isKey).trans stored)
  · obtain ⟨here, later⟩ := List.forall_mem_cons.mp elsewhere
    rw [rest.others path fun k isKey raw stored => later k isKey raw ((others isKey).symm.trans stored),
      first.others path (List.forall_mem_singleton.mpr here)]

/-- A path that is there stands in a section that is a mapping. -/
theorem exists_of_storedText? {raw : String} (stored : storedText? key entries = some raw) : ∃ inner,
    lookup? pathSection entries = some (.mapping inner) ∧ lookup? key inner = some (.text raw) := by
  have there := (storedText?_eq_some_iff key entries raw).mp stored
  rw [nodeAt_cons_mapping, Option.bind_eq_some_iff] at there
  obtain ⟨section_, isSection, there⟩ := there
  obtain ⟨d, isThere, isText⟩ := Option.bind_eq_some_iff.mp there
  obtain ⟨inner, rfl⟩ : ∃ inner, section_ = .mapping inner := by
    cases section_ with
    | mapping inner => exact ⟨inner, rfl⟩
    | _ => cases isThere
  obtain rfl : d = .text raw := by
    cases d with
    | text s => simpa [nodeAt, Datum.node] using isText
    | _ => simp [nodeAt, Datum.node] at isText
  exact ⟨inner, isSection, isThere⟩

theorem assignAt_of_section {inner : List (Datum × Datum)}
    (isSection : lookup? pathSection entries = some (.mapping inner)) (value : Datum) :
    assignAt value [pathSection, key] entries =
      .ok (assign (.text pathSection) (.mapping (assign (.text key) value inner)) entries) := by
  have found : atKey? (.text pathSection) entries = some (.mapping inner) := isSection
  unfold assignAt
  rw [found]
  rfl

/-- Where a text in a section becomes another one, no other node of the tree is changed. -/
theorem nodeAt_assign_of_ne {inner : List (Datum × Datum)} {raw : String}
    (isSection : lookup? pathSection entries = some (.mapping inner)) (found : lookup? key inner = some (.text raw))
    (s : String) {path : List String} (other : path ≠ [pathSection, key]) :
    nodeAt path (.mapping (assign (.text pathSection) (.mapping (assign (.text key) (.text s) inner)) entries)) =
      nodeAt path (.mapping entries) := by
  -- Down to the path both trees have the same keys; below it neither has a node, since texts have none.
  cases path with
  | nil => rfl
  | cons first rest =>
      rw [nodeAt_assign]
      split
      next same =>
        subst same
        rw [nodeAt_cons_mapping, isSection, Option.bind_some]
        cases rest with
        | nil => rfl
        | cons second below =>
            rw [nodeAt_assign]
            split
            next same =>
              subst same
              rw [nodeAt_cons_mapping, found, Option.bind_some]
              cases below with
              | nil => exact absurd rfl other
              | cons => rfl
            next => rfl
      next => rfl

/-- **Making one path absolute sets an entry of a section, and does nothing else.** -/
theorem placing_assign {inner : List (Datum × Datum)} {raw : String} (keyed : (Datum.mapping entries).Keyed 2)
    (isSection : lookup? pathSection entries = some (.mapping inner))
    (found : lookup? key inner = some (.text raw)) {q : Path} (becomes : absolutePath environment base raw = .ok q) :
    Placing environment base [key] entries
      (assign (.text pathSection) (.mapping (assign (.text key) (.text q.text) inner)) entries) := by
  have keyedInner := keyed.2 _ (mem_of_lookup? isSection)
  have stored : storedText? key entries = some raw := by
    rw [storedText?_eq_some_iff, nodeAt_cons_mapping, isSection, Option.bind_some, nodeAt_cons_mapping, found]
    rfl
  refine ⟨keyed.of_assign pathSection (keyedInner.of_assign key trivial), fun arranged => ?_, ?_, ?_⟩
  · -- The section is there, and so is the path in it, so both keep their places.
    have hasSection := (exists_lookup?_iff _ _).mp ⟨_, isSection⟩
    have hasPath := (exists_lookup?_iff _ _).mp ⟨_, found⟩
    have fixed := (keyed.1.arrange?_eq_self_iff.mp arranged).2 _ (mem_of_lookup? isSection)
    rw [sortMappings?_mapping, Option.map_eq_some_iff] at fixed
    obtain ⟨_, fixed, same⟩ := fixed
    rw [Datum.mapping.inj same] at fixed
    refine keyed.1.arrange?_assign hasSection ?_ arranged
    rw [sortMappings?_mapping, keyedInner.1.arrange?_assign hasPath rfl fixed]
    rfl
  · intro k isKey raw' stored'
    obtain rfl := List.mem_singleton.mp isKey
    obtain rfl := Option.some.inj (stored.symm.trans stored')
    refine ⟨q, becomes, (storedText?_eq_some_iff _ _ _).mpr ?_⟩
    rw [nodeAt_assign, if_pos rfl, nodeAt_assign, if_pos rfl]
    rfl
  · intro path elsewhere
    exact nodeAt_assign_of_ne isSection found q.text (elsewhere key List.mem_cons_self raw stored)

theorem placeAt_of_stored {raw : String} (stored : storedText? key entries = some raw) {q : Path}
    (becomes : absolutePath environment base raw = .ok q) :
    placeAt environment base entries key = assignAt (.text q.text) [pathSection, key] entries := by
  unfold placeAt
  rw [stored]
  show (absolutePath environment base raw >>= fun q => assignAt (.text q.text) [pathSection, key] entries) = _
  rw [becomes]
  rfl

theorem placeAt_of_none (silent : storedText? key entries = none) :
    placeAt environment base entries key = .ok entries := by
  unfold placeAt
  rw [silent]

/-- A path is made absolute if the home directory that it names is known. -/
theorem exists_placeAt (keyed : (Datum.mapping entries).Keyed 2)
    (known : ∀ raw, storedText? key entries = some raw → ∃ q, absolutePath environment base raw = .ok q) :
    ∃ entries', placeAt environment base entries key = .ok entries' ∧
      Placing environment base [key] entries entries' := by
  cases stored : storedText? key entries with
  | none => exact ⟨entries, placeAt_of_none stored, .of_silent keyed (List.forall_mem_singleton.mpr stored)⟩
  | some raw =>
      obtain ⟨q, becomes⟩ := known raw stored
      obtain ⟨inner, isSection, found⟩ := exists_of_storedText? stored
      refine ⟨_, ?_, placing_assign keyed isSection found becomes⟩
      rw [placeAt_of_stored stored becomes, assignAt_of_section isSection]

theorem placing_of_placeAt (keyed : (Datum.mapping entries).Keyed 2)
    (places : placeAt environment base entries key = .ok entries') :
    Placing environment base [key] entries entries' := by
  have known (raw : String) (stored : storedText? key entries = some raw) :
      ∃ q, absolutePath environment base raw = .ok q := by
    unfold placeAt at places
    rw [stored] at places
    obtain ⟨q, becomes, -⟩ := (bind_eq_ok_iff _ _ _).mp places
    exact ⟨q, becomes⟩
  obtain ⟨between, places', placing⟩ := exists_placeAt keyed known
  obtain rfl := Except.ok.inj (places'.symm.trans places)
  exact placing

/-- A path that is absolute already stays as it is. -/
theorem placeAt_eq_self (fixed : ∀ raw, storedText? key entries = some raw →
    ∃ q, absolutePath environment base raw = .ok q ∧ q.text = raw) :
    placeAt environment base entries key = .ok entries := by
  cases stored : storedText? key entries with
  | none => exact placeAt_of_none stored
  | some raw =>
      obtain ⟨q, becomes, rfl⟩ := fixed raw stored
      obtain ⟨inner, isSection, found⟩ := exists_of_storedText? stored
      rw [placeAt_of_stored stored becomes, assignAt_of_section isSection, assign_of_lookup? found,
        assign_of_lookup? isSection]

end Steps

/-! ## All keys -/

section Runs

variable {environment : Environment} {base : Path} {keys : List String} {entries entries' : List (Datum × Datum)}

/-- **A whole run does to the paths at its keys what each step does to one.** The keys are distinct,
so no step meets what another one has done. -/
theorem placing_of_foldlM (distinct : keys.Nodup) (keyed : (Datum.mapping entries).Keyed 2)
    (places : keys.foldlM (placeAt environment base) entries = .ok entries') :
    Placing environment base keys entries entries' := by
  induction keys generalizing entries with
  | nil =>
      obtain rfl := Except.ok.inj places
      exact .of_silent keyed (by simp)
  | cons key keys ih =>
      obtain ⟨new, rest⟩ := List.nodup_cons.mp distinct
      rw [List.foldlM_cons, bind_eq_ok_iff] at places
      obtain ⟨between, one, places⟩ := places
      have first := placing_of_placeAt keyed one
      exact .cons new first (ih rest first.keyed places)

theorem exists_foldlM_placeAt (distinct : keys.Nodup) (keyed : (Datum.mapping entries).Keyed 2)
    (known : ∀ key ∈ keys, ∀ raw, storedText? key entries = some raw →
      ∃ q, absolutePath environment base raw = .ok q) :
    ∃ entries', keys.foldlM (placeAt environment base) entries = .ok entries' := by
  induction keys generalizing entries with
  | nil => exact ⟨entries, rfl⟩
  | cons key keys ih =>
      obtain ⟨new, rest⟩ := List.nodup_cons.mp distinct
      obtain ⟨here, later⟩ := List.forall_mem_cons.mp known
      obtain ⟨between, one, first⟩ := exists_placeAt keyed here
      obtain ⟨entries', places⟩ := ih rest first.keyed fun k isKey raw stored => later k isKey raw <| by
        rwa [first.storedText?_eq fun same => new (List.mem_singleton.mp same ▸ isKey)] at stored
      exact ⟨entries', by rw [List.foldlM_cons, one]; exact places⟩

theorem foldlM_placeAt_eq_self (fixed : ∀ key ∈ keys, ∀ raw, storedText? key entries = some raw →
    ∃ q, absolutePath environment base raw = .ok q ∧ q.text = raw) :
    keys.foldlM (placeAt environment base) entries = .ok entries := by
  induction keys with
  | nil => rfl
  | cons key keys ih =>
      obtain ⟨here, later⟩ := List.forall_mem_cons.mp fixed
      rw [List.foldlM_cons, placeAt_eq_self here]
      exact ih later

end Runs

/-! ## The configuration -/

/-- Nested entries are sorted before their paths are made absolute. -/
theorem normalizePaths_mapping {entries sorted : List (Datum × Datum)} (tidy : Tidy entries)
    (arranges : arrange? entries = some sorted) (environment : Environment) (base : Path) :
    normalizePaths environment base (.mapping entries) =
      pathFields.foldlM (placeAt environment base) sorted := by
  show (merged [] entries >>= fun entries => pathFields.foldlM (placeAt environment base) entries) = _
  rw [(merged_eq_ok_iff _ _ _).mpr (merge?_nil tidy arranges)]
  rfl

/-- Whatever stands in the section of the paths of a valid configuration is a text at the key of a path. -/
theorem text_of_issues {config : Datum} (valid : issues config = .ok []) {key : String} {node : Datum.Node}
    (there : nodeAt [pathSection, key] config = some node) :
    key ∈ pathFields ∧ ∃ raw, node = .leaf (.text raw) := by
  obtain ⟨entries, rfl, -, sections⟩ := (issues_eq_nil_iff config).mp valid
  let fields : List (String × FieldCheck) :=
    ["receipts_dir", "runs_dir", "verification_dir"].map fun name => (name, .ofValue pathText)
  have isSection : (pathSection, fields) ∈ schema := by simp [schema, pathSection, fields]
  obtain ⟨d, found, isNull | ⟨inner, rfl, keys, each⟩⟩ := sections _ isSection
  · rw [nodeAt_cons_mapping, found, isNull] at there
    cases there
  · rw [nodeAt_cons_mapping, found, Option.bind_some, nodeAt_cons_mapping, Option.bind_eq_some_iff] at there
    obtain ⟨value, isThere, isNode⟩ := there
    obtain ⟨name, isName, same⟩ := (keys (.text key)).mp ((exists_lookup?_iff _ _).mp ⟨_, isThere⟩)
    obtain rfl := Datum.text.inj same
    obtain ⟨f, isField, rfl⟩ := List.mem_map.mp isName
    obtain ⟨value', normal, found', accepts⟩ := each f isField
    obtain rfl := Option.some.inj (isThere.symm.trans found')
    have isPath : f.2 = .ofValue pathText ∧ f.1 ∈ pathFields := by
      revert f
      simp [fields, pathFields]
    rw [isPath.1] at accepts
    obtain ⟨raw, rfl, -⟩ := (pathText_eq_ok_iff _ _).mp (ofValue_eq_ok_iff.mp accepts)
    exact ⟨isPath.2, raw, (Option.some.inj isNode).symm⟩

/-- What making the paths of a configuration absolute does to it. -/
structure PathsPlaced (environment : Environment) (base : Path) (config result : Datum) : Prop where
  /-- Every entry of the section of the paths is a text that leads where the entry led. -/
  entries : ∀ key node, nodeAt [pathSection, key] result = some node → ∃ raw s,
    nodeAt [pathSection, key] config = some (.leaf (.text raw)) ∧ node = .leaf (.text s) ∧
      Leads environment base raw s
  kept : ∀ key, nodeAt [pathSection, key] result = none → nodeAt [pathSection, key] config = none
  /-- All else stays as it is. -/
  others : ∀ path, (∀ key, path ≠ [pathSection, key]) → nodeAt path result = nodeAt path config

section Normalized

variable {environment : Environment} {directory : String} {config : Datum} {sorted result : List (Datum × Datum)}
  (valid : issues config = .ok []) (same : SameTree (.mapping sorted) config)
  (placing : Placing environment (Path.ofText directory) pathFields sorted result)
include valid same placing

/-- An entry of the section of the paths, before and after. -/
theorem entry_of_placing (key : String) :
    (nodeAt [pathSection, key] config = none ∧ nodeAt [pathSection, key] (.mapping result) = none) ∨
      ∃ raw q, nodeAt [pathSection, key] config = some (.leaf (.text raw)) ∧
        absolutePath environment (Path.ofText directory) raw = .ok q ∧
        nodeAt [pathSection, key] (.mapping result) = some (.leaf (.text q.text)) := by
  cases there : nodeAt [pathSection, key] config with
  | none =>
      -- No path is there that could be made absolute, so the run has passed this key by.
      refine .inl ⟨rfl, ?_⟩
      rw [placing.others, same, there]
      rintro key' - raw stored together
      rw [storedText?_eq_some_iff, ← together, same, there] at stored
      cases stored
  | some node =>
      obtain ⟨isPath, raw, rfl⟩ := text_of_issues valid there
      have stored := (storedText?_eq_some_iff key sorted raw).mpr ((same _).trans there)
      obtain ⟨q, becomes, isStored⟩ := placing.placed key isPath raw stored
      exact .inr ⟨raw, q, rfl, becomes, (storedText?_eq_some_iff _ _ _).mp isStored⟩

theorem pathsPlaced_of_placing (absolute : (Path.ofText directory).isAbsolute = true) :
    PathsPlaced environment (Path.ofText directory) config (.mapping result) where
  entries key node there := by
    rcases entry_of_placing valid same placing key with ⟨-, missing⟩ | ⟨raw, q, stood, becomes, stands⟩
    · rw [missing] at there
      cases there
    · refine ⟨raw, q.text, stood, ?_, leads_of_absolutePath absolute becomes⟩
      exact Option.some.inj (there.symm.trans stands)
  kept key missing := by
    rcases entry_of_placing valid same placing key with ⟨stood, -⟩ | ⟨raw, q, -, -, stands⟩
    · exact stood
    · rw [missing] at stands
      cases stands
  others path elsewhere := by
    rw [placing.others path fun key _ _ _ => elsewhere key, same]

/-- Absolute paths without references to variables stay as they are. -/
theorem normalizePaths_of_placing (absolute : (Path.ofText directory).isAbsolute = true)
    (arranged : arrange? sorted = some sorted)
    (plain : ∀ key s, nodeAt [pathSection, key] (.mapping result) = some (.leaf (.text s)) → '$' ∉ s.toList)
    (environment' : Environment) (base' : Path) :
    normalizePaths environment' base' (.mapping result) = .ok result := by
  rw [normalizePaths_mapping placing.keyed.1 (placing.arranged arranged)]
  refine foldlM_placeAt_eq_self fun key _ s stored => ?_
  rw [storedText?_eq_some_iff] at stored
  rcases entry_of_placing valid same placing key with ⟨-, missing⟩ | ⟨raw, q, -, becomes, stands⟩
  · rw [missing] at stored
    cases stored
  · obtain rfl : q.text = s := by simpa [stands] using stored
    exact ⟨q, absolutePath_text absolute becomes (plain key _ stands) environment' base', rfl⟩

end Normalized

/-- **The paths of a valid configuration are made absolute**, unless one names a home directory that is not
known.  Every entry of the section of the paths then is a path from the root without steps, at the place that
it leads to from the base directory, and nothing else is changed.  If no entry refers to a variable, doing it
again from any directory changes nothing. -/
theorem normalizePaths_placed {environment : Environment} {directory : String} {config : Datum}
    (nested : config.Nested) (valid : issues config = .ok [])
    (absolute : (Path.ofText directory).isAbsolute = true) :
    ((∃ result, normalizePaths environment (Path.ofText directory) config = .ok result) ↔
      ∀ key raw, nodeAt [pathSection, key] config = some (.leaf (.text raw)) →
        ∃ p, (Path.ofText (environment.expand raw)).expandHome? environment = some p) ∧
      ∀ result, normalizePaths environment (Path.ofText directory) config = .ok result →
        PathsPlaced environment (Path.ofText directory) config (.mapping result) ∧
          ((∀ key s, nodeAt [pathSection, key] (.mapping result) = some (.leaf (.text s)) → '$' ∉ s.toList) →
            ∀ environment' base', normalizePaths environment' base' (.mapping result) = .ok result) := by
  obtain ⟨entries, rfl, -⟩ := (issues_eq_nil_iff config).mp valid
  obtain ⟨sorted, arranges⟩ := nested.exists_arrange?
  have sorts : sortMappings? (.mapping entries) = some (.mapping sorted) := by
    rw [sortMappings?_mapping, arranges]
    rfl
  have same := nested.sameTree_of_sortMappings? sorts
  have keyed := nested.of_sortMappings? sorts 2
  have distinct : pathFields.Nodup := by decide
  -- Sorting comes first; it leaves the tree as it is, so the run starts from the same entries.
  rw [normalizePaths_mapping nested.tidy arranges]
  constructor
  · constructor
    · rintro ⟨result, places⟩ key raw there
      have placing := placing_of_foldlM distinct keyed places
      rcases entry_of_placing valid same placing key with ⟨missing, -⟩ | ⟨raw', q, stood, becomes, -⟩
      · rw [missing] at there
        cases there
      · obtain rfl : raw' = raw := by simpa [stood] using there
        obtain ⟨p, expands, -⟩ := (absolutePath_eq_ok_iff _ _ _ _).mp becomes
        exact ⟨p, expands⟩
    · intro known
      refine exists_foldlM_placeAt distinct keyed fun key _ raw stored => ?_
      rw [storedText?_eq_some_iff, same] at stored
      obtain ⟨p, expands⟩ := known key raw stored
      exact ⟨_, (absolutePath_eq_ok_iff _ _ _ _).mpr ⟨p, expands, rfl⟩⟩
  · intro result places
    have placing := placing_of_foldlM distinct keyed places
    exact ⟨pathsPlaced_of_placing valid same placing absolute,
      normalizePaths_of_placing valid same placing absolute (nested.arrange?_idem arranges)⟩

/-- A configuration whose paths have more steps than there are directories, a tilde and a variable. -/
def steppedConfig : Datum :=
  .object [("meta", .object [("schema_version", .int 1)]), ("observability", .null),
    ("paths", .object [("runs_dir", .text "~/v"), ("receipts_dir", .text "../../../r//./s/.."),
      ("verification_dir", .text "${X}/./a/../b")]),
    ("verification", .object [("command_timeout_ms", .int 1), ("http_timeout_ms", .int 1),
      ("max_concurrency", .int 1), ("max_output_chars", .int 1)])]

/-- The configuration with absolute paths. -/
def settledEntries : List (Datum × Datum) :=
  [(.text "meta", .object [("schema_version", .int 1)]), (.text "observability", .null),
    (.text "paths", .object [("receipts_dir", .text "/r"), ("runs_dir", .text "/home/u/v"),
      ("verification_dir", .text "/x/b")]),
    (.text "verification", .object [("command_timeout_ms", .int 1), ("http_timeout_ms", .int 1),
      ("max_concurrency", .int 1), ("max_output_chars", .int 1)])]

/-- A variable that a path refers to, and the home directory on record of the user who runs the program. -/
def steppedEnvironment : Environment where
  vars := [("X", "/x")]
  homes user := if user = "" then some "/home/u" else none

theorem nested_steppedConfig : steppedConfig.Nested := by
  have leaves {members : List (String × Datum)} (distinct : (members.map Prod.fst).Nodup)
      (each : ∀ m ∈ members, m.2.IsLeaf) : (Datum.object members).Nested :=
    .object distinct fun m here => .of_leaf (each m here)
  refine .object (by decide) ?_
  simp only [List.forall_mem_cons]
  exact ⟨leaves (by decide) (by simp [IsLeaf]), .of_leaf trivial, leaves (by decide) (by simp [IsLeaf]),
    leaves (by decide) (by simp [IsLeaf]), by simp⟩

theorem normalizePaths_placed_steppedConfig : steppedConfig.Nested ∧ issues steppedConfig = .ok [] ∧
    (Path.ofText "/base/dir").isAbsolute = true ∧
    normalizePaths steppedEnvironment (Path.ofText "/base/dir") steppedConfig = .ok settledEntries ∧
    PathsPlaced steppedEnvironment (Path.ofText "/base/dir") steppedConfig (.mapping settledEntries) ∧
    ∀ environment' base', normalizePaths environment' base' (.mapping settledEntries) = .ok settledEntries := by
  have valid : issues steppedConfig = .ok [] := by decide +kernel
  have absolute : (Path.ofText "/base/dir").isAbsolute = true := by decide
  have normalizes : normalizePaths steppedEnvironment (Path.ofText "/base/dir") steppedConfig = .ok settledEntries :=
    rfl
  have plain (key s : String)
      (there : nodeAt [pathSection, key] (.mapping settledEntries) = some (.leaf (.text s))) :
      '$' ∉ s.toList := by
    obtain ⟨inner, isSection, found⟩ := exists_of_storedText? ((storedText?_eq_some_iff _ _ _).mpr there)
    obtain rfl := Datum.mapping.inj (Option.some.inj isSection)
    have isEntry : s = "/r" ∨ s = "/home/u/v" ∨ s = "/x/b" := by
      simpa [and_or_left, exists_or] using List.mem_map_of_mem (f := Prod.snd) (mem_of_lookup? found)
    rcases isEntry with rfl | rfl | rfl <;> decide
  obtain ⟨placed, again⟩ := (normalizePaths_placed nested_steppedConfig valid absolute).2 _ normalizes
  exact ⟨nested_steppedConfig, valid, absolute, normalizes, placed, again plain⟩

end IntentSpec.Config
