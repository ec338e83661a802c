import IntentSpec.Files.Tree
import IntentSpec.Proofs.Datum.Reading

/-!
# What stands in a file tree

Putting a node at a place and taking it away change what stands there and nowhere else.  Which place a
path leads to can be read off its parts; the tree only says whether it leads there.  So a path that leads
somewhere goes on doing so as long as directories stay directories.

* `FileTree.find?_put`, `FileTree.find?_erase` — the two changes.
* `FileTree.placeFrom`, `FileTree.follow_eq_ok` — where a path leads to.
* `FileTree.Keeps`, `FileTree.follow_of_keeps` — directories that stay directories.
* `FileTree.Extends`, `FileTree.makeDirectories_extends` — making directories.
* `FileTree.LeadsThrough`, `FileTree.makeDirectories_extendsAt` — where directories are made.
-/

namespace IntentSpec.FileTree

/-! ## Nodes -/

theorem find?_root (t : FileTree) : t.find? [] = some .directory := rfl

theorem find?_of_ne_root {place : Place} (inside : place ≠ []) (t : FileTree) :
    t.find? place = (t.nodes.find? (·.1 == place)).map (·.2) := by
  rw [find?, if_neg (by simpa using inside)]

theorem mem_of_find? {t : FileTree} {place : Place} {node : Node} (inside : place ≠ [])
    (stands : t.find? place = some node) : place ∈ t.nodes.map Prod.fst := by
  rw [find?_of_ne_root inside] at stands
  obtain ⟨entry, first, -⟩ := Option.map_eq_some_iff.mp stands
  obtain rfl : entry.1 = place := by simpa using List.find?_some first
  exact List.mem_map_of_mem (List.mem_of_find?_eq_some first)

/-- **What is taken away no longer stands there**, and all else does. -/
theorem find?_erase (t : FileTree) (place other : Place) :
    (t.erase place).find? other = if other = place ∧ other ≠ [] then none else t.find? other := by
  by_cases inside : other = []
  · rw [if_neg fun both => both.2 inside, inside, find?_root, find?_root]
  · rw [find?_of_ne_root inside, find?_of_ne_root inside, erase, List.find?_filter]
    by_cases here : other = place
    · subst here
      simp [inside]
    · rw [if_neg fun both => here both.1]
      congr 2
      funext node
      by_cases isOther : node.1 = other
      · simp [isOther, here]
      · simp [isOther]

/-- **What is put at a place stands there**, and all else stands where it stood. With the law for
taking away it is all that is used of the lists that trees are. -/
theorem find?_put (t : FileTree) (place other : Place) (node : Node) :
    (t.put place node).find? other = if other = place ∧ other ≠ [] then some node else t.find? other := by
  by_cases inside : other = []
  · rw [if_neg fun both => both.2 inside, inside, find?_root, find?_root]
  · rw [find?_of_ne_root inside, put, List.find?_cons]
    by_cases here : other = place
    · subst here
      simp [inside]
    · have apart : (place == other) = false := by simpa using Ne.symm here
      rw [apart, ← find?_of_ne_root inside, find?_erase]
      simp [here]

/-! ## Paths -/

/-- The place that parts lead to from another one. -/
def placeFrom (at_ : Place) (parts : List String) : Place :=
  parts.foldl (fun at_ part => if part = Path.up then at_.dropLast else at_ ++ [part]) at_

/-- A step leads on from a directory, if the name is not too long. -/
theorem follow_cons_eq_ok_iff (t : FileTree) (at_ place : Place) (part : String) (parts : List String) :
    t.follow at_ (part :: parts) = .ok place ↔
      t.find? at_ = some .directory ∧ ¬ maxName < part.utf8ByteSize ∧
        t.follow (if part = Path.up then at_.dropLast else at_ ++ [part]) parts = .ok place := by
  rw [follow]
  split
  next isDirectory => by_cases long : maxName < part.utf8ByteSize <;> simp [isDirectory, long]
  all_goals simp_all

/-- A path leads to the place that its parts say, if it leads anywhere. -/
theorem follow_eq_ok {t : FileTree} {at_ place : Place} {parts : List String}
    (leads : t.follow at_ parts = .ok place) : place = placeFrom at_ parts := by
  induction parts generalizing at_ with
  | nil => exact (Except.ok.inj leads).symm
  | cons part parts ih => exact ih ((follow_cons_eq_ok_iff ..).mp leads).2.2

/-- Directories stay directories. -/
def Keeps (t t' : FileTree) : Prop := ∀ place, t.find? place = some .directory → t'.find? place = some .directory

theorem Keeps.refl (t : FileTree) : Keeps t t := fun _ => id

theorem Keeps.trans {t t' t'' : FileTree} (first : Keeps t t') (second : Keeps t' t'') : Keeps t t'' :=
  fun place here => second place (first place here)

/-- **A path goes on leading where it leads as long as directories stay directories.** What becomes
of files does not matter, since no path leads through one. -/
theorem follow_of_keeps {t t' : FileTree} (keeps : Keeps t t') {at_ place : Place} {parts : List String}
    (leads : t.follow at_ parts = .ok place) : t'.follow at_ parts = .ok place := by
  induction parts generalizing at_ with
  | nil => exact leads
  | cons part parts ih =>
      obtain ⟨isDirectory, short, leads⟩ := (follow_cons_eq_ok_iff ..).mp leads
      exact (follow_cons_eq_ok_iff ..).mpr ⟨keeps at_ isDirectory, short, ih leads⟩

theorem locate_of_keeps {t t' : FileTree} (keeps : Keeps t t') {directory p : Path} {place : Place}
    (leads : t.locate directory p = .ok place) : t'.locate directory p = .ok place :=
  follow_of_keeps keeps leads

/-- The place that a path says, given the working directory. -/
def placeOf (directory p : Path) : Place := placeFrom [] (directory.join p).parts

theorem locate_eq_ok {t : FileTree} {directory p : Path} {place : Place}
    (leads : t.locate directory p = .ok place) : place = placeOf directory p :=
  follow_eq_ok leads

/-- Parts are followed one after the other. -/
theorem follow_append (t : FileTree) (at_ : Place) (front parts : List String) :
    t.follow at_ (front ++ parts) = (t.follow at_ front).bind (t.follow · parts) := by
  induction front generalizing at_ with
  | nil => rfl
  | cons part front ih =>
      rw [List.cons_append, follow, follow]
      split
      · split
        · rfl
        · exact ih _
      all_goals rfl

/-- From a directory, a name leads to a place below it. -/
theorem follow_name {t : FileTree} {at_ : Place} {name : String} (isDirectory : t.find? at_ = some .directory)
    (short : ¬ maxName < name.utf8ByteSize) (isName : name ≠ Path.up) : t.follow at_ [name] = .ok (at_ ++ [name]) :=
  (follow_cons_eq_ok_iff ..).mpr ⟨isDirectory, short, by rw [if_neg isName, follow]⟩

/-- What is followed from a place that does not stand there leads nowhere. -/
theorem find?_ne_none_of_follow {t : FileTree} {at_ place : Place} {parts : List String}
    (leads : t.follow at_ parts = .ok place) (there : t.find? place ≠ none) : t.find? at_ ≠ none := by
  cases parts with
  | nil =>
      obtain rfl := Except.ok.inj leads
      exact there
  | cons part parts => simp [((follow_cons_eq_ok_iff ..).mp leads).1]

/-- A path that is resolved leads to the place that its parts say. -/
theorem resolveFrom_eq_ok {t : FileTree} {at_ place : Place} {parts : List String}
    (leads : t.resolveFrom at_ parts = .ok place) : place = placeFrom at_ parts := by
  induction parts generalizing at_ with
  | nil => exact (Except.ok.inj leads).symm
  | cons part parts ih =>
      unfold resolveFrom at leads
      split at leads
      next isUp =>
        rw [ih leads, placeFrom, placeFrom, List.foldl_cons, if_pos isUp]
      next isName =>
        split at leads
        next => cases leads
        next next_ stepped =>
          split at leads
          · cases leads
          · rw [ih leads, follow_eq_ok stepped]
            simp [placeFrom, isName]

theorem placeFrom_append (at_ : Place) (front parts : List String) :
    placeFrom at_ (front ++ parts) = placeFrom (placeFrom at_ front) parts :=
  List.foldl_append

theorem placeFrom_name (at_ : Place) {name : String} (isName : name ≠ Path.up) :
    placeFrom at_ [name] = at_ ++ [name] :=
  if_neg isName

/-- **A path that leads to what is there is resolved.** -/
theorem resolveFrom_of_follow {t : FileTree} {at_ place : Place} {parts : List String}
    (leads : t.follow at_ parts = .ok place) (there : t.find? place ≠ none) :
    t.resolveFrom at_ parts = .ok place := by
  induction parts generalizing at_ with
  | nil => exact leads
  | cons part parts ih =>
      obtain ⟨isDirectory, short, leads⟩ := (follow_cons_eq_ok_iff ..).mp leads
      unfold resolveFrom
      by_cases isUp : part = Path.up
      · rw [if_pos isUp] at leads ⊢
        exact ih leads
      · rw [if_neg isUp] at leads ⊢
        have stands := find?_ne_none_of_follow leads there
        rw [follow_name isDirectory short isUp]
        dsimp only
        rw [if_neg (by simpa using stands)]
        exact ih leads

/-- **The place that a path leads to can be reached by its names.** -/
theorem follow_place {t : FileTree} {at_ place : Place} {parts : List String}
    (leads : t.follow at_ parts = .ok place) (noUp : Path.up ∉ at_) (reached : t.follow [] at_ = .ok at_) :
    t.follow [] place = .ok place := by
  induction parts generalizing at_ with
  | nil =>
      obtain rfl := Except.ok.inj leads
      exact reached
  | cons part parts ih =>
      obtain ⟨isDirectory, short, leads⟩ := (follow_cons_eq_ok_iff ..).mp leads
      by_cases isUp : part = Path.up
      · rw [if_pos isUp] at leads
        refine ih leads (fun here => noUp (List.dropLast_subset _ here)) ?_
        rcases List.eq_nil_or_concat at_ with rfl | ⟨front, name, rfl⟩
        · rfl
        · rw [List.concat_eq_append] at noUp reached ⊢
          rw [List.dropLast_concat]
          rw [follow_append] at reached
          obtain ⟨before, leadsFront, leadsName⟩ := (bind_eq_ok_iff _ _ _).mp reached
          have isName : name ≠ Path.up := by
            rintro rfl
            exact noUp (by simp)
          have same := follow_eq_ok leadsName
          rw [placeFrom_name before isName] at same
          obtain rfl := List.append_cancel_right same
          exact leadsFront
      · rw [if_neg isUp] at leads
        refine ih leads (by simp [noUp, Ne.symm isUp]) ?_
        rw [follow_append, reached]
        exact follow_name isDirectory short isUp

theorem parts_eq_parent {p : Path} (some : p.parts ≠ []) : p.parts = p.parent.parts ++ [p.name] := by
  rw [Path.parent, Path.name, List.getLast?_eq_some_getLast some, Option.getD_some, List.dropLast_append_getLast]

theorem hasNul_eq_false {p : Path} (parent : p.parent.hasNul = false)
    (name : p.name.toList.contains '\x00' = false) : p.hasNul = false := by
  by_cases none : p.parts = []
  · rw [Path.hasNul, none, List.any_nil]
  · rw [Path.hasNul, parts_eq_parent none, List.any_append]
    have plain : p.parent.parts.any (fun part => part.toList.contains '\x00') = false := parent
    rw [plain, List.any_cons, name]
    rfl

/-- The parts of a path that has some are those of its parent and its name. -/
theorem parts_join_parent (directory : Path) {p : Path} (some : p.parts ≠ []) :
    (directory.join p).parts = (directory.join p.parent).parts ++ [p.name] := by
  have split := parts_eq_parent some
  by_cases absolute : p.isAbsolute
  · have parent : p.parent.isAbsolute := absolute
    rw [Path.join, Path.join, if_pos absolute, if_pos parent, split]
  · have parent : ¬ p.parent.isAbsolute := absolute
    rw [Path.join, Path.join, if_neg absolute, if_neg parent]
    dsimp only
    rw [List.append_assoc, ← split]

/-- A path leads to no place below its parent but that of its name. -/
theorem placeOf_ne {directory p : Path} {name : String} (other : name ≠ p.name) :
    placeOf directory p ≠ placeOf directory p.parent ++ [name] := by
  intro same
  by_cases none : p.parts = []
  · have parent : p.parent = p := by rw [Path.parent, none]; cases p; simp_all
    rw [parent] at same
    simp at same
  · rw [placeOf, parts_join_parent directory none, placeFrom_append] at same
    by_cases isUp : p.name = Path.up
    · have lengths := congrArg List.length same
      simp [placeFrom, isUp, placeOf] at lengths
    · rw [placeFrom_name _ isUp] at same
      exact other (by simpa [placeOf] using same.symm)

/-- Names lead to the place that they name, one below the other. -/
theorem placeFrom_of_names (at_ : Place) {parts : List String} (noUp : Path.up ∉ parts) :
    placeFrom at_ parts = at_ ++ parts := by
  induction parts generalizing at_ with
  | nil => rw [List.append_nil]; rfl
  | cons part parts ih =>
      have isName : part ≠ Path.up := Ne.symm (List.ne_of_not_mem_cons noUp)
      have others := List.not_mem_of_not_mem_cons noUp
      rw [placeFrom, List.foldl_cons, if_neg isName]
      exact (ih _ others).trans (List.append_cons at_ part parts).symm

/-- A path without steps to the parent leads as many names further as it has parts. -/
theorem placeOf_of_names (directory : Path) {p : Path} (noUp : Path.up ∉ p.parts) :
    placeOf directory p = placeOf directory ⟨p.root, []⟩ ++ p.parts := by
  by_cases absolute : p.isAbsolute
  · have absolute' : (⟨p.root, []⟩ : Path).isAbsolute := absolute
    rw [placeOf, placeOf, Path.join, Path.join, if_pos absolute, if_pos absolute', placeFrom_of_names [] noUp]
    rfl
  · have absolute' : ¬ (⟨p.root, []⟩ : Path).isAbsolute := absolute
    rw [placeOf, placeOf, Path.join, Path.join, if_neg absolute, if_neg absolute']
    dsimp only
    rw [placeFrom_append, List.append_nil, placeFrom_of_names _ noUp]

theorem stat_eq_ok_iff (t : FileTree) (directory p : Path) (node : Node) :
    t.stat directory p = .ok node ↔
      t.locate directory p = .ok (placeOf directory p) ∧ t.find? (placeOf directory p) = some node := by
  unfold stat
  rw [bind_eq_ok_iff]
  constructor
  · rintro ⟨place, leads, stands⟩
    obtain rfl := locate_eq_ok leads
    split at stands
    next found => exact ⟨leads, found.trans (congrArg some (Except.ok.inj stands))⟩
    next => cases stands
  · rintro ⟨leads, stands⟩
    exact ⟨_, leads, by rw [stands]; rfl⟩

/-- **The path of a directory is resolved to a path of a directory.** -/
theorem resolve_of_stat {t : FileTree} {directory p : Path} (found : t.stat directory p = .ok .directory) :
    ∃ q, t.resolve directory p = .ok q ∧ q.parts = placeOf directory p ∧ t.isDirectory directory q = true := by
  obtain ⟨leads, stands⟩ := (stat_eq_ok_iff _ _ _ _).mp found
  have resolves : t.resolve directory p = .ok ⟨1, placeOf directory p⟩ := by
    rw [resolve, resolveFrom_of_follow leads (by simp [stands])]
    rfl
  have reached : t.locate directory ⟨1, placeOf directory p⟩ = .ok (placeOf directory p) :=
    follow_place leads (List.not_mem_nil) rfl
  refine ⟨_, resolves, rfl, ?_⟩
  rw [isDirectory, (stat_eq_ok_iff _ _ _ _).mpr ⟨locate_eq_ok reached ▸ reached, locate_eq_ok reached ▸ stands⟩]
  rfl

/-- **When a path leads to a file.** -/
theorem isFile_eq_ok_true_iff (t : FileTree) (directory p : Path) :
    t.isFile directory p = .ok true ↔
      p.hasNul = false ∧ ∃ node, node.isFile = true ∧ t.stat directory p = .ok node := by
  unfold isFile
  cases p.hasNul with
  | true => simp
  | false =>
      rcases t.stat directory p with code | node
      · by_cases absent : code ∈ absences <;> simp [absent]
      · simp

/-- There is no answer only where the system reports something else than that nothing is there. -/
theorem isFile_eq_error_iff (t : FileTree) (directory p : Path) (code : Int) :
    t.isFile directory p = .error code ↔
      p.hasNul = false ∧ t.stat directory p = .error code ∧ code ∉ absences := by
  unfold isFile
  cases p.hasNul with
  | true => simp
  | false =>
      rcases t.stat directory p with code' | node
      · by_cases absent : code' ∈ absences
        · simp only [List.contains_iff_mem, absent, if_true, Bool.false_eq_true, if_false, reduceCtorEq,
            true_and, false_iff, not_and, not_not, Except.error.injEq]
          rintro rfl
          exact absent
        · simp only [List.contains_iff_mem, absent, if_false, Bool.false_eq_true, true_and,
            Except.error.injEq]
          exact ⟨fun same => ⟨same, same ▸ absent⟩, And.left⟩
      · simp

theorem read_eq_ok_iff (t : FileTree) (directory p : Path) (content : List UInt8) :
    t.read directory p = .ok content ↔ t.stat directory p = .ok (.file content) := by
  unfold read
  rw [bind_eq_ok_iff]
  constructor
  · rintro ⟨node, found, reads⟩
    cases node with
    | file c => rw [found, Except.ok.inj reads]
    | _ => cases reads
  · intro found
    exact ⟨_, found, rfl⟩

/-! ## Making directories -/

/-- Directories have been put where nothing stood, and nothing else has changed. -/
def Extends (t t' : FileTree) : Prop :=
  ∀ place, t'.find? place = t.find? place ∨ t.find? place = none ∧ t'.find? place = some .directory

theorem Extends.keeps {t t' : FileTree} (extends_ : Extends t t') : Keeps t t' := by
  intro place here
  rcases extends_ place with same | ⟨nothing, -⟩
  · rw [same, here]
  · cases nothing.symm.trans here

theorem Extends.file_iff {t t' : FileTree} (extends_ : Extends t t') (place : Place) {node : Node}
    (isFile : node.isFile = true) : t'.find? place = some node ↔ t.find? place = some node := by
  rcases extends_ place with same | ⟨nothing, made⟩
  · rw [same]
  · rw [nothing, made]
    refine iff_of_false ?_ nofun
    rintro ⟨⟩
    cases isFile

/-- Directories have been put at some of the given places, where nothing stood, and nothing else has changed. -/
def ExtendsAt (P : Place → Prop) (t t' : FileTree) : Prop :=
  ∀ place, t'.find? place = t.find? place ∨ P place ∧ t.find? place = none ∧ t'.find? place = some .directory

namespace ExtendsAt

variable {P Q : Place → Prop} {t t' t'' : FileTree}

theorem refl (t : FileTree) : ExtendsAt P t t := fun _ => .inl rfl

theorem trans (first : ExtendsAt P t t') (second : ExtendsAt P t' t'') : ExtendsAt P t t'' := by
  intro place
  rcases second place with same | ⟨isOne, nothing, made⟩
  · exact same ▸ first place
  · rcases first place with same | ⟨-, -, made'⟩
    · exact .inr ⟨isOne, same ▸ nothing, made⟩
    · cases made'.symm.trans nothing

theorem imp (extends_ : ExtendsAt P t t') (implies : ∀ place, P place → Q place) : ExtendsAt Q t t' := fun place =>
  (extends_ place).imp_right fun made => ⟨implies place made.1, made.2⟩

theorem weaken (extends_ : ExtendsAt P t t') : Extends t t' := fun place =>
  (extends_ place).imp_right And.right

end ExtendsAt

/-- A place that a path leads through, the one at its end included. -/
def LeadsThrough (directory p : Path) (place : Place) : Prop :=
  ∃ front, front ≠ [] ∧ front <+: p.parts ∧ place = placeOf directory ⟨p.root, front⟩

theorem LeadsThrough.of_take {directory p : Path} {place : Place} {n : Nat}
    (leads : LeadsThrough directory ⟨p.root, p.parts.take n⟩ place) : LeadsThrough directory p place := by
  obtain ⟨front, given, isFront, same⟩ := leads
  exact ⟨front, given, isFront.trans (List.take_prefix n p.parts), same⟩

/-- **A path without steps to the parent does not lead through its own target.** Each of its parts
leads one level further down, and none back. -/
theorem not_through {directory target : Path} (noUp : Path.up ∉ target.parts) :
    ¬ LeadsThrough directory target.parent (placeOf directory target) := by
  rintro ⟨front, given, isFront, same⟩
  have isFront : front <+: target.parts.dropLast := isFront
  have noUp' : Path.up ∉ front := fun here => noUp (List.dropLast_subset _ (isFront.subset here))
  rw [placeOf_of_names directory noUp, placeOf_of_names (p := ⟨target.parent.root, front⟩) directory noUp'] at same
  have lengths := congrArg List.length (List.append_cancel_left same)
  have shorter := isFront.length_le
  have positive := List.length_pos_of_ne_nil given
  rw [List.length_dropLast] at shorter
  dsimp only at lengths
  omega

theorem makeDirectory_extendsAt {t t' : FileTree} {directory p : Path}
    (makes : t.makeDirectory directory p = .ok t') : ExtendsAt (· = placeOf directory p) t t' := by
  obtain ⟨place, leads, makes⟩ := (bind_eq_ok_iff _ _ _).mp makes
  split at makes
  next => cases makes
  next free =>
    obtain rfl := Except.ok.inj makes
    intro other
    rw [find?_put]
    by_cases here : other = place ∧ other ≠ []
    · rw [if_pos here]
      exact .inr ⟨here.1.trans (locate_eq_ok leads), here.1 ▸ Option.not_isSome_iff_eq_none.mp free, rfl⟩
    · rw [if_neg here]
      exact .inl rfl

/-- **Making directories only puts directories where nothing stood and the path leads through**, whether it
succeeds or not. -/
theorem makeDirectoriesAt_extendsAt (directory : Path) (root : Nat) (names : List String) (t : FileTree) :
    ExtendsAt (LeadsThrough directory ⟨root, names.reverse⟩) t (makeDirectoriesAt directory root names t).1 := by
  induction names generalizing t with
  | nil => exact .refl t
  | cons name above ih =>
      unfold makeDirectoriesAt
      extract_lets p settle
      have settled (t : FileTree) (code : Int) : (settle t code).1 = t := by
        dsimp only [settle]
        split <;> rfl
      have makes_ {t t' : FileTree} (makes : t.makeDirectory directory p = .ok t') :
          ExtendsAt (LeadsThrough directory ⟨root, (name :: above).reverse⟩) t t' :=
        (makeDirectory_extendsAt makes).imp fun place same =>
          ⟨(name :: above).reverse, by simp, List.prefix_rfl, same⟩
      split
      next t' makes => exact makes_ makes
      next code _ =>
        split
        · rw [settled]
          exact .refl t
        · have rises : ExtendsAt (LeadsThrough directory ⟨root, (name :: above).reverse⟩) t
              (makeDirectoriesAt directory root above t).1 := by
            refine (ih t).imp fun place leads => ?_
            obtain ⟨front, given, isFront, same⟩ := leads
            refine ⟨front, given, isFront.trans ?_, same⟩
            rw [List.reverse_cons]
            exact List.prefix_append above.reverse [name]
          split
          next t' code' made =>
            rw [made] at rises
            exact rises
          next t' made =>
            rw [made] at rises
            split
            next t'' makes => exact rises.trans (makes_ makes)
            next code' _ =>
              split
              · rw [settled]
                exact rises
              · exact rises

theorem makeDirectories_extendsAt (t : FileTree) (directory p : Path) :
    ExtendsAt (LeadsThrough directory p) t (t.makeDirectories directory p).1 := by
  have made := makeDirectoriesAt_extendsAt directory p.root p.parts.reverse t
  rwa [List.reverse_reverse] at made

theorem makeDirectories_extends (t : FileTree) (directory p : Path) :
    Extends t (t.makeDirectories directory p).1 :=
  (makeDirectories_extendsAt t directory p).weaken

end IntentSpec.FileTree
