import LittleMan.Command.FileTree
import LittleMan.Proofs.Text.Written
import Mathlib.Data.List.Basic
import Mathlib.Data.List.TakeWhile

/-!
# Writing and reading files

A file that was written below the working directory is read as it was written (`read_of_write`),
and a file that could be read before is read as before, unless it has the same name
(`read_of_write_of_ne`). Both follow from what putting octets at a place does to the places of a
tree (`node?_put_self`, `node?_put_of_ne`): a path that leads through directories still leads
through them. Writing at a path changes no file but the one that the path leads to
(`lookup_files_of_write`).

What was written at the end of a new file is all that is read there (`read_of_append`). A path is
appended to in its normal form, which has the same components (`components_normal`).

A path with a type ends in the name of a file (`lastComponent_of_type`), and files of different
types have different names.
-/

namespace LittleMan

/-! ### Names of files -/

namespace Path

/-- What stands in front of the last component of a path ends in a slash, if there is anything. -/
lemma exists_eq_append_lastComponent (path : Text) : '/' ∉ lastComponent path ∧
    (path = lastComponent path ∨ ∃ front, path = front ++ '/' :: lastComponent path) := by
  have hsplit : (path.reverse.dropWhile (· != '/')).reverse ++ lastComponent path = path := by
    unfold lastComponent
    rw [← List.reverse_append, List.takeWhile_append_dropWhile, List.reverse_reverse]
  refine ⟨fun hmem => ?_, ?_⟩
  · have := List.mem_takeWhile_imp (List.mem_reverse.mp hmem)
    simp at this
  · have hhead := List.head?_dropWhile_not (· != '/') path.reverse
    cases hback : path.reverse.dropWhile (· != '/') with
    | nil =>
      rw [hback] at hsplit
      exact Or.inl hsplit.symm
    | cons c back =>
      have hc : c = '/' := by simpa [hback] using hhead
      rw [hback, hc, List.reverse_cons, List.append_assoc] at hsplit
      exact Or.inr ⟨back.reverse, hsplit.symm⟩

/-- The last component of a path is its last step, unless it is empty. -/
lemma exists_steps_eq {path : Text} (h : lastComponent path ≠ []) :
    ∃ front, steps path = front ++ [lastComponent path] := by
  obtain ⟨hslash, hpath⟩ := exists_eq_append_lastComponent path
  have hlast : (lastComponent path).splitOn '/' = [lastComponent path] :=
    List.splitOn_eq_singleton hslash
  have hkept : [lastComponent path].filter (!·.isEmpty) = [lastComponent path] := by
    simp [h]
  rcases hpath with hpath | ⟨front, hpath⟩
  · refine ⟨[], ?_⟩
    have hsteps : path.splitOn '/' = [lastComponent path] :=
      (congrArg (List.splitOn '/') hpath).trans hlast
    unfold steps
    rw [hsteps, hkept, List.nil_append]
  · refine ⟨(front.splitOn '/').filter (!·.isEmpty), ?_⟩
    have hsteps : path.splitOn '/' = front.splitOn '/' ++ [lastComponent path] := by
      refine (congrArg (List.splitOn '/') hpath).trans ?_
      rw [List.splitOn_append_cons_self, hlast]
    unfold steps
    rw [hsteps, List.filter_append, hkept]

/-- The type of a path is told by its last component. -/
lemma type_congr {path path' : Text} (h : lastComponent path = lastComponent path') :
    type path = type path' := by
  unfold type suffix
  rw [h]

/-- A path with a type ends in the name of a file. -/
lemma lastComponent_of_type {path : Text} (h : type path ≠ []) :
    lastComponent path ≠ [] ∧ Place.isDots (lastComponent path) = false := by
  have hnone : ∀ last : Text, last = [] ∨ last = ['.'] ∨ last = ['.', '.'] →
      lastComponent path ≠ last := by
    intro last hlast heq
    refine h ?_
    unfold type suffix
    rw [heq]
    rcases hlast with rfl | rfl | rfl <;> rfl
  refine ⟨hnone [] (Or.inl rfl), ?_⟩
  unfold Place.isDots
  rw [Bool.or_eq_false_iff, beq_eq_false_iff_ne, beq_eq_false_iff_ne]
  exact ⟨hnone _ (Or.inr (Or.inl rfl)), hnone _ (Or.inr (Or.inr rfl))⟩

/-! ### Normal paths -/

/-- A slash in front adds no step. -/
lemma steps_slash_cons (path : Text) : steps ('/' :: path) = steps path := by
  unfold steps
  rw [List.splitOn_cons_eq_if_modifyHead, if_pos (by decide), List.filter_cons_of_neg (by decide)]

/-- A component is a step that could stand alone. -/
lemma of_mem_components {path step : Text} (h : step ∈ components path) :
    '/' ∉ step ∧ (!step.isEmpty) = true ∧ (step != ['.']) = true := by
  obtain ⟨hstep, hdot⟩ := List.mem_filter.mp h
  obtain ⟨hsplit, hne⟩ := List.mem_filter.mp hstep
  exact ⟨Text.not_mem_of_mem_splitOn '/' path step hsplit, hne, hdot⟩

/-- The root of a path consists of slashes, and it is empty unless the path starts with one. -/
lemma exists_root_eq (path : Text) : ∃ k, root path = List.replicate k '/' ∧
    (k = 0 ↔ path.head? ≠ some '/') := by
  unfold root
  split
  · exact ⟨1, rfl, by simp⟩
  · exact ⟨2, rfl, by simp⟩
  · exact ⟨1, rfl, by simp⟩
  · next hslash =>
    have hhead : path.head? ≠ some '/' := by
      intro hhead
      obtain ⟨rest, rfl⟩ := List.head?_eq_some_iff.mp hhead
      exact hslash rest rfl
    exact ⟨0, rfl, iff_of_true rfl hhead⟩

/-- Components are the steps of what they make with slashes between them. -/
lemma steps_intercalate {parts : List Text}
    (h : ∀ part ∈ parts, '/' ∉ part ∧ (!part.isEmpty) = true) :
    steps (List.intercalate ['/'] parts) = parts := by
  unfold steps
  rcases eq_or_ne parts [] with rfl | hne
  · rfl
  · rw [List.splitOn_intercalate '/' (fun part hpart => (h part hpart).1) hne]
    exact List.filter_eq_self.mpr fun part hpart => (h part hpart).2

/-- The normal form of a path has the same components. -/
lemma components_normal (path : Text) : components (normal path) = components path := by
  obtain ⟨k, hroot, -⟩ := exists_root_eq path
  have hslashes (rest : Text) : steps (root path ++ rest) = steps rest := by
    rw [hroot]
    clear hroot
    induction k with
    | zero => rfl
    | succ k ih => rw [List.replicate_succ, List.cons_append, steps_slash_cons, ih]
  have hsteps : steps (root path ++ List.intercalate ['/'] (components path)) =
      components path := by
    rw [hslashes, steps_intercalate fun part hpart =>
      ⟨(of_mem_components hpart).1, (of_mem_components hpart).2.1⟩]
  unfold normal
  dsimp only
  split
  · next hempty =>
    rw [List.isEmpty_iff.mp hempty] at hsteps
    rw [← hsteps]
    rfl
  · change (steps _).filter _ = _
    rw [hsteps]
    exact List.filter_eq_self.mpr fun part hpart => (of_mem_components hpart).2.2

/-- Components with slashes between them do not start with one. -/
lemma head?_intercalate {parts : List Text} (h : ∀ part ∈ parts, '/' ∉ part ∧ part ≠ []) :
    (List.intercalate ['/'] parts).head? ≠ some '/' := by
  cases parts with
  | nil => decide
  | cons part parts =>
    obtain ⟨hslash, hne⟩ := h part List.mem_cons_self
    obtain ⟨rest, hrest⟩ := Text.prefix_intercalate ['/'] part parts
    rw [← hrest, List.head?_append_of_ne_nil _ hne]
    exact fun hhead => hslash (List.mem_of_head? hhead)

/-- It starts with a slash if the path does. -/
lemma head?_normal (path : Text) : (normal path).head? = some '/' ↔ path.head? = some '/' := by
  obtain ⟨k, hroot, hk⟩ := exists_root_eq path
  unfold normal
  dsimp only
  rw [hroot]
  cases k with
  | succ k =>
    have hpath : path.head? = some '/' := by simpa using hk
    exact iff_of_true rfl hpath
  | zero =>
    refine iff_of_false ?_ (hk.mp rfl)
    split
    · decide
    · exact head?_intercalate fun part hpart =>
        ⟨(of_mem_components hpart).1, by simpa using (of_mem_components hpart).2.1⟩

end Path

namespace Place

/-- A step that is a name leads to the place of the name. -/
lemma follow_of_isDots_eq_false {step : Text} (h : isDots step = false) (place : Place) :
    place.follow step = place.child step := by
  unfold isDots at h
  simp only [Bool.or_eq_false_iff, beq_eq_false_iff_ne, ne_eq] at h
  unfold follow
  rw [if_neg h.1, if_neg h.2]

/-- Single dots can be left out of the steps. -/
lemma foldl_follow_filter (steps : List Text) (place : Place) :
    (steps.filter (· != ['.'])).foldl follow place = steps.foldl follow place := by
  induction steps generalizing place with
  | nil => rfl
  | cons step steps ih =>
    by_cases hstep : step = ['.']
    · rw [List.filter_cons_of_neg (by simp [hstep]), List.foldl_cons, ih]
      unfold follow
      rw [if_pos hstep]
    · rw [List.filter_cons_of_pos (by simp [hstep]), List.foldl_cons, List.foldl_cons, ih]

/-- The place that a path leads to. -/
def ofPath (path : Text) : Place :=
  (Path.steps path).foldl follow (start path)

end Place

namespace FileTree

/-! ### Putting octets at a place -/

section

variable (tree : FileTree) (octets : List UInt8) {names : List Text}

/-- What a table of files holds under a name, after other octets were put under one. -/
lemma lookup_map_put (files : List (List Text × List UInt8)) (names' : List Text) :
    (files.map fun f => if f.1 = names then (names, octets) else f).lookup names' =
      if names' = names then (files.lookup names').map fun _ => octets
      else files.lookup names' := by
  induction files with
  | nil => simp
  | cons f files ih =>
    obtain ⟨key, content⟩ := f
    rw [List.map_cons, List.lookup_cons]
    by_cases hkey : key = names
    · subst hkey
      by_cases hnames : names' = key
      · simp [hnames]
      · have hbeq : (names' == key) = false := beq_eq_false_iff_ne.mpr hnames
        simp [hnames, hbeq, ih, List.lookup_cons]
    · rw [if_neg hkey, ih, List.lookup_cons]
      by_cases hnames : names' = key
      · subst hnames
        simp [hkey]
      · have hbeq : (names' == key) = false := beq_eq_false_iff_ne.mpr hnames
        simp [hbeq]

/-- What the table of files holds under a name after octets were put at a place. -/
lemma lookup_files_put (names' : List Text) :
    (tree.put octets (.below names)).files.lookup names' =
      if names' = names then some octets else tree.files.lookup names' := by
  unfold put
  dsimp only
  split
  · next hany =>
    obtain ⟨f, hf, hname⟩ := List.any_eq_true.mp hany
    rw [lookup_map_put]
    split
    · next heq =>
      cases hlookup : tree.files.lookup names' with
      | some => rfl
      | none =>
        have hother := List.lookup_eq_none_iff.mp hlookup f hf
        simp [heq, of_decide_eq_true hname] at hother
    · rfl
  · next hany =>
    rw [List.lookup_append]
    by_cases heq : names' = names
    · subst heq
      have hnone : tree.files.lookup names' = none := by
        refine List.lookup_eq_none_iff.mpr fun f hf => ?_
        have hname : f.1 ≠ names' := by
          intro hname
          exact hany (List.any_eq_true.mpr ⟨f, hf, decide_eq_true hname⟩)
        simpa using hname.symm
      simp [hnone]
    · have hbeq : (names' == names) = false := beq_eq_false_iff_ne.mpr heq
      simp [heq, hbeq, List.lookup_cons]

/-- Names that lead to a file still do. -/
lemma any_files_put (p : List Text → Bool) (h : tree.files.any (p ·.1) = true) :
    (tree.put octets (.below names)).files.any (p ·.1) = true := by
  obtain ⟨f, hf, hp⟩ := List.any_eq_true.mp h
  unfold put
  dsimp only
  split
  · refine List.any_eq_true.mpr ⟨_, List.mem_map_of_mem hf, ?_⟩
    split
    · next heq => rwa [← heq]
    · exact hp
  · exact List.any_eq_true.mpr ⟨f, List.mem_append_left _ hf, hp⟩

/-- The directories that were made stay. -/
lemma directories_put (place : Place) : (tree.put octets place).directories = tree.directories := by
  unfold put
  split
  · rfl
  · split <;> rfl

/-- At the place there are the octets. -/
lemma node?_put_self : (tree.put octets (.below names)).node? names = some (.file octets) := by
  unfold node?
  rw [lookup_files_put, if_pos rfl]

/-- Elsewhere there is what was there before. -/
lemma node?_put_of_ne {names' : List Text} (hne : names' ≠ names) {node : Node}
    (h : tree.node? names' = some node) :
    (tree.put octets (.below names)).node? names' = some node := by
  unfold node? at h ⊢
  rw [lookup_files_put, if_neg hne]
  split
  · next octets' hlookup =>
    rw [hlookup] at h
    exact h
  · next hlookup =>
    rw [hlookup] at h
    dsimp only at h
    split at h
    · next hdirectory =>
      have hkept : (names'.isEmpty || (tree.put octets (.below names)).directories.any
          (names'.isPrefixOf ·) || (tree.put octets (.below names)).files.any
            (names'.isPrefixOf ·.1)) = true := by
        rw [Bool.or_eq_true, directories_put]
        rcases Bool.or_eq_true_iff.mp hdirectory with hfound | hfound
        · exact Or.inl hfound
        · exact Or.inr (any_files_put tree octets (names'.isPrefixOf ·) hfound)
      rw [if_pos hkept]
      exact h
    · cases h

end

/-! ### Walking -/

section

variable {tree : FileTree} {path : Text} {octets : List UInt8} {names : List Text}

/-- A walk through directories leads where its steps lead. -/
lemma eq_foldl_of_walk {steps : List Text} {place place' : Place}
    (h : tree.walk path place steps = .ok place') : place' = steps.foldl Place.follow place := by
  induction steps generalizing place with
  | nil => exact (Except.ok.inj h).symm
  | cons step steps ih =>
    unfold walk at h
    rw [List.foldl_cons]
    split at h
    · exact ih h
    · next hdots =>
      rw [Place.follow_of_isDots_eq_false (by simpa using hdots)]
      split at h
      · cases h
      · cases h
      · cases h
      · exact ih h

/-- What a name leads to in a directory below the working directory. -/
lemma node?_of_find {place : Place} {name : Text} {node : Node}
    (h : tree.find path place name = .ok (some node)) :
    ∃ names, place = .below names ∧ tree.node? (names ++ [name]) = some node := by
  unfold find at h
  split at h
  · cases h
  · cases place with
    | below names => exact ⟨names, rfl, Except.ok.inj h⟩
    | outside => cases h

/-- There is no directory where none is found. -/
lemma node?_ne_directory_of_find {name : Text} {node : Option Node}
    (h : tree.find path (.below names) name = .ok node) (hnode : node ≠ some .directory) :
    tree.node? (names ++ [name]) ≠ some .directory := by
  unfold find at h
  split at h
  · cases h
  · rwa [Except.ok.inj h]

/-- What is found in a tree is found there after octets were put elsewhere. -/
lemma find_put {place : Place} {name : Text} {node : Node}
    (h : tree.find path place name = .ok (some node)) (hne : place.child name ≠ .below names) :
    (tree.put octets (.below names)).find path place name = .ok (some node) := by
  obtain ⟨names', rfl, hnode⟩ := node?_of_find h
  have hne' : names' ++ [name] ≠ names := fun heq => hne (congrArg Place.below heq)
  unfold find at h ⊢
  split at h
  · cases h
  · next hshort =>
    rw [if_neg hshort]
    dsimp only
    rw [node?_put_of_ne tree octets hne' hnode]

/-- Octets are found where they were put. -/
lemma find_put_self {name : Text} {node : Option Node}
    (h : tree.find path (.below names) name = .ok node) :
    (tree.put octets (.below (names ++ [name]))).find path (.below names) name =
      .ok (some (.file octets)) := by
  unfold find at h ⊢
  split at h
  · cases h
  · next hshort =>
    rw [if_neg hshort]
    dsimp only
    rw [node?_put_self tree octets]

/-- A walk goes the same way after octets were put where no directory is. -/
lemma walk_put (hfile : tree.node? names ≠ some .directory) {steps : List Text}
    {place place' : Place} (h : tree.walk path place steps = .ok place') :
    (tree.put octets (.below names)).walk path place steps = .ok place' := by
  induction steps generalizing place with
  | nil => exact h
  | cons step steps ih =>
    unfold walk at h ⊢
    split at h
    · next hdots =>
      rw [if_pos hdots]
      exact ih h
    · next hdots =>
      rw [if_neg hdots]
      split at h
      · cases h
      · cases h
      · cases h
      · next hfind =>
        have hne : place.child step ≠ .below names := by
          obtain ⟨names', rfl, hnode⟩ := node?_of_find hfind
          intro heq
          rw [Place.child, Place.below.injEq] at heq
          exact hfile (heq ▸ hnode)
        rw [find_put hfind hne]
        exact ih h

/-- A path that ends in a name ends in its last step. -/
lemma walk_of_locate {place : Place} {name : Text}
    (h : tree.locate path = .ok (.entry place name)) :
    (Path.steps path).getLast? = some name ∧ Place.isDots name = false ∧
      tree.walk path (Place.start path) (Path.steps path).dropLast = .ok place := by
  unfold locate at h
  split at h
  · cases h
  · split at h
    · cases h
    · split at h
      · cases h
      · split at h
        · cases h
        · next last hlast =>
          split at h
          · cases h
          · next place' hwalk =>
            split at h
            · cases h
            · next hdots =>
              obtain ⟨rfl, rfl⟩ := Target.entry.inj (Except.ok.inj h)
              exact ⟨hlast, by simpa using hdots, hwalk⟩

/-- A path that ends in a name leads to the place of the name. -/
lemma ofPath_of_locate {place : Place} {name : Text}
    (h : tree.locate path = .ok (.entry place name)) : Place.ofPath path = place.child name := by
  obtain ⟨hlast, hdots, hwalk⟩ := walk_of_locate h
  have hsteps : Path.steps path = (Path.steps path).dropLast ++ [name] :=
    (List.dropLast_append_getLast? name hlast).symm
  unfold Place.ofPath
  rw [hsteps, List.foldl_concat, ← eq_foldl_of_walk hwalk, Place.follow_of_isDots_eq_false hdots]

/-- A path is located where it was after octets were put where no directory is. -/
lemma locate_put (hfile : tree.node? names ≠ some .directory) {place : Place} {name : Text}
    (h : tree.locate path = .ok (.entry place name)) :
    (tree.put octets (.below names)).locate path = .ok (.entry place name) := by
  obtain ⟨hlast, hdots, hwalk⟩ := walk_of_locate h
  have hwalk' : (tree.put octets (.below names)).walk path (Place.start path)
      (Path.steps path).dropLast = .ok place := walk_put hfile hwalk
  unfold locate at h ⊢
  rw [hlast, hwalk] at h
  rw [hlast, hwalk']
  exact h

end

/-! ### Writing and reading -/

section

variable {tree after : FileTree} {path : Text} {octets : List UInt8}

/-- A path is read if it ends in the name of a file. -/
lemma read_eq_ok_iff : tree.read path = .ok octets ↔ ∃ place name,
    tree.locate path = .ok (.entry place name) ∧
      tree.find path place name = .ok (some (.file octets)) ∧ wantsDirectory path = false := by
  unfold read
  constructor
  · intro h
    split at h
    · cases h
    · cases h
    · next place name hlocate =>
      split at h
      · cases h
      · cases h
      · cases h
      · next octets' hfind =>
        split at h
        · cases h
        · next hwants =>
          obtain rfl := Except.ok.inj h
          exact ⟨place, name, hlocate, hfind, by simpa using hwants⟩
  · rintro ⟨place, name, hlocate, hfind, hwants⟩
    rw [hlocate]
    dsimp only
    rw [hfind]
    dsimp only
    rw [hwants]
    rfl

/-- A path that is written ends in a name, under which there is no directory. -/
lemma put_of_write (h : tree.write path octets = .ok after) : ∃ place name node,
    tree.locate path = .ok (.entry place name) ∧ tree.find path place name = .ok node ∧
      node ≠ some .directory ∧ wantsDirectory path = false ∧
        after = tree.put octets (place.child name) := by
  unfold write at h
  split at h
  · cases h
  · cases h
  · next place name hlocate =>
    split at h
    · cases h
    · next hwants =>
      have hwants' : wantsDirectory path = false := by simpa using hwants
      split at h
      · cases h
      · cases h
      · next octets' hfind =>
        exact ⟨place, name, _, hlocate, hfind, nofun, hwants', (Except.ok.inj h).symm⟩
      · next hfind =>
        exact ⟨place, name, _, hlocate, hfind, nofun, hwants', (Except.ok.inj h).symm⟩

/-- What is written at a path is put at the place that the path leads to. -/
lemma eq_put_of_write (h : tree.write path octets = .ok after) :
    after = tree.put octets (Place.ofPath path) := by
  obtain ⟨place, name, node, hlocate, -, -, -, rfl⟩ := put_of_write h
  rw [ofPath_of_locate hlocate]

/-- The files at other places stay as they are. -/
theorem lookup_files_of_write (h : tree.write path octets = .ok after) {names : List Text}
    (hne : Place.ofPath path ≠ .below names) :
    after.files.lookup names = tree.files.lookup names := by
  obtain rfl := eq_put_of_write h
  cases hplace : Place.ofPath path with
  | outside => rfl
  | below names' =>
    have hnames : names ≠ names' := by
      rintro rfl
      exact hne hplace
    rw [lookup_files_put, if_neg hnames]

/-- Whether a file can be written does not depend on what is written. -/
lemma exists_write (h : tree.write path octets = .ok after) (octets' : List UInt8) :
    ∃ after', tree.write path octets' = .ok after' := by
  obtain ⟨place, name, node, hlocate, hfind, hnode, hwants, -⟩ := put_of_write h
  have hkept : wantsDirectory path ≠ true := by simp [hwants]
  unfold write
  rw [hlocate]
  dsimp only
  rw [if_neg hkept, hfind]
  rcases node with _ | _ | _
  · exact ⟨_, rfl⟩
  · exact ⟨_, rfl⟩
  · exact absurd rfl hnode

/-- Nor does it for what is written at the end of a file. -/
lemma exists_append (h : tree.append path octets = .ok after) (octets' : List UInt8) :
    ∃ after', tree.append path octets' = .ok after' := by
  unfold append at h ⊢
  dsimp only at h ⊢
  split
  · exact ⟨_, rfl⟩
  · next hinside =>
    rw [if_neg hinside] at h
    split at h
    · exact exists_write h _
    · exact exists_write h _

/-- The directory of a path that does not lead outside is below the working directory. -/
lemma exists_below_of_locate {place : Place} {name : Text}
    (h : tree.locate path = .ok (.entry place name)) (hinside : leadsOutside path = false) :
    ∃ names, place = .below names := by
  obtain ⟨hlast, hdots, hwalk⟩ := walk_of_locate h
  have hsteps : Path.steps path = (Path.steps path).dropLast ++ [name] :=
    (List.dropLast_append_getLast? name hlast).symm
  have hname : name ≠ ['.'] := by
    rintro rfl
    cases hdots
  have hcomponents : Path.components path =
      (Path.steps path).dropLast.filter (· != ['.']) ++ [name] := by
    unfold Path.components
    conv_lhs => rw [hsteps]
    rw [List.filter_append, List.filter_cons_of_pos (by simpa using hname), List.filter_nil]
  cases place with
  | below names => exact ⟨names, rfl⟩
  | outside =>
    have hplace := eq_foldl_of_walk hwalk
    have houtside : leadsOutside path = true := by
      unfold leadsOutside parentSteps
      rw [hcomponents, List.dropLast_concat, List.getLast?_concat, Place.foldl_follow_filter,
        ← hplace]
      simp [hdots]
    rw [hinside] at houtside
    cases houtside

/-- What was written below the working directory is read. -/
theorem read_of_write (h : tree.write path octets = .ok after)
    (hinside : leadsOutside path = false) : after.read path = .ok octets := by
  obtain ⟨place, name, node, hlocate, hfind, hnode, hwants, rfl⟩ := put_of_write h
  obtain ⟨names, rfl⟩ := exists_below_of_locate hlocate hinside
  have hfile := node?_ne_directory_of_find hfind hnode
  exact read_eq_ok_iff.mpr
    ⟨_, name, locate_put hfile hlocate, find_put_self hfind, hwants⟩

/-- A file with another name is read as before. -/
theorem read_of_write_of_ne {path' : Text} {octets' : List UInt8}
    (h : tree.write path octets = .ok after) (hread : tree.read path' = .ok octets')
    (hne : (Path.steps path').getLast? ≠ (Path.steps path).getLast?) :
    after.read path' = .ok octets' := by
  obtain ⟨place, name, node, hlocate, hfind, hnode, -, rfl⟩ := put_of_write h
  obtain ⟨place', name', hlocate', hfind', hwants'⟩ := read_eq_ok_iff.mp hread
  cases place with
  | outside => exact hread
  | below names =>
    have hfile := node?_ne_directory_of_find hfind hnode
    have hplaces : place'.child name' ≠ .below (names ++ [name]) := by
      obtain ⟨names', rfl, -⟩ := node?_of_find hfind'
      intro heq
      obtain ⟨-, hname⟩ := List.append_inj' (Place.below.inj heq) rfl
      refine hne ?_
      rw [(walk_of_locate hlocate').1, (walk_of_locate hlocate).1, List.head_eq_of_cons_eq hname]
    exact read_eq_ok_iff.mpr
      ⟨place', name', locate_put hfile hlocate', find_put hfind' hplaces, hwants'⟩

/-! ### Appending -/

/-- A path leads outside if its normal form does. -/
lemma leadsOutside_normal (path : Text) :
    leadsOutside (Path.normal path) = leadsOutside path := by
  have hstart : Place.start (Path.normal path) = Place.start path := by
    unfold Place.start
    simp only [Path.head?_normal]
  unfold leadsOutside parentSteps
  rw [Path.components_normal, hstart]

/-- What was written at the end of a new file is all that is read there. -/
theorem read_of_append (h : tree.append path octets = .ok after)
    (hnew : ∀ old, (tree.makeParents path).read (Path.normal path) ≠ .ok old)
    (hinside : leadsOutside path = false) : after.read (Path.normal path) = .ok octets := by
  unfold append at h
  rw [if_neg (by simp [hinside])] at h
  split at h
  · next old hold => exact absurd hold (hnew old)
  · exact read_of_write h ((leadsOutside_normal path).trans hinside)

end

end FileTree

end LittleMan
