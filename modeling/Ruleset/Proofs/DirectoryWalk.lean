import Ruleset.Loader
import Ruleset.Proofs.Load
import Mathlib

/-!
# Loading a directory of rule files

A directory walk visits the names inside a directory in sorted order, goes down into each
directory at its place in that order, loads each file whose extension is exactly `xml`, and
skips everything else. Flattened, it loads one list of files in turn: the rule files below
the directory, each once, in the order of a depth-first walk with sorted names, which is the
lexicographic order of their paths.

* `Files.RuleFileBelow fs place q` — the path `q` goes down from the directory at `place`
  through directories to a rule file.
* `Loader.loadInTurn fs r files` — the files loaded one after the other, each into the
  registry the ones before it left: the first failure ends the loading with that file's
  error and the registry the files before it reached; otherwise the reports add up.
* `Files.ruleFilesWithin` — the files the walk visits; `mem_ruleFilesWithin` says they are
  the rule files below the directory, `pairwise_ruleFilesWithin` that they come in strictly
  increasing order.
* `Loader.walk_eq_loadInTurn` — the walk loads exactly those files in turn.
* `Loader.loadDirectory_spec` — the whole statement: a directory loads its rule files in
  depth-first sorted order, and a path that leads to no directory fails at once and changes
  nothing.
-/

namespace Ruleset

@[simp] theorem except_map_ok {ε α β : Type} (f : α → β) (a : α) :
    (Except.ok a : Except ε α).map f = .ok (f a) := rfl

namespace LoadReport

/-- Adding two reports to a result, one after the other, adds their sum. -/
theorem map_add_map_add {ε : Type} (x : Except ε LoadReport) (a b : LoadReport) :
    (x.map (b + ·)).map (a + ·) = x.map (a + b + ·) := by
  cases x with
  | error e => rfl
  | ok c => simp [Except.map, add_assoc]

end LoadReport

namespace Files

variable (fs : Files)

/-- The path `q`, read from the directory at `place`, goes down through directories to a
file whose name has the extension `xml`. -/
inductive RuleFileBelow : List String → List String → Prop
  | file {place : List String} {name text : String} :
      fs.itemAt (place ++ [name]) = some (.file text) → Loader.isRuleFile name = true →
      RuleFileBelow place [name]
  | dir {place : List String} {name : String} {q : List String} :
      fs.isDirectory (place ++ [name]) = true → RuleFileBelow (place ++ [name]) q →
      RuleFileBelow place (name :: q)

/-- The files a walk `fuel` levels deep visits below the directory at a place, as paths from
it: the names inside in sorted order, the files below each directory at its place, each rule
file itself, nothing for other files. -/
def ruleFilesWithin : Nat → List String → List (List String)
  | 0, _ => []
  | fuel + 1, place => (fs.names place).flatMap fun name =>
    if fs.isDirectory (place ++ [name]) then
      (ruleFilesWithin fuel (place ++ [name])).map (name :: ·)
    else if Loader.isRuleFile name then [[name]]
    else []

/-! ### Places of the tree -/

variable {fs}

theorem isPrefixOf_head?_eq_some_iff (place l : List String) (name : String) :
    (if place.isPrefixOf l then (l.drop place.length).head? else none) = some name ↔
      place ++ [name] <+: l := by
  by_cases hp : place <+: l
  · obtain ⟨rest, rfl⟩ := hp
    have hpre : place.isPrefixOf (place ++ rest) = true :=
      List.isPrefixOf_iff_prefix.2 (List.prefix_append _ _)
    rw [if_pos hpre, List.drop_left, List.prefix_append_right_inj]
    cases rest with
    | nil => simp
    | cons x rest => simp [eq_comm]
  · have hpre : place.isPrefixOf l = false := by
      cases h : place.isPrefixOf l
      · rfl
      · exact absurd (List.isPrefixOf_iff_prefix.1 h) hp
    simp only [hpre, Bool.false_eq_true, if_false, reduceCtorEq, false_iff]
    exact fun h => hp ((List.prefix_append _ _).trans h)

/-- The names inside a place are the next components of the items below it. -/
theorem mem_names {place : List String} {name : String} :
    name ∈ fs.names place ↔ ∃ e ∈ fs.items, place ++ [name] <+: e.1 := by
  simp only [names, List.mem_mergeSort, List.mem_eraseDups, List.mem_filterMap,
    isPrefixOf_head?_eq_some_iff]

/-- Something is at a place other than the root exactly when an item lies at or below it. -/
theorem itemAt_ne_none_iff {place : List String} (hp : place ≠ []) :
    fs.itemAt place ≠ none ↔ ∃ e ∈ fs.items, place <+: e.1 := by
  unfold itemAt
  rw [if_neg (by simpa using hp)]
  cases hfind : fs.items.find? (·.1 == place) with
  | some e =>
    have he := List.mem_of_find?_eq_some hfind
    have hkey : e.1 = place := by simpa using List.find?_some hfind
    obtain ⟨key, item⟩ := e
    simp only [ne_eq, reduceCtorEq, not_false_eq_true, true_iff]
    exact ⟨(key, item), he, hkey ▸ List.prefix_refl _⟩
  | none =>
    dsimp only
    by_cases h : fs.items.any (fun e => place.isPrefixOf e.1) = true
    · rw [if_pos h]
      simpa [List.any_eq_true, List.isPrefixOf_iff_prefix] using h
    · rw [if_neg h]
      simpa [List.any_eq_true, List.isPrefixOf_iff_prefix] using h

theorem exists_item_of_itemAt {place : List String} {item : Item} (hp : place ≠ [])
    (h : fs.itemAt place = some item) : ∃ e ∈ fs.items, place <+: e.1 :=
  (itemAt_ne_none_iff hp).1 (by simp [h])

theorem length_le_depth {e : List String × Item} (he : e ∈ fs.items) :
    e.1.length ≤ fs.depth := by
  unfold depth
  -- the running maximum only grows, and takes in every item it passes
  suffices h : ∀ (l : List (List String × Item)) (n : Nat),
      n ≤ l.foldl (fun n e => max n e.1.length) n ∧
        ∀ e ∈ l, e.1.length ≤ l.foldl (fun n e => max n e.1.length) n from
    (h fs.items 0).2 e he
  intro l
  induction l with
  | nil => simp
  | cons x l ih =>
    intro n
    obtain ⟨hmono, hmem⟩ := ih (max n x.1.length)
    refine ⟨le_trans (le_max_left _ _) hmono, fun e he => ?_⟩
    rcases List.mem_cons.1 he with rfl | he
    · exact le_trans (le_max_right _ _) hmono
    · exact hmem e he

/-- A name inside a place leads below it, not above the tree's depth. -/
theorem length_lt_depth_of_mem_names {place : List String} {name : String}
    (h : name ∈ fs.names place) : place.length < fs.depth := by
  obtain ⟨e, he, hpre⟩ := mem_names.1 h
  have := hpre.length_le
  have := length_le_depth he
  simp at *
  omega

theorem mem_names_of_itemAt {place : List String} {name : String} {item : Item}
    (h : fs.itemAt (place ++ [name]) = some item) : name ∈ fs.names place :=
  mem_names.2 (exists_item_of_itemAt (by simp) h)

theorem itemAt_of_isDirectory {place : List String} (h : fs.isDirectory place = true) :
    fs.itemAt place = some .directory := by
  simpa [isDirectory] using h

/-- A name inside a place that is not a directory is a file. -/
theorem exists_file_of_mem_names {place : List String} {name : String}
    (h : name ∈ fs.names place) (hdir : fs.isDirectory (place ++ [name]) = false) :
    ∃ text, fs.itemAt (place ++ [name]) = some (.file text) := by
  have hne : fs.itemAt (place ++ [name]) ≠ none :=
    (itemAt_ne_none_iff (by simp)).2 (mem_names.1 h)
  cases hitem : fs.itemAt (place ++ [name]) with
  | none => exact absurd hitem hne
  | some item =>
    cases item with
    | file text => exact ⟨text, rfl⟩
    | directory => simp [isDirectory, hitem] at hdir

/-- Distinct strings sorted by `≤` come in strictly increasing order. -/
theorem pairwise_lt_mergeSort_eraseDups (l : List String) :
    (l.eraseDups.mergeSort fun a b => !(b < a)).Pairwise (· < ·) := by
  have hsorted := @List.pairwise_mergeSort _ (fun a b : String => !(b < a))
    (fun a b c hab hbc => by
      simp only [Bool.not_eq_true', decide_eq_false_iff_not, not_lt] at hab hbc ⊢
      exact le_trans hab hbc)
    (fun a b => by
      simp only [Bool.or_eq_true, Bool.not_eq_true', decide_eq_false_iff_not, not_lt]
      exact le_total b a |>.symm) l.eraseDups
  have hnodup := (nodup_eraseDups l).perm
    (List.mergeSort_perm l.eraseDups fun a b : String => !(b < a)).symm
  refine (hsorted.and hnodup).imp ?_
  rintro a b ⟨hab, hne⟩
  simp only [Bool.not_eq_true', decide_eq_false_iff_not, not_lt] at hab
  exact lt_of_le_of_ne hab hne

/-- The names inside a place come in strictly increasing order. -/
theorem pairwise_lt_names (place : List String) : (fs.names place).Pairwise (· < ·) :=
  pairwise_lt_mergeSort_eraseDups _

/-! ### The files of a walk -/

/-- A path leading to a rule file starts below the tree's root at a name inside the place,
so the place lies above the tree's depth. -/
theorem RuleFileBelow.length_lt_depth {place q : List String} (h : fs.RuleFileBelow place q) :
    place.length < fs.depth := by
  cases h with
  | file hfile _ => exact length_lt_depth_of_mem_names (mem_names_of_itemAt hfile)
  | dir hdir _ =>
    exact length_lt_depth_of_mem_names (mem_names_of_itemAt (itemAt_of_isDirectory hdir))

/-- With enough levels, the files a walk visits are the rule files below the place. -/
theorem mem_ruleFilesWithin {fuel : Nat} {place : List String}
    (hfuel : fs.depth ≤ fuel + place.length) (q : List String) :
    q ∈ fs.ruleFilesWithin fuel place ↔ fs.RuleFileBelow place q := by
  induction fuel generalizing place q with
  | zero =>
    simp only [ruleFilesWithin, List.not_mem_nil, false_iff]
    intro h
    have := h.length_lt_depth
    omega
  | succ fuel ih =>
    have hsub : fs.depth ≤ fuel + (place.length + 1) := by omega
    simp only [ruleFilesWithin, List.mem_flatMap]
    constructor
    · rintro ⟨name, hname, hq⟩
      split at hq
      · rename_i hdir
        obtain ⟨q', hq', rfl⟩ := List.mem_map.1 hq
        have := (ih (by simpa using hsub) q').1 hq'
        exact .dir hdir this
      · rename_i hdir
        split at hq
        · rename_i hrule
          obtain ⟨text, hfile⟩ := exists_file_of_mem_names hname (by simpa using hdir)
          rw [List.mem_singleton.1 hq]
          exact .file hfile hrule
        · cases hq
    · intro h
      cases h with
      | @file _ name text hfile hrule =>
        refine ⟨name, mem_names_of_itemAt hfile, ?_⟩
        have hdir : fs.isDirectory (place ++ [name]) = false := by simp [isDirectory, hfile]
        simp [hdir, hrule]
      | @dir _ name q' hdir hbelow =>
        refine ⟨name, mem_names_of_itemAt (itemAt_of_isDirectory hdir), ?_⟩
        simp only [hdir, if_true, List.mem_map, List.cons.injEq, true_and]
        exact ⟨q', (ih (by simpa using hsub) q').2 hbelow, rfl⟩

/-- The files a walk visits come in strictly increasing lexicographic order: the order of a
depth-first walk that takes the names inside each directory in sorted order. -/
theorem pairwise_ruleFilesWithin (fuel : Nat) (place : List String) :
    (fs.ruleFilesWithin fuel place).Pairwise (· < ·) := by
  induction fuel generalizing place with
  | zero => simp [ruleFilesWithin]
  | succ fuel ih =>
    -- each block starts with its own name, and the names are strictly increasing
    have hhead : ∀ name, ∀ q ∈ (if fs.isDirectory (place ++ [name]) then
        (fs.ruleFilesWithin fuel (place ++ [name])).map (name :: ·)
        else if Loader.isRuleFile name then [[name]] else []), ∃ q', q = name :: q' := by
      intro name q hq
      split at hq
      · obtain ⟨q', _, rfl⟩ := List.mem_map.1 hq
        exact ⟨q', rfl⟩
      · split at hq
        · exact ⟨[], List.mem_singleton.1 hq⟩
        · cases hq
    rw [ruleFilesWithin, List.pairwise_flatMap]
    refine ⟨fun name _ => ?_, (pairwise_lt_names place).imp fun hlt q hq q' hq' => ?_⟩
    · split
      · exact List.pairwise_map.2
          ((ih _).imp fun h => List.cons_lt_cons_iff.2 (.inr ⟨rfl, h⟩))
      · split
        · exact List.pairwise_singleton _ _
        · exact List.Pairwise.nil
    · obtain ⟨_, rfl⟩ := hhead _ q hq
      obtain ⟨_, rfl⟩ := hhead _ q' hq'
      exact List.cons_lt_cons_iff.2 (.inl hlt)

end Files

namespace Loader

/-- The files loaded one after the other, each into the registry the files before it left.
The first failure ends the loading, with that file's error and the registry the files
before it reached; otherwise the reports of the files add up. -/
def loadInTurn (fs : Files) : Registry → List (List String × String) →
    Registry × Except LoadError LoadReport
  | r, [] => (r, .ok {})
  | r, (place, shown) :: rest =>
    match loadAt fs r place shown with
    | .ok (r', report) => ((loadInTurn fs r' rest).1, (loadInTurn fs r' rest).2.map (report + ·))
    | .error e => (r, .error e)

variable {fs : Files}

/-- Loading a list in turn is loading its first part, then, unless that failed, the rest;
the reports of the two parts add up. -/
theorem loadInTurn_append (r : Registry) (xs ys : List (List String × String)) :
    loadInTurn fs r (xs ++ ys) =
      match loadInTurn fs r xs with
      | (r', .ok a) => ((loadInTurn fs r' ys).1, (loadInTurn fs r' ys).2.map (a + ·))
      | (r', .error e) => (r', .error e) := by
  induction xs generalizing r with
  | nil =>
    simp only [List.nil_append, loadInTurn, LoadReport.empty_add]
    cases loadInTurn fs r ys with
    | mk r' out => cases out <;> rfl
  | cons x xs ih =>
    obtain ⟨place, shown⟩ := x
    simp only [List.cons_append, loadInTurn]
    cases loadAt fs r place shown with
    | error e => rfl
    | ok p =>
      obtain ⟨r₁, report⟩ := p
      simp only [ih]
      cases loadInTurn fs r₁ xs with
      | mk r₂ out =>
        cases out with
        | error e => rfl
        | ok a =>
          simp only [except_map_ok, LoadReport.map_add_map_add]

/-- A fold whose step loads a block of files in turn, and passes on a failure untouched,
loads the blocks one after the other. -/
theorem foldl_eq_loadInTurn
    {step : Registry × Except LoadError LoadReport → String →
      Registry × Except LoadError LoadReport}
    {block : String → List (List String × String)}
    (hstop : ∀ r e name, step (r, .error e) name = (r, .error e))
    (hload : ∀ r acc name, step (r, .ok acc) name =
      ((loadInTurn fs r (block name)).1, (loadInTurn fs r (block name)).2.map (acc + ·)))
    (names : List String) (r : Registry) (acc : LoadReport) :
    names.foldl step (r, .ok acc) =
      ((loadInTurn fs r (names.flatMap block)).1,
        (loadInTurn fs r (names.flatMap block)).2.map (acc + ·)) := by
  have hstuck : ∀ (names : List String) r e, names.foldl step (r, .error e) = (r, .error e) := by
    intro names
    induction names with
    | nil => intro r e; rfl
    | cons name names ih => intro r e; rw [List.foldl_cons, hstop, ih]
  induction names generalizing r acc with
  | nil => simp [loadInTurn]
  | cons name names ih =>
    rw [List.foldl_cons, hload, List.flatMap_cons, loadInTurn_append]
    cases loadInTurn fs r (block name) with
    | mk r₁ out =>
      cases out with
      | error e => exact hstuck _ _ _
      | ok a =>
        simp only [except_map_ok, ih, LoadReport.map_add_map_add]

/-- The files a walk `fuel` levels deep visits below the directory at a place, with their
places and how they are shown. -/
def filesBelow (fs : Files) (fuel : Nat) (place : List String) (shown : String) :
    List (List String × String) :=
  (fs.ruleFilesWithin fuel place).map fun q => (place ++ q, q.foldl Files.displayInside shown)

/-- What a walk does with one name inside a directory: the files below it, if it is a
directory; the file itself, if it is a rule file; nothing otherwise. -/
def filesAt (fs : Files) (fuel : Nat) (place : List String) (shown name : String) :
    List (List String × String) :=
  if fs.isDirectory (place ++ [name]) then
    filesBelow fs fuel (place ++ [name]) (Files.displayInside shown name)
  else if isRuleFile name then [(place ++ [name], Files.displayInside shown name)]
  else []

theorem filesBelow_succ (fuel : Nat) (place : List String) (shown : String) :
    filesBelow fs (fuel + 1) place shown =
      (fs.names place).flatMap (filesAt fs fuel place shown) := by
  simp only [filesBelow, Files.ruleFilesWithin, List.map_flatMap]
  congr 1
  funext name
  unfold filesAt
  split
  · simp [filesBelow, Function.comp_def]
  · split <;> simp

/-- **The walk loads, in turn, the files it visits.** -/
theorem walk_eq_loadInTurn (fuel : Nat) (r : Registry) (place : List String) (shown : String) :
    walk fs fuel r place shown = loadInTurn fs r (filesBelow fs fuel place shown) := by
  induction fuel generalizing r place shown with
  | zero => rfl
  | succ fuel ih =>
    rw [walk, filesBelow_succ]
    refine (@foldl_eq_loadInTurn fs _ (filesAt fs fuel place shown) (fun _ _ _ => rfl) ?_
      (fs.names place) r {}).trans ?_
    rotate_left
    · simp only [LoadReport.empty_add]
      exact Prod.ext rfl (congrFun Except.map_id _)
    -- one name: a directory is walked, a rule file loaded, anything else skipped
    intro r acc name
    dsimp only [filesAt]
    by_cases hdir : fs.isDirectory (place ++ [name]) = true
    · simp only [hdir, if_true, ih]
    · simp only [hdir, Bool.false_eq_true, if_false]
      by_cases hrule : isRuleFile name = true
      · simp only [hrule, if_true, loadInTurn]
        cases loadAt fs r (place ++ [name]) (Files.displayInside shown name) with
        | ok p => simp
        | error e => rfl
      · simp [hrule, loadInTurn]

/-- **Loading a directory.** When the path leads to a directory, the rule files below it —
each file reached through directories whose name has the extension `xml` — are loaded in
turn, each once, in strictly increasing lexicographic order of their paths (a depth-first
walk with sorted names), each shown under the directory's display name; the result is that
of loading them one after the other: the sum of their reports, or the first file's failure
with the registry the files before it reached. When the path leads to no directory, the
load fails at once and leaves the registry as it was. -/
theorem loadDirectory_spec (fs : Files) (r : Registry) (path : String) :
    (∀ place, fs.resolve path = .ok place → fs.isDirectory place = true →
      ∃ files : List (List String), files.Pairwise (· < ·) ∧
        (∀ q, q ∈ files ↔ fs.RuleFileBelow place q) ∧
        loadDirectory fs r path = loadInTurn fs r (files.map fun q =>
          (place ++ q, q.foldl Files.displayInside (fs.display path)))) ∧
    ((¬ ∃ place, fs.resolve path = .ok place ∧ fs.isDirectory place = true) →
      loadDirectory fs r path = (r, .error (.io (.notADirectory (fs.display path))))) := by
  constructor
  · intro place hres hdir
    -- a directory lies at the root or above an item, so within the tree's depth
    have hplace : place.length ≤ fs.depth := by
      by_cases hp : place = []
      · simp [hp]
      · obtain ⟨e, he, hpre⟩ :=
          Files.exists_item_of_itemAt hp (Files.itemAt_of_isDirectory hdir)
        exact le_trans hpre.length_le (Files.length_le_depth he)
    refine ⟨fs.ruleFilesWithin (fs.depth + 1) place, Files.pairwise_ruleFilesWithin _ _,
      Files.mem_ruleFilesWithin (by omega), ?_⟩
    simp only [loadDirectory, hres, hdir, if_true]
    exact walk_eq_loadInTurn _ _ _ _
  · intro hnot
    unfold loadDirectory
    cases hres : fs.resolve path with
    | error e => rfl
    | ok place =>
      have hdir : fs.isDirectory place = false := by
        simpa using fun h => hnot ⟨place, hres, h⟩
      simp [hdir]

/-- A directory shown as `rules`: a base file, an override file in a subdirectory, and a
note that is no rule file. -/
def overrideTree : Files :=
  ⟨"rules", [(["a_base.xml"], .file "<rules/>"), (["b_mods", "override.xml"], .file "<rules/>"),
    (["notes.txt"], .file "not a ruleset")]⟩

theorem overrideTree_loads_in_order :
    (∃ files : List (List String), files.Pairwise (· < ·) ∧
        (∀ q, q ∈ files ↔ overrideTree.RuleFileBelow [] q) ∧
        loadDirectory overrideTree (Registry.withOptions {}) "" =
          loadInTurn overrideTree (Registry.withOptions {}) (files.map fun q =>
            ([] ++ q, q.foldl Files.displayInside (overrideTree.display "")))) ∧
      loadDirectory overrideTree (Registry.withOptions {}) "a\x00b" =
        (Registry.withOptions {},
          .error (.io (.notADirectory (overrideTree.display "a\x00b")))) := by
  have hroot : overrideTree.resolve "" = .ok [] := by cbv
  have hnul : overrideTree.resolve "a\x00b" = .error .nulInName := by simp [Files.resolve]
  refine ⟨(loadDirectory_spec overrideTree _ "").1 [] hroot (Files.isDirectory_root _),
    (loadDirectory_spec overrideTree _ "a\x00b").2 ?_⟩
  rintro ⟨place, hplace, -⟩
  rw [hnul] at hplace
  cases hplace

end Loader

end Ruleset
