import Ruleset.Loader
import Ruleset.Proofs.Redefine

/-!
# The XML reader and the document check agree

The reader checks ids and values as it reads, in its own order (a declaration's children
before its id, delete markers through `requiredId` alone), and the registry checks a document
again before merging it (`Document.validate`). The reader is the stricter of the two: every
document it answers passes the registry's check. So loading XML into a loading registry fails
exactly when reading fails, and a failure is the reader's or the file's, whatever registry
it was loading into.

* `Xml.bind_eq_ok`, `Xml.map_eq_ok`, `Xml.mapM_eq_ok_iff` — how a reading step that
  succeeded was reached; `Xml.mem_of_mapM_eq_ok` follows from the last.
* `Xml.Element.wellFormed_of_readChild`, `wellFormed_of_readDeclaration`,
  `wellFormed_of_readDocument` — each piece the reader answers is well formed.
* `Xml.validate_of_readDocument` — a document read from XML passes the registry's check.
* `Loader.loadText_eq_ok_iff`, `Loader.loadFile_eq_ok_iff` — what loading a text or a file
  into a loading registry does; `loadText_eq_error_of_loading`,
  `loadFile_eq_error_of_loading` — its failures do not depend on the registry.
* `reader_documents_validate` — the whole statement, with the phases a loader can be in.
-/

namespace Ruleset

namespace Xml

section Steps

variable {ε α β : Type}

theorem bind_eq_ok {x : Except ε α} {f : α → Except ε β} {b : β} :
    x >>= f = .ok b ↔ ∃ a, x = .ok a ∧ f a = .ok b := by
  cases x <;> simp [bind, Except.bind]

theorem map_eq_ok {x : Except ε α} {f : α → β} {b : β} :
    f <$> x = .ok b ↔ ∃ a, x = .ok a ∧ f a = b := by
  cases x <;> simp [Functor.map, Except.map]

theorem pure_eq_ok {a b : α} : (pure a : Except ε α) = .ok b ↔ a = b := by
  simp [pure, Except.pure]

/-- A traversal succeeds exactly when each element gives the value in its place. -/
theorem mapM_eq_ok_iff (f : α → Except ε β) :
    ∀ (xs : List α) (ys : List β),
      xs.mapM f = .ok ys ↔ List.Forall₂ (fun x y => f x = .ok y) xs ys
  | [], ys => by cases ys <;> simp [pure_eq_ok]
  | x :: xs, ys => by
    rw [List.mapM_cons, bind_eq_ok]
    constructor
    · rintro ⟨y, hy, h⟩
      obtain ⟨ys', hys', h⟩ := bind_eq_ok.1 h
      rw [pure_eq_ok] at h
      subst h
      exact .cons hy ((mapM_eq_ok_iff f xs ys').1 hys')
    · intro h
      cases h with
      | cons hy hrest =>
        exact ⟨_, hy, bind_eq_ok.2 ⟨_, (mapM_eq_ok_iff f _ _).2 hrest, pure_eq_ok.2 rfl⟩⟩

/-- Each value a traversal answers is what the step answered for some element. -/
theorem mem_of_mapM_eq_ok {f : α → Except ε β} {xs : List α} {ys : List β}
    (h : xs.mapM f = .ok ys) : ∀ y ∈ ys, ∃ x ∈ xs, f x = .ok y := by
  -- the values stand in the elements' places, one for one
  have hall := (mapM_eq_ok_iff f xs ys).1 h
  clear h
  induction hall with
  | nil => simp
  | @cons x y xs ys hxy _ ih =>
    intro z hz
    rcases List.mem_cons.1 hz with rfl | hz
    · exact ⟨x, List.mem_cons_self, hxy⟩
    · obtain ⟨w, hw, hwz⟩ := ih z hz
      exact ⟨w, List.mem_cons_of_mem _ hw, hwz⟩

end Steps

namespace Element

variable {e : Element}

/-- An id the reader requires is never empty. -/
theorem requiredId_ne_empty {id : String} (h : e.requiredId = .ok id) : id ≠ "" := by
  unfold requiredId at h
  split at h
  · split at h
    · cases h
    · rename_i hne
      cases h
      exact hne
  · cases h

theorem id_of_readAbility {a : Ability} (h : e.readAbility = .ok a) : a.id ≠ "" := by
  unfold readAbility at h
  simp only [bind_eq_ok, pure_eq_ok] at h
  obtain ⟨id, hid, _, _, _, _, _, _, _, _, rfl⟩ := h
  exact requiredId_ne_empty hid

/-- A modifier the reader answers has an id and a finite value: the value is checked before
the id is read. -/
theorem wellFormed_of_readModifier {m : Modifier} (h : e.readModifier = .ok m) :
    m.id ≠ "" ∧ m.value.isFinite = true := by
  unfold readModifier at h
  -- the rest of the reading stands in each arm of the match on the kind: after a known kind,
  -- and after the failure of an unknown one
  split at h
  on_goal 2 => split at h
  all_goals
    simp only [bind_eq_ok, pure_eq_ok] at h
    obtain ⟨_, hk, v, _, h⟩ := h
  on_goal 3 => cases hk
  all_goals
    split at h
    · cases h
    · rename_i hfin
      simp only [bind_eq_ok, pure_eq_ok] at h
      obtain ⟨id, hid, _, _, _, _, _, _, _, _, rfl⟩ := h
      exact ⟨requiredId_ne_empty hid, by simpa using hfin⟩

/-- **Every child the reader answers is well formed**: added and deleted entries carry an id,
and added modifiers a finite value. -/
theorem wellFormed_of_readChild {edit : Edit} (h : e.readChild = .ok edit) : edit.WellFormed := by
  unfold readChild at h
  rw [bind_eq_ok] at h
  obtain ⟨_, _, h⟩ := h
  dsimp only at h
  split at h
  · split at h
    · obtain ⟨id, hid, rfl⟩ := map_eq_ok.1 h
      exact requiredId_ne_empty hid
    · obtain ⟨a, ha, rfl⟩ := map_eq_ok.1 h
      exact id_of_readAbility ha
  · split at h
    · obtain ⟨id, hid, rfl⟩ := map_eq_ok.1 h
      exact requiredId_ne_empty hid
    · obtain ⟨m, hm, rfl⟩ := map_eq_ok.1 h
      exact wellFormed_of_readModifier hm
  · obtain ⟨s, -, rfl⟩ := map_eq_ok.1 h
    trivial
  · rw [pure_eq_ok] at h
    subst h
    trivial

/-- A declaration the reader answers is well formed: its id was required, and each child is
one the reader answered or an unknown child that reports what nothing read. -/
theorem wellFormed_of_readDeclaration {d : Declaration} (h : e.readDeclaration = .ok d) :
    d.WellFormed := by
  unfold readDeclaration at h
  simp only [bind_eq_ok, pure_eq_ok] at h
  obtain ⟨children, hch, id, hid, _, _, _, _, rfl⟩ := h
  refine ⟨requiredId_ne_empty hid, fun x hx => ?_⟩
  obtain ⟨l, hl, hxl⟩ := List.mem_flatten.1 hx
  obtain ⟨c, -, hc⟩ := mem_of_mapM_eq_ok hch l hl
  simp only [bind_eq_ok, pure_eq_ok] at hc
  obtain ⟨edit, hedit, rfl⟩ := hc
  rcases List.mem_cons.1 hxl with rfl | hxl
  · exact wellFormed_of_readChild hedit
  · obtain ⟨tag, -, rfl⟩ := List.mem_map.1 hxl
    trivial

theorem wellFormed_of_readDocument {doc : Document} (h : e.readDocument = .ok doc) :
    ∀ p ∈ doc.declarations, p.2.WellFormed := by
  unfold readDocument at h
  simp only [bind_eq_ok, pure_eq_ok] at h
  obtain ⟨sections, hs, rfl⟩ := h
  intro p hp
  simp only [Document.declarations, List.mem_flatMap, List.mem_map] at hp
  obtain ⟨s, hs', d, hd, rfl⟩ := hp
  obtain ⟨sec, -, hsec⟩ := mem_of_mapM_eq_ok hs s hs'
  simp only [bind_eq_ok, pure_eq_ok] at hsec
  obtain ⟨types, htypes, rfl⟩ := hsec
  obtain ⟨el, -, hel⟩ := mem_of_mapM_eq_ok htypes d hd
  exact wellFormed_of_readDeclaration hel

end Element

/-- **A document read from XML passes the registry's check.** -/
theorem validate_of_readDocument {text : String} {doc : Document}
    (h : readDocument text = .ok doc) : doc.validate = .ok () := by
  obtain ⟨root, -, hroot⟩ := bind_eq_ok.1 h
  rw [Document.validate_eq_ok_iff]
  intro p hp
  exact (Declaration.problem?_eq_none_iff _).2 (Element.wellFormed_of_readDocument hroot p hp)

end Xml

namespace Registry

@[simp] theorem phase_merge (r : Registry) (doc : Document) : (r.merge doc).1.phase = r.phase := by
  rw [merge_fst_eq_declareAll, declareAll_eq_with]

@[simp] theorem phase_reopen (r : Registry) : r.reopen.phase = .loading := by
  unfold reopen
  split
  · rfl
  · rename_i hf
    cases hp : r.phase
    · rfl
    · simp [isFinalized, hp] at hf

end Registry

namespace Loader

variable {r r' : Registry} {text : String}

/-- Loading a text into a loading registry merges the document it reads, and nothing else. -/
theorem loadText_eq_ok_iff (hl : r.phase = .loading) (p : Registry × LoadReport) :
    loadText r text = .ok p ↔ ∃ doc, Xml.readDocument text = .ok doc ∧ p = r.merge doc := by
  cases h : Xml.readDocument text with
  | error e => cases e <;> simp [loadText, h]
  | ok doc =>
    simp only [loadText, h]
    rw [Registry.load_eq_ok_of_validate hl (Xml.validate_of_readDocument h)]
    simp [Except.mapError, eq_comm]

/-- When reading fails, loading the text reads no registry. -/
theorem loadText_congr {x : Xml.ReadError} (h : Xml.readDocument text = .error x) :
    loadText r text = loadText r' text := by
  simp only [loadText, h]
  cases x <;> rfl

theorem loadText_error_iff (hl : r.phase = .loading) :
    (∃ e, loadText r text = .error e) ↔ ∃ x, Xml.readDocument text = .error x := by
  cases h : Xml.readDocument text with
  | error x =>
    simp only [loadText, h]
    cases x <;> simp
  | ok doc =>
    have hok : loadText r text = .ok (r.merge doc) := (loadText_eq_ok_iff hl _).2 ⟨doc, h, rfl⟩
    simp [hok]

/-- A load of a text into a loading registry fails as it fails for any other registry. -/
theorem loadText_eq_error_of_loading (hl : r.phase = .loading) {e : LoadError}
    (h : loadText r text = .error e) : loadText r' text = .error e := by
  cases hd : Xml.readDocument text with
  | error x => rwa [loadText_congr hd]
  | ok doc =>
    rw [(loadText_eq_ok_iff hl (r.merge doc)).2 ⟨doc, hd, rfl⟩] at h
    cases h

/-- Loading a file is loading the text it reads, with failures marked with the file. -/
theorem loadFile_eq_read (fs : Files) (r : Registry) (path : String) :
    loadFile fs r path =
      (((fs.read path).mapError LoadError.io) >>= loadText r).mapError
        (.inFile (fs.display path)) := by
  rw [Files.read_eq]
  unfold loadFile loadAt
  cases fs.resolve path <;> rfl

/-- Loading a file into a loading registry merges the document its text reads. -/
theorem loadFile_eq_ok_iff (fs : Files) (hl : r.phase = .loading) (path : String)
    (p : Registry × LoadReport) :
    loadFile fs r path = .ok p ↔
      ∃ text doc, fs.read path = .ok text ∧ Xml.readDocument text = .ok doc ∧ p = r.merge doc := by
  rw [loadFile_eq_read]
  cases hread : fs.read path with
  | error e => simp [bind, Except.bind, Except.mapError]
  | ok t =>
    simp only [bind, Except.bind, Except.mapError, Except.ok.injEq, exists_and_left,
      exists_eq_left']
    rw [← loadText_eq_ok_iff hl p]
    cases loadText r t <;> simp

/-- A load of a file into a loading registry fails as it fails for any other registry. -/
theorem loadFile_eq_error_of_loading (fs : Files) (hl : r.phase = .loading)
    {path : String} {e : LoadError}
    (h : loadFile fs r path = .error e) : loadFile fs r' path = .error e := by
  rw [loadFile_eq_read] at h ⊢
  cases hread : fs.read path with
  | error x => simpa [bind, Except.bind, Except.mapError, hread] using h
  | ok t =>
    simp only [bind, Except.bind, Except.mapError, hread] at h ⊢
    -- the text's failure is the reader's, which reads no registry
    cases hl₁ : loadText r t with
    | ok p => simp [hl₁] at h
    | error x =>
      simp only [hl₁, Except.error.injEq] at h
      rw [loadText_eq_error_of_loading hl hl₁]
      subst h
      rfl

theorem phase_loadText {p : Registry × LoadReport} (h : loadText r text = .ok p) :
    p.1.phase = r.phase := by
  unfold loadText at h
  split at h
  · cases h
  · cases h
  · rename_i doc _
    cases hl : r.load doc with
    | error e => simp [hl, Except.mapError] at h
    | ok q =>
      simp only [hl, Except.mapError, Except.ok.injEq] at h
      rw [← h, Registry.eq_merge_of_load hl, Registry.phase_merge]

theorem phase_loadFile (fs : Files) {path : String} {p : Registry × LoadReport}
    (h : loadFile fs r path = .ok p) : p.1.phase = r.phase := by
  rw [loadFile_eq_read] at h
  cases hread : fs.read path with
  | error x => simp [hread, bind, Except.bind, Except.mapError] at h
  | ok t =>
    simp only [hread, bind, Except.bind, Except.mapError] at h
    cases ht : loadText r t with
    | error x => simp [ht] at h
    | ok q =>
      simp only [ht, Except.ok.injEq] at h
      rw [← h]
      exact phase_loadText ht

/-- Finishing answers a finalized registry. -/
theorem phase_finish {r done : Registry} (h : finish r = .ok done) : done.phase = .finalized := by
  unfold finish at h
  cases hf : r.finalize with
  | error e => simp [hf, Except.mapError] at h
  | ok s =>
    simp only [hf, Except.mapError, Except.ok.injEq] at h
    exact h ▸ Registry.phase_of_finalize hf

end Loader

/-- **The XML reader and the registry's check agree.** Every document read from XML passes the
registry's check. A loader's registry is always loading: it starts empty, with or without
options, or from a reopened registry, and loads keep its phase; only finishing, which spends
the loader, answers a finalized registry. Loading a text or a file into a loading registry fails exactly when reading
the file or the text fails, merges the document read otherwise, and fails as it would for any
other loading registry: the failure is the reader's or the file's alone. -/
theorem reader_documents_validate :
    (∀ text doc, Xml.readDocument text = .ok doc → doc.validate = .ok ()) ∧
    (∀ o, (Registry.withOptions o).phase = .loading) ∧ (∀ r : Registry, r.reopen.phase = .loading) ∧
    (∀ r done, Loader.finish r = .ok done → done.phase = .finalized) ∧
    (∀ r text p, Loader.loadText r text = .ok p → p.1.phase = r.phase) ∧
    (∀ fs r path p, Loader.loadFile fs r path = .ok p → p.1.phase = r.phase) ∧
    (∀ r : Registry, r.phase = .loading → ∀ text,
      ((∃ e, Loader.loadText r text = .error e) ↔ ∃ x, Xml.readDocument text = .error x) ∧
      ∀ p, Loader.loadText r text = .ok p ↔
        ∃ doc, Xml.readDocument text = .ok doc ∧ p = r.merge doc) ∧
    (∀ fs (r : Registry), r.phase = .loading → ∀ path p, Loader.loadFile fs r path = .ok p ↔
      ∃ text doc, fs.read path = .ok text ∧ Xml.readDocument text = .ok doc ∧ p = r.merge doc) ∧
    (∀ r r' : Registry, r.phase = .loading → ∀ text e,
      Loader.loadText r text = .error e → Loader.loadText r' text = .error e) ∧
    (∀ fs (r r' : Registry), r.phase = .loading → ∀ path e,
      Loader.loadFile fs r path = .error e → Loader.loadFile fs r' path = .error e) :=
  ⟨fun _ _ h => Xml.validate_of_readDocument h, fun _ => rfl, Registry.phase_reopen,
    fun _ _ h => Loader.phase_finish h, fun _ _ _ h => Loader.phase_loadText h,
    fun fs _ _ _ h => Loader.phase_loadFile fs h,
    fun _ hl _ => ⟨Loader.loadText_error_iff hl, Loader.loadText_eq_ok_iff hl⟩,
    fun fs _ hl path => Loader.loadFile_eq_ok_iff fs hl path,
    fun _ _ hl _ _ h => Loader.loadText_eq_error_of_loading hl h,
    fun fs _ _ hl _ _ h => Loader.loadFile_eq_error_of_loading fs hl h⟩

end Ruleset
