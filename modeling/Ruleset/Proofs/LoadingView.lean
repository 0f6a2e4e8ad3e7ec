import Ruleset.Proofs.Redefine

/-!
# What a registry shows before its first finalize

Each type logs the edits applied to it, and a redefinition clears the selected kinds of live
content while it drops the same kinds from the log. So, as long as no finalize has succeeded,
the live content of every type is its own log replayed from nothing: abilities and modifiers
grouped by id in order, and scopes. Only the container's existence may differ: a redefinition
leaves an emptied container where the replay of the shortened log makes none.

* `ContentView` — a part of the live content that edits change one at a time and that only
  edits of its own kind touch: the abilities, the modifiers and the scopes are its three
  instances, and every fact below is proved once for all three.
* `ContentView.foldl_filter_keeps` — dropping what a redefinition forgets from a log either
  empties the view, when the view is cleared, or changes nothing in it.
* `RuleType.ShowsLog` — the three views of a type are those of its log, and the type has a
  container wherever its log adds a feature; applying an edit, patching and redefining keep
  it (`ShowsLog.apply`, `ShowsLog.reload`).
* `Registry.showsLogs_run` — the run lemma: over any steps but reopens, every type shows its
  log until the registry is finalized.
* `loading_content_eq_log_replay` — hence, over every session of loads and refused finalizes,
  the live content of each type is what replaying its log from nothing gives.
-/

namespace Ruleset

namespace Edit

/-- Whether the edit adds or deletes abilities. -/
def touchesAbilities : Edit → Bool
  | addAbility _ | deleteAbility _ => true
  | addModifier _ | deleteModifier _ | scope _ | unknown _ => false

/-- Whether the edit adds or deletes modifiers. -/
def touchesModifiers : Edit → Bool
  | addModifier _ | deleteModifier _ => true
  | addAbility _ | deleteAbility _ | scope _ | unknown _ => false

/-- What the edit does to the abilities of a container. -/
def onAbilities : Edit → Grouped Ability → Grouped Ability
  | addAbility a, g => g.add (· == ·) a.id a
  | deleteAbility id, g => g.erase id
  | addModifier _, g | deleteModifier _, g | scope _, g | unknown _, g => g

/-- What the edit does to the modifiers of a container. -/
def onModifiers : Edit → Grouped Modifier → Grouped Modifier
  | addModifier m, g => g.add Modifier.same m.id m
  | deleteModifier id, g => g.erase id
  | addAbility _, g | deleteAbility _, g | scope _, g | unknown _, g => g

end Edit

namespace RuleType

theorem apply_eq_replay (t : RuleType) {e : Edit} (h : e.isUnknown = false) :
    t.apply e = { t.replay (e.withSource t.id) with edits := t.edits ++ [e.withSource t.id] } := by
  cases e with
  | unknown _ => cases h
  | _ => rfl

theorem isSome_features_replay (t : RuleType) (e : Edit) :
    (t.replay e).features.isSome = (t.features.isSome || e.isAdd) := by
  rcases t with ⟨_, _, _, _, _, _ | c, _, _, _⟩ <;> cases e <;> rfl

end RuleType

/-! ## Views of the live content -/

/-- A part of a type's live content, read off its container and scopes, that edits change one
at a time: `step e` is what replaying `e` does to it, only the edits it `touches` change it, a
redefinition keeps those edits exactly when its clears do not select the view (`cleared`),
and when they do, it resets the view to what no container and no scopes show. -/
structure ContentView (β : Type) where
  read : Option Container → List Scope → β
  step : Edit → β → β
  touches : Edit → Bool
  cleared : Clears → Bool
  read_replay : ∀ (t : RuleType) (e : Edit), read (t.replay e).features (t.replay e).scopes =
    step e (read t.features t.scopes)
  step_of_touches_false : ∀ e b, touches e = false → step e b = b
  keeps_of_touches : ∀ c e, touches e = true → c.keeps e = !cleared c
  read_clearFor : ∀ (t : RuleType) (c : Clears),
    read (t.clearFor c).features (t.clearFor c).scopes =
      if cleared c then read none [] else read t.features t.scopes

namespace ContentView

/-- The abilities of a type, grouped by id in order of arrival. -/
def abilities : ContentView (Grouped Ability) where
  read f _ := (f.getD {}).abilities
  step := Edit.onAbilities
  touches := Edit.touchesAbilities
  cleared := (·.abilities)
  read_replay t e := by rcases t with ⟨_, _, _, _, _, _ | c, _, _, _⟩ <;> cases e <;> rfl
  step_of_touches_false e b h := by
    cases e <;> simp_all [Edit.touchesAbilities, Edit.onAbilities]
  keeps_of_touches c e h := by cases e <;> simp_all [Edit.touchesAbilities, Clears.keeps]
  read_clearFor t c := by
    rcases t with ⟨_, _, _, _, _, _ | f, _, _, _⟩ <;>
      rcases c with ⟨_ | _, _ | _, _ | _⟩ <;> rfl

/-- The modifiers of a type, grouped by id in order of arrival. -/
def modifiers : ContentView (Grouped Modifier) where
  read f _ := (f.getD {}).modifiers
  step := Edit.onModifiers
  touches := Edit.touchesModifiers
  cleared := (·.modifiers)
  read_replay t e := by rcases t with ⟨_, _, _, _, _, _ | c, _, _, _⟩ <;> cases e <;> rfl
  step_of_touches_false e b h := by
    cases e <;> simp_all [Edit.touchesModifiers, Edit.onModifiers]
  keeps_of_touches c e h := by cases e <;> simp_all [Edit.touchesModifiers, Clears.keeps]
  read_clearFor t c := by
    rcases t with ⟨_, _, _, _, _, _ | f, _, _, _⟩ <;>
      rcases c with ⟨_ | _, _ | _, _ | _⟩ <;> rfl

/-- The scopes of a type, in order. -/
def scopes : ContentView (List Scope) where
  read _ s := s
  step e s := s ++ e.addedScope.toList
  touches e := e.addedScope.isSome
  cleared := (·.scopes)
  read_replay t e := by cases e <;> simp [RuleType.replay, Edit.addedScope]
  step_of_touches_false e b h := by
    cases he : e.addedScope with
    | none => simp
    | some s => simp [he] at h
  keeps_of_touches c e h := by cases e <;> simp_all [Edit.addedScope, Clears.keeps]
  read_clearFor t c := by rcases c with ⟨_, _, _ | _⟩ <;> rfl

variable {β : Type} (V : ContentView β)

/-- The view of a type is the one its own log, replayed from nothing, gives. -/
def Tracks (t : RuleType) : Prop :=
  V.read t.features t.scopes = t.edits.foldl (fun b e => V.step e b) (V.read none [])

theorem read_foldl_replay (L : List Edit) (t : RuleType) :
    V.read (L.foldl RuleType.replay t).features (L.foldl RuleType.replay t).scopes =
      L.foldl (fun b e => V.step e b) (V.read t.features t.scopes) := by
  induction L generalizing t with
  | nil => rfl
  | cons e L ih => rw [List.foldl_cons, ih, V.read_replay, List.foldl_cons]

/-- **Dropping what a redefinition forgets** from a log empties the view, when the clears select
it, and otherwise changes nothing of it: the edits dropped are then of other kinds. -/
theorem foldl_filter_keeps (c : Clears) (L : List Edit) (b : β) :
    (L.filter c.keeps).foldl (fun b e => V.step e b) b =
      if V.cleared c then b else L.foldl (fun b e => V.step e b) b := by
  induction L generalizing b with
  | nil => cases V.cleared c <;> rfl
  | cons e L ih =>
    -- an edit kept exactly when the view is cleared is of another kind, and leaves it alone
    have hstep : c.keeps e = V.cleared c → V.step e b = b := by
      intro h
      apply V.step_of_touches_false
      cases ht : V.touches e
      · rfl
      · rw [V.keeps_of_touches c e ht] at h
        cases hc : V.cleared c <;> simp [hc] at h
    by_cases hk : c.keeps e = true
    · rw [List.filter_cons_of_pos hk, List.foldl_cons, List.foldl_cons, ih]
      cases hc : V.cleared c
      · rfl
      · exact hstep (hk.trans hc.symm)
    · rw [List.filter_cons_of_neg hk, List.foldl_cons, ih]
      cases hc : V.cleared c
      · rw [hstep (by simpa [hc] using hk)]
      · rfl

variable {V}

theorem Tracks.of_empty {t : RuleType} (hf : t.features = none) (hs : t.scopes = [])
    (he : t.edits = []) : V.Tracks t := by
  simp [Tracks, hf, hs, he]

theorem Tracks.apply {t : RuleType} (h : V.Tracks t) (e : Edit) : V.Tracks (t.apply e) := by
  cases hu : e.isUnknown
  · unfold Tracks at h ⊢
    rw [t.apply_eq_replay hu]
    show V.read (t.replay _).features (t.replay _).scopes = _
    rw [V.read_replay, h, List.foldl_append]
    rfl
  · -- an unknown edit is dropped
    cases e <;> simp [Edit.isUnknown] at hu
    exact h

theorem Tracks.clearFor {t : RuleType} (h : V.Tracks t) (c : Clears) : V.Tracks (t.clearFor c) := by
  unfold Tracks at h ⊢
  rw [V.read_clearFor, show (t.clearFor c).edits = t.edits.filter c.keeps from rfl,
    V.foldl_filter_keeps, h]

/-- A type that tracks its log shows, in the view, its log replayed from nothing. -/
theorem Tracks.eq_replay {t : RuleType} (h : V.Tracks t) :
    V.read t.features t.scopes =
      V.read (t.edits.foldl RuleType.replay t.bare).features
        (t.edits.foldl RuleType.replay t.bare).scopes := by
  rw [V.read_foldl_replay]
  exact h

end ContentView

/-! ## Types that show their log -/

namespace RuleType

/-- The live content of the type is its own log replayed from nothing: the abilities and the
modifiers, grouped by id in order, and the scopes; and the type has a container wherever its log
adds a feature. -/
structure ShowsLog (t : RuleType) : Prop where
  abilities : ContentView.abilities.Tracks t
  modifiers : ContentView.modifiers.Tracks t
  scopes : ContentView.scopes.Tracks t
  created : (∃ e ∈ t.edits, e.isAdd = true) → t.features.isSome

theorem showsLog_created (c : String) (d : Declaration) (index : Nat) :
    (created c d index).ShowsLog :=
  ⟨.of_empty rfl rfl rfl, .of_empty rfl rfl rfl, .of_empty rfl rfl rfl,
    fun ⟨_, he, _⟩ => nomatch he⟩

theorem ShowsLog.apply {t : RuleType} (h : t.ShowsLog) (e : Edit) : (t.apply e).ShowsLog where
  abilities := h.abilities.apply e
  modifiers := h.modifiers.apply e
  scopes := h.scopes.apply e
  created := by
    rintro ⟨x, hx, hadd⟩
    cases hu : e.isUnknown
    · rw [t.apply_eq_replay hu] at hx ⊢
      show (t.replay (e.withSource t.id)).features.isSome
      rw [isSome_features_replay]
      rcases List.mem_append.1 hx with hx | hx
      · simp [h.created ⟨x, hx, hadd⟩]
      · rw [List.mem_singleton] at hx
        subst hx
        simp [hadd]
    · cases e <;> simp [Edit.isUnknown] at hu
      exact h.created ⟨x, hx, hadd⟩

theorem ShowsLog.foldl_apply {t : RuleType} (h : t.ShowsLog) (es : List Edit) :
    (es.foldl RuleType.apply t).ShowsLog := by
  induction es generalizing t with
  | nil => exact h
  | cons e es ih => exact ih (h.apply e)

theorem ShowsLog.clearFor {t : RuleType} (h : t.ShowsLog) (c : Clears) :
    (t.clearFor c).ShowsLog where
  abilities := h.abilities.clearFor c
  modifiers := h.modifiers.clearFor c
  scopes := h.scopes.clearFor c
  created := by
    rintro ⟨x, hx, hadd⟩
    show (t.features.map _).isSome
    rw [Option.isSome_map]
    exact h.created ⟨x, List.mem_of_mem_filter hx, hadd⟩

/-- A declaration's header keeps a type showing its log: a patch does not touch the content or
the log, and a redefinition clears both alike. -/
theorem ShowsLog.reload {t : RuleType} (h : t.ShowsLog) (o : LoadOptions) (c : String)
    (d : Declaration) : (t.reload o c d).ShowsLog := by
  unfold RuleType.reload
  split
  · exact ⟨h.abilities, h.modifiers, h.scopes, h.created⟩
  · have hc := h.clearFor o.redefineClears
    exact ⟨hc.abilities, hc.modifiers, hc.scopes, hc.created⟩

end RuleType

/-! ## Registries that show their logs -/

namespace Registry

open RuleType

variable {r r' : Registry}

/-- Every type of the table shows its own log. -/
def ShowsLogs (r : Registry) : Prop := ∀ t ∈ r.types, t.ShowsLog

theorem ShowsLogs.declare (h : r.ShowsLogs) (c : String) (d : Declaration) :
    (r.declare c d).1.ShowsLogs := by
  intro t ht
  rcases mem_declare ht with ⟨-, ⟨-, rfl⟩ | ⟨u, hu, -, rfl⟩⟩ | ⟨-, ht'⟩
  · exact (showsLog_created c d r.nextIndex).foldl_apply _
  · exact ((h u hu).reload r.options c d).foldl_apply _
  · exact h t ht'

theorem ShowsLogs.declareAll (h : r.ShowsLogs) (ds : List (String × Declaration)) :
    (r.declareAll ds).ShowsLogs := by
  induction ds generalizing r with
  | nil => exact h
  | cons p ds ih => exact ih (h.declare p.1 p.2)

/-- **The step lemma**: a step other than a reopen keeps every type showing its log, unless it
leaves the registry finalized. -/
theorem ShowsLogs.exec (h : r.ShowsLogs ∨ r.phase = .finalized) {op : Op} (hop : op ≠ .reopen) :
    (r.exec op).ShowsLogs ∨ (r.exec op).phase = .finalized := by
  cases op with
  | load doc =>
    cases hl : r.load doc with
    | error e => simpa [Registry.exec, hl] using h
    | ok p =>
      simp only [Registry.exec, hl]
      rcases h with h | h
      · rw [eq_merge_of_load hl, merge_fst_eq_declareAll]
        exact .inl (h.declareAll _)
      · -- a finalized registry refuses every load
        rw [load_of_finalized h] at hl
        cases hl
  | finalize =>
    cases hf : r.finalize with
    | error e => simpa [Registry.exec, hf] using h
    | ok r' =>
      simp only [Registry.exec, hf]
      exact .inr (phase_of_finalize hf)
  | reopen => exact absurd rfl hop

/-- **The run lemma**: over steps other than reopens, every type keeps showing its log until
the registry is finalized. -/
theorem showsLogs_run (h : r.ShowsLogs ∨ r.phase = .finalized) (ops : List Op)
    (hops : ∀ op ∈ ops, op ≠ .reopen) :
    (r.run ops).ShowsLogs ∨ (r.run ops).phase = .finalized := by
  induction ops generalizing r with
  | nil => exact h
  | cons op ops ih =>
    exact ih (ShowsLogs.exec h (hops op List.mem_cons_self)) fun o ho =>
      hops o (List.mem_cons_of_mem _ ho)

/-- **Before the first finalize, the loading view is the edit log.** Over every session of
loads (refused ones included) and finalizes, as long as none has succeeded, every type's live
abilities and modifiers, grouped by id in order, and its live scopes are those its own log gives
when replayed onto no container and no scopes; and where that replay makes a container, the
type has one. This holds for every redefinition setting and every mix of patches and
redefinitions. -/
theorem loading_content_eq_log_replay (o : LoadOptions) (ops : List Op)
    (hops : ∀ op ∈ ops, op ≠ .reopen) (hl : ((withOptions o).run ops).phase = .loading) :
    ∀ t ∈ ((withOptions o).run ops).types,
      t.container.abilities = (t.edits.foldl RuleType.replay t.bare).container.abilities ∧
      t.container.modifiers = (t.edits.foldl RuleType.replay t.bare).container.modifiers ∧
      t.scopes = (t.edits.foldl RuleType.replay t.bare).scopes ∧
      ((t.edits.foldl RuleType.replay t.bare).features.isSome → t.features.isSome) := by
  intro t ht
  have hnew : (withOptions o).ShowsLogs := fun _ h => absurd h List.not_mem_nil
  rcases showsLogs_run (.inl hnew) ops hops with hall | hfin
  · have hs := hall t ht
    refine ⟨hs.abilities.eq_replay, hs.modifiers.eq_replay, hs.scopes.eq_replay, fun hsome => ?_⟩
    -- a replay from nothing makes a container only when the log adds a feature
    apply hs.created
    by_contra hnone
    have hno : (t.edits.foldl RuleType.replay t.bare).features = none :=
      (foldl_replay_features_eq_none _ _).2 ⟨rfl, fun e he => by
        cases hadd : e.isAdd
        · rfl
        · exact absurd ⟨e, he, hadd⟩ hnone⟩
    simp [hno] at hsome
  · rw [hl] at hfin
    cases hfin

/-- Abilities, a modifier and a scope on a type whose child names a missing parent, so that
finalize is refused. -/
def liveSampleBase : Document :=
  { sections := [{ types := [
      { id := "a", children := [.addAbility { id := "x" }, .scope {},
          .addModifier { id := "m", value := Binary32.hundred }, .deleteAbility "x"] },
      { id := "b", parent := some "z" }] }] }

/-- A redefinition of `a` that clears abilities and scopes but keeps modifiers. -/
def liveSampleRedefine : Document :=
  { sections := [{ types := [
      { id := "a", children := [.addModifier { id := "n", value := Binary32.hundred }] }] }] }

/-- The options of the sample: known types are redefined, modifiers survive. -/
def liveSampleOptions : LoadOptions :=
  { reload := .redefine, redefineClears := { modifiers := false } }

theorem liveSample_content_eq_log_replay :
    (∀ op ∈ [Op.load liveSampleBase, .finalize, .load liveSampleRedefine], op ≠ .reopen) ∧
      ((withOptions liveSampleOptions).run
        [.load liveSampleBase, .finalize, .load liveSampleRedefine]).phase = .loading ∧
      ∀ t ∈ ((withOptions liveSampleOptions).run
          [.load liveSampleBase, .finalize, .load liveSampleRedefine]).types,
        t.container.abilities = (t.edits.foldl RuleType.replay t.bare).container.abilities ∧
        t.container.modifiers = (t.edits.foldl RuleType.replay t.bare).container.modifiers ∧
        t.scopes = (t.edits.foldl RuleType.replay t.bare).scopes ∧
        ((t.edits.foldl RuleType.replay t.bare).features.isSome → t.features.isSome) := by
  have hops : ∀ op ∈ [Op.load liveSampleBase, .finalize, .load liveSampleRedefine],
      op ≠ .reopen := by decide
  have hl : ((withOptions liveSampleOptions).run
      [.load liveSampleBase, .finalize, .load liveSampleRedefine]).phase = .loading := by decide
  exact ⟨hops, hl, loading_content_eq_log_replay liveSampleOptions _ hops hl⟩

end Registry

end Ruleset
