import AceSamples.ScriptedRun

/-!
# Components that run side by side

A system consists of components of one kind, `step : σ → α → Option σ`, and the action `(i, a)` moves the `i`-th
of them and nothing else.

* `run_stepAt_iff` — **decomposition rule**: a script leads from `cs` to `cs'` exactly when it addresses existing
  components and each component, carrying out its own `projection` of the script, goes from its place in `cs` to
  its place in `cs'`;
* `run_grow` — components may be created on the way: the run is one of all components, there from the start;
* `run_grow_component` — hence a component sees its own actions only.

Nothing here refers to a particular system.
-/

set_option autoImplicit false

namespace AceSamples.Interleaving

open AceSamples.ScriptedRun

variable {σ α : Type*} {step : σ → α → Option σ}

/-! ### One component moves -/

/-- The `i`-th component carries out `a`. -/
def stepAt (step : σ → α → Option σ) (cs : List σ) (i : ℕ) (a : α) : Option (List σ) :=
  match cs[i]? with
  | none => none
  | some c => (step c a).map fun c' => cs.set i c'

theorem stepAt_eq_some {cs cs' : List σ} {i : ℕ} {a : α} :
    stepAt step cs i a = some cs' ↔
      ∃ c c', cs[i]? = some c ∧ step c a = some c' ∧ cs' = cs.set i c' := by
  unfold stepAt
  constructor
  · intro h
    split at h
    · cases h
    · rename_i c hc
      obtain ⟨c', hc', rfl⟩ := Option.map_eq_some_iff.mp h
      exact ⟨c, c', hc, hc', rfl⟩
  · intro h
    obtain ⟨c, c', hc, hc', rfl⟩ := h
    rw [hc]
    simp only [hc', Option.map_some]

theorem stepAt_none {cs : List σ} {i : ℕ} (hi : cs[i]? = none) (a : α) : stepAt step cs i a = none := by
  unfold stepAt
  rw [hi]

theorem stepAt_some {cs : List σ} {i : ℕ} {c : σ} (hi : cs[i]? = some c) (a : α) :
    stepAt step cs i a = (step c a).map fun c' => cs.set i c' := by
  unfold stepAt
  rw [hi]

/-- Components that are added do not disturb the others. -/
theorem stepAt_append {cs cs' : List σ} {i : ℕ} {a : α} (h : stepAt step cs i a = some cs') (ds : List σ) :
    stepAt step (cs ++ ds) i a = some (cs' ++ ds) := by
  obtain ⟨c, c', hc, hc', rfl⟩ := stepAt_eq_some.mp h
  have hlt : i < cs.length := (List.getElem?_eq_some_iff.mp hc).1
  refine stepAt_eq_some.mpr ⟨c, c', ?_, hc', ?_⟩
  · rw [List.getElem?_append_left hlt]
    exact hc
  · rw [List.set_append_left i c' hlt]

/-! ### Scripts of moves -/

/-- A script whose actions name the component that moves. -/
def moveAt (step : σ → α → Option σ) (cs : List σ) (p : ℕ × α) : Option (List σ) := stepAt step cs p.1 p.2

/-- The actions of the `i`-th component. -/
def projection (i : ℕ) (ps : List (ℕ × α)) : List α :=
  ps.filterMap fun p => if p.1 = i then some p.2 else none

@[simp] theorem projection_nil (i : ℕ) : projection i ([] : List (ℕ × α)) = [] := rfl

theorem projection_cons_self (i : ℕ) (a : α) (ps : List (ℕ × α)) :
    projection i ((i, a) :: ps) = a :: projection i ps := by
  simp [projection]

theorem projection_cons_ne {i j : ℕ} (hij : j ≠ i) (a : α) (ps : List (ℕ × α)) :
    projection i ((j, a) :: ps) = projection i ps := by
  simp [projection, hij]

/-- **Decomposition rule.** -/
theorem run_stepAt_iff {cs cs' : List σ} {ps : List (ℕ × α)} :
    run (moveAt step) cs ps = some cs' ↔
      cs'.length = cs.length ∧ (∀ p ∈ ps, p.1 < cs.length) ∧
        ∀ i c, cs[i]? = some c → run step c (projection i ps) = cs'[i]? := by
  induction ps generalizing cs with
  | nil =>
    rw [run_nil, Option.some.injEq]
    constructor
    · intro h
      subst h
      exact ⟨rfl, fun _ hp => absurd hp List.not_mem_nil, fun i c hc => hc.symm⟩
    · intro h
      obtain ⟨hlen, _, hruns⟩ := h
      apply List.ext_getElem?
      intro i
      cases hc : cs[i]? with
      | none =>
        have hi := List.getElem?_eq_none_iff.mp hc
        exact (List.getElem?_eq_none_iff.mpr (by omega)).symm
      | some c => exact hruns i c hc
  | cons p ps ih =>
    obtain ⟨j, a⟩ := p
    rw [run_cons_eq_some]
    constructor
    · intro h
      obtain ⟨cs₁, hstep, htail⟩ := h
      obtain ⟨hlen, hmem, hruns⟩ := ih.mp htail
      obtain ⟨c, c', hc, hc', rfl⟩ := stepAt_eq_some.mp hstep
      have hj : j < cs.length := (List.getElem?_eq_some_iff.mp hc).1
      rw [List.length_set] at hlen hmem
      refine ⟨hlen, ?_, ?_⟩
      · intro p hp
        obtain rfl | hp := List.mem_cons.mp hp
        · exact hj
        · exact hmem p hp
      · intro i d hd
        by_cases hij : j = i
        · subst hij
          have hdc : d = c := Option.some.inj (hd.symm.trans hc)
          have hset : (cs.set j c')[j]? = some c' := List.getElem?_set_self hj
          rw [projection_cons_self, run_cons, hdc, hc']
          exact hruns j c' hset
        · have hset : (cs.set j c')[i]? = some d := by
            rw [List.getElem?_set_ne hij]
            exact hd
          rw [projection_cons_ne hij]
          exact hruns i d hset
    · intro h
      obtain ⟨hlen, hmem, hruns⟩ := h
      have hj : j < cs.length := hmem (j, a) List.mem_cons_self
      have hc : cs[j]? = some cs[j] := List.getElem?_eq_getElem hj
      -- the first action of its projection is one that the component can carry out
      have hfirst := hruns j cs[j] hc
      rw [projection_cons_self, List.getElem?_eq_getElem (hlen ▸ hj)] at hfirst
      obtain ⟨c', hc', hrest⟩ := run_cons_eq_some.mp hfirst
      refine ⟨cs.set j c', stepAt_eq_some.mpr ⟨_, c', hc, hc', rfl⟩, ih.mpr ⟨?_, ?_, ?_⟩⟩
      · rw [List.length_set]
        exact hlen
      · intro p hp
        rw [List.length_set]
        exact hmem p (List.mem_cons_of_mem _ hp)
      · intro i d hd
        by_cases hij : j = i
        · subst hij
          rw [List.getElem?_set_self hj, Option.some.injEq] at hd
          rw [← hd, List.getElem?_eq_getElem (hlen ▸ hj)]
          exact hrest
        · rw [List.getElem?_set_ne hij] at hd
          have hrun := hruns i d hd
          rw [projection_cons_ne hij] at hrun
          exact hrun

/-! ### Components that are created on the way -/

/-- A component is created, or one moves. -/
inductive Growth (σ α : Type*) where
  | create (c : σ)
  | move (i : ℕ) (a : α)

/-- One action of a growing system. -/
def grow (step : σ → α → Option σ) (cs : List σ) : Growth σ α → Option (List σ)
  | .create c => some (cs ++ [c])
  | .move i a => stepAt step cs i a

/-- The components that a script creates. -/
def created (gs : List (Growth σ α)) : List σ :=
  gs.filterMap fun | .create c => some c | .move _ _ => none

/-- The moves of a script. -/
def moves (gs : List (Growth σ α)) : List (ℕ × α) :=
  gs.filterMap fun | .create _ => none | .move i a => some (i, a)

@[simp] theorem created_create (c : σ) (gs : List (Growth σ α)) :
    created (.create c :: gs) = c :: created gs := rfl

@[simp] theorem created_move (i : ℕ) (a : α) (gs : List (Growth σ α)) :
    created (.move i a :: gs) = created gs := rfl

@[simp] theorem moves_create (c : σ) (gs : List (Growth σ α)) :
    moves (.create c :: gs) = moves gs := rfl

@[simp] theorem moves_move (i : ℕ) (a : α) (gs : List (Growth σ α)) :
    moves (.move i a :: gs) = (i, a) :: moves gs := rfl

/-- **Growth rule.**  A run in which components are created is one of all components, there from the start. -/
theorem run_grow {gs : List (Growth σ α)} {cs cs' : List σ} (h : run (grow step) cs gs = some cs') :
    run (moveAt step) (cs ++ created gs) (moves gs) = some cs' := by
  induction gs generalizing cs with
  | nil =>
    rw [run_nil, Option.some.injEq] at h
    rw [← h]
    show some (cs ++ []) = some cs
    rw [List.append_nil]
  | cons g gs ih =>
    obtain ⟨cs₁, hstep, htail⟩ := run_cons_eq_some.mp h
    cases g with
    | create c =>
      obtain rfl : cs ++ [c] = cs₁ := Option.some.inj hstep
      have hrun := ih htail
      rw [List.append_assoc, List.singleton_append] at hrun
      exact hrun
    | move i a =>
      rw [created_move, moves_move]
      exact run_cons_eq_some.mpr ⟨cs₁ ++ created gs, stepAt_append hstep _, ih htail⟩

/-- A component is where its own actions lead from where it was created. -/
theorem run_grow_component {gs : List (Growth σ α)} {cs : List σ} {i : ℕ} {c : σ}
    (h : run (grow step) [] gs = some cs) (hc : (created gs)[i]? = some c) :
    run step c (projection i (moves gs)) = cs[i]? := by
  have hrun := run_grow h
  rw [List.nil_append] at hrun
  exact (run_stepAt_iff.mp hrun).2.2 i c hc

/-- Nothing else becomes a component. -/
theorem run_grow_length {gs : List (Growth σ α)} {cs : List σ} (h : run (grow step) [] gs = some cs) :
    cs.length = (created gs).length := by
  have hrun := run_grow h
  rw [List.nil_append] at hrun
  exact (run_stepAt_iff.mp hrun).1

end AceSamples.Interleaving
