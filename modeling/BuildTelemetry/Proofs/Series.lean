import Mathlib.Data.List.Sort
import BuildTelemetry.Metric.Series

/-!
# Series as maps

A series is a map from label values to instruments: `get?` determines its cells.

* `mem_cells`: the cells are the entries of the map.
* `get?_touch`: a touch changes one entry.
* `filter_cells_eq`: series that agree on some label values have the same cells there.
* `map_fst_cells_eq`: series with the same label values list them in the same order.
* `eq_of_get?`: series of one schema that agree everywhere are the same.
-/

namespace BuildTelemetry.Series

variable {M : Type}

/-! ## 1. Cells and entries -/

/-- Cells in order have no label values twice. -/
theorem nodup_keys {cells : List (List String × M)}
    (hsorted : cells.Pairwise fun a b => a.1 < b.1) : (cells.map Prod.fst).Nodup := by
  refine List.pairwise_map.mpr (hsorted.imp ?_)
  intro a b hlt heq
  exact List.lt_irrefl _ (heq ▸ hlt)

theorem mem_cells {s : Series M} {values : List String} {m : M} :
    (values, m) ∈ s.cells ↔ s.get? values = some m := by
  unfold get?
  rw [Option.map_eq_some_iff]
  constructor
  · intro hmem
    obtain ⟨cell, hfind⟩ : ∃ cell, s.cells.find? (fun cell => cell.1 == values) = some cell := by
      refine Option.isSome_iff_exists.mp (List.find?_isSome.mpr ⟨_, hmem, ?_⟩)
      exact beq_self_eq_true values
    have hkey : cell.1 = values := by simpa using List.find?_some hfind
    -- the cell that is found first is the only one with its label values
    have hcell : cell = (values, m) :=
      List.inj_on_of_nodup_map (nodup_keys s.sorted) (List.mem_of_find?_eq_some hfind) hmem hkey
    exact ⟨cell, hfind, by rw [hcell]⟩
  · rintro ⟨⟨key, n⟩, hfind, rfl⟩
    have hkey : key = values := by simpa using List.find?_some hfind
    exact hkey ▸ List.mem_of_find?_eq_some hfind

theorem mem_keys {s : Series M} {values : List String} :
    values ∈ s.cells.map Prod.fst ↔ (s.get? values).isSome := by
  rw [List.mem_map, Option.isSome_iff_exists]
  constructor
  · rintro ⟨⟨_, m⟩, hcell, rfl⟩
    exact ⟨m, mem_cells.mp hcell⟩
  · rintro ⟨m, hget⟩
    exact ⟨_, mem_cells.mpr hget, rfl⟩

/-! ## 2. Touching -/

theorem find?_upsert_other {fresh : M} {key values : List String} {f : M → M} (h : values ≠ key)
    (cells : List (List String × M)) :
    (upsert fresh key f cells).find? (fun cell => cell.1 == values) =
      cells.find? (fun cell => cell.1 == values) := by
  induction cells with
  | nil => simp [upsert, Ne.symm h]
  | cons head rest ih =>
    obtain ⟨k, m⟩ := head
    rw [upsert]
    split
    · next hk => simp [← hk, Ne.symm h]
    · split
      · simp [List.find?_cons, Ne.symm h]
      · simp only [List.find?_cons, ih]

/-- A key in front of sorted cells is none of theirs. -/
theorem find?_eq_none_of_lt {key : List String} {cells : List (List String × M)}
    (h : ∀ cell ∈ cells, key < cell.1) : cells.find? (fun cell => cell.1 == key) = none := by
  rw [List.find?_eq_none]
  intro cell hcell hkey
  have hlt := h cell hcell
  rw [beq_iff_eq.mp hkey] at hlt
  exact List.lt_irrefl _ hlt

theorem find?_upsert_self {fresh : M} {key : List String} {f : M → M}
    {cells : List (List String × M)} (hsorted : cells.Pairwise fun a b => a.1 < b.1) :
    (upsert fresh key f cells).find? (fun cell => cell.1 == key) =
      some (key, f (((cells.find? fun cell => cell.1 == key).map Prod.snd).getD fresh)) := by
  induction cells with
  | nil => simp [upsert]
  | cons head rest ih =>
    obtain ⟨k, m⟩ := head
    obtain ⟨hhead, hrest⟩ := List.pairwise_cons.mp hsorted
    rw [upsert]
    split
    · next hk => simp [hk]
    · next hk =>
      split
      · next hlt =>
        -- the key is smaller than that of every cell that is left, so it is none of them
        have hnone : ((k, m) :: rest).find? (fun cell => cell.1 == key) = none := by
          refine find?_eq_none_of_lt fun cell hcell => ?_
          rcases List.mem_cons.mp hcell with rfl | hmem
          · exact hlt
          · exact List.lt_trans hlt (hhead cell hmem)
        simp [hnone]
      · simp [Ne.symm hk, ih hrest]

/-- A touch changes the instrument of its label values, a fresh one at the first touch, and no
other. -/
theorem get?_touch (s : Series M) (key values : List String) (f : M → M) :
    (s.touch key f).get? values =
      if values = key then some (f (s.instrument key)) else s.get? values := by
  split
  · next h =>
    subst h
    unfold get? touch
    rw [find?_upsert_self s.sorted]
    rfl
  · next h =>
    unfold get? touch
    rw [find?_upsert_other h]

@[simp] theorem labelNames_touch (s : Series M) (key : List String) (f : M → M) :
    (s.touch key f).labelNames = s.labelNames := rfl

@[simp] theorem fresh_touch (s : Series M) (key : List String) (f : M → M) :
    (s.touch key f).fresh = s.fresh := rfl

/-! ## 3. Agreement -/

/-- Sorted cells with the same members are the same. -/
theorem eq_of_sorted_of_mem {a b : List (List String × M)}
    (ha : a.Pairwise fun x y => x.1 < y.1) (hb : b.Pairwise fun x y => x.1 < y.1)
    (h : ∀ cell, cell ∈ a ↔ cell ∈ b) : a = b := by
  have hperm : a.Perm b :=
    (List.perm_ext_iff_of_nodup (nodup_keys ha).of_map (nodup_keys hb).of_map).mpr h
  refine List.Perm.eq_of_pairwise (fun x y _ _ hxy hyx => ?_) ha hb hperm
  exact absurd (List.lt_trans hxy hyx) (List.lt_irrefl _)

/-- Series that agree on some label values have the same cells there, in the same order. -/
theorem filter_cells_eq {s t : Series M} (p : List String → Bool)
    (h : ∀ values, p values → s.get? values = t.get? values) :
    (s.cells.filter fun cell => p cell.1) = t.cells.filter fun cell => p cell.1 := by
  refine eq_of_sorted_of_mem (s.sorted.filter _) (t.sorted.filter _) fun ⟨values, m⟩ => ?_
  simp only [List.mem_filter, mem_cells]
  constructor
  · rintro ⟨hget, hp⟩
    exact ⟨h values hp ▸ hget, hp⟩
  · rintro ⟨hget, hp⟩
    exact ⟨(h values hp).symm ▸ hget, hp⟩

/-- Series that have instruments for the same label values list these in the same order. -/
theorem map_fst_cells_eq {s t : Series M}
    (h : ∀ values, (s.get? values).isSome = (t.get? values).isSome) :
    s.cells.map Prod.fst = t.cells.map Prod.fst := by
  have hmem (u : Series M) (values : List String) :
      (values, ()) ∈ u.cells.map (fun cell => (cell.1, ())) ↔ (u.get? values).isSome := by
    simp only [List.mem_map, Prod.mk.injEq, and_true, Option.isSome_iff_exists, ← mem_cells]
    exact ⟨fun ⟨⟨_, i⟩, hcell, hvalues⟩ => ⟨i, hvalues ▸ hcell⟩, fun ⟨i, hcell⟩ => ⟨_, hcell, rfl⟩⟩
  -- both lists of label values are in order and have the same members
  have hsorted (u : Series M) :
      (u.cells.map fun cell => (cell.1, ())).Pairwise fun a b => a.1 < b.1 :=
    List.pairwise_map.mpr u.sorted
  have hcells := eq_of_sorted_of_mem (hsorted s) (hsorted t) fun ⟨values, _⟩ => by
    rw [hmem, hmem, h]
  simpa [List.map_map, Function.comp_def] using congrArg (List.map Prod.fst) hcells

/-- Series of one schema that agree on all label values are the same. -/
theorem eq_of_get? {s t : Series M} (hnames : s.labelNames = t.labelNames)
    (hfresh : s.fresh = t.fresh) (h : ∀ values, s.get? values = t.get? values) : s = t := by
  have hcells : s.cells = t.cells := by
    refine eq_of_sorted_of_mem s.sorted t.sorted fun ⟨values, m⟩ => ?_
    rw [mem_cells, mem_cells, h]
  cases s
  cases t
  cases hnames
  cases hfresh
  cases hcells
  rfl

end BuildTelemetry.Series
