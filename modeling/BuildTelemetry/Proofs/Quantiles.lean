import Mathlib.Data.List.Basic
import BuildTelemetry.Metric.Instrument

/-!
# Every quantile is answered

A summary that tracks quantiles has a value for each of them from its first observation on.

1. An observation leaves an entry in a sketch, however entries are split and merged
   (`Sketch.entries_insert_ne_nil`).
2. So a summary of valid quantiles with observations answers just these quantiles, in their order
   (`Summary.quantiles_of_observed`).
-/

namespace BuildTelemetry

namespace Quantile.Sketch

/-! ## 1. Sketches keep an entry -/

variable {error v : Float} {blocks : List (List Entry)}

theorem flatten_splitOverfull (b : List Entry) : (splitOverfull b).flatten = b := by
  unfold splitOverfull
  split
  · next hlong =>
    have hne : b ≠ [] := List.ne_nil_of_length_pos (Nat.zero_lt_of_lt hlong)
    rw [List.getLast?_eq_some_getLast hne, List.flatten_cons, List.flatten_singleton,
      Option.toList_some, List.dropLast_append_getLast hne]
  · exact List.flatten_singleton

theorem insertInBlock_ne_nil (error v : Float) (r : Nat) (b : List Entry) :
    insertInBlock error v r b ≠ [] := by
  simp [insertInBlock]

theorem flatten_insertFront_ne_nil (v : Float) (blocks : List (List Entry)) :
    (insertFront v blocks).flatten ≠ [] := by
  cases blocks with
  | nil => simp [insertFront]
  | cons b rest => simp [insertFront, flatten_splitOverfull]

theorem flatten_insertBack_ne_nil (v : Float) (blocks : List (List Entry)) :
    (insertBack v blocks).flatten ≠ [] := by
  fun_induction insertBack v blocks with
  | case1 => simp
  | case2 b => simp [flatten_splitOverfull]
  | case3 b rest _ ih =>
    rw [List.flatten_cons]
    exact List.append_ne_nil_of_right_ne_nil _ ih

theorem flatten_insertInside_ne_nil (h : blocks ≠ []) (r : Nat) :
    (insertInside error v r blocks).flatten ≠ [] := by
  fun_induction insertInside error v r blocks with
  | case1 => exact absurd rfl h
  | case2 r b =>
    rw [flatten_splitOverfull]
    exact insertInBlock_ne_nil error v r b
  | case3 r b c rest _ ih =>
    rw [List.flatten_cons]
    exact List.append_ne_nil_of_right_ne_nil _ (ih (List.cons_ne_nil c rest))
  | case4 r b c rest =>
    rw [List.flatten_append, flatten_splitOverfull]
    exact List.append_ne_nil_of_left_ne_nil (insertInBlock_ne_nil error v r b) _

theorem flatten_place_ne_nil (error v : Float) (blocks : List (List Entry)) :
    (place error v blocks).flatten ≠ [] := by
  unfold place
  split
  · next first last hfirst _ =>
    split
    · exact flatten_insertFront_ne_nil v blocks
    · split
      · exact flatten_insertBack_ne_nil v blocks
      · refine flatten_insertInside_ne_nil (fun hnone => ?_) 0
        rw [hnone] at hfirst
        cases hfirst
  · exact flatten_insertFront_ne_nil v blocks

/-- Merging keeps the block of the first entry. -/
theorem exists_mem_mergeEntries (error : Float) (r : Nat) (cur : Nat × Entry)
    (rest : List (Nat × Entry)) : ∃ e, (cur.1, e) ∈ mergeEntries error r cur rest := by
  fun_induction mergeEntries error r cur rest with
  | case1 r cur => exact ⟨cur.2, List.mem_singleton_self cur⟩
  | case2 r cur next rest joint _ ih => exact ih
  | case3 r cur next rest joint _ _ => exact ⟨cur.2, List.mem_cons_self⟩

/-- Entries are numbered by blocks. -/
theorem lt_of_mem_tagged {tag : Nat × Entry} (h : tag ∈ tagged blocks) :
    tag.1 < blocks.length := by
  obtain ⟨tags, htags, htag⟩ := List.mem_flatten.mp h
  obtain ⟨⟨b, i⟩, hblock, rfl⟩ := List.mem_map.mp htags
  obtain ⟨e, _, rfl⟩ := List.mem_map.mp htag
  exact List.snd_lt_of_mem_zipIdx hblock

/-- An entry comes into the block of its number. -/
theorem mem_flatten_regroup {count : Nat} {tag : Nat × Entry} {entries : List (Nat × Entry)}
    (h : tag ∈ entries) (hlt : tag.1 < count) : tag.2 ∈ (regroup count entries).flatten := by
  refine List.mem_flatten.mpr ⟨_, List.mem_map_of_mem (List.mem_range.mpr hlt), ?_⟩
  exact List.mem_map_of_mem (List.mem_filter.mpr ⟨h, beq_self_eq_true tag.1⟩)

theorem flatten_joinBlocks (b : List Entry) (rest : List (List Entry)) :
    (joinBlocks b rest).flatten = b ++ rest.flatten := by
  fun_induction joinBlocks b rest with
  | case1 b => simp
  | case2 b c rest _ ih => simp [ih]
  | case3 b c rest _ ih => simp [ih]

theorem flatten_compress_ne_nil (h : blocks.flatten ≠ []) :
    (compress error blocks).flatten ≠ [] := by
  unfold compress
  split
  · exact h
  · split
    · exact h
    · next first rest htagged =>
      obtain ⟨e, he⟩ := exists_mem_mergeEntries error 1 first rest
      have hlt : first.1 < blocks.length := lt_of_mem_tagged (htagged ▸ List.mem_cons_self)
      have hmem := mem_flatten_regroup he hlt
      split
      · next hnone =>
        rw [hnone] at hmem
        cases hmem
      · next b others hsome =>
        rw [hsome] at hmem
        rw [flatten_joinBlocks]
        exact List.ne_nil_of_mem hmem

/-- A sketch with an observation has an entry. -/
theorem entries_insert_ne_nil (s : Sketch) (v : Float) : (s.insert v).entries ≠ [] := by
  unfold Sketch.insert entries
  dsimp only
  split
  · exact flatten_compress_ne_nil (flatten_place_ne_nil s.error v s.blocks)
  · exact flatten_place_ne_nil s.error v s.blocks

theorem quantile?_ne_none {s : Sketch} (h : s.entries ≠ []) (q : Float) : s.quantile? q ≠ none := by
  unfold quantile?
  split
  · next hnone => exact absurd hnone h
  · exact Option.some_ne_none _

end Quantile.Sketch

/-! ## 2. Summaries -/

namespace Summary

variable {quantiles : List Float}

/-- Valid quantiles are all tracked. -/
theorem forScrape_eq (h : firstOutOfRange? quantiles = none) :
    forScrape quantiles = ⟨quantiles, 0.0, 0,
      if quantiles.isEmpty then none else some (.empty scrapeError)⟩ := by
  rw [forScrape, withQuantiles, h]

theorem quantiles_foldl_observe (vs : List Float) (s : Summary) :
    (vs.foldl observe s).quantiles = s.quantiles := by
  induction vs generalizing s with
  | nil => rfl
  | cons v vs ih => exact ih (s.observe v)

theorem sketch_foldl_observe (vs : List Float) (s : Summary) :
    (vs.foldl observe s).sketch =
      s.sketch.map fun sketch => vs.foldl Quantile.Sketch.insert sketch := by
  induction vs generalizing s with
  | nil => exact Option.map_id'.symm
  | cons v vs ih =>
    rw [List.foldl_cons, ih, observe, Option.map_map]
    rfl

theorem map_fst_filterMap {α β : Type} {f : α → Option β} (h : ∀ a, f a ≠ none) (as : List α) :
    (as.filterMap fun a => (f a).map fun b => (a, b)).map Prod.fst = as := by
  induction as with
  | nil => rfl
  | cons a as ih =>
    obtain ⟨b, hb⟩ := Option.ne_none_iff_exists'.mp (h a)
    rw [List.filterMap_cons_some (by rw [hb]; rfl), List.map_cons, ih]

/-- A summary of valid quantiles with observations has a value for each of them. -/
theorem quantiles_of_observed (h : firstOutOfRange? quantiles = none) {vs : List Float}
    (hvs : vs ≠ []) :
    (vs.foldl observe (forScrape quantiles)).quantileValues.map Prod.fst = quantiles := by
  have hsketch := sketch_foldl_observe vs (forScrape quantiles)
  rw [quantileValues, quantiles_foldl_observe]
  rw [forScrape_eq h] at hsketch ⊢
  cases quantiles with
  | nil =>
    rw [hsketch]
    rfl
  | cons q qs =>
    rw [hsketch]
    have hentries : (vs.foldl Quantile.Sketch.insert (.empty scrapeError)).entries ≠ [] := by
      obtain ⟨init, last, rfl⟩ := (List.eq_nil_or_concat' vs).resolve_left hvs
      rw [List.foldl_append]
      exact Quantile.Sketch.entries_insert_ne_nil _ last
    exact map_fst_filterMap (fun q => Quantile.Sketch.quantile?_ne_none hentries q) (q :: qs)

end Summary

end BuildTelemetry
