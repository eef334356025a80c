import CodeIndex.Proofs.ScanHistory

/-! A ranking goes through the scores from the best one down and lists, for each score that is near
enough, the records that have it as they come. -/
namespace CodeIndex

/-! Sorting by a score -/

section Levels

variable {α : Type} {score : α → Nat} {items : List α} {scores : List Nat}

/-- The items of the first score, then those of the second, and so on. -/
def byScore (score : α → Nat) (scores : List Nat) (items : List α) : List α :=
  scores.flatMap fun n => items.filter fun item => score item = n

theorem byScore_cons (n : Nat) : byScore score (n :: scores) items =
    (items.filter fun item => score item = n) ++ byScore score scores items := rfl

theorem mem_byScore_iff {item : α} :
    item ∈ byScore score scores items ↔ item ∈ items ∧ score item ∈ scores := by
  simp only [byScore, List.mem_flatMap, List.mem_filter, decide_eq_true_eq]
  constructor
  · rintro ⟨n, hScore, hItem, rfl⟩
    exact ⟨hItem, hScore⟩
  · rintro ⟨hItem, hScore⟩
    exact ⟨score item, hScore, hItem, rfl⟩

/-- What is selected by its score is selected among the scores. -/
theorem filter_score_byScore (p : Nat → Bool) :
    (byScore score scores items).filter (fun item => p (score item)) =
      byScore score (scores.filter p) items := by
  induction scores with
  | nil => rfl
  | cons n scores ih =>
    have hHead : (items.filter fun item => score item = n).filter (fun item => p (score item)) =
        if p n then items.filter fun item => score item = n else [] := by
      rw [List.filter_filter]
      split_ifs with hScore
      · refine List.filter_congr fun item _ => ?_
        by_cases hItem : score item = n <;> simp [hItem, hScore]
      · simp only [List.filter_eq_nil_iff, Bool.and_eq_true, decide_eq_true_eq]
        rintro item - ⟨hItem, rfl⟩
        exact hScore hItem
    rw [byScore_cons, List.filter_append, ih, hHead, List.filter_cons]
    split_ifs
    · rw [byScore_cons]
    · rfl

/-- To leave out items by their scores is to leave out these scores. -/
theorem byScore_filter_score (p : Nat → Bool) :
    byScore score scores (items.filter fun item => p (score item)) =
      byScore score (scores.filter p) items := by
  rw [← filter_score_byScore, byScore, byScore, List.filter_flatMap]
  refine List.flatMap_congr fun n _ => ?_
  rw [List.filter_filter, List.filter_filter]
  exact List.filter_congr fun item _ => Bool.and_comm _ _

/-- The items of one score keep their order. -/
theorem filter_byScore (hDistinct : scores.Nodup) (n : Nat) :
    (byScore score scores items).filter (fun item => score item = n) =
      if n ∈ scores then items.filter fun item => score item = n else [] := by
  rw [filter_score_byScore fun m => decide (m = n), List.filter_eq, hDistinct.count]
  split_ifs
  · simp [byScore]
  · rfl

/-- Items listed by descending scores have descending scores. -/
theorem byScore_descends (hScores : scores.Pairwise (· > ·)) :
    (byScore score scores items).Pairwise fun a b => decide (score b ≤ score a) = true := by
  rw [byScore, List.pairwise_flatMap]
  constructor
  · intro n hn
    apply List.pairwise_of_forall_mem_list
    intro a ha b hb
    have hLeft := List.of_mem_filter ha
    have hRight := List.of_mem_filter hb
    simp only [decide_eq_true_eq] at *
    omega
  · refine hScores.imp fun hLess a ha b hb => ?_
    have hLeft := List.of_mem_filter ha
    have hRight := List.of_mem_filter hb
    simp only [decide_eq_true_eq] at *
    omega

/-- The scores up to a given one, from the highest down. -/
def scoresFrom (top : Nat) : List Nat := (List.range (top + 1)).reverse

theorem mem_scoresFrom_iff {top n : Nat} : n ∈ scoresFrom top ↔ n ≤ top := by
  rw [scoresFrom, List.mem_reverse, List.mem_range, Nat.lt_succ_iff]

theorem scoresFrom_descends (top : Nat) : (scoresFrom top).Pairwise (· > ·) :=
  List.pairwise_reverse.mpr List.pairwise_lt_range

/-- Sorting from the highest score down lists the items score by score. -/
theorem mergeSort_eq_byScore {top : Nat} (hTop : ∀ item ∈ items, score item ≤ top) :
    items.mergeSort (fun a b => score b ≤ score a) = byScore score (scoresFrom top) items := by
  have hTrans : ∀ a b c, decide (score b ≤ score a) = true → decide (score c ≤ score b) = true →
      decide (score c ≤ score a) = true := by
    intro a b c hab hbc
    simp only [decide_eq_true_eq] at *
    omega
  have hTotal : ∀ a b, (decide (score b ≤ score a) || decide (score a ≤ score b)) = true := by
    intro a b
    simp only [Bool.or_eq_true, decide_eq_true_eq]
    omega
  have hTied : ∀ a b, decide (score b ≤ score a) = true → decide (score a ≤ score b) = true →
      score a = score b := by
    intro a b hab hba
    simp only [decide_eq_true_eq] at *
    omega
  have hSame : SameParts score items (byScore score (scoresFrom top) items) := by
    intro n
    rw [filter_byScore ((scoresFrom_descends top).imp Nat.ne_of_gt)]
    split_ifs with hScore
    · rfl
    · simp only [List.filter_eq_nil_iff, decide_eq_true_eq]
      rintro item hItem rfl
      exact hScore (mem_scoresFrom_iff.mpr (hTop item hItem))
  rw [hSame.mergeSort_eq hTrans hTotal hTied,
    List.mergeSort_of_pairwise (byScore_descends (scoresFrom_descends top))]

end Levels

namespace Search

variable {key : Key} {records others : List Record}

/-- The highest score that a record of a list has, and zero for no records. -/
def topScore (key : Key) (records : List Record) : Nat := (records.map (scoreOf key)).foldr max 0

theorem topScore_cons (record : Record) :
    topScore key (record :: records) = max (scoreOf key record) (topScore key records) := rfl

theorem scoreOf_le_topScore {record : Record} (hRecord : record ∈ records) :
    scoreOf key record ≤ topScore key records := by
  induction records with
  | nil => cases hRecord
  | cons other records ih =>
    rw [topScore_cons]
    rcases List.mem_cons.mp hRecord with rfl | hRecord
    · exact Nat.le_max_left _ _
    · exact Nat.le_trans (ih hRecord) (Nat.le_max_right _ _)

/-- A top score above zero is the score of a record. -/
theorem exists_topScore (hPos : 0 < topScore key records) :
    ∃ record ∈ records, scoreOf key record = topScore key records := by
  induction records with
  | nil => cases hPos
  | cons record records ih =>
    rw [topScore_cons] at hPos ⊢
    by_cases hFirst : topScore key records ≤ scoreOf key record
    · exact ⟨record, List.mem_cons_self, (Nat.max_eq_left hFirst).symm⟩
    · obtain ⟨other, hOther, hScore⟩ := ih (by omega)
      exact ⟨other, List.mem_cons_of_mem _ hOther, by omega⟩

/-- The top score is zero exactly if nothing matches. -/
theorem topScore_eq_zero_iff :
    topScore key records = 0 ↔ ∀ record ∈ records, scoreOf key record = 0 := by
  constructor
  · intro hTop record hRecord
    exact Nat.eq_zero_of_le_zero (hTop ▸ scoreOf_le_topScore hRecord)
  · intro hNone
    by_contra hTop
    obtain ⟨record, hRecord, hScore⟩ := exists_topScore (Nat.pos_of_ne_zero hTop)
    exact hTop (hScore ▸ hNone record hRecord)

/-- Leaving out records does not lower the highest score if the best records stay. -/
theorem topScore_eq_of_best_mem (hSubset : ∀ record ∈ others, record ∈ records)
    (hBest : ∀ record ∈ records, 0 < scoreOf key record →
      scoreOf key record = topScore key records → record ∈ others) :
    topScore key others = topScore key records := by
  apply Nat.le_antisymm
  · by_cases hPos : 0 < topScore key others
    · obtain ⟨record, hRecord, hScore⟩ := exists_topScore hPos
      exact hScore ▸ scoreOf_le_topScore (hSubset record hRecord)
    · omega
  · by_cases hPos : 0 < topScore key records
    · obtain ⟨record, hRecord, hScore⟩ := exists_topScore hPos
      exact hScore ▸ scoreOf_le_topScore (hBest record hRecord (hScore ▸ hPos) hScore)
    · omega

/-- The scores that a ranking lists, from the highest down: those above zero that are less than four
below the highest one. -/
def nearScores (top : Nat) : List Nat :=
  (scoresFrom top).filter fun n => 0 < n ∧ top - n < 4

/-- The scores near to a top one are positive and less than four below it. -/
theorem mem_nearScores_iff {top n : Nat} :
    n ∈ nearScores top ↔ n ≤ top ∧ 0 < n ∧ top - n < 4 := by
  simp [nearScores, mem_scoresFrom_iff]

theorem nodup_nearScores (top : Nat) : (nearScores top).Nodup :=
  ((scoresFrom_descends top).imp Nat.ne_of_gt).sublist List.filter_sublist

/-- The records of a list that score highest, in their order, then those with the next lower score,
and so on down to the last score that is near enough. -/
def bestLevels (key : Key) (records : List Record) : List Record :=
  byScore (scoreOf key) (nearScores (topScore key records)) records

/-- The records of the best levels are those that match and come near to the top score. -/
theorem mem_bestLevels_iff {record : Record} :
    record ∈ bestLevels key records ↔ record ∈ records ∧ 0 < scoreOf key record ∧
      topScore key records - scoreOf key record < 4 := by
  rw [bestLevels, mem_byScore_iff, mem_nearScores_iff]
  exact and_congr_right fun hRecord => and_iff_right (scoreOf_le_topScore hRecord)

/-- The matching entries, score by score. -/
theorem matching_eq_byScore :
    matching (records.map fun record => (scoreOf key record, record)) =
      (byScore (scoreOf key) ((scoresFrom (topScore key records)).filter fun n => 0 < n)
        records).map fun record => (scoreOf key record, record) := by
  rw [← byScore_filter_score (fun n => 0 < n),
    ← mergeSort_eq_byScore fun record hRecord =>
      scoreOf_le_topScore (List.mem_of_mem_filter hRecord),
    List.map_mergeSort (s := fun a b : Nat × Record => decide (b.1 ≤ a.1)) fun _ _ _ _ => rfl,
    matching, List.filter_map]
  rfl

/-- The first score of the sorted matches is the top score. -/
theorem head?_matching_scores :
    ((matching (records.map fun record => (scoreOf key record, record))).map Prod.fst).head? =
      if 0 < topScore key records then some (topScore key records) else none := by
  have hDescend := matching_scores_descend (records.map fun record => (scoreOf key record, record))
  have hMem (n : Nat) :
      n ∈ (matching (records.map fun record => (scoreOf key record, record))).map Prod.fst ↔
        0 < n ∧ ∃ record ∈ records, scoreOf key record = n := by
    rw [matching_eq_byScore, List.map_map, List.mem_map]
    simp only [Function.comp_apply, mem_byScore_iff, List.mem_filter, mem_scoresFrom_iff,
      decide_eq_true_eq]
    constructor
    · rintro ⟨record, ⟨hRecord, -, hPos⟩, rfl⟩
      exact ⟨hPos, record, hRecord, rfl⟩
    · rintro ⟨hPos, record, hRecord, rfl⟩
      exact ⟨record, ⟨hRecord, scoreOf_le_topScore hRecord, hPos⟩, rfl⟩
  generalize (matching _).map Prod.fst = scores at hDescend hMem ⊢
  cases scores with
  | nil =>
    rw [if_neg]
    · rfl
    · intro hPos
      exact List.not_mem_nil ((hMem _).mpr ⟨hPos, exists_topScore hPos⟩)
  | cons n scores =>
    obtain ⟨hPos, record, hRecord, hScore⟩ := (hMem n).mp List.mem_cons_self
    have hLe : n ≤ topScore key records := hScore ▸ scoreOf_le_topScore hRecord
    have hTop := (hMem _).mpr ⟨Nat.lt_of_lt_of_le hPos hLe, exists_topScore (by omega)⟩
    have hGe : topScore key records ≤ n := by
      rcases List.mem_cons.mp hTop with hTop | hTop
      · exact Nat.le_of_eq hTop
      · exact List.rel_of_pairwise_cons hDescend hTop
    rw [if_pos (by omega), Nat.le_antisymm hGe hLe]
    rfl

/-- A ranking is the list of the best levels. -/
theorem rank_eq_bestLevels (hNames : ∀ record ∈ records, record.name ≠ []) :
    rank key records = .ok (bestLevels key records) := by
  have hNear (n : Nat) : isNear (if 0 < topScore key records then some (topScore key records)
      else none) n = decide (0 < topScore key records ∧ topScore key records < n + 4) := by
    split_ifs with hPos
    · exact decide_eq_decide.mpr (and_iff_right hPos).symm
    · exact (decide_eq_false fun hTop => hPos hTop.1).symm
  rw [rank_eq hNames, best, head?_matching_scores, matching_eq_byScore, List.filter_map,
    List.map_map]
  simp only [Function.comp_def, hNear, List.map_id']
  rw [filter_score_byScore
    fun n => decide (0 < topScore key records ∧ topScore key records < n + 4), List.filter_filter,
    bestLevels, nearScores]
  congr 2
  refine List.filter_congr fun n hn => ?_
  have := mem_scoresFrom_iff.mp hn
  rw [← Bool.decide_and]
  exact decide_eq_decide.mpr (by omega)

/-- There are no best levels exactly if nothing matches. -/
theorem bestLevels_eq_nil_iff :
    bestLevels key records = [] ↔ ∀ record ∈ records, scoreOf key record = 0 := by
  rw [List.eq_nil_iff_forall_not_mem]
  constructor
  · intro hNone
    rw [← topScore_eq_zero_iff]
    by_contra hTop
    obtain ⟨record, hRecord, hScore⟩ := exists_topScore (Nat.pos_of_ne_zero hTop)
    exact hNone record (mem_bestLevels_iff.mpr ⟨hRecord, by omega, by omega⟩)
  · intro hZero record hMem
    obtain ⟨hRecord, hPos, -⟩ := mem_bestLevels_iff.mp hMem
    exact Nat.ne_of_gt hPos (hZero record hRecord)

/-- Ranking what a ranking has kept changes nothing. -/
theorem bestLevels_bestLevels :
    bestLevels key (bestLevels key records) = bestLevels key records := by
  have hTop : topScore key (bestLevels key records) = topScore key records := by
    refine topScore_eq_of_best_mem (fun record hMem => (mem_bestLevels_iff.mp hMem).1) ?_
    intro record hRecord hPos hScore
    exact mem_bestLevels_iff.mpr ⟨hRecord, hPos, by omega⟩
  rw [bestLevels, hTop, byScore]
  refine List.flatMap_congr fun n hn => ?_
  rw [bestLevels, filter_byScore (nodup_nearScores _), if_pos hn]

/-- Records that do not match play no part in a ranking. -/
theorem bestLevels_filter_matches :
    bestLevels key (records.filter fun record => 0 < scoreOf key record) =
      bestLevels key records := by
  have hTop : topScore key (records.filter fun record => 0 < scoreOf key record) =
      topScore key records := by
    refine topScore_eq_of_best_mem (fun record hMem => List.mem_of_mem_filter hMem) ?_
    intro record hRecord hPos _
    exact List.mem_filter.mpr ⟨hRecord, decide_eq_true hPos⟩
  have hPositive : (nearScores (topScore key records)).filter (fun n => 0 < n) =
      nearScores (topScore key records) :=
    List.filter_eq_self.mpr fun n hn => decide_eq_true (mem_nearScores_iff.mp hn).2.1
  rw [bestLevels, hTop, byScore_filter_score fun n => 0 < n, hPositive, bestLevels]

/-! Keys as they are typed -/

theorem rankText_eq {text : String} (hKey : Key.ofText text = .ok key) :
    rankText text records = rank key records := by
  rw [rankText, hKey, ok_bind]

/-- A ranking of named records is made exactly for the texts that can be read as a key. -/
theorem exists_rankText_iff {text : String} (hNames : ∀ record ∈ records, record.name ≠ []) :
    (∃ ranked, rankText text records = .ok ranked) ↔ ∃ key, Key.ofText text = .ok key := by
  constructor
  · rintro ⟨ranked, hRanked⟩
    obtain ⟨key, hKey, -⟩ := bind_eq_ok_iff.mp hRanked
    exact ⟨key, hKey⟩
  · rintro ⟨key, hKey⟩
    exact ⟨_, (rankText_eq hKey).trans (rank_eq_bestLevels hNames)⟩

/-- A ranking of named records is made exactly for the texts that can be read as a key. It lists the
best levels, so it is empty if no record scores, keeps a ranking as it is and passes over records
that score zero; and from records in another order it makes the same levels. -/
theorem rankText_exact {text : String} (hNames : ∀ record ∈ records, record.name ≠ []) :
    ((∃ ranked, rankText text records = .ok ranked) ↔ ∃ key, Key.ofText text = .ok key) ∧
    ∀ key, Key.ofText text = .ok key →
      (∀ record ∈ records, score key record = .ok (scoreOf key record)) ∧
      rankText text records = .ok (bestLevels key records) ∧
      (bestLevels key records = [] ↔ ∀ record ∈ records, score key record = .ok 0) ∧
      rankText text (bestLevels key records) = .ok (bestLevels key records) ∧
      (∀ others : List Record, (∀ record ∈ others, record.name ≠ []) →
        (others.filter fun record => 0 < scoreOf key record) =
          (records.filter fun record => 0 < scoreOf key record) →
        rankText text others = .ok (bestLevels key records)) ∧
      ∀ others : List Record, records.Perm others →
        ∃ ranked, rankText text others = .ok ranked ∧ (bestLevels key records).Perm ranked ∧
          (bestLevels key records).map (score key) = ranked.map (score key) := by
  refine ⟨exists_rankText_iff hNames, fun key hKey => ?_⟩
  have hScore (record : Record) (hRecord : record ∈ records) := score_eq key (hNames record hRecord)
  have hRank : rank key records = .ok (bestLevels key records) := rank_eq_bestLevels hNames
  simp only [rankText_eq hKey]
  refine ⟨hScore, hRank, ?_, ?_, ?_, ?_⟩
  · rw [bestLevels_eq_nil_iff]
    refine forall₂_congr fun record hRecord => ?_
    rw [hScore record hRecord, Except.ok.injEq]
  · rw [rank_eq_bestLevels fun record hMem => hNames record (mem_bestLevels_iff.mp hMem).1,
      bestLevels_bestLevels]
  · intro others hOthers hMatches
    rw [rank_eq_bestLevels hOthers, ← bestLevels_filter_matches, hMatches,
      bestLevels_filter_matches]
  · intro others hPerm
    obtain ⟨left, ranked, hLeft, hRanked, hSame⟩ := @rank_of_perm key _ _ hPerm hNames
    obtain rfl := Except.ok.inj (hRank.symm.trans hLeft)
    exact ⟨ranked, hRanked, hSame⟩

/-- A definition without a place. -/
def definitionOf (name : List String) : Record := ⟨"defs", name, "a.go", none, none, none, none⟩

/-- Records of the scores two, five, six, zero and six for the key "new". -/
def newRecords : List Record :=
  [["renew"], ["m", "NEW"], ["m", "new"], ["old"], ["a", "new"]].map definitionOf

/-- Names whose last segment is the key come first, and then those that differ in case. A name that
only holds the key scores too low beside them. -/
theorem newRecords_ranked :
    (∀ record ∈ newRecords, record.name ≠ []) ∧
    ∃ ranked, ranked.map Record.name = [["m", "new"], ["a", "new"], ["m", "NEW"]] ∧
      rankText "new" newRecords = .ok ranked ∧ rankText "new" ranked = .ok ranked ∧
      rankText "new" (definitionOf ["old"] :: newRecords) = .ok ranked ∧
      ∃ reversed, rankText "new" newRecords.reverse = .ok reversed ∧ ranked.Perm reversed := by
  have hEvaluated : ((Key.ofText "new").toOption.map fun key =>
      (scoreOf key (definitionOf ["old"]), (bestLevels key newRecords).map Record.name)) =
        some (0, [["m", "new"], ["a", "new"], ["m", "NEW"]]) := by decide +kernel
  have hNames : ∀ record ∈ newRecords, record.name ≠ [] := by decide
  cases hKey : Key.ofText "new" with
  | error failure =>
    rw [hKey] at hEvaluated
    cases hEvaluated
  | ok key =>
    rw [hKey] at hEvaluated
    obtain ⟨hZero, hLevels⟩ := Prod.mk.inj (Option.some.inj hEvaluated)
    obtain ⟨-, hRanked, -, hAgain, hInserted, hPermuted⟩ := (rankText_exact hNames).2 key hKey
    obtain ⟨reversed, hReversed, hPerm, -⟩ := hPermuted _ (List.reverse_perm newRecords).symm
    refine ⟨hNames, _, hLevels, hRanked, hAgain, ?_, reversed, hReversed, hPerm⟩
    apply hInserted
    · decide
    · rw [List.filter_cons_of_neg (by simp [hZero])]

/-- A repetition that is too large is not searched for literally: there is no ranking, not even for
the record that has the text as its name. -/
theorem hugeRepetition_not_ranked :
    (∀ record ∈ [definitionOf ["a\x7b4294967296\x7d"], definitionOf ["b"]], record.name ≠ []) ∧
    rankText "a\x7b4294967296\x7d" [definitionOf ["a\x7b4294967296\x7d"], definitionOf ["b"]] =
      .error .repetitionTooLarge := by
  have hFault : (match Key.ofText "a\x7b4294967296\x7d" with
      | .ok _ => none
      | .error failure => some failure) = some Failure.repetitionTooLarge := by decide +kernel
  refine ⟨by decide, ?_⟩
  cases hKey : Key.ofText "a\x7b4294967296\x7d" with
  | ok key =>
    rw [hKey] at hFault
    cases hFault
  | error failure =>
    rw [hKey] at hFault
    rw [rankText, hKey, Option.some.inj hFault]
    rfl

end Search

end CodeIndex
