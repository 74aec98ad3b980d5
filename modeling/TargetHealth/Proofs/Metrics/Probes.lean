import TargetHealth.Metrics.Probes
import TargetHealth.Proofs.Table

namespace TargetHealth

def countOf (outcome : Outcome) (id : TargetId) (rs : List ProbeResult) : Nat :=
  rs.countP (fun r => r.outcome = outcome ∧ r.targetId = id)

def latenciesOf (id : TargetId) (rs : List ProbeResult) : List Duration :=
  rs.filterMap (fun r => if r.targetId = id then r.latency else none)

def ProbeResult.Timed (r : ProbeResult) : Prop := r.latency.isSome = true ↔ r.outcome = .success

theorem length_latenciesOf {rs : List ProbeResult} (h : ∀ r ∈ rs, r.Timed) (id : TargetId) :
    (latenciesOf id rs).length = countOf .success id rs := by
  rw [latenciesOf, countOf, List.length_filterMap_eq_countP]
  refine List.countP_congr fun r hr => ?_
  have htimed := h r hr
  by_cases hid : r.targetId = id
  · rw [if_pos hid, decide_eq_true_eq]
    exact htimed.trans (and_iff_left hid).symm
  · rw [if_neg hid, decide_eq_true_eq]
    exact iff_of_false Bool.false_ne_true fun h => hid h.2

theorem Outcome.name_injective {o o' : Outcome} (h : o.name = o'.name) : o = o' := by
  revert h
  cases o <;> cases o' <;> decide

namespace MetricFamily

/-- A count is shown by one sample with its suffix and its labels, and a count of zero by none. -/
def Shows (f : MetricFamily) (suffix : String) (labels : List (String × String)) (n : Nat) : Prop :=
  f.samples.filter (fun s => s.suffix = suffix ∧ s.labels = labels) =
    if n = 0 then [] else [⟨suffix, labels, Float.ofNat n⟩]

end MetricFamily

namespace ProbeMetrics

variable {m : ProbeMetrics} {rs : List ProbeResult}

def nonzero? (n : Nat) : Option Nat := if n = 0 then none else some n

@[simp] theorem getD_nonzero? (n : Nat) : (nonzero? n).getD 0 = n := by
  unfold nonzero?
  split
  · rename_i h
    exact h.symm
  · rfl

@[simp] theorem nonzero?_succ (n : Nat) : nonzero? (n + 1) = some (n + 1) := if_neg (Nat.succ_ne_zero n)

theorem nonzero?_eq_none_iff {n : Nat} : nonzero? n = none ↔ n = 0 := by
  unfold nonzero?
  split <;> simp [*]

structure Tells (m : ProbeMetrics) (rs : List ProbeResult) : Prop where
  results : ∀ outcome id, (m.results.get? outcome.name).bind (·.get? id) = nonzero? (countOf outcome id rs)
  skipped : ∀ id, m.skipped.get? id = nonzero? (countOf .skipped id rs)
  latencies : ∀ id, m.latencies.get? id = if latenciesOf id rs = [] then none else some (latenciesOf id rs)
  outcomesAscend : m.results.Ascending
  resultsAscend : ∀ name t, m.results.get? name = some t → t.Ascending
  skippedAscend : m.skipped.Ascending
  latenciesAscend : m.latencies.Ascending

theorem tells_empty : Tells .empty [] where
  results _ _ := rfl
  skipped _ := rfl
  latencies _ := rfl
  outcomesAscend := Table.ascending_empty
  resultsAscend _ _ h := nomatch h
  skippedAscend := Table.ascending_empty
  latenciesAscend := Table.ascending_empty

theorem Tells.withGauge (h : m.Tells rs) (n : Int) : { m with inFlight := n }.Tells rs :=
  ⟨h.results, h.skipped, h.latencies, h.outcomesAscend, h.resultsAscend, h.skippedAscend, h.latenciesAscend⟩

theorem get?_increment (t : Table TargetId Nat) (id id' : TargetId) :
    (increment t id).get? id' = if id' = id then some ((t.get? id).getD 0 + 1) else t.get? id' :=
  Table.get?_insert ..

theorem countOf_append (outcome : Outcome) (id : TargetId) (rs : List ProbeResult) (r : ProbeResult) :
    countOf outcome id (rs ++ [r]) = countOf outcome id rs + if r.outcome = outcome ∧ r.targetId = id then 1 else 0 := by
  rw [countOf, List.countP_append, List.countP_singleton]
  simp only [decide_eq_true_eq]
  rfl

theorem latenciesOf_append (id : TargetId) (rs : List ProbeResult) (r : ProbeResult) :
    latenciesOf id (rs ++ [r]) = latenciesOf id rs ++ if r.targetId = id then r.latency.toList else [] := by
  rw [latenciesOf, List.filterMap_append]
  refine congrArg (latenciesOf id rs ++ ·) ?_
  by_cases hid : r.targetId = id
  · cases hlatency : r.latency <;> simp [hid, hlatency]
  · simp [hid]

theorem get?_increment_of_nonzero? {t : Table TargetId Nat} {id : TargetId} {n : Nat} (h : t.get? id = nonzero? n)
    (id' : TargetId) : (increment t id').get? id = nonzero? (n + if id' = id then 1 else 0) := by
  rw [get?_increment]
  by_cases hid : id = id'
  · cases hid
    rw [if_pos rfl, if_pos rfl, h, getD_nonzero?, nonzero?_succ]
  · rw [if_neg hid, if_neg (Ne.symm hid), h, Nat.add_zero]

theorem get?_getD_empty (t? : Option (Table TargetId Nat)) (id : TargetId) :
    (t?.getD .empty).get? id = t?.bind (·.get? id) := by
  cases t? <;> rfl

theorem Tells.results_record (h : m.Tells rs) (r : ProbeResult) (outcome : Outcome) (id : TargetId) :
    ((m.record r).results.get? outcome.name).bind (·.get? id) = nonzero? (countOf outcome id (rs ++ [r])) := by
  rw [countOf_append]
  change ((m.results.insert r.outcome.name _).get? outcome.name).bind _ = _
  rw [Table.get?_insert]
  by_cases ho : r.outcome = outcome
  · cases ho
    have hcount := (get?_getD_empty _ id).trans (h.results r.outcome id)
    rw [if_pos rfl, Option.bind_some, get?_increment_of_nonzero? hcount]
    simp only [true_and]
  · rw [if_neg fun hname => ho (Outcome.name_injective hname).symm, h.results, if_neg fun hr => ho hr.1, Nat.add_zero]

theorem Tells.skipped_record (h : m.Tells rs) (r : ProbeResult) (id : TargetId) :
    (m.record r).skipped.get? id = nonzero? (countOf .skipped id (rs ++ [r])) := by
  rw [countOf_append]
  change (if r.outcome = .skipped then increment m.skipped r.targetId else m.skipped).get? id = _
  by_cases ho : r.outcome = .skipped
  · rw [if_pos ho, get?_increment_of_nonzero? (h.skipped id)]
    simp only [ho, true_and]
  · rw [if_neg ho, h.skipped, if_neg fun hr => ho hr.1, Nat.add_zero]

theorem Tells.getD_latencies (h : m.Tells rs) (id : TargetId) : (m.latencies.get? id).getD [] = latenciesOf id rs := by
  rw [h.latencies]
  split
  · rename_i hnil
    exact hnil.symm
  · rfl

theorem Tells.latencies_record (h : m.Tells rs) (r : ProbeResult) (id : TargetId) :
    (m.record r).latencies.get? id =
      if latenciesOf id (rs ++ [r]) = [] then none else some (latenciesOf id (rs ++ [r])) := by
  rw [latenciesOf_append]
  unfold ProbeMetrics.record
  cases r.latency with
  | none => simp [h.latencies]
  | some d =>
    dsimp only
    rw [Table.get?_insert, h.getD_latencies]
    by_cases hid : id = r.targetId
    · cases hid
      simp
    · simp [hid, Ne.symm hid, h.latencies]

theorem ascending_increment {t : Table TargetId Nat} (h : t.Ascending) (id : TargetId) : (increment t id).Ascending :=
  h.insert ..

theorem Tells.record (h : m.Tells rs) (r : ProbeResult) : (m.record r).Tells (rs ++ [r]) where
  results := h.results_record r
  skipped := h.skipped_record r
  latencies := h.latencies_record r
  outcomesAscend := h.outcomesAscend.insert ..
  resultsAscend name t ht := by
    change (m.results.insert r.outcome.name _).get? name = some t at ht
    rw [Table.get?_insert] at ht
    split at ht
    · cases ht
      cases hold : m.results.get? r.outcome.name with
      | none => exact ascending_increment Table.ascending_empty _
      | some told => exact ascending_increment (h.resultsAscend _ told hold) _
    · exact h.resultsAscend name t ht
  skippedAscend := by
    unfold ProbeMetrics.record
    dsimp only
    split
    · exact ascending_increment h.skippedAscend _
    · exact h.skippedAscend
  latenciesAscend := by
    unfold ProbeMetrics.record
    dsimp only
    split
    · exact h.latenciesAscend.insert ..
    · exact h.latenciesAscend

theorem tells_foldl_record (h : m.Tells rs) (new : List ProbeResult) : (new.foldl record m).Tells (rs ++ new) := by
  induction new generalizing m rs with
  | nil => rwa [List.append_nil]
  | cons r new ih =>
    rw [List.append_cons]
    exact ih (h.record r)

theorem foldl_record_withGauge (m : ProbeMetrics) (n : Int) (rs : List ProbeResult) :
    rs.foldl record { m with inFlight := n } = { rs.foldl record m with inFlight := n } := by
  induction rs generalizing m with
  | nil => rfl
  | cons r rs ih => exact ih (m.record r)

theorem Tells.shows_skipped (h : m.Tells rs) (id : TargetId) :
    m.skippedFamily.Shows "" [("target", id)] (countOf .skipped id rs) := by
  rw [MetricFamily.Shows, skippedFamily, Table.filter_map_entries h.skippedAscend.nodup id _ _ fun e => by simp, h.skipped,
    nonzero?]
  split <;> rfl

theorem Tells.shows_results (h : m.Tells rs) (outcome : Outcome) (id : TargetId) :
    m.resultFamily.Shows "" [("outcome", outcome.name), ("target", id)] (countOf outcome id rs) := by
  have hcount := h.results outcome id
  rw [MetricFamily.Shows, resultFamily, Table.filter_flatMap_entries h.outcomesAscend.nodup outcome.name]
  · cases hresults : m.results.get? outcome.name with
    | none =>
      rw [hresults] at hcount
      rw [nonzero?_eq_none_iff.mp hcount.symm]
      rfl
    | some t =>
      rw [hresults, Option.bind_some] at hcount
      rw [Option.toList_some, List.flatMap_singleton,
        Table.filter_map_entries (h.resultsAscend _ t hresults).nodup id _ _ fun e => by simp, hcount, nonzero?]
      split <;> rfl
  · intro e he
    refine List.filter_eq_nil_iff.mpr fun s hs hlabels => ?_
    obtain ⟨e', -, rfl⟩ := List.mem_map.mp hs
    simp only [decide_eq_true_eq, List.cons.injEq, Prod.mk.injEq] at hlabels
    exact he hlabels.2.1.2

theorem filter_histogramSamples (id id' : TargetId) (ds : List Duration) :
    (histogramSamples id' ds).filter (fun s => s.suffix = "_count" ∧ s.labels = [("target", id)]) =
      if id' = id then [⟨"_count", [("target", id)], Float.ofNat ds.length⟩] else [] := by
  have hbuckets : (buckets.map fun b => (⟨"_bucket", [("target", id'), ("le", Decimal.text b)],
      Float.ofNat ((ds.map Duration.toSeconds).countP (· ≤ b))⟩ : Sample)).filter
        (fun s => s.suffix = "_count" ∧ s.labels = [("target", id)]) = [] := by
    refine List.filter_eq_nil_iff.mpr fun s hs hlabels => ?_
    obtain ⟨b, -, rfl⟩ := List.mem_map.mp hs
    simp at hlabels
  rw [histogramSamples, List.filter_append, hbuckets, List.length_map]
  by_cases hid : id' = id <;> simp [hid]

theorem Tells.shows_durations (h : m.Tells rs) (id : TargetId) :
    m.durationFamily.Shows "_count" [("target", id)] (latenciesOf id rs).length := by
  rw [MetricFamily.Shows, durationFamily, Table.filter_flatMap_entries h.latenciesAscend.nodup id, h.latencies]
  · by_cases hnone : latenciesOf id rs = []
    · rw [if_pos hnone, hnone]
      rfl
    · rw [if_neg hnone, Option.toList_some, List.flatMap_singleton, filter_histogramSamples, if_pos rfl,
        if_neg (mt List.length_eq_zero_iff.mp hnone)]
  · intro e he
    rw [filter_histogramSamples, if_neg he]

/-- The metrics say of some results how many of each outcome there are of every target, and expose the same numbers. -/
structure AddUp (m : ProbeMetrics) (rs : List ProbeResult) : Prop where
  results : ∀ outcome id, m.resultCount outcome id = countOf outcome id rs
  skipped : ∀ id, (m.skipped.get? id).getD 0 = countOf .skipped id rs
  durations : ∀ id, ((m.latencies.get? id).getD []).length = countOf .success id rs
  resultsShown : ∀ outcome id,
    m.resultFamily.Shows "" [("outcome", outcome.name), ("target", id)] (countOf outcome id rs)
  skippedShown : ∀ id, m.skippedFamily.Shows "" [("target", id)] (countOf .skipped id rs)
  durationsShown : ∀ id, m.durationFamily.Shows "_count" [("target", id)] (countOf .success id rs)

theorem Tells.addUp (h : m.Tells rs) (htimed : ∀ r ∈ rs, r.Timed) : m.AddUp rs where
  results outcome id := by rw [resultCount, h.results, getD_nonzero?]
  skipped id := by rw [h.skipped, getD_nonzero?]
  durations id := by rw [h.getD_latencies, length_latenciesOf htimed]
  resultsShown := h.shows_results
  skippedShown := h.shows_skipped
  durationsShown id := length_latenciesOf htimed id ▸ h.shows_durations id

end ProbeMetrics

end TargetHealth
