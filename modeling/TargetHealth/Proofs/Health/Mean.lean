import TargetHealth.Proofs.Health.Summary

namespace TargetHealth

namespace Duration

def total (ds : List Duration) : Nat := (ds.map nanos).sum

theorem total_cons (d : Duration) (ds : List Duration) : total (d :: ds) = d.nanos + total ds := List.sum_cons

/-- Sums only grow: a checked sum fails exactly if the whole sum is no span. -/
theorem sum?_from (ds : List Duration) {start : Duration} (hstart : start.nanos < limit) :
    ds.foldlM (fun total d => if (total + d).isRepresentable then Except.ok (total + d) else .error Fault.spanSum) start =
      if start.nanos + total ds < limit then .ok ⟨start.nanos + total ds⟩ else .error .spanSum := by
  induction ds generalizing start with
  | nil => exact (if_pos hstart).symm
  | cons d ds ih =>
    rw [List.foldlM_cons, total_cons, ← Nat.add_assoc]
    by_cases hfits : start.nanos + d.nanos < limit
    · have hadd : (start + d).isRepresentable = true := decide_eq_true hfits
      rw [if_pos hadd]
      exact @ih (start + d) hfits
    · have hadd : ¬ (start + d).isRepresentable = true := fun h => hfits (of_decide_eq_true h)
      have hover : ¬ start.nanos + d.nanos + total ds < limit := by omega
      rw [if_neg hadd, if_neg hover]
      rfl

theorem sum?_eq (ds : List Duration) : sum? ds = if total ds < limit then .ok ⟨total ds⟩ else .error .spanSum := by
  have h := @sum?_from ds zero (Nat.mul_pos (Nat.two_pow_pos 64) (by decide))
  rwa [zero, Nat.zero_add] at h

theorem total_between {ds : List Duration} {low high : Duration} (h : ∀ d ∈ ds, low ≤ d ∧ d ≤ high) :
    low.nanos * ds.length ≤ total ds ∧ total ds ≤ high.nanos * ds.length := by
  induction ds with
  | nil => exact ⟨Nat.le_refl _, Nat.le_refl _⟩
  | cons d ds ih =>
    obtain ⟨hlow, hhigh⟩ := ih fun d hd => h d (List.mem_cons_of_mem _ hd)
    obtain ⟨hd, hd'⟩ := h d List.mem_cons_self
    rw [total_cons, List.length_cons, Nat.mul_succ, Nat.mul_succ, Nat.add_comm d.nanos]
    exact ⟨Nat.add_le_add hlow hd, Nat.add_le_add hhigh hd'⟩

end Duration

namespace LatencyWindow

/-- The mean of spans, rounded down to a nanosecond. -/
def meanOf (ds : List Duration) : Duration := ⟨Duration.total ds / ds.length⟩

theorem meanOf_between {ds : List Duration} (hds : ds ≠ []) {low high : Duration} (h : ∀ d ∈ ds, low ≤ d ∧ d ≤ high) :
    low ≤ meanOf ds ∧ meanOf ds ≤ high := by
  have hpos : 0 < ds.length := List.length_pos_iff.mpr hds
  obtain ⟨hlow, hhigh⟩ := Duration.total_between h
  exact ⟨(Nat.le_div_iff_mul_le hpos).mpr hlow, Nat.div_le_of_le_mul (Nat.mul_comm _ _ ▸ hhigh)⟩

theorem foldl_push_ofLatencies (capacity : Nat) (before ds : List Duration) :
    ds.foldl push (ofLatencies capacity before) = ofLatencies capacity (before ++ ds) := by
  induction ds generalizing before with
  | nil => rw [List.foldl_nil, List.append_nil]
  | cons d ds ih => rw [List.foldl_cons, push_ofLatencies, ih, ← List.append_cons]

theorem foldl_push (capacity : Nat) (ds : List Duration) :
    ds.foldl push (ofCapacity capacity) = ofLatencies capacity ds := by
  have hnew : ofCapacity capacity = ofLatencies capacity [] := eq_of_samples (List.drop_nil).symm rfl
  rw [hnew, foldl_push_ofLatencies, List.nil_append]

theorem eq_ofCapacity_of_new? {capacity : Nat} {w : LatencyWindow} (hw : new? capacity = .ok w) :
    w = ofCapacity capacity := by
  unfold new? at hw
  split at hw
  · exact (Except.ok.inj hw).symm
  · cases hw

theorem rtake_ne_nil {ds : List Duration} (hds : ds ≠ []) {n : Nat} (hn : 0 < n) : ds.rtake n ≠ [] := by
  have hlength : 0 < ds.length := List.length_pos_iff.mpr hds
  refine List.ne_nil_of_length_pos ?_
  rw [List.rtake, List.length_drop]
  omega

theorem mean?_eq {w : LatencyWindow} {ds : List Duration} (hw : w.samples = ds) (hds : ds ≠ [])
    (hsum : Duration.total ds < Duration.limit) :
    w.mean? = if ds.length % Nat.pow 2 32 = 0 then .error .spanDivision
      else .ok (some ⟨Duration.total ds / (ds.length % Nat.pow 2 32)⟩) := by
  have hsome : ¬ ds.isEmpty = true := mt List.isEmpty_iff.mp hds
  rw [mean?, hw, if_neg hsome, Duration.sum?_eq, if_pos hsum]
  change some <$> Duration.divide? _ _ = _
  unfold Duration.divide?
  split <;> rfl

theorem div_mod_eq_div_iff {total n m : Nat} (hm : 0 < m) (hr : n % m ≠ 0) :
    total / (n % m) = total / n ↔ n < m ∨ total < n % m := by
  have hpos : 0 < n % m := Nat.pos_of_ne_zero hr
  by_cases hn : n < m
  · rw [Nat.mod_eq_of_lt hn]
    exact iff_of_true rfl (.inl hn)
  · have hlt : n % m < m := Nat.mod_lt n hm
    have hle : n % m + m ≤ n := by
      rw [Nat.mod_eq_sub_mod (Nat.not_lt.mp hn)]
      have hsub := Nat.mod_le (n - m) m
      omega
    constructor
    · intro h
      by_contra hcut
      have htotal : n % m ≤ total := by omega
      have hq : 1 ≤ total / n := h ▸ Nat.div_pos htotal hpos
      have hlow : n * (total / n) ≤ total := Nat.mul_div_le total n
      have hhigh : total < n % m * (total / (n % m) + 1) := Nat.lt_mul_div_succ total hpos
      have hmore : (n % m + m) * (total / n) ≤ n * (total / n) := Nat.mul_le_mul_right _ hle
      have hone : m * 1 ≤ m * (total / n) := Nat.mul_le_mul_left m hq
      rw [h, Nat.mul_succ] at hhigh
      rw [Nat.add_mul] at hmore
      omega
    · intro h
      have htotal := h.resolve_left hn
      rw [Nat.div_eq_of_lt htotal, Nat.div_eq_of_lt (by omega)]

/-- The answer is the mean exactly if no sample goes uncounted, or if both quotients are zero. -/
theorem mean?_eq_meanOf_iff {w : LatencyWindow} {ds : List Duration} (hw : w.samples = ds) (hds : ds ≠ [])
    (hsum : Duration.total ds < Duration.limit) :
    w.mean? = .ok (some (meanOf ds)) ↔ ds.length < Nat.pow 2 32 ∨ Duration.total ds < ds.length % Nat.pow 2 32 := by
  rw [mean?_eq hw hds hsum]
  by_cases hzero : ds.length % Nat.pow 2 32 = 0
  · rw [if_pos hzero]
    refine iff_of_false (fun h => nomatch h) ?_
    rintro (hlt | hlt)
    · exact hds (List.length_eq_zero_iff.mp ((Nat.mod_eq_of_lt hlt).symm.trans hzero))
    · rw [hzero] at hlt
      exact Nat.not_lt_zero _ hlt
  · rw [if_neg hzero, ← div_mod_eq_div_iff (Nat.two_pow_pos 32) hzero, meanOf]
    simp only [Except.ok.injEq, Option.some.injEq, Duration.mk.injEq]

/-- Samples pushed into a new window, of which those that are kept add up to a span. Their sum is divided by their number up
to multiples of 2^32, which faults if nothing is left of that number. It is their mean exactly if there are fewer, or if the
sum is so small that both quotients are zero; and then it lies within all bounds of the samples. -/
theorem mean?_of_pushes {capacity : Nat} {w : LatencyWindow} (hw : new? capacity = .ok w) {ds : List Duration}
    (hds : ds ≠ []) (hsum : Duration.total (ds.rtake (max capacity 1)) < Duration.limit) :
    let kept := ds.rtake (max capacity 1)
    let window := ds.foldl push w
    let divisor := kept.length % Nat.pow 2 32
    window.samples = kept ∧
    (window.mean? = if divisor = 0 then .error .spanDivision else .ok (some ⟨Duration.total kept / divisor⟩)) ∧
    (window.mean? = .ok (some (meanOf kept)) ↔ kept.length < Nat.pow 2 32 ∨ Duration.total kept < divisor) ∧
    (kept.length < Nat.pow 2 32 → ∀ low high, (∀ d ∈ kept, low ≤ d ∧ d ≤ high) →
      ∃ mean, window.mean? = .ok (some mean) ∧ low ≤ mean ∧ mean ≤ high) := by
  intro kept window divisor
  have hkept : kept ≠ [] := rtake_ne_nil hds (ofCapacity capacity).positive
  have hwindow : window = ofLatencies capacity ds := by
    rw [← foldl_push, ← eq_ofCapacity_of_new? hw]
  have hsamples : window.samples = kept := congrArg samples hwindow
  have hexact := mean?_eq_meanOf_iff hsamples hkept hsum
  refine ⟨hsamples, mean?_eq hsamples hkept hsum, hexact, fun hlt low high hbounds => ?_⟩
  exact ⟨meanOf kept, hexact.mpr (.inl hlt), meanOf_between hkept hbounds⟩

/-- Room for two: the first of three samples is let go of, and the mean is that of the other two. -/
theorem mean?_of_pushes_three : ∃ w, new? 2 = .ok w ∧
    ([.ofMillis 10, .ofMillis 20, .ofMillis 41].foldl push w).mean? = .ok (some ⟨30500000⟩) := by
  have h := @mean?_of_pushes 2 (ofCapacity 2) rfl [.ofMillis 10, .ofMillis 20, .ofMillis 41] (by decide) (by decide)
  exact ⟨ofCapacity 2, rfl, h.2.1⟩

theorem total_replicate (n : Nat) (d : Duration) : Duration.total (List.replicate n d) = n * d.nanos := by
  rw [Duration.total, List.map_replicate, List.sum_replicate_nat]

theorem mean?_of_filled {n : Nat} {d : Duration} (hn : 0 < n) (hsum : n * d.nanos < Duration.limit) :
    let window := (List.replicate n d).foldl push (ofCapacity n)
    window.samples = List.replicate n d ∧
      window.mean? = if n % Nat.pow 2 32 = 0 then .error .spanDivision
        else .ok (some ⟨n * d.nanos / (n % Nat.pow 2 32)⟩) := by
  intro window
  have hroom : (List.replicate n d).length - max n 1 = 0 := by rw [List.length_replicate]; omega
  have hsamples : window.samples = List.replicate n d := by
    refine (congrArg samples (foldl_push n _)).trans ?_
    change (List.replicate n d).drop _ = _
    rw [hroom, List.drop_zero]
  have hne : List.replicate n d ≠ [] := by simpa using Nat.ne_of_gt hn
  refine ⟨hsamples, ?_⟩
  have h := mean?_eq hsamples hne (by rwa [total_replicate])
  rwa [total_replicate, List.length_replicate] at h

/-- A window of 2^32 samples, all zero, has no mean: their number counts as zero. With one sample more, each a second long,
the mean is as long as all of them together. -/
theorem mean?_of_four_billion :
    (∃ w, new? (Nat.pow 2 32) = .ok w ∧
      ((List.replicate (Nat.pow 2 32) Duration.zero).foldl push w).mean? = .error .spanDivision) ∧
    ∃ w, new? (Nat.pow 2 32 + 1) = .ok w ∧
      ((List.replicate (Nat.pow 2 32 + 1) (.ofSeconds 1)).foldl push w).mean? = .ok (some (.ofSeconds 4294967297)) := by
  refine ⟨⟨ofCapacity (Nat.pow 2 32), if_pos (by decide), ?_⟩, ofCapacity (Nat.pow 2 32 + 1), if_pos (by decide), ?_⟩
  · rw [(mean?_of_filled (by decide) (by decide)).2]
    rfl
  · rw [(mean?_of_filled (by decide) (by decide)).2]
    rfl

end LatencyWindow

end TargetHealth
