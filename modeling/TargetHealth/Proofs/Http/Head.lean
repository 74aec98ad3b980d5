import TargetHealth.Http.Head

namespace TargetHealth

/-- Whether what a reader takes from a text does not depend on what follows. -/
def ReadsAhead {α : Type} (read : Bytes → Received α) : Prop :=
  ∀ ⦃bs a rest⦄, read bs = .complete a rest → ∀ more, read (bs ++ more) = .complete a (rest ++ more)

namespace ReadsAhead

variable {α β : Type} {read : Bytes → Received α}

theorem bind {next : α → Bytes → Received β} (hread : ReadsAhead read) (hnext : ∀ a, ReadsAhead (next a)) :
    ReadsAhead fun bs => (read bs).bind next := by
  intro bs b rest h more
  obtain ⟨a, mid, hfirst, hsecond⟩ := Received.bind_eq_complete h
  show (read (bs ++ more)).bind next = _
  rw [hread hfirst more]
  exact hnext a hsecond more

theorem map {f : α → β} (hread : ReadsAhead read) : ReadsAhead fun bs => (read bs).map f := by
  intro bs b rest h more
  obtain ⟨a, hfirst, rfl⟩ := Received.map_eq_complete h
  show (read (bs ++ more)).map f = _
  rw [hread hfirst more]
  rfl

end ReadsAhead

namespace Wire

theorem readsAhead_octet (class_ : UInt8 → Bool) : ReadsAhead (octet class_) := by
  intro bs a rest h more
  cases bs with
  | nil => cases h
  | cons b bs =>
    simp only [octet] at h
    split at h
    next hclass =>
      cases h
      simp only [List.cons_append, octet, if_pos hclass]
    next => cases h

theorem readsAhead_literal (expected : Bytes) : ReadsAhead (literal expected) := by
  induction expected with
  | nil =>
    intro bs a rest h more
    cases h
    rfl
  | cons b expected ih => exact (readsAhead_octet _).bind fun _ => ih

theorem readsAhead_lineEnd : ReadsAhead lineEnd := by
  intro bs a rest h more
  cases bs with
  | nil => cases h
  | cons b bs =>
    simp only [lineEnd] at h
    simp only [List.cons_append, lineEnd]
    split at h
    next hfeed =>
      cases h
      rw [if_pos hfeed]
    next hfeed =>
      split at h
      next hreturn =>
        rw [if_neg hfeed, if_pos hreturn]
        exact (readsAhead_octet _).map h more
      next => cases h

theorem span_append {class_ : UInt8 → Bool} {bs : Bytes} (h : bs.dropWhile class_ ≠ []) (more : Bytes) :
    (bs ++ more).dropWhile class_ = bs.dropWhile class_ ++ more ∧
      (bs ++ more).takeWhile class_ = bs.takeWhile class_ := by
  induction bs with
  | nil => exact absurd rfl h
  | cons b bs ih =>
    by_cases hb : class_ b
    · simp only [List.dropWhile_cons_of_pos hb] at h
      simp only [List.cons_append, List.dropWhile_cons_of_pos hb, List.takeWhile_cons_of_pos hb, ih h]
      exact ⟨trivial, trivial⟩
    · simp [hb]

theorem readsAhead_line (class_ : UInt8 → Bool) : ReadsAhead (line class_) := by
  intro bs a rest h more
  obtain ⟨u, hend, rfl⟩ := Received.map_eq_complete h
  have hne : bs.dropWhile class_ ≠ [] := fun hnil => by
    rw [hnil] at hend
    cases hend
  obtain ⟨hdrop, htake⟩ := span_append hne more
  rw [line, hdrop, htake, readsAhead_lineEnd hend more]
  rfl

theorem readsAhead_skipLineEnds : ReadsAhead skipLineEnds := by
  intro bs
  fun_induction skipLineEnds bs with
  | case1 => exact fun _ _ h => nomatch h
  | case2 b hb => exact fun _ _ h => nomatch h
  | case3 b hb =>
    intro a rest h more
    simp only [Bool.or_eq_true, decide_eq_true_eq, not_or] at hb
    cases h
    cases more with
    | nil => simp [skipLineEnds, hb]
    | cons c more => simp [skipLineEnds, hb]
  | case4 c rest ih =>
    intro a left h more
    have hskip := ih h more
    simp only [List.cons_append] at hskip ⊢
    rw [skipLineEnds, if_pos rfl]
    exact hskip
  | case5 rest hfeed ih =>
    intro a left h more
    simp only [List.cons_append]
    rw [skipLineEnds, if_neg hfeed, if_pos rfl, if_pos rfl]
    exact ih h more
  | case6 => exact fun _ _ h => nomatch h
  | case7 b c rest hfeed hreturn =>
    intro a left h more
    cases h
    simp only [List.cons_append]
    rw [skipLineEnds, if_neg hfeed, if_neg hreturn]

end Wire

namespace Http

theorem Header.readsAhead_read : ReadsAhead Header.read := by
  intro bs header rest h more
  simp only [Header.read] at h ⊢
  have hne : bs.dropWhile isTokenByte ≠ [] := fun hnil => by
    rw [hnil] at h
    cases h
  obtain ⟨hdrop, htake⟩ := Wire.span_append hne more
  rw [hdrop, htake]
  cases hrest : bs.dropWhile isTokenByte with
  | nil => exact absurd hrest hne
  | cons b behind =>
    rw [hrest] at h
    simp only [List.cons_append] at h ⊢
    split at h
    next hcolon =>
      rw [if_pos hcolon]
      have hblank : behind.dropWhile Wire.isBlank ≠ [] := fun hnil => by
        rw [hnil] at h
        cases h
      rw [(Wire.span_append hblank more).1]
      exact (Wire.readsAhead_line _).map h more
    next => cases h

theorem Header.readsAhead_readAll (limit : Nat) : ReadsAhead (Header.readAll limit) := by
  induction limit with
  | zero =>
    intro bs headers rest h more
    cases bs with
    | nil => cases h
    | cons b bs =>
      simp only [Header.readAll] at h
      split at h
      next hend =>
        simp only [List.cons_append, Header.readAll, if_pos hend]
        exact Wire.readsAhead_lineEnd.map h more
      next => cases h
  | succ limit ih =>
    intro bs headers rest h more
    cases bs with
    | nil => cases h
    | cons b bs =>
      simp only [Header.readAll] at h
      split at h
      next hend =>
        simp only [List.cons_append, Header.readAll, if_pos hend]
        exact Wire.readsAhead_lineEnd.map h more
      next hend =>
        simp only [List.cons_append, Header.readAll, if_neg hend]
        exact Header.readsAhead_read.bind (fun _ => ih.map) h more

theorem Head.readsAhead_readStatus : ReadsAhead Head.readStatus :=
  (Wire.readsAhead_octet _).bind fun _ => (Wire.readsAhead_octet _).bind fun _ => (Wire.readsAhead_octet _).map

theorem Head.readsAhead_skipReason : ReadsAhead Head.skipReason := by
  intro bs u rest h more
  cases bs with
  | nil => cases h
  | cons b bs =>
    simp only [Head.skipReason] at h
    simp only [List.cons_append, Head.skipReason]
    split at h
    next hspace =>
      rw [if_pos hspace]
      exact (Wire.readsAhead_line _).map h more
    next hspace =>
      rw [if_neg hspace]
      exact Wire.readsAhead_lineEnd h more

/-- A head that is complete is complete with anything behind it. -/
theorem Head.readsAhead_read (maxHeaders : Nat) : ReadsAhead (Head.read maxHeaders) := by
  refine Wire.readsAhead_skipLineEnds.bind fun _ => (Wire.readsAhead_literal _).bind fun _ =>
    (Wire.readsAhead_octet _).bind fun _ => (Wire.readsAhead_octet _).bind fun _ =>
    Head.readsAhead_readStatus.bind fun status => Head.readsAhead_skipReason.bind fun _ =>
    (Header.readsAhead_readAll maxHeaders).bind fun headers => ?_
  intro bs head rest h more
  split at h
  next => cases h
  next hstatus =>
    cases h
    exact if_neg hstatus

end Http

end TargetHealth
