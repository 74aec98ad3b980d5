import TargetHealth.Http.Body

namespace TargetHealth.Http

def BodyProgress.read : BodyProgress → Bytes → Bytes × BodyProgress
  | more state, bs => state.read bs
  | finished, _ => ([], finished)
  | broken, _ => ([], broken)

def BodyProgress.isWhole (ended : Bool) : BodyProgress → Bool
  | more state => ended && state.mayEnd
  | finished => true
  | broken => false

namespace ChunkState

/-- What one byte of a chunked body does, whatever comes before and after: it is the last that is looked at, or it may add
itself to the data. -/
theorem readAll_cons (s : ChunkState) (extensionBytes : Nat) (b : UInt8) :
    (∃ progress : BodyProgress, (∀ bs, progress.read bs = ([], progress)) ∧
      ∀ found rest, readAll s extensionBytes found (b :: rest) = (found.reverse, progress)) ∨
    ∃ next extensionBytes' data, ∀ found rest,
      readAll s extensionBytes found (b :: rest) = readAll next extensionBytes' (data ++ found) rest := by
  by_cases hfinished : s = finished
  · exact .inl ⟨.finished, fun _ => rfl, fun _ _ => by rw [readAll, if_pos hfinished]⟩
  cases hstep : step? s b with
  | none => exact .inl ⟨.broken, fun _ => rfl, fun _ _ => by simp only [readAll, if_neg hfinished, hstep]⟩
  | some next =>
    let extensionBytes' := if next.isExtension && s.isExtension then extensionBytes + 1 else extensionBytes
    have hread : ∀ found rest, readAll s extensionBytes found (b :: rest) =
        if maxExtension ≤ extensionBytes' then (found.reverse, .broken)
        else readAll next extensionBytes' (if s.isData then b :: found else found) rest := fun found rest => by
      simp only [readAll, if_neg hfinished, hstep, extensionBytes']
    by_cases hlong : maxExtension ≤ extensionBytes'
    · exact .inl ⟨.broken, fun _ => rfl, fun found rest => by rw [hread, if_pos hlong]⟩
    · refine .inr ⟨next, extensionBytes', if s.isData then [b] else [], fun found rest => ?_⟩
      rw [hread, if_neg hlong]
      cases s.isData <;> rfl

theorem readAll_found (s : ChunkState) (extensionBytes : Nat) (found bs : Bytes) :
    readAll s extensionBytes found bs =
      (found.reverse ++ (readAll s extensionBytes [] bs).1, (readAll s extensionBytes [] bs).2) := by
  induction bs generalizing s extensionBytes found with
  | nil => simp [readAll]
  | cons b rest ih =>
    rcases readAll_cons s extensionBytes b with ⟨progress, -, hends⟩ | ⟨next, extensionBytes', data, hnext⟩
    · simp [hends]
    · rw [hnext found rest, hnext [] rest, ih next extensionBytes' (data ++ found), ih next extensionBytes' (data ++ [])]
      simp

theorem readAll_append (s : ChunkState) (extensionBytes : Nat) (as bs : Bytes) :
    readAll s extensionBytes [] (as ++ bs) =
      ((readAll s extensionBytes [] as).1 ++ ((readAll s extensionBytes [] as).2.read bs).1,
        ((readAll s extensionBytes [] as).2.read bs).2) := by
  induction as generalizing s extensionBytes with
  | nil =>
    by_cases hfinished : s = finished
    · cases bs <;> simp [readAll, hfinished, BodyProgress.read]
    · simp [readAll, hfinished, BodyProgress.read, BodyState.read]
  | cons a as ih =>
    rw [List.cons_append]
    rcases readAll_cons s extensionBytes a with ⟨progress, hsettled, hends⟩ | ⟨next, extensionBytes', data, hnext⟩
    · simp [hends, hsettled]
    · rw [hnext [] (as ++ bs), hnext [] as, readAll_found _ _ _ (as ++ bs), readAll_found _ _ _ as, ih, List.append_assoc]

end ChunkState

theorem BodyState.read_sized_append (left : Nat) (as bs : Bytes) :
    (sized left).read (as ++ bs) = (((sized left).read as).1 ++ (((sized left).read as).2.read bs).1,
      (((sized left).read as).2.read bs).2) := by
  by_cases hshort : as.length < left
  · have htake : as.take left = as := List.take_of_length_le (Nat.le_of_lt hshort)
    have hread : (sized left).read as = (as, .more (sized (left - as.length))) := by
      simp only [read, htake, if_pos hshort]
    have hlength : (as ++ bs.take (left - as.length)).length < left ↔
        (bs.take (left - as.length)).length < left - as.length := by
      rw [List.length_append]
      omega
    have hleft : left - (as ++ bs.take (left - as.length)).length =
        left - as.length - (bs.take (left - as.length)).length := by
      rw [List.length_append, Nat.sub_sub]
    rw [hread]
    simp only [read, BodyProgress.read, List.take_append, htake, hlength, hleft]
  · have htake : (as ++ bs).take left = as.take left := List.take_append_of_le_length (Nat.le_of_not_lt hshort)
    have hfull : ¬ (as.take left).length < left := by
      rw [List.length_take]
      omega
    simp only [read, htake, if_neg hfull, BodyProgress.read, List.append_nil]

theorem BodyState.read_append (s : BodyState) (as bs : Bytes) :
    s.read (as ++ bs) = ((s.read as).1 ++ ((s.read as).2.read bs).1, ((s.read as).2.read bs).2) := by
  cases s with
  | sized left => exact read_sized_append left as bs
  | chunked state extensionBytes => exact state.readAll_append extensionBytes as bs
  | untilClose => rfl

end TargetHealth.Http
