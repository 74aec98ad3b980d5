import Mathlib.Data.List.Infix
import TargetHealth.Http.Search

namespace TargetHealth

namespace Wire

theorem beginsWith_iff {needle bs : Bytes} : beginsWith needle bs ↔ needle <+: bs := by
  induction needle generalizing bs with
  | nil => simp [beginsWith]
  | cons a needle ih =>
    cases bs with
    | nil => simp [beginsWith]
    | cons b bs => simp [beginsWith, ih, List.cons_prefix_cons]

theorem occursIn_iff {needle bs : Bytes} : occursIn needle bs ↔ needle <:+: bs := by
  induction bs with
  | nil => simp [occursIn]
  | cons b bs ih => rw [occursIn, Bool.or_eq_true, beginsWith_iff, ih, List.infix_cons_iff]

end Wire

namespace Http

def searchedPart (data : Bytes) : Bytes := data.take maxSearch

theorem searchedPart_append_take (seen chunk : Bytes) (h : seen.length ≤ maxSearch) :
    seen ++ chunk.take (maxSearch - seen.length) = searchedPart (seen ++ chunk) := by
  rw [searchedPart, List.take_append, List.take_of_length_le h]

theorem searchedPart_append_of_full {data : Bytes} (h : maxSearch ≤ data.length) (more : Bytes) :
    searchedPart (data ++ more) = searchedPart data := List.take_append_of_le_length h

theorem searchedPart_of_short {data : Bytes} (h : data.length < maxSearch) : searchedPart data = data :=
  List.take_of_length_le (Nat.le_of_lt h)

theorem length_searchedPart_lt_iff {data : Bytes} : (searchedPart data).length < maxSearch ↔ data.length < maxSearch := by
  rw [searchedPart, List.length_take]
  omega

theorem infix_searchedPart_append {needle data : Bytes} (h : needle <:+: searchedPart data) (more : Bytes) :
    needle <:+: searchedPart (data ++ more) := by
  refine h.trans (List.IsPrefix.isInfix ?_)
  rw [searchedPart, searchedPart, List.take_append]
  exact List.prefix_append ..

variable {needle seen chunk : Bytes}

theorem searchChunk_eq (h : seen.length ≤ maxSearch) :
    searchChunk needle seen chunk =
      if needle <:+: searchedPart (seen ++ chunk) then .found
      else if maxSearch ≤ (seen ++ chunk).length then .exhausted
      else .more (seen ++ chunk) := by
  have hfull : maxSearch ≤ (searchedPart (seen ++ chunk)).length ↔ maxSearch ≤ (seen ++ chunk).length := by
    rw [← Nat.not_lt, length_searchedPart_lt_iff, Nat.not_lt]
  simp only [searchChunk, searchedPart_append_take seen chunk h, Wire.occursIn_iff, hfull]
  split
  next => rfl
  next =>
    split
    next => rfl
    next hshort => rw [searchedPart_of_short (Nat.lt_of_not_le hshort)]

/-- Where a search stands after some chunks. -/
def searchOver (needle : Bytes) : Bytes → List Bytes → SearchProgress
  | seen, [] => .more seen
  | seen, chunk :: rest =>
    match searchChunk needle seen chunk with
    | .more seen => searchOver needle seen rest
    | progress => progress

theorem searchChunks_iff {chunks : List Bytes} :
    searchChunks needle seen chunks ↔ searchOver needle seen chunks = .found := by
  induction chunks generalizing seen with
  | nil => simp [searchChunks, searchOver]
  | cons chunk rest ih =>
    rw [searchChunks, searchOver]
    cases searchChunk needle seen chunk with
    | found => simp
    | exhausted => simp
    | more seen => exact ih

/-- A search stands where it would after all that it has been given, but that it looks for nothing before the first
chunk. -/
theorem searchOver_eq {chunks : List Bytes} (h : seen.length < maxSearch) :
    searchOver needle seen chunks =
      if chunks ≠ [] ∧ needle <:+: searchedPart (seen ++ chunks.flatten) then .found
      else if maxSearch ≤ (seen ++ chunks.flatten).length then .exhausted
      else .more (seen ++ chunks.flatten) := by
  induction chunks generalizing seen with
  | nil =>
    rw [List.flatten_nil, List.append_nil, if_neg (fun hfound => hfound.1 rfl), if_neg (Nat.not_le_of_lt h), searchOver]
  | cons chunk rest ih =>
    rw [List.flatten_cons, ← List.append_assoc, searchOver, searchChunk_eq (Nat.le_of_lt h)]
    by_cases hfound : needle <:+: searchedPart (seen ++ chunk)
    · rw [if_pos hfound, if_pos ⟨List.cons_ne_nil _ _, infix_searchedPart_append hfound _⟩]
    rw [if_neg hfound]
    by_cases hfull : maxSearch ≤ (seen ++ chunk).length
    · have hlonger : maxSearch ≤ (seen ++ chunk ++ rest.flatten).length := by
        rw [List.length_append]
        exact Nat.le_add_right_of_le hfull
      rw [if_pos hfull, searchedPart_append_of_full hfull, if_neg (fun h => hfound h.2), if_pos hlonger]
    · rw [if_neg hfull]
      refine (ih (Nat.lt_of_not_le hfull)).trans ?_
      cases rest with
      | nil => simp [hfound]
      | cons next rest => simp

/-- The text is found exactly if there is a chunk at all and the text stands in the searched part of the body. -/
theorem bodyContains_iff {chunks : List Bytes} :
    bodyContains needle chunks ↔ chunks ≠ [] ∧ needle <:+: searchedPart chunks.flatten := by
  rw [bodyContains, searchChunks_iff, searchOver_eq (by decide), List.nil_append]
  split
  next hfound => exact iff_of_true rfl hfound
  next hfound =>
    split
    next => exact iff_of_false nofun hfound
    next => exact iff_of_false nofun hfound

theorem length_lt_of_searchOver {chunks : List Bytes} (h : searchOver needle [] chunks = .more seen) :
    seen = chunks.flatten ∧ seen.length < maxSearch := by
  rw [searchOver_eq (by decide), List.nil_append] at h
  split at h
  next => cases h
  next =>
    split at h
    next => cases h
    next hshort =>
      cases h
      exact ⟨rfl, Nat.lt_of_not_le hshort⟩

end Http

end TargetHealth
