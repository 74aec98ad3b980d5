namespace TargetHealth.Text

def cut {α : Type} [DecidableEq α] (sep : α) : List α → List α × Option (List α)
  | [] => ([], none)
  | c :: rest =>
    if c = sep then ([], some rest)
    else
      let (piece, rest) := cut sep rest
      (c :: piece, rest)

def pieces {α : Type} [DecidableEq α] (sep : α) : List α → List (List α)
  | [] => [[]]
  | c :: rest =>
    if c = sep then [] :: pieces sep rest
    else
      match pieces sep rest with
      | [] => [[c]]
      | p :: ps => (c :: p) :: ps

theorem pieces_ne_nil {α : Type} [DecidableEq α] (sep : α) (cs : List α) : pieces sep cs ≠ [] := by
  induction cs with
  | nil => simp [pieces]
  | cons c rest ih =>
    by_cases h : c = sep
    · simp [pieces, h]
    · simp only [pieces, h, if_false]
      split <;> simp

theorem length_pieces {α : Type} [DecidableEq α] (sep : α) (cs : List α) :
    (pieces sep cs).length = cs.count sep + 1 := by
  induction cs with
  | nil => rfl
  | cons c rest ih =>
    by_cases h : c = sep
    · simp [pieces, h, ih]
    · simp only [pieces, h, if_false]
      cases hpieces : pieces sep rest with
      | nil => exact absurd hpieces (pieces_ne_nil sep rest)
      | cons first more =>
        rw [hpieces] at ih
        simpa [h] using ih

theorem mem_pieces {α : Type} [DecidableEq α] (sep : α) {c : α} {cs : List α} (h : c ∈ cs) :
    c = sep ∨ ∃ piece ∈ pieces sep cs, c ∈ piece := by
  induction cs with
  | nil => cases h
  | cons d rest ih =>
    by_cases hd : d = sep
    · simp only [pieces, hd, if_true]
      rcases List.mem_cons.mp h with rfl | hrest
      · exact .inl hd
      · exact (ih hrest).imp_right fun ⟨piece, hpiece, hc⟩ => ⟨piece, List.mem_cons_of_mem _ hpiece, hc⟩
    · simp only [pieces, hd, if_false]
      cases hpieces : pieces sep rest with
      | nil => exact absurd hpieces (pieces_ne_nil sep rest)
      | cons first more =>
        rcases List.mem_cons.mp h with rfl | hrest
        · exact .inr ⟨c :: first, List.mem_cons_self .., List.mem_cons_self ..⟩
        · refine (ih hrest).imp_right ?_
          rintro ⟨piece, hpiece, hc⟩
          rw [hpieces] at hpiece
          rcases List.mem_cons.mp hpiece with rfl | hmore
          · exact ⟨d :: piece, List.mem_cons_self .., List.mem_cons_of_mem _ hc⟩
          · exact ⟨piece, List.mem_cons_of_mem _ hmore, hc⟩

theorem mem_of_mem_pieces {α : Type} [DecidableEq α] {sep c : α} {cs piece : List α} (hpiece : piece ∈ pieces sep cs)
    (hc : c ∈ piece) : c ∈ cs := by
  induction cs generalizing piece with
  | nil =>
    rw [pieces, List.mem_singleton] at hpiece
    exact hpiece ▸ hc
  | cons d rest ih =>
    by_cases hd : d = sep
    · simp only [pieces, hd, if_true] at hpiece
      rcases List.mem_cons.mp hpiece with rfl | hrest
      · cases hc
      · exact List.mem_cons_of_mem _ (ih hrest hc)
    · simp only [pieces, hd, if_false] at hpiece
      cases hpieces : pieces sep rest with
      | nil => exact absurd hpieces (pieces_ne_nil sep rest)
      | cons first more =>
        rw [hpieces] at hpiece ih
        rcases List.mem_cons.mp hpiece with rfl | hmore
        · rcases List.mem_cons.mp hc with rfl | hfirst
          · exact List.mem_cons_self
          · exact List.mem_cons_of_mem _ (ih List.mem_cons_self hfirst)
        · exact List.mem_cons_of_mem _ (ih (List.mem_cons_of_mem _ hmore) hc)

theorem mem_intercalate {α : Type} {c : α} {sep : List α} {parts : List (List α)} (h : c ∈ sep.intercalate parts) :
    c ∈ sep ∨ ∃ part ∈ parts, c ∈ part := by
  induction parts with
  | nil => cases h
  | cons part parts ih =>
    cases parts with
    | nil => exact .inr ⟨part, List.mem_cons_self, by simpa using h⟩
    | cons next more =>
      rw [List.intercalate_cons_cons, List.mem_append, List.mem_append] at h
      rcases h with (hpart | hsep) | hrest
      · exact .inr ⟨part, List.mem_cons_self, hpart⟩
      · exact .inl hsep
      · exact (ih hrest).imp_right fun ⟨part, hpart, hc⟩ => ⟨part, List.mem_cons_of_mem _ hpart, hc⟩

theorem cut_append {α : Type} [DecidableEq α] {sep : α} {cs : List α} (h : sep ∉ cs) (rest : List α) :
    cut sep (cs ++ sep :: rest) = (cs, some rest) := by
  induction cs with
  | nil => simp [cut]
  | cons c cs ih =>
    rw [List.mem_cons, not_or] at h
    simp only [List.cons_append, cut, Ne.symm h.1, if_false, ih h.2]

theorem cut_snd_eq_none_iff {α : Type} [DecidableEq α] {sep : α} {cs : List α} : (cut sep cs).2 = none ↔ sep ∉ cs := by
  induction cs with
  | nil => simp [cut]
  | cons c cs ih =>
    by_cases h : c = sep
    · simp [cut, h]
    · simp [cut, h, ih, Ne.symm h]

theorem pieces_append {α : Type} [DecidableEq α] {sep : α} {cs : List α} (h : sep ∉ cs) (rest : List α) :
    pieces sep (cs ++ sep :: rest) = cs :: pieces sep rest := by
  induction cs with
  | nil => simp [pieces]
  | cons c cs ih =>
    rw [List.mem_cons, not_or] at h
    simp only [List.cons_append, pieces, Ne.symm h.1, if_false, ih h.2]

theorem pieces_append_separator {α : Type} [DecidableEq α] (sep : α) (cs rest : List α) :
    pieces sep (cs ++ sep :: rest) = pieces sep cs ++ pieces sep rest := by
  induction cs with
  | nil => simp [pieces]
  | cons c cs ih =>
    by_cases h : c = sep
    · simp only [List.cons_append, pieces, h, if_true, ih]
    · simp only [List.cons_append, pieces, h, if_false, ih]
      cases hpieces : pieces sep cs with
      | nil => exact absurd hpieces (pieces_ne_nil sep cs)
      | cons first more => rfl

end TargetHealth.Text
