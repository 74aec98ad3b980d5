import Mathlib.Data.Multiset.MapFold
import TargetHealth.Table

namespace TargetHealth.Table

variable {κ α : Type} [DecidableEq κ]

theorem findIn_eq_none_iff (k : κ) (es : List (κ × α)) : findIn k es = none ↔ k ∉ es.map (·.1) := by
  induction es with
  | nil => simp [findIn]
  | cons e es ih =>
    by_cases h : k = e.1
    · simp [findIn, h]
    · simp only [findIn, h, if_false, ih, List.map_cons, List.mem_cons, false_or]

theorem mem_of_findIn {k : κ} {v : α} {es : List (κ × α)} (h : findIn k es = some v) : (k, v) ∈ es := by
  induction es with
  | nil => simp [findIn] at h
  | cons e es ih =>
    by_cases hk : k = e.1
    · simp only [findIn, hk, if_true, Option.some.injEq] at h
      subst hk; subst h
      exact List.mem_cons_self
    · simp only [findIn, hk, if_false] at h
      exact List.mem_cons_of_mem _ (ih h)

theorem findIn_of_mem {k : κ} {v : α} {es : List (κ × α)} (hn : (es.map (·.1)).Nodup) (h : (k, v) ∈ es) :
    findIn k es = some v := by
  induction es with
  | nil => simp at h
  | cons e es ih =>
    simp only [List.map_cons, List.nodup_cons] at hn
    rcases List.mem_cons.mp h with rfl | h
    · simp [findIn]
    · have hk : k ≠ e.1 := fun he => hn.1 (he ▸ List.mem_map_of_mem (f := (·.1)) h)
      simp only [findIn, hk, if_false]
      exact ih hn.2 h

theorem get?_eq_none_iff (t : Table κ α) (k : κ) : t.get? k = none ↔ k ∉ t.keys :=
  findIn_eq_none_iff k t.entries

theorem mem_keys_iff (t : Table κ α) (k : κ) : k ∈ t.keys ↔ (t.get? k).isSome := by
  rw [← not_iff_not, ← get?_eq_none_iff, Bool.not_eq_true, Option.isSome_eq_false_iff, Option.isNone_iff_eq_none]

theorem keys_eq_nil_iff (t : Table κ α) : t.keys = [] ↔ ∀ k, t.get? k = none := by
  rw [List.eq_nil_iff_forall_not_mem]
  exact forall_congr' fun k => (t.get?_eq_none_iff k).symm

omit [DecidableEq κ] in
theorem length_keys (t : Table κ α) : t.keys.length = t.size := List.length_map _

theorem mem_of_get? {t : Table κ α} {k : κ} {v : α} (h : t.get? k = some v) : (k, v) ∈ t.entries :=
  mem_of_findIn h

theorem get?_eq_some_iff {t : Table κ α} (hn : t.keys.Nodup) (k : κ) (v : α) :
    t.get? k = some v ↔ (k, v) ∈ t.entries :=
  ⟨mem_of_get?, findIn_of_mem hn⟩

/-- Of a listing of a table, what concerns one key is what is listed of its entry. -/
theorem filter_flatMap_entries {β : Type} {t : Table κ α} (hn : t.keys.Nodup) (key : κ) (list : κ × α → List β)
    (p : β → Bool) (hother : ∀ e, e.1 ≠ key → (list e).filter p = []) :
    (t.entries.flatMap list).filter p = ((t.get? key).toList.flatMap fun v => list (key, v)).filter p := by
  obtain ⟨es⟩ := t
  induction es with
  | nil => rfl
  | cons e es ih =>
    obtain ⟨k, v⟩ := e
    obtain ⟨hfresh, hrest⟩ := List.nodup_cons.mp hn
    have htail := ih hrest
    rw [List.flatMap_cons, List.filter_append, htail]
    by_cases hk : key = k
    · cases hk
      have hnone : (⟨es⟩ : Table κ α).get? key = none := (get?_eq_none_iff _ _).mpr hfresh
      have hsome : (⟨(key, v) :: es⟩ : Table κ α).get? key = some v := if_pos rfl
      rw [hnone, hsome]
      simp
    · have hskip : (⟨(k, v) :: es⟩ : Table κ α).get? key = (⟨es⟩ : Table κ α).get? key := if_neg hk
      rw [hskip, hother (k, v) (Ne.symm hk), List.nil_append]

theorem filter_map_entries {β : Type} {t : Table κ α} (hn : t.keys.Nodup) (key : κ) (f : κ × α → β) (p : β → Bool)
    (hp : ∀ e, p (f e) = true ↔ e.1 = key) :
    (t.entries.map f).filter p = (t.get? key).toList.map fun v => f (key, v) := by
  rw [List.map_eq_flatMap, filter_flatMap_entries hn key (fun e => [f e]) p]
  · cases t.get? key with
    | none => rfl
    | some v => simp [(hp (key, v)).mpr rfl]
  · intro e he
    simp [Bool.eq_false_iff.mpr (mt (hp e).mp he)]

theorem filter_key_ne {k : κ} {es : List (κ × α)} (h : k ∉ es.map (·.1)) :
    es.filter (fun e => decide (e.1 ≠ k)) = es := by
  refine List.filter_eq_self.mpr fun e he => decide_eq_true ?_
  intro heq
  exact h (heq ▸ List.mem_map_of_mem he)

theorem entries_erase (t : Table κ α) (k : κ) (v : α) (hn : t.keys.Nodup) (h : t.get? k = some v) :
    (t.entries : Multiset (κ × α)) = (k, v) ::ₘ ((t.erase k).entries : Multiset (κ × α)) := by
  obtain ⟨es⟩ := t
  induction es with
  | nil => simp [get?, findIn] at h
  | cons e es ih =>
    obtain ⟨a, b⟩ := e
    simp only [keys, List.map_cons, List.nodup_cons] at hn
    by_cases hk : k = a
    · subst hk
      have hb : b = v := by simpa [get?, findIn] using h
      rw [erase, List.filter_cons_of_neg (by simp), filter_key_ne hn.1, hb]
      rfl
    · have hv : (⟨es⟩ : Table κ α).get? k = some v := by simpa [get?, findIn, hk] using h
      have he := ih hn.2 hv
      rw [erase, List.filter_cons_of_pos (by simpa using Ne.symm hk)]
      rw [← Multiset.cons_coe, he, Multiset.cons_swap]
      rfl

theorem keys_erase (t : Table κ α) (k : κ) : (t.erase k).keys = t.keys.filter (· ≠ k) := by
  simp only [keys, erase, List.filter_map, Function.comp_def]

theorem nodup_keys_erase {t : Table κ α} (hn : t.keys.Nodup) (k : κ) : (t.erase k).keys.Nodup := by
  rw [keys_erase]
  exact hn.filter _

theorem erase_of_get?_eq_none {t : Table κ α} {k : κ} (h : t.get? k = none) : t.erase k = t := by
  rw [erase, filter_key_ne ((get?_eq_none_iff t k).mp h)]

theorem get?_modify (t : Table κ α) (k k' : κ) (f : α → α) :
    (t.modify k f).get? k' = if k' = k then (t.get? k').map f else t.get? k' := by
  obtain ⟨es⟩ := t
  simp only [get?, modify]
  induction es with
  | nil => simp [findIn]
  | cons e es ih =>
    obtain ⟨a, b⟩ := e
    by_cases ha : k' = a
    · subst ha
      by_cases hk : k' = k <;> simp [findIn, hk]
    · by_cases hk : a = k
      · subst hk
        simpa [findIn, ha] using ih
      · simp [findIn, ha, hk, ih]

variable [LT κ] [DecidableLT κ]

theorem entries_insert (t : Table κ α) (k : κ) (v : α) (h : t.get? k = none) :
    ((t.insert k v).entries : Multiset (κ × α)) = (k, v) ::ₘ (t.entries : Multiset (κ × α)) := by
  obtain ⟨es⟩ := t
  induction es with
  | nil => rfl
  | cons e es ih =>
    obtain ⟨a, b⟩ := e
    by_cases hk : k = a
    · simp [get?, findIn, hk] at h
    · have hn : (⟨es⟩ : Table κ α).get? k = none := by simpa [get?, findIn, hk] using h
      by_cases hlt : k < a
      · simp only [insert, insertIn, hk, hlt, if_true, if_false]
        rfl
      · simp only [insert, insertIn, hk, hlt, if_false]
        rw [← Multiset.cons_coe, ← Multiset.cons_coe, Multiset.cons_swap]
        exact congrArg (Multiset.cons (a, b)) (ih hn)

theorem mem_of_mem_insertIn {k : κ} {v : α} {e : κ × α} {es : List (κ × α)} (h : e ∈ insertIn k v es) :
    e = (k, v) ∨ e ∈ es := by
  induction es with
  | nil => exact .inl (List.mem_singleton.mp h)
  | cons e' es ih =>
    unfold insertIn at h
    split at h
    · rcases List.mem_cons.mp h with h | h
      · exact .inl h
      · exact .inr (List.mem_cons_of_mem _ h)
    · split at h
      · exact List.mem_cons.mp h
      · rcases List.mem_cons.mp h with h | h
        · exact .inr (h ▸ List.mem_cons_self)
        · exact (ih h).imp_right (List.mem_cons_of_mem _)

theorem nodup_keys_insert {t : Table κ α} (hn : t.keys.Nodup) {k : κ} (v : α) (h : t.get? k = none) :
    (t.insert k v).keys.Nodup := by
  have he := congrArg (Multiset.map (·.1)) (entries_insert t k v h)
  simp only [Multiset.map_coe, Multiset.cons_coe] at he
  have hp : (t.insert k v).keys.Perm (k :: t.keys) := Multiset.coe_eq_coe.mp he
  exact hp.nodup_iff.mpr (List.nodup_cons.mpr ⟨(get?_eq_none_iff t k).mp h, hn⟩)

def Ascending (t : Table κ α) : Prop := t.entries.Pairwise (fun a b => a.1 < b.1)

omit [DecidableEq κ] [DecidableLT κ] in
theorem ascending_empty : (empty : Table κ α).Ascending := List.Pairwise.nil

omit [DecidableLT κ] in
theorem Ascending.erase {t : Table κ α} (h : t.Ascending) (k : κ) : (t.erase k).Ascending :=
  List.Pairwise.filter _ h

omit [DecidableLT κ] in
theorem Ascending.modify {t : Table κ α} (h : t.Ascending) (k : κ) (f : α → α) : (t.modify k f).Ascending := by
  refine List.pairwise_map.mpr (h.imp ?_)
  intro a b hab
  split <;> split <;> exact hab

omit [DecidableEq κ] [DecidableLT κ] in
theorem Ascending.nodup [Std.Irrefl (α := κ) (· < ·)] {t : Table κ α} (h : t.Ascending) : t.keys.Nodup := by
  refine List.pairwise_map.mpr (h.imp ?_)
  intro a b hab heq
  exact Std.Irrefl.irrefl (r := (· < ·)) b.1 (heq ▸ hab)

theorem insertIn_of_lt [Std.Irrefl (α := κ) (· < ·)] {k : κ} {v : α} {es : List (κ × α)} (h : ∀ e ∈ es, k < e.1) :
    insertIn k v es = (k, v) :: es := by
  cases es with
  | nil => rfl
  | cons e es =>
    have hlt : k < e.1 := h e List.mem_cons_self
    have hne : k ≠ e.1 := fun heq => Std.Irrefl.irrefl (r := (· < ·)) k (heq ▸ hlt)
    rw [insertIn, if_neg hne, if_pos hlt]

variable [Trans (α := κ) (β := κ) (γ := κ) (· < ·) (· < ·) (· < ·)]

theorem Ascending.insert [Std.Trichotomous (α := κ) (· < ·)] {t : Table κ α} (h : t.Ascending) (k : κ) (v : α) :
    (t.insert k v).Ascending := by
  obtain ⟨es⟩ := t
  simp only [Ascending, Table.insert] at h ⊢
  induction es with
  | nil => exact List.pairwise_singleton _ _
  | cons e es ih =>
    obtain ⟨hhead, htail⟩ := List.pairwise_cons.mp h
    unfold insertIn
    split
    · rename_i heq
      exact List.pairwise_cons.mpr ⟨heq ▸ hhead, htail⟩
    · rename_i hne
      split
      · rename_i hlt
        refine List.pairwise_cons.mpr ⟨?_, h⟩
        intro e' he'
        rcases List.mem_cons.mp he' with rfl | he'
        · exact hlt
        · exact Trans.trans hlt (hhead e' he')
      · rename_i hnlt
        have hgt : e.1 < k := by
          by_contra hngt
          exact hne (Std.Trichotomous.trichotomous (r := (· < ·)) _ _ hnlt hngt)
        refine List.pairwise_cons.mpr ⟨?_, ih htail⟩
        intro e' he'
        rcases mem_of_mem_insertIn he' with rfl | he'
        · exact hgt
        · exact hhead e' he'

theorem insert_erase [Std.Irrefl (α := κ) (· < ·)] {t : Table κ α} (h : t.Ascending) (k : κ) (v : α) :
    (t.erase k).insert k v = t.insert k v := by
  obtain ⟨es⟩ := t
  simp only [Ascending, Table.insert, Table.erase, mk.injEq] at h ⊢
  induction es with
  | nil => rfl
  | cons e es ih =>
    obtain ⟨hhead, htail⟩ := List.pairwise_cons.mp h
    have hkeep (hall : ∀ e' ∈ es, k < e'.1) : es.filter (fun e => decide (e.1 ≠ k)) = es := by
      refine filter_key_ne fun hm => ?_
      obtain ⟨e', he', heq⟩ := List.mem_map.mp hm
      exact Std.Irrefl.irrefl (r := (· < ·)) k (heq ▸ hall e' he')
    by_cases hk : k = e.1
    · rw [List.filter_cons_of_neg (by simpa using hk.symm), hkeep (hk ▸ hhead), insertIn_of_lt (hk ▸ hhead), insertIn,
        if_pos hk]
    · rw [List.filter_cons_of_pos (by simpa using Ne.symm hk)]
      by_cases hlt : k < e.1
      · have hall : ∀ e' ∈ es, k < e'.1 := fun e' he' => Trans.trans hlt (hhead e' he')
        rw [hkeep hall]
      · rw [insertIn, insertIn, if_neg hk, if_neg hk, if_neg hlt, if_neg hlt, ih htail]

omit [DecidableLT κ] in
theorem Ascending.keys_eq {β : Type} [Std.Irrefl (α := κ) (· < ·)] {t : Table κ α} {u : Table κ β} (ht : t.Ascending)
    (hu : u.Ascending) (h : ∀ k, (t.get? k).isSome = (u.get? k).isSome) : t.keys = u.keys := by
  have hperm : t.keys.Perm u.keys := by
    refine (List.perm_ext_iff_of_nodup ht.nodup hu.nodup).mpr fun k => ?_
    rw [mem_keys_iff, mem_keys_iff, h k]
  have hasymm : ∀ a b, a ∈ t.keys → b ∈ u.keys → a < b → b < a → a = b := fun a b _ _ hab hba =>
    absurd (Trans.trans hab hba) (Std.Irrefl.irrefl a)
  exact hperm.eq_of_pairwise hasymm (List.pairwise_map.mpr ht) (List.pairwise_map.mpr hu)

omit [DecidableLT κ] in
/-- Tables in key order that answer every look-up alike are the same. -/
theorem Ascending.ext [Std.Irrefl (α := κ) (· < ·)] {t u : Table κ α} (ht : t.Ascending) (hu : u.Ascending)
    (h : ∀ k, t.get? k = u.get? k) : t = u := by
  obtain ⟨es⟩ := t
  obtain ⟨fs⟩ := u
  have hperm : es.Perm fs := by
    refine (List.perm_ext_iff_of_nodup ht.nodup.of_map hu.nodup.of_map).mpr fun e => ?_
    rw [← get?_eq_some_iff (t := ⟨es⟩) ht.nodup, ← get?_eq_some_iff (t := ⟨fs⟩) hu.nodup, h]
  have hasymm : ∀ a b, a ∈ es → b ∈ fs → a.1 < b.1 → b.1 < a.1 → a = b := fun a b _ _ hab hba =>
    absurd (Trans.trans hab hba) (Std.Irrefl.irrefl a.1)
  exact congrArg mk (hperm.eq_of_pairwise hasymm ht hu)

end TargetHealth.Table
