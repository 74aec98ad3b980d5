import TargetHealth.Fault

namespace TargetHealth

variable {ε α β : Type}

theorem exists_of_bind_eq_ok {x : Except ε α} {f : α → Except ε β} {b : β} (h : x >>= f = .ok b) :
    ∃ a, x = .ok a ∧ f a = .ok b := by
  cases x with
  | error e => cases h
  | ok a => exact ⟨a, rfl, h⟩

theorem exists_of_map_eq_ok {x : Except ε α} {f : α → β} {b : β} (h : x.map f = .ok b) : ∃ a, x = .ok a ∧ f a = b := by
  cases x with
  | error e => cases h
  | ok a => exact ⟨a, rfl, Except.ok.inj h⟩

theorem foldlM_preserves {P : β → Prop} {f : β → α → Except ε β} (as : List α)
    (hstep : ∀ a ∈ as, ∀ b b', f b a = .ok b' → P b → P b') {b b' : β} (h : as.foldlM f b = .ok b') (hb : P b) :
    P b' := by
  induction as generalizing b with
  | nil =>
    cases h
    exact hb
  | cons a as ih =>
    rw [List.foldlM_cons] at h
    obtain ⟨c, hc, h⟩ := exists_of_bind_eq_ok h
    exact ih (fun a ha => hstep a (List.mem_cons_of_mem _ ha)) h (hstep a List.mem_cons_self b c hc hb)

theorem exists_foldlM {P : β → Prop} {f : β → α → Except ε β} (as : List α)
    (hstep : ∀ a ∈ as, ∀ b, P b → ∃ b', f b a = .ok b' ∧ P b') {b : β} (hb : P b) :
    ∃ b', as.foldlM f b = .ok b' ∧ P b' := by
  induction as generalizing b with
  | nil => exact ⟨b, rfl, hb⟩
  | cons a as ih =>
    obtain ⟨c, hc, hp⟩ := hstep a List.mem_cons_self b hb
    obtain ⟨b', hb', hp'⟩ := ih (fun a ha => hstep a (List.mem_cons_of_mem _ ha)) hp
    exact ⟨b', by rw [List.foldlM_cons, hc]; exact hb', hp'⟩

instance decidableExistsAnswer {x : Except ε α} {P : α → Prop} [DecidablePred P] : Decidable (∃ a, x = .ok a ∧ P a) :=
  match x with
  | .ok a => decidable_of_iff (P a) ⟨fun h => ⟨a, rfl, h⟩, fun ⟨_, h, ha⟩ => by cases h; exact ha⟩
  | .error _ => .isFalse fun ⟨_, h, _⟩ => nomatch h

instance decidableExistsOk {x : Except ε (Except α β)} {P : β → Prop} [DecidablePred P] :
    Decidable (∃ b, x = .ok (.ok b) ∧ P b) :=
  match x with
  | .ok (.ok b) => decidable_of_iff (P b) ⟨fun h => ⟨b, rfl, h⟩, fun ⟨_, h, hb⟩ => by cases h; exact hb⟩
  | .ok (.error _) => .isFalse fun ⟨_, h, _⟩ => nomatch h
  | .error _ => .isFalse fun ⟨_, h, _⟩ => nomatch h

theorem exists_of_mapM {α β : Type} {read : α → Option β} {as : List α} {bs : List β} (h : as.mapM read = some bs)
    {a : α} (ha : a ∈ as) : ∃ b, read a = some b := by
  induction as generalizing bs with
  | nil => cases ha
  | cons first rest ih =>
    simp only [List.mapM_cons, Option.bind_eq_bind, Option.bind_eq_some_iff] at h
    obtain ⟨b, hb, more, hmore, -⟩ := h
    rcases List.mem_cons.mp ha with rfl | hrest
    · exact ⟨b, hb⟩
    · exact ih hmore hrest

theorem length_of_mapM {α β : Type} {read : α → Option β} {as : List α} {bs : List β} (h : as.mapM read = some bs) :
    bs.length = as.length := by
  induction as generalizing bs with
  | nil => cases h; rfl
  | cons first rest ih =>
    simp only [List.mapM_cons, Option.bind_eq_bind, Option.bind_eq_some_iff] at h
    obtain ⟨b, -, more, hmore, hbs⟩ := h
    cases hbs
    rw [List.length_cons, List.length_cons, ih hmore]

theorem exists_of_mem_mapM {α β : Type} {decode : α → Option β} {as : List α} {bs : List β} (h : as.mapM decode = some bs)
    {b : β} (hb : b ∈ bs) : ∃ a ∈ as, decode a = some b := by
  induction as generalizing bs with
  | nil =>
    cases h
    cases hb
  | cons a as ih =>
    rw [List.mapM_cons] at h
    obtain ⟨b', hb', h⟩ := Option.bind_eq_some_iff.mp h
    obtain ⟨bs', hbs', h⟩ := Option.bind_eq_some_iff.mp h
    cases h
    rcases List.mem_cons.mp hb with rfl | hb
    · exact ⟨a, List.mem_cons_self, hb'⟩
    · obtain ⟨a', ha', hdecode⟩ := ih hbs' hb
      exact ⟨a', List.mem_cons_of_mem _ ha', hdecode⟩

end TargetHealth
