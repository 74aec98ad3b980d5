import TargetHealth.Time.Instant

namespace TargetHealth

variable {σ ε : Type} (next : σ → Instant → ε → σ) (lets : σ → Instant → Instant → Prop)

/-- From an instant on the clock moves to the instant of each step, and after the last one to a given instant, as the system
lets it. -/
def Paced (s : σ) (now : Instant) : List (Instant × ε) → Instant → Prop
  | [], limit => lets s now limit
  | (t, e) :: es, limit => lets s now t ∧ Paced (next s t e) t es limit

instance decidablePaced [∀ s now t, Decidable (lets s now t)] (s : σ) (now : Instant) :
    (es : List (Instant × ε)) → (limit : Instant) → Decidable (Paced next lets s now es limit)
  | [], limit => inferInstanceAs (Decidable (lets s now limit))
  | (t, e) :: es, limit =>
    have := decidablePaced (next s t e) t es limit
    inferInstanceAs (Decidable (lets s now t ∧ Paced next lets (next s t e) t es limit))

variable {next lets} {s : σ} {now limit : Instant} {es : List (Instant × ε)}

theorem Paced.imp {lets' : σ → Instant → Instant → Prop} (hlets : ∀ s now t, lets s now t → lets' s now t)
    (h : Paced next lets s now es limit) : Paced next lets' s now es limit := by
  induction es generalizing s now with
  | nil => exact hlets s now limit h
  | cons e es ih => exact ⟨hlets s now e.1 h.1, ih h.2⟩

theorem Paced.concat {t : Instant} (h : Paced next lets s now es t) (e : ε) (hstay : ∀ s t, lets s t t) :
    Paced next lets s now (es ++ [(t, e)]) t := by
  induction es generalizing s now with
  | nil => exact ⟨h, hstay _ _⟩
  | cons e' es ih => exact ⟨h.1, ih h.2⟩

theorem Paced.append {t : Instant} {es' : List (Instant × ε)} (h : Paced next lets s now es t)
    (h' : Paced next lets (es.foldl (fun s e => next s e.1 e.2) s) t es' limit)
    (htrans : ∀ s a b c, lets s a b → lets s b c → lets s a c) : Paced next lets s now (es ++ es') limit := by
  induction es generalizing s now with
  | nil =>
    cases es' with
    | nil => exact htrans _ _ _ _ h h'
    | cons e es' => exact ⟨htrans _ _ _ _ h h'.1, h'.2⟩
  | cons e es ih => exact ⟨h.1, ih h.2 h'⟩

theorem Paced.later {t : Instant} (h : Paced next lets s now es t)
    (hlets : lets (es.foldl (fun s e => next s e.1 e.2) s) t limit)
    (htrans : ∀ s a b c, lets s a b → lets s b c → lets s a c) : Paced next lets s now es limit := by
  rw [← List.append_nil es]
  exact h.append hlets htrans

/-- What neither a step nor the clock breaks holds at the end of a run. -/
theorem Paced.invariant {P : σ → Instant → Prop} (hclock : ∀ s now t, lets s now t → P s now → P s t)
    (hnext : ∀ s, ∀ e ∈ es, P s e.1 → P (next s e.1 e.2) e.1) (h : Paced next lets s now es limit) (hs : P s now) :
    P (es.foldl (fun s e => next s e.1 e.2) s) limit := by
  induction es generalizing s now with
  | nil => exact hclock s now limit h hs
  | cons e es ih =>
    obtain ⟨hlets, h⟩ := h
    refine ih (fun s' e' he' => hnext s' e' (List.mem_cons_of_mem _ he')) h ?_
    exact hnext s e List.mem_cons_self (hclock s now e.1 hlets hs)

end TargetHealth
