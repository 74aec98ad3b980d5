import TargetHealth.Proofs.Config.Acceptance

namespace TargetHealth

/-- Every field of the settings is a number of its bits. -/
def Settings.InRange (s : Settings) : Prop := ∀ f, s.get f < Nat.pow 2 f.bits

def TargetConfig.InRange (t : TargetConfig) : Prop := t.intervalSecs < Nat.pow 2 64 ∧ t.timeoutMs < Nat.pow 2 64

structure Config.InRange (c : Config) : Prop where
  settings : c.settings.InRange
  targets : ∀ t ∈ c.targets, t.InRange

def SettingsOverrides.InRange (o : SettingsOverrides) : Prop := ∀ f, ∀ n ∈ o f, n < Nat.pow 2 f.bits

theorem Settings.inRange_default : ({} : Settings).InRange := by
  intro f
  cases f <;> decide

theorem Settings.InRange.override {s : Settings} (h : s.InRange) {o : SettingsOverrides} (ho : o.InRange) :
    (s.override o).InRange := by
  intro f
  rw [Settings.override, Settings.get_ofValues]
  cases hf : o f with
  | none => exact h f
  | some n => exact ho f n hf

section Decoding

variable {ν : Type} {f : DocumentFormat ν}

theorem DocumentFormat.lt_of_word? {bits n : Nat} {v : ν} (h : f.word? bits v = some n) : n < Nat.pow 2 bits := by
  obtain ⟨m, -, h⟩ := Option.bind_eq_some_iff.mp h
  split at h
  · rename_i hlt
    cases h
    exact hlt
  · cases h

theorem Slot.lt_of_orDefault {slot : Slot ν} {default bits n : Nat} (hd : default < Nat.pow 2 bits)
    (h : slot.orDefault default (f.word? bits) = some n) : n < Nat.pow 2 bits := by
  cases slot with
  | given v => exact DocumentFormat.lt_of_word? h
  | omitted | cut => exact Option.some.inj h ▸ hd

theorem DocumentFormat.exists_of_record? {α : Type} {names : List String} {decode : (String → Slot ν) → Option α} {v : ν}
    {a : α} (h : f.record? names decode v = some a) : ∃ slot, decode slot = some a := by
  obtain ⟨slot, -, h⟩ := Option.bind_eq_some_iff.mp h
  exact ⟨slot, h⟩

theorem collectFields?_eq_some {value? : SettingsField → Option Nat} {value : SettingsField → Nat}
    (h : collectFields? value? = some value) (field : SettingsField) : value? field = some (value field) := by
  unfold collectFields? at h
  split at h
  · rename_i hall
    cases h
    have hsome : (value? field).isSome = true := by
      refine List.all_eq_true.mp hall field ?_
      cases field <;> decide
    obtain ⟨n, hn⟩ := Option.isSome_iff_exists.mp hsome
    dsimp only
    rw [hn, Option.getD_some]
  · cases h

theorem Settings.inRange_of_decode {v : ν} {s : Settings} (h : Settings.decode? f v = some s) : s.InRange := by
  obtain ⟨slot, h⟩ := DocumentFormat.exists_of_record? h
  obtain ⟨value, hvalue, h⟩ := Option.bind_eq_some_iff.mp h
  cases h
  intro field
  rw [Settings.get_ofValues]
  exact Slot.lt_of_orDefault (inRange_default field) (collectFields?_eq_some hvalue field)

theorem TargetConfig.inRange_of_decode {v : ν} {t : TargetConfig} (h : TargetConfig.decode? f v = some t) : t.InRange := by
  obtain ⟨slot, h⟩ := DocumentFormat.exists_of_record? h
  simp only [Option.bind_eq_bind, Option.bind_eq_some_iff, Option.some.injEq] at h
  obtain ⟨-, -, -, -, -, -, -, -, -, -, seconds, hseconds, millis, hmillis, -, -, -, -, -, -, rfl⟩ := h
  exact ⟨Slot.lt_of_orDefault (by decide) hseconds, Slot.lt_of_orDefault (by decide) hmillis⟩

theorem Config.inRange_of_decode {v : ν} {c : Config} (h : Config.decode? f v = some c) : c.InRange := by
  obtain ⟨slot, h⟩ := DocumentFormat.exists_of_record? h
  simp only [Option.bind_eq_bind, Option.bind_eq_some_iff, Option.some.injEq] at h
  obtain ⟨settings, hsettings, -, -, -, -, targets, htargets, rfl⟩ := h
  refine ⟨?_, fun t ht => ?_⟩
  · cases hs : slot "settings" with
    | given v =>
      rw [hs] at hsettings
      exact Settings.inRange_of_decode hsettings
    | omitted | cut =>
      rw [hs] at hsettings
      exact Option.some.inj hsettings ▸ Settings.inRange_default
  · cases hs : slot "targets" with
    | given v =>
      rw [hs] at htargets
      obtain ⟨items, -, hitems⟩ := Option.bind_eq_some_iff.mp htargets
      obtain ⟨item, -, hitem⟩ := exists_of_mem_mapM hitems ht
      exact TargetConfig.inRange_of_decode hitem
    | omitted | cut =>
      rw [hs] at htargets
      exact absurd (Option.some.inj htargets ▸ ht) List.not_mem_nil

end Decoding

theorem Environment.inRange_of_overrides {environment : List (String × String)} {o : SettingsOverrides}
    (h : overrides? environment = some o) : o.InRange := by
  unfold overrides? at h
  dsimp only at h
  split at h
  · cases h
  · split at h
    · cases h
      intro f n hn
      dsimp only at hn
      split at hn
      · rename_i e he
        cases hword : e.2.word? with
        | none =>
          rw [fieldValue?, hword] at hn
          cases hn
        | some word =>
          rw [fieldValue?, hword] at hn
          exact Option.some.inj hn ▸ Nat.mod_lt _ (Nat.two_pow_pos _)
      · cases hn
    · cases h

namespace Config

variable {c : Config}

theorem eq_of_check {c' : Config} (h : c'.check = .ok c) : c = c' := by
  unfold check at h
  split at h
  · exact (Except.ok.inj h).symm
  · cases h

theorem inRange_of_parse {format : ConfigFormat} {text : String} (h : parse format text = .ok c) : c.InRange := by
  unfold parse at h
  split at h
  · rename_i c' hc'
    rw [eq_of_check h]
    unfold ofText? at hc'
    split at hc'
    all_goals
      obtain ⟨v, -, hc'⟩ := Option.bind_eq_some_iff.mp hc'
      exact inRange_of_decode hc'
  · cases h

theorem inRange_of_load {files : FileReader} {environment : List (String × String)} {path : String}
    (h : load files environment path = .ok c) : c.InRange := by
  obtain ⟨text, c', o, hc', ho, hc⟩ := eq_of_load h
  have hin := inRange_of_parse hc'
  rw [eq_of_check hc]
  exact ⟨hin.settings.override (Environment.inRange_of_overrides ho), hin.targets⟩

end Config

end TargetHealth
