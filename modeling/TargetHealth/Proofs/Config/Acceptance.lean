import Mathlib.Data.List.Forall2
import TargetHealth.CommandLine.Program
import TargetHealth.Proofs.Target.Making

namespace TargetHealth

theorem Settings.window_of_validate {s : Settings} (h : s.validate = .ok ()) : 1 ≤ s.latencyWindow := by
  unfold validate at h
  split at h
  · cases h
  split at h
  · cases h
  split at h
  · cases h
  rename_i hwindow
  exact Nat.pos_of_ne_zero hwindow

namespace TargetConfig

variable {t : TargetConfig}

theorem positive_of_validate (h : t.validate = .ok ()) : t.intervalSecs ≠ 0 ∧ t.timeoutMs ≠ 0 := by
  unfold validate at h
  dsimp only at h
  split at h
  · cases h
  split at h
  · cases h
  rename_i hinterval
  split at h
  · cases h
  rename_i htimeout
  exact ⟨hinterval, htimeout⟩

end TargetConfig

namespace Target

variable {files : FileReader} {config : TargetConfig} {t : Target}

theorem of_ofConfig (h : ofConfig files config = .ok t) :
    config.validate = .ok () ∧ t.id = config.id ∧ t.interval = config.interval ∧ t.timeout = config.timeout := by
  obtain ⟨_, hmade⟩ := exists_made h
  exact ⟨hmade.valid, hmade.id, hmade.interval, hmade.timeout⟩

end Target

namespace Config

structure Accepted (c : Config) : Prop where
  settings : c.settings.validate = .ok ()
  permits : c.settings.maxConcurrency ≠ 0
  targets : c.targets ≠ []
  distinct : (c.targets.map (·.id)).Nodup

variable {c : Config}

theorem distinct_of_validateTargets {seen : List String} {targets : List TargetConfig}
    (h : validateTargets seen targets = .ok ()) :
    (targets.map (·.id)).Nodup ∧ ∀ id ∈ seen, id ∉ targets.map (·.id) := by
  induction targets generalizing seen with
  | nil => exact ⟨List.nodup_nil, fun _ _ => List.not_mem_nil⟩
  | cons t targets ih =>
    unfold validateTargets at h
    split at h
    · cases h
    · rename_i hnew
      obtain ⟨_, -, h⟩ := exists_of_bind_eq_ok h
      obtain ⟨hn, hseen⟩ := ih h
      refine ⟨List.nodup_cons.mpr ⟨hseen t.id List.mem_cons_self, hn⟩, fun id hid hmem => ?_⟩
      rcases List.mem_cons.mp hmem with rfl | hmem
      · exact hnew hid
      · exact hseen id (List.mem_cons_of_mem _ hid) hmem

theorem accepted_of_validate (h : c.validate = .ok ()) : c.Accepted := by
  unfold validate at h
  obtain ⟨_, hsettings, h⟩ := exists_of_bind_eq_ok h
  split at h
  · cases h
  rename_i hpermits
  split at h
  · cases h
  rename_i htargets
  obtain ⟨_, hall, -⟩ := exists_of_bind_eq_ok h
  refine ⟨hsettings, hpermits, ?_, (distinct_of_validateTargets hall).1⟩
  simpa using htargets

theorem accepted_of_check {c' : Config} (h : c'.check = .ok c) : c.Accepted := by
  unfold check at h
  split at h
  · rename_i hvalid
    cases h
    exact accepted_of_validate hvalid
  · cases h

theorem accepted_of_parse {format : ConfigFormat} {text : String} (h : parse format text = .ok c) : c.Accepted := by
  unfold parse at h
  split at h
  · exact accepted_of_check h
  · cases h

theorem eq_of_load {files : FileReader} {environment : List (String × String)} {path : String}
    (h : load files environment path = .ok c) :
    ∃ text c' o, parse (.ofPath path) text = .ok c' ∧ Environment.overrides? environment = some o ∧
      (c'.override o).check = .ok c := by
  unfold load at h
  dsimp only at h
  split at h
  · split at h
    · obtain ⟨text, -, h⟩ := exists_of_bind_eq_ok h
      obtain ⟨c', hc', h⟩ := exists_of_bind_eq_ok h
      split at h
      · cases h
      · rename_i o ho
        exact ⟨text, c', o, hc', ho, h⟩
    · cases h
  · cases h

/-- The overrides of an environment are checked like the file. -/
theorem accepted_of_load {files : FileReader} {environment : List (String × String)} {path : String}
    (h : load files environment path = .ok c) : c.Accepted := by
  obtain ⟨_, _, _, -, -, hc⟩ := eq_of_load h
  exact accepted_of_check hc

end Config

namespace CommandLine

theorem forall₂_of_targetsOf {files : FileReader} {c : Config} {targets : List Target}
    (h : targetsOf files c = .ok targets) :
    List.Forall₂ (fun config t => Target.ofConfig files config = .ok t) c.targets targets := by
  unfold targetsOf at h
  generalize c.targets = configs at h ⊢
  induction configs generalizing targets with
  | nil =>
    cases h
    exact .nil
  | cons config configs ih =>
    rw [List.mapM_cons] at h
    obtain ⟨t, ht, h⟩ := exists_of_bind_eq_ok h
    obtain ⟨ts, hts, h⟩ := exists_of_bind_eq_ok h
    cases h
    exact .cons ht (ih hts)

theorem ids_of_targetsOf {files : FileReader} {c : Config} {targets : List Target}
    (h : targetsOf files c = .ok targets) : targets.map (·.id) = c.targets.map (·.id) := by
  have hall := forall₂_of_targetsOf h
  clear h
  generalize c.targets = configs at hall ⊢
  induction hall with
  | nil => rfl
  | cons ht _ ih => rw [List.map_cons, List.map_cons, ih, (Target.of_ofConfig ht).2.1]

theorem exists_of_mem_targetsOf {files : FileReader} {c : Config} {targets : List Target}
    (h : targetsOf files c = .ok targets) {t : Target} (ht : t ∈ targets) :
    ∃ config ∈ c.targets, Target.ofConfig files config = .ok t := by
  have hall := forall₂_of_targetsOf h
  clear h
  generalize c.targets = configs at hall ⊢
  induction hall with
  | nil => cases ht
  | cons hmade _ ih =>
    rcases List.mem_cons.mp ht with rfl | ht
    · exact ⟨_, List.mem_cons_self, hmade⟩
    · obtain ⟨config, hconfig, hmade⟩ := ih ht
      exact ⟨config, List.mem_cons_of_mem _ hconfig, hmade⟩

end CommandLine

end TargetHealth
