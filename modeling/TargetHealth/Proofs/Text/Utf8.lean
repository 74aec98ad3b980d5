import TargetHealth.Text.Utf8

namespace TargetHealth.Utf8

theorem toNat_ofNat_of_lt {n : Nat} (h : n < 256) : (UInt8.ofNat n).toNat = n := by
  rw [UInt8.toNat_ofNat']
  exact Nat.mod_eq_of_lt h

theorem toNat_lt_or_lt (c : Char) : c.toNat < 0xd800 ∨ 0xdfff < c.toNat ∧ c.toNat < 0x110000 := c.valid

theorem follow?_ascii {lead : Nat} (h : lead < 0x80) : follow? lead = some (0, 0, 0) := if_pos h

theorem follow?_two {lead : Nat} (h : 0xc2 ≤ lead) (h' : lead < 0xe0) : follow? lead = some (1, 0x80, 0xbf) := by
  unfold follow?
  rw [if_neg (by omega), if_neg (by omega), if_pos h']

/-- The byte behind the lead byte of three is held off overlong forms and surrogates. -/
theorem follow?_three {lead next : Nat} (h : 0xe0 ≤ lead) (h' : lead < 0xf0) (hnext : 0x80 ≤ next) (hnext' : next ≤ 0xbf)
    (hlong : lead = 0xe0 → 0xa0 ≤ next) (hsurrogate : lead = 0xed → next ≤ 0x9f) :
    ∃ low high, follow? lead = some (2, low, high) ∧ low ≤ next ∧ next ≤ high := by
  unfold follow?
  rw [if_neg (by omega), if_neg (by omega), if_neg (by omega)]
  by_cases hfirst : lead = 0xe0
  · exact ⟨_, _, if_pos hfirst, hlong hfirst, hnext'⟩
  · by_cases hed : lead = 0xed
    · exact ⟨_, _, by rw [if_neg hfirst, if_pos hed], hnext, hsurrogate hed⟩
    · exact ⟨_, _, by rw [if_neg hfirst, if_neg hed, if_pos h'], hnext, hnext'⟩

theorem follow?_four {lead next : Nat} (h : 0xf0 ≤ lead) (h' : lead ≤ 0xf4) (hnext : 0x80 ≤ next) (hnext' : next ≤ 0xbf)
    (hlong : lead = 0xf0 → 0x90 ≤ next) (hhigh : lead = 0xf4 → next ≤ 0x8f) :
    ∃ low high, follow? lead = some (3, low, high) ∧ low ≤ next ∧ next ≤ high := by
  unfold follow?
  rw [if_neg (by omega), if_neg (by omega), if_neg (by omega), if_neg (by omega), if_neg (by omega), if_neg (by omega)]
  by_cases hfirst : lead = 0xf0
  · exact ⟨_, _, if_pos hfirst, hlong hfirst, hnext'⟩
  · by_cases hlast : lead = 0xf4
    · exact ⟨_, _, by rw [if_neg hfirst, if_neg (by omega), if_pos hlast], hnext, hhigh hlast⟩
    · exact ⟨_, _, by rw [if_neg hfirst, if_pos (by omega)], hnext, hnext'⟩

theorem continue?_cons {count low high value bits : Nat} {rest : Bytes} (hbits : bits < 64) (hlow : low ≤ 0x80 + bits)
    (hhigh : 0x80 + bits ≤ high) :
    continue? (count + 1) low high value (UInt8.ofNat (0x80 + bits) :: rest) =
      continue? count 0x80 0xbf (value * 64 + bits) rest := by
  have hmod : (0x80 + bits) % 64 = bits := by omega
  rw [continue?, toNat_ofNat_of_lt (by omega), if_pos ⟨hlow, hhigh⟩, hmod]

theorem continue?_zero (low high value : Nat) (rest : Bytes) : continue? 0 low high value rest = (some value, rest) := by
  rw [continue?]

theorem step_of_continue? {lead count low high value : Nat} {bytes rest : Bytes} (hlead : lead < 256)
    (hfollow : follow? lead = some (count, low, high))
    (hcontinue : continue? count low high (leadBits count lead) bytes = (some value, rest)) :
    step (UInt8.ofNat lead) bytes = (some (Char.ofNat value), rest) := by
  rw [step, toNat_ofNat_of_lt hlead, hfollow]
  simp only [hcontinue, Option.map_some]

theorem step_encodeChar (c : Char) (rest : Bytes) :
    ∃ b more, encodeChar c = b :: more ∧ step b (more ++ rest) = (some c, rest) := by
  have hvalid := toNat_lt_or_lt c
  have hread : ∀ n, n = c.toNat → Char.ofNat n = c := fun n hn => by rw [hn, Char.ofNat_toNat]
  unfold encodeChar
  by_cases hone : c.toNat < 0x80
  · refine ⟨_, _, if_pos hone, ?_⟩
    rw [step_of_continue? (by omega) (follow?_ascii hone) (continue?_zero ..), hread (leadBits 0 c.toNat) rfl]
    rfl
  by_cases htwo : c.toNat < 0x800
  · refine ⟨_, _, by rw [if_neg hone, if_pos htwo], ?_⟩
    rw [step_of_continue? (by omega) (follow?_two (by omega) (by omega)) (by
      rw [List.cons_append, continue?_cons (by omega) (by omega) (by omega), continue?_zero]), hread]
    · rfl
    · simp only [leadBits]
      omega
  by_cases hthree : c.toNat < 0x10000
  · refine ⟨_, _, by rw [if_neg hone, if_neg htwo, if_pos hthree], ?_⟩
    obtain ⟨low, high, hfollow, hlow, hhigh⟩ := @follow?_three (0xe0 + c.toNat / 4096) (0x80 + c.toNat / 64 % 64)
      (by omega) (by omega) (by omega) (by omega) (by omega) (by omega)
    rw [step_of_continue? (by omega) hfollow (by
      rw [List.cons_append, continue?_cons (by omega) hlow hhigh, List.cons_append,
        continue?_cons (by omega) (by omega) (by omega), continue?_zero]), hread]
    · rfl
    · simp only [leadBits]
      omega
  · refine ⟨_, _, by rw [if_neg hone, if_neg htwo, if_neg hthree], ?_⟩
    obtain ⟨low, high, hfollow, hlow, hhigh⟩ := @follow?_four (0xf0 + c.toNat / 262144) (0x80 + c.toNat / 4096 % 64)
      (by omega) (by omega) (by omega) (by omega) (by omega) (by omega)
    rw [step_of_continue? (by omega) hfollow (by
      rw [List.cons_append, continue?_cons (by omega) hlow hhigh, List.cons_append,
        continue?_cons (by omega) (by omega) (by omega), List.cons_append,
        continue?_cons (by omega) (by omega) (by omega), continue?_zero]), hread]
    · rfl
    · simp only [leadBits]
      omega

theorem decode?_of_step {b : UInt8} {bytes rest : Bytes} {c : Char} (h : step b bytes = (some c, rest)) :
    decode? (b :: bytes) = (decode? rest).map (c :: ·) := by
  rw [decode?]
  split
  next d left hstep =>
    rw [h] at hstep
    cases hstep
    rfl
  next hstep =>
    rw [h] at hstep
    cases hstep

theorem decode?_encode (cs : List Char) : decode? (encode cs) = some cs := by
  induction cs with
  | nil => rw [encode, List.flatMap_nil, decode?]
  | cons c cs ih =>
    obtain ⟨b, more, hchar, hstep⟩ := step_encodeChar c (encode cs)
    rw [encode, List.flatMap_cons, hchar, List.cons_append]
    exact (decode?_of_step hstep).trans (by rw [ih, Option.map_some])

theorem continue?_append {count low high value code : Nat} {bytes left : Bytes}
    (h : continue? count low high value bytes = (some code, left)) (more : Bytes) :
    continue? count low high value (bytes ++ more) = (some code, left ++ more) := by
  induction bytes generalizing count low high value with
  | nil =>
    cases count with
    | zero =>
      cases h
      rfl
    | succ count => cases h
  | cons b bytes ih =>
    cases count with
    | zero =>
      cases h
      rfl
    | succ count =>
      rw [continue?] at h
      rw [List.cons_append, continue?]
      split at h
      next hrange =>
        rw [if_pos hrange]
        exact ih h
      next => cases h

theorem step_append {b : UInt8} {bytes left : Bytes} {c : Char} (h : step b bytes = (some c, left)) (more : Bytes) :
    step b (bytes ++ more) = (some c, left ++ more) := by
  unfold step at h ⊢
  split at h
  next => cases h
  next count low high hfollow =>
    cases hcontinue : continue? count low high (leadBits count b.toNat) bytes with
    | mk code rest =>
      rw [hcontinue] at h
      cases code with
      | none => cases h
      | some code =>
        cases h
        simp only [continue?_append hcontinue, Option.map_some]

/-- Only behind a whole text can bytes be read on their own: a broken start may be mended by what follows. -/
theorem decode?_append {bytes : Bytes} {cs : List Char} (h : decode? bytes = some cs) (more : Bytes) :
    decode? (bytes ++ more) = (decode? more).map (cs ++ ·) := by
  fun_induction decode? bytes generalizing cs with
  | case1 =>
    cases h
    simp
  | case2 b rest c left hstep ih =>
    obtain ⟨tail, htail, rfl⟩ := Option.map_eq_some_iff.mp h
    rw [List.cons_append, decode?_of_step (step_append hstep more), ih htail, Option.map_map]
    rfl
  | case3 => cases h

end TargetHealth.Utf8
