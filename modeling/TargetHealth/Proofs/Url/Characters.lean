import TargetHealth.Http.Uri
import TargetHealth.Proofs.Net.Literals
import TargetHealth.Url.Reader

namespace TargetHealth

namespace Percent

variable {part : Part} {allowed : Char → Bool}

/-- Whether the characters that a part is written in all belong to a class: those that are not escaped, and those of an
escape. -/
def fits (part : Part) (allowed : Char → Bool) : Bool :=
  (List.range 0x7f).all (fun n => isEscaped part (Char.ofNat n) || allowed (Char.ofNat n)) &&
    allowed '%' && (List.range 16).all (fun d => allowed (Hex.upperDigit d))

theorem allowed_of_not_isEscaped (hfits : fits part allowed) {c : Char} (h : isEscaped part c = false) : allowed c := by
  simp only [fits, Bool.and_eq_true, List.all_eq_true, List.mem_range] at hfits
  have hlow : c.toNat < 0x7f := by
    simp only [isEscaped, Bool.or_eq_false_iff, decide_eq_false_iff_not, Nat.not_le] at h
    exact h.1.2
  have hc := hfits.1.1 c.toNat hlow
  rwa [Char.ofNat_toNat, h, Bool.false_or] at hc

theorem allowed_of_mem_escapeByte (hfits : fits part allowed) {b : UInt8} {c : Char} (hc : c ∈ escapeByte b) :
    allowed c := by
  simp only [fits, Bool.and_eq_true, List.all_eq_true, List.mem_range] at hfits
  have hb : b.toNat < 256 := b.toNat_lt
  simp only [escapeByte, List.mem_cons, List.not_mem_nil, or_false] at hc
  rcases hc with rfl | rfl | rfl
  · exact hfits.1.2
  · exact hfits.2 _ (by omega)
  · exact hfits.2 _ (by omega)

theorem allowed_of_mem_encode (hfits : fits part allowed) {cs : List Char} {c : Char} (hc : c ∈ encode part cs) :
    allowed c := by
  obtain ⟨d, -, hd⟩ := List.mem_flatMap.mp hc
  split at hd
  next =>
    obtain ⟨b, -, hb⟩ := List.mem_flatMap.mp hd
    exact allowed_of_mem_escapeByte hfits hb
  next hplain =>
    rw [List.mem_singleton.mp hd]
    exact allowed_of_not_isEscaped hfits (Bool.not_eq_true _ ▸ hplain)

end Percent

namespace Punycode

def isMark (c : Char) : Bool := c == '-' || (List.range 36).any fun d => c == digitChar d

theorem isMark_digitChar {d : Nat} (h : d < 36) : isMark (digitChar d) := by
  rw [isMark, Bool.or_eq_true, List.any_eq_true]
  exact .inr ⟨d, List.mem_range.mpr h, beq_self_eq_true _⟩

theorem threshold_le (k bias : Nat) : threshold k bias ≤ 26 := by
  unfold threshold
  split <;> omega

theorem isMark_of_mem_writeDigits {bias k q : Nat} {c : Char} (hc : c ∈ writeDigits bias k q) : isMark c := by
  fun_induction writeDigits bias k q with
  | case1 k q hlast =>
    have hle := threshold_le k bias
    rw [List.mem_singleton.mp hc]
    exact isMark_digitChar (by omega)
  | case2 k q hmore ih =>
    have hle := threshold_le k bias
    rcases List.mem_cons.mp hc with rfl | hrest
    · have hlt := Nat.mod_lt (q - threshold k bias) (by omega : 0 < 36 - threshold k bias)
      exact isMark_digitChar (by omega)
    · exact ih hrest

def Spells (label : List Char) (p : Progress) : Prop := ∀ c ∈ p.out, c ∈ label ∨ isMark c

theorem Spells.writeOccurrences {label cs : List Char} {basics m : Nat} {p : Progress} (h : Spells label p) :
    Spells label (writeOccurrences basics m cs p) := by
  unfold Punycode.writeOccurrences
  induction cs generalizing p with
  | nil => exact h
  | cons c cs ih =>
    refine ih ?_
    dsimp only
    split
    next => exact h
    next =>
      split
      next =>
        intro d hd
        exact (List.mem_append.mp hd).elim (h d) fun hdigit => .inr (isMark_of_mem_writeDigits hdigit)
      next => exact h

theorem mem_encode {label : List Char} {c : Char} (hc : c ∈ encode label) : c ∈ label ∨ isMark c := by
  unfold encode at hc
  refine List.foldlRecOn (motive := fun state : Nat × Progress => Spells label state.2) (extended label) _ ?_ ?_ c hc
  · intro d hd
    rcases List.mem_append.mp hd with hbasic | hhyphen
    · exact .inl (List.mem_filter.mp hbasic).1
    · split at hhyphen
      next => cases hhyphen
      next =>
        rw [List.mem_singleton.mp hhyphen]
        exact .inr rfl
  · exact fun state hstate m _ => Spells.writeOccurrences (p := { state.2 with delta := _ }) hstate

end Punycode

namespace Domain

theorem isDenied_of_isMark {c : Char} (h : Punycode.isMark c) : isDenied c = false := by
  rw [Punycode.isMark, Bool.or_eq_true, beq_iff_eq, List.any_eq_true] at h
  rcases h with rfl | ⟨d, hd, heq⟩
  · decide
  · rw [beq_iff_eq.mp heq]
    exact beq_iff_eq.mp (List.all_eq_true.mp
      (by decide : (List.range 36).all fun d => isDenied (Punycode.digitChar d) == false) d hd)

theorem isDenied_of_asciiLabel? {label written : List Char} (hlabel : ∀ c ∈ label, isDenied c = false)
    (h : asciiLabel? label = some written) {c : Char} (hc : c ∈ written) : isDenied c = false := by
  unfold asciiLabel? at h
  split at h
  next =>
    split at h
    next => cases h
    next =>
      obtain ⟨plain, -, h⟩ := Option.bind_eq_some_iff.mp h
      split at h
      next => cases h
      next =>
        cases h
        exact hlabel c hc
  next =>
    split at h
    next =>
      cases h
      exact hlabel c hc
    next =>
      split at h
      next =>
        cases h
        rcases List.mem_append.mp hc with hprefix | hcode
        · exact beq_iff_eq.mp (List.all_eq_true.mp (by decide : "xn--".toList.all fun c => isDenied c == false) c hprefix)
        · exact (Punycode.mem_encode hcode).elim (hlabel c) isDenied_of_isMark
      next => cases h

theorem isDenied_of_toAscii? {cs name : List Char} (h : toAscii? cs = some name) {c : Char} (hc : c ∈ name) :
    isDenied c = false := by
  simp only [toAscii?] at h
  split at h
  next => cases h
  next hfolded =>
    have hnone : ∀ d ∈ fold cs, isDenied d = false := fun d hd =>
      Bool.not_eq_true _ ▸ fun hdenied => hfolded (List.any_eq_true.mpr ⟨d, hd, hdenied⟩)
    obtain ⟨labels, hlabels, h⟩ := Option.bind_eq_some_iff.mp h
    cases h
    rcases Text.mem_intercalate hc with hpoint | ⟨label, hlabel, hmem⟩
    · rw [List.mem_singleton.mp hpoint]
      rfl
    · obtain ⟨piece, hpiece, hread⟩ := exists_of_mem_mapM hlabels hlabel
      exact isDenied_of_asciiLabel? (fun d hd => hnone d (Text.mem_of_mem_pieces hpiece hd)) hread hmem

end Domain

/-- The text of a host is that of a literal, or that of a name. -/
theorem Host.isTextChar_or_of_read? {cs : List Char} {host : Host} (h : read? cs = some host) {c : Char}
    (hc : c ∈ host.text.toList) : Ipv6.isTextChar c ∨ Domain.isDenied c = false := by
  unfold read? at h
  split at h
  next =>
    unfold bracketed? at h
    split at h
    next =>
      obtain ⟨address, -, rfl⟩ := Option.map_eq_some_iff.mp h
      exact .inl (Ipv6.isTextChar_of_hexText hc)
    next => cases h
  next =>
    obtain ⟨plain, -, h⟩ := Option.bind_eq_some_iff.mp h
    obtain ⟨name, hname, h⟩ := Option.bind_eq_some_iff.mp h
    split at h
    next => cases h
    next =>
      split at h
      next =>
        obtain ⟨address, -, rfl⟩ := Option.map_eq_some_iff.mp h
        exact .inl (Ipv6.isTextChar_of_v4 (Ipv4.isTextChar_of_text hc))
      next =>
        cases h
        rw [text, String.toList_ofList] at hc
        exact .inr (Domain.isDenied_of_toAscii? hname hc)

namespace Url

theorem mem_of_mem_shorten {done : List (List Char)} {s : List Char} (h : s ∈ shorten false done) : s ∈ done := by
  unfold shorten at h
  split at h
  next => cases h
  next => exact List.dropLast_subset _ h

theorem pushSegment_eq (done : List (List Char)) (s : List Char) : pushSegment false done s = done ++ [s] := by
  unfold pushSegment
  split <;> rfl

/-- Resolving dot segments takes segments away, and adds none but empty ones. -/
theorem forall_of_mem_resolve {P : Char → Prop} {done segments : List (List Char)} (hdone : ∀ s ∈ done, ∀ c ∈ s, P c)
    (hsegments : ∀ s ∈ segments, ∀ c ∈ s, P c) : ∀ s ∈ resolve false done segments, ∀ c ∈ s, P c := by
  induction segments generalizing done with
  | nil => exact hdone
  | cons s rest ih =>
    have hrest : ∀ t ∈ rest, ∀ c ∈ t, P c := fun t ht => hsegments t (List.mem_cons_of_mem _ ht)
    have hended : ∀ d : List (List Char), (∀ t ∈ d, ∀ c ∈ t, P c) →
        ∀ t ∈ (if rest.isEmpty then d ++ [[]] else d), ∀ c ∈ t, P c := fun d hd t ht c hc => by
      split at ht
      next =>
        rcases List.mem_append.mp ht with hold | hnew
        · exact hd t hold c hc
        · rw [List.mem_singleton.mp hnew] at hc
          cases hc
      next => exact hd t ht c hc
    simp only [resolve]
    split
    next => exact ih (hended _ fun t ht => hdone t (mem_of_mem_shorten ht)) hrest
    next =>
      split
      next => exact ih (hended _ hdone) hrest
      next =>
        refine ih (fun t ht => ?_) hrest
        rw [pushSegment_eq, List.mem_append, List.mem_singleton] at ht
        rcases ht with hold | rfl
        · exact hdone t hold
        · exact hsegments t List.mem_cons_self

theorem toList_normalPath (special : Bool) (cs : List Char) :
    ∃ path, (normalPath special false cs).toList = '/' :: path ∧ ∀ c ∈ path, Http.Uri.isPathChar c := by
  refine ⟨_, by simp only [normalPath, String.toList_ofList]; rfl, fun c hc => ?_⟩
  rcases Text.mem_intercalate hc with hslash | ⟨segment, hsegment, hmem⟩
  · rw [List.mem_singleton.mp hslash]
    rfl
  · refine forall_of_mem_resolve (P := fun c => Http.Uri.isPathChar c) (fun t ht => absurd ht List.not_mem_nil)
      (fun t ht d hd => ?_) segment hsegment c hmem
    obtain ⟨piece, -, rfl⟩ := List.mem_map.mp ht
    exact Percent.allowed_of_mem_encode (by decide) hd

theorem isQueryChar_of_tail {cs : List Char} {query : String} (h : (tail true cs).1 = some query) :
    ∀ c ∈ query.toList, Http.Uri.isQueryChar c := by
  unfold tail at h
  split at h
  next rest =>
    cases h
    intro c hc
    rw [String.toList_ofList] at hc
    exact Percent.allowed_of_mem_encode (by decide) hc
  next => cases h
  next => cases h

theorem scheme_of_readFile? {cs : List Char} {url : Url} (h : readFile? cs = some url) : url.scheme = "file" := by
  simp only [readFile?, Option.bind_eq_bind] at h
  -- with a host or without, and with the letter of a drive or without
  split at h
  all_goals split at h
  all_goals
    obtain ⟨host, -, h⟩ := Option.bind_eq_some_iff.mp h
    cases h
    rfl

theorem scheme_of_readOther? {scheme : String} {cs : List Char} {url : Url} (h : readOther? scheme cs = some url) :
    url.scheme = scheme := by
  unfold readOther? at h
  split at h
  next =>
    simp only [Option.bind_eq_bind, Option.bind_eq_some_iff] at h
    obtain ⟨authority, -, h⟩ := h
    cases h
    rfl
  next =>
    cases h
    rfl
  next =>
    cases h
    rfl

theorem scheme_of_readSpecial? {scheme : String} {cs : List Char} {url : Url} (h : readSpecial? scheme cs = some url) :
    url.scheme = scheme := by
  simp only [readSpecial?, Option.bind_eq_bind, Option.bind_eq_some_iff] at h
  obtain ⟨authority, -, h⟩ := h
  cases h
  rfl

theorem readSpecial?_of_read? {s : String} {url : Url} (h : read? s = some url) (hspecial : isSpecial url.scheme)
    (hfile : url.scheme ≠ "file") : ∃ rest, readSpecial? url.scheme rest = some url := by
  simp only [read?, Option.bind_eq_bind, Option.bind_eq_some_iff] at h
  obtain ⟨⟨scheme, rest⟩, -, h⟩ := h
  dsimp only at h
  split at h
  next => exact absurd (scheme_of_readFile? h) hfile
  next =>
    split at h
    next =>
      rw [scheme_of_readSpecial? h]
      exact ⟨rest, h⟩
    next hother =>
      rw [scheme_of_readOther? h] at hspecial
      exact absurd hspecial hother

theorem exists_of_readAuthority? {scheme : String} {cs : List Char} {authority : Authority} (hspecial : isSpecial scheme)
    (h : readAuthority? scheme cs = some authority) :
    ∃ host text, authority.host = some host ∧ Host.read? text = some host := by
  simp only [readAuthority?, hspecial, Bool.true_or, if_true, Option.bind_eq_bind] at h
  -- with a port or without, and the text of the host may be missing
  split at h
  next =>
    split at h
    next => cases h
    next =>
      obtain ⟨port, -, h⟩ := Option.bind_eq_some_iff.mp h
      obtain ⟨host, hread, h⟩ := Option.bind_eq_some_iff.mp h
      cases h
      exact ⟨host, _, rfl, hread⟩
  next =>
    obtain ⟨port, -, h⟩ := Option.bind_eq_some_iff.mp h
    split at h
    next => cases h
    next =>
      obtain ⟨host, hread, h⟩ := Option.bind_eq_some_iff.mp h
      cases h
      exact ⟨host, _, rfl, hread⟩

theorem of_readSpecial? {scheme : String} {cs : List Char} {url : Url} (hspecial : isSpecial scheme)
    (h : readSpecial? scheme cs = some url) :
    (∃ path, url.path = normalPath true false path) ∧ (∃ behind, url.query = (tail true behind).1) ∧
      ∀ host, url.host? = some host → ∃ text, Host.read? text = some host := by
  simp only [readSpecial?, Option.bind_eq_bind, Option.bind_eq_some_iff] at h
  obtain ⟨authority, hauthority, h⟩ := h
  cases h
  refine ⟨⟨_, rfl⟩, ⟨_, by simp only [assemble, hspecial]; rfl⟩, fun host hhost => ?_⟩
  obtain ⟨host', text, hhost', hread⟩ := exists_of_readAuthority? hspecial hauthority
  cases hhost.symm.trans hhost'
  exact ⟨text, hread⟩

end Url

end TargetHealth
