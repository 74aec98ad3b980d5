import Mathlib.Data.List.Basic
import TargetHealth.Net.Ip
import TargetHealth.Proofs.Fault

namespace TargetHealth

namespace Ipv4

def isTextChar (c : Char) : Bool := c.isDigit || c == '.'

theorem isDigit_of_octet? {cs : List Char} {n : Nat} (h : octet? cs = some n) {c : Char} (hc : c ∈ cs) : c.isDigit := by
  unfold octet? at h
  split at h
  next hoctet =>
    have hdigits := hoctet.1
    simp only [Decimal.allDigits, Bool.and_eq_true, List.all_eq_true] at hdigits
    exact hdigits.2 c hc
  next => cases h

theorem isTextChar_of_read? {cs : List Char} {a : Ipv4} (h : read? cs = some a) {c : Char} (hc : c ∈ cs) :
    isTextChar c := by
  simp only [read?, Option.bind_eq_bind, Option.bind_eq_some_iff] at h
  obtain ⟨octets, hoctets, -⟩ := h
  rcases Text.mem_pieces '.' hc with rfl | ⟨piece, hpiece, hmem⟩
  · rfl
  · obtain ⟨n, hn⟩ := exists_of_mapM hoctets hpiece
    simp [isTextChar, isDigit_of_octet? hn hmem]

theorem ne_nil_of_read? {cs : List Char} {a : Ipv4} (h : read? cs = some a) : cs ≠ [] := by
  rintro rfl
  cases h

theorem isTextChar_of_text {a : Ipv4} {c : Char} (hc : c ∈ a.text.toList) : isTextChar c := by
  rw [text, String.toList_intercalate] at hc
  rcases Text.mem_intercalate hc with hpoint | ⟨part, hpart, hmem⟩
  · rw [List.mem_singleton.mp hpoint]
    rfl
  · simp only [List.map_map, List.mem_map] at hpart
    obtain ⟨i, -, rfl⟩ := hpart
    have hdigit : c.isDigit := by
      simp only [Function.comp_apply, Nat.toString_eq_repr, Nat.toList_repr] at hmem
      exact Nat.isDigit_of_mem_toDigits (by decide) (by decide) hmem
    rw [isTextChar, hdigit, Bool.true_or]

end Ipv4

namespace Ipv6

def isTextChar (c : Char) : Bool := (Hex.value? c).isSome || c == ':' || c == '.'

theorem isTextChar_of_v4 {c : Char} (h : Ipv4.isTextChar c) : isTextChar c := by
  simp only [Ipv4.isTextChar, Bool.or_eq_true, beq_iff_eq] at h
  rcases h with hdigit | rfl
  · have hvalue : (Hex.value? c).isSome := by
      rw [Hex.value?, if_pos (by simpa [Char.isDigit, Char.le_def] using hdigit)]
      rfl
    simp [isTextChar, hvalue]
  · rfl

theorem isTextChar_of_group? {cs : List Char} {n : Nat} (h : group? cs = some n) {c : Char} (hc : c ∈ cs) :
    isTextChar c := by
  unfold group? at h
  split at h
  next => cases h
  next =>
    obtain ⟨values, hvalues, -⟩ := Option.map_eq_some_iff.mp h
    obtain ⟨value, hvalue⟩ := exists_of_mapM hvalues hc
    simp [isTextChar, hvalue]

theorem isTextChar_of_digitChar {d : Nat} (h : d < 16) : isTextChar d.digitChar :=
  List.all_eq_true.mp (by decide : (List.range 16).all fun d => isTextChar d.digitChar) d (List.mem_range.mpr h)

theorem isTextChar_of_hexGroup {n : Nat} {c : Char} (hc : c ∈ (hexGroup n).toList) : isTextChar c := by
  rw [hexGroup, String.toList_ofList] at hc
  induction n using Nat.strongRecOn with
  | ind n ih =>
    rw [Nat.toDigits_eq_if (by decide)] at hc
    split at hc
    next hlast =>
      rw [List.mem_singleton.mp hc]
      exact isTextChar_of_digitChar hlast
    next hmore =>
      rcases List.mem_append.mp hc with hfront | hlast
      · exact ih (n / 16) (Nat.div_lt_self (by omega) (by decide)) hfront
      · rw [List.mem_singleton.mp hlast]
        exact isTextChar_of_digitChar (Nat.mod_lt _ (by decide))

theorem isTextChar_of_joinGroups {groups : List Nat} {c : Char} (hc : c ∈ (joinGroups groups).toList) : isTextChar c := by
  rw [joinGroups, String.toList_intercalate] at hc
  rcases Text.mem_intercalate hc with hcolon | ⟨part, hpart, hmem⟩
  · rw [List.mem_singleton.mp hcolon]
    rfl
  · simp only [List.map_map, List.mem_map] at hpart
    obtain ⟨n, -, rfl⟩ := hpart
    exact isTextChar_of_hexGroup hmem

theorem isTextChar_of_hexText {a : Ipv6} {c : Char} (hc : c ∈ a.hexText.toList) : isTextChar c := by
  simp only [hexText] at hc
  split at hc
  next => exact isTextChar_of_joinGroups hc
  next =>
    simp only [String.toList_append, List.mem_append] at hc
    rcases hc with (hfront | hgap) | hbehind
    · exact isTextChar_of_joinGroups hfront
    · exact List.all_eq_true.mp (by decide : "::".toList.all isTextChar) c hgap
    · exact isTextChar_of_joinGroups hbehind

/-- What groups are read from: nothing, pieces that are all groups, or groups with a version 4 address behind them. -/
theorem groupsOf?_cases {mayEndInV4 : Bool} {cs : List Char} {groups : List Nat}
    (h : groupsOf? mayEndInV4 cs = some groups) :
    (cs = [] ∧ groups = []) ∨ (Text.pieces ':' cs).mapM group? = some groups ∨
      ∃ v4 front, Ipv4.read? ((Text.pieces ':' cs).getLastD []) = some v4 ∧
        (Text.pieces ':' cs).dropLast.mapM group? = some front ∧
        groups = front ++ [v4.value / 65536, v4.value % 65536] := by
  simp only [groupsOf?] at h
  split at h
  next hempty => exact .inl ⟨List.isEmpty_iff.mp hempty, (Option.some.inj h).symm⟩
  next =>
    split at h
    next =>
      simp only [Option.bind_eq_bind, Option.bind_eq_some_iff] at h
      obtain ⟨v4, hv4, front, hfront, hgroups⟩ := h
      exact .inr (.inr ⟨v4, front, hv4, hfront, (Option.some.inj hgroups).symm⟩)
    next => exact .inr (.inl h)

theorem isTextChar_of_groupsOf? {mayEndInV4 : Bool} {cs : List Char} {groups : List Nat}
    (h : groupsOf? mayEndInV4 cs = some groups) {c : Char} (hc : c ∈ cs) : isTextChar c := by
  rcases Text.mem_pieces ':' hc with rfl | ⟨piece, hpiece, hmem⟩
  · rfl
  · rcases groupsOf?_cases h with ⟨rfl, -⟩ | hall | ⟨v4, front, hv4, hfront, -⟩
    · cases hc
    · obtain ⟨n, hn⟩ := exists_of_mapM hall hpiece
      exact isTextChar_of_group? hn hmem
    · rw [← List.dropLast_append_getLast (Text.pieces_ne_nil ':' cs), List.mem_append,
        List.mem_singleton] at hpiece
      rcases hpiece with hdrop | rfl
      · obtain ⟨n, hn⟩ := exists_of_mapM hfront hdrop
        exact isTextChar_of_group? hn hmem
      · rw [List.getLastD_eq_getLast?, List.getLast?_eq_getLast_of_ne_nil (Text.pieces_ne_nil ':' cs)] at hv4
        exact isTextChar_of_v4 (Ipv4.isTextChar_of_read? hv4 hmem)

theorem length_le_of_groupsOf? {mayEndInV4 : Bool} {cs : List Char} {groups : List Nat}
    (h : groupsOf? mayEndInV4 cs = some groups) : groups.length ≤ (Text.pieces ':' cs).length + 1 := by
  rcases groupsOf?_cases h with ⟨-, rfl⟩ | hall | ⟨v4, front, -, hfront, rfl⟩
  · exact Nat.zero_le _
  · rw [length_of_mapM hall]
    exact Nat.le_succ _
  · have hdrop := length_of_mapM hfront
    rw [List.length_dropLast] at hdrop
    have hne := List.length_pos_of_ne_nil (Text.pieces_ne_nil ':' cs)
    simp only [List.length_append, List.length_cons, List.length_nil]
    omega

theorem cutAtGap_eq (cs : List Char) :
    cs = (cutAtGap cs).1 ++ ((cutAtGap cs).2.map (fun after => ':' :: ':' :: after)).getD [] := by
  fun_induction cutAtGap cs with
  | case1 rest => rfl
  | case2 c rest before after hcut hrest ih =>
    rw [hrest] at ih
    simpa using ih
  | case3 => rfl

theorem read?_cases {cs : List Char} {a : Ipv6} (h : read? cs = some a) :
    (groupsOf? true cs = some a.groups ∧ a.groups.length = 8) ∨
      ∃ before after head tail, cs = before ++ ':' :: ':' :: after ∧ groupsOf? false before = some head ∧
        groupsOf? true after = some tail := by
  have heq := cutAtGap_eq cs
  simp only [read?] at h
  split at h
  next all hcut =>
    simp only [hcut, Option.map_none, Option.getD_none, List.append_nil] at heq
    obtain ⟨groups, hgroups, h⟩ := Option.bind_eq_some_iff.mp h
    split at h
    next hlength =>
      cases h
      exact .inl ⟨heq ▸ hgroups, hlength⟩
    next => cases h
  next before after hcut =>
    simp only [hcut, Option.map_some, Option.getD_some] at heq
    obtain ⟨head, hhead, h⟩ := Option.bind_eq_some_iff.mp h
    obtain ⟨tail, htail, -⟩ := Option.bind_eq_some_iff.mp h
    exact .inr ⟨before, after, head, tail, heq, hhead, htail⟩

theorem isTextChar_of_read? {cs : List Char} {a : Ipv6} (h : read? cs = some a) {c : Char} (hc : c ∈ cs) :
    isTextChar c := by
  rcases read?_cases h with ⟨hgroups, -⟩ | ⟨before, after, head, tail, rfl, hhead, htail⟩
  · exact isTextChar_of_groupsOf? hgroups hc
  · simp only [List.mem_append, List.mem_cons] at hc
    rcases hc with hbefore | rfl | rfl | hafter
    · exact isTextChar_of_groupsOf? hhead hbefore
    · rfl
    · rfl
    · exact isTextChar_of_groupsOf? htail hafter

/-- A gap has two colons, and seven pieces have six between them. -/
theorem two_le_count_colon {cs : List Char} {a : Ipv6} (h : read? cs = some a) : 2 ≤ cs.count ':' := by
  rcases read?_cases h with ⟨hgroups, height⟩ | ⟨before, after, head, tail, rfl, -, -⟩
  · have hle := length_le_of_groupsOf? hgroups
    rw [Text.length_pieces, height] at hle
    omega
  · simp only [List.count_append, List.count_cons_self]
    omega

end Ipv6

end TargetHealth
