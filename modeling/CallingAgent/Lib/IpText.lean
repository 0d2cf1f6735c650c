import CallingAgent.Lib.IpAddress
import CallingAgent.Lib.Spacing
import Mathlib.Data.List.GetD
import Mathlib.Tactic.Ring

/-!
# Address texts — an address that is printed is read back

An address of version 6 is printed without its first longest run of zero
groups. Whatever run of zeros is left out, the text has one double colon,
and the reader fills in as many groups as are missing.
-/

namespace CallingAgent.Lib

/-! ## Digits -/

theorem mem_toDigits {b n : Nat} {c : Char} (hb : 1 < b)
    (h : c ∈ Nat.toDigits b n) : ∃ d, d < b ∧ c = d.digitChar := by
  induction n using Nat.base_induction b hb with
  | single m hm =>
      rw [Nat.toDigits_of_lt_base hm, List.mem_singleton] at h
      exact ⟨m, hm, h⟩
  | digit m d hd hm ih =>
      rw [← Nat.toDigits_append_toDigits hb hm hd, List.mem_append] at h
      rcases h with h | h
      · exact ih h
      · rw [Nat.toDigits_of_lt_base hd, List.mem_singleton] at h
        exact ⟨d, hd, h⟩

/-- Printed numbers are free of a character that is no digit. -/
theorem not_mem_toDigits {b n : Nat} {c : Char} (hb : 1 < b)
    (hc : ∀ d, d < b → d.digitChar ≠ c) : c ∉ Nat.toDigits b n := by
  intro h
  obtain ⟨d, hd, heq⟩ := mem_toDigits hb h
  exact hc d hd heq.symm

theorem hexDigitValue_digitChar {d : Nat} (h : d < 16) :
    hexDigitValue d.digitChar = some d := by
  have hall : ∀ d : Fin 16, hexDigitValue (Nat.digitChar d) = some d.val := by
    decide
  exact hall ⟨d, h⟩

theorem foldlM_toDigits (n : Nat) :
    (Nat.toDigits 16 n).foldlM (fun n c => (hexDigitValue c).map (16 * n + ·)) 0
      = some n := by
  induction n using Nat.base_induction 16 (by decide) with
  | single m hm =>
      rw [Nat.toDigits_of_lt_base hm]
      simp [hexDigitValue_digitChar hm]
  | digit m d hd hm ih =>
      rw [← Nat.toDigits_append_toDigits (by decide) hm hd, List.foldlM_append,
        ih, Nat.toDigits_of_lt_base hd]
      simp [hexDigitValue_digitChar hd]

/-- A group that is printed is read. -/
theorem parseHextet_toDigits {n : Nat} (h : n < 65536) :
    parseHextet (Nat.toDigits 16 n) = some n := by
  have hlength : (Nat.toDigits 16 n).length ≤ 4 :=
    (Nat.length_toDigits_le_iff (by decide) (by decide)).mpr h
  have hempty : (Nat.toDigits 16 n).isEmpty = false :=
    List.isEmpty_eq_false_iff.mpr Nat.toDigits_ne_nil
  rw [parseHextet, hempty, Bool.false_or, if_neg, foldlM_toDigits]
  simp only [decide_eq_true_eq]
  omega

/-- So is an octet. -/
theorem parseOctet_toDigits {n : Nat} (h : n < 256) :
    parseOctet (Nat.toDigits 10 n) = some n := by
  have hall : ∀ n : Fin 256, parseOctet (Nat.toDigits 10 n) = some n.val := by
    decide +kernel
  exact hall ⟨n, h⟩

/-! ## Groups -/

/-- The number whose groups these are. -/
def joinGroups (b : Nat) (hs : List Nat) : Nat :=
  hs.foldl (fun n h => b * n + h) 0

theorem joinGroups_concat (b h : Nat) (hs : List Nat) :
    joinGroups b (hs ++ [h]) = b * joinGroups b hs + h := by
  rw [joinGroups, List.foldl_append]
  rfl

theorem joinGroups_append (b : Nat) (hs hs' : List Nat) :
    joinGroups b (hs ++ hs')
      = joinGroups b hs * Nat.pow b hs'.length + joinGroups b hs' := by
  induction hs' using List.reverseRecOn with
  | nil => simp [joinGroups]
  | append_singleton hs' h ih =>
      rw [← List.append_assoc, joinGroups_concat, joinGroups_concat, ih,
        List.length_append, List.length_singleton]
      show _ = _ * (Nat.pow b hs'.length * b) + _
      ring

theorem joinGroups_zeros (b k : Nat) :
    joinGroups b (List.replicate k 0) = 0 := by
  induction k with
  | zero => rfl
  | succ k ih => rw [List.replicate_succ', joinGroups_concat, ih]; rfl

/-- The groups of a number, most significant first. -/
theorem joinGroups_range (b n k : Nat) :
    joinGroups b ((List.range k).map fun i => n / Nat.pow b (k - 1 - i) % b)
      = n % Nat.pow b k := by
  induction k generalizing n with
  | zero => exact (Nat.mod_one n).symm
  | succ k ih =>
      have hhigh : (List.range k).map (fun i =>
            n / Nat.pow b (k + 1 - 1 - i) % b)
          = (List.range k).map fun i =>
            n / b / Nat.pow b (k - 1 - i) % b := by
        refine List.map_congr_left fun i hi => ?_
        have hlt := List.mem_range.mp hi
        have hpow : Nat.pow b (k + 1 - 1 - i) = b * Nat.pow b (k - 1 - i) := by
          rw [show k + 1 - 1 - i = (k - 1 - i) + 1 by omega, Nat.pow_eq,
            Nat.pow_eq, Nat.pow_succ, Nat.mul_comm]
        rw [hpow, Nat.div_div_eq_div_mul]
      have hlow : n / Nat.pow b (k + 1 - 1 - k) = n := by
        rw [show k + 1 - 1 - k = 0 by omega]
        exact Nat.div_one n
      rw [List.range_succ, List.map_append, List.map_singleton,
        joinGroups_concat, hhigh, ih, hlow]
      show _ = n % (Nat.pow b k * b)
      rw [Nat.mul_comm (Nat.pow b k) b, Nat.mod_mul, Nat.add_comm]

theorem hextetsValue_toDigits {hs : List Nat} (h : ∀ g ∈ hs, g < 65536) :
    hextetsValue (hs.map (Nat.toDigits 16)) = some (joinGroups 65536 hs) := by
  induction hs using List.reverseRecOn with
  | nil => rfl
  | append_singleton hs g ih =>
      have hg : g < 65536 := h g (by simp)
      have hread := ih fun g hg => h g (List.mem_append_left _ hg)
      rw [hextetsValue] at hread
      rw [hextetsValue, List.map_append, List.foldlM_append, hread,
        joinGroups_concat]
      simp [parseHextet_toDigits hg]

/-! ## Version 4 -/

theorem parseIPv4_render (ip : BitVec 32) :
    parseIPv4 (renderIPv4 ip) = some ip := by
  have hdot : ∀ part ∈ (octets ip).map (Nat.toDigits 10), '.' ∉ part := by
    intro part hpart
    obtain ⟨n, -, rfl⟩ := List.mem_map.mp hpart
    exact not_mem_toDigits (by decide) (by decide)
  have hoctet (n : Nat) : parseOctet (Nat.toDigits 10 (n % 256))
      = some (n % 256) := parseOctet_toDigits (Nat.mod_lt _ (by decide))
  have hlt := ip.isLt
  rw [parseIPv4, renderIPv4, List.splitOn_intercalate '.' hdot (by simp [octets])]
  simp only [octets, List.map_cons, List.map_nil, hoctet, Option.bind_eq_bind,
    Option.bind_some, Option.some.injEq]
  apply BitVec.eq_of_toNat_eq
  rw [BitVec.toNat_ofNat]
  omega

/-! ## Version 6 -/

/-- The parts of an end of the text: an end without groups is empty. -/
def endParts (hs : List Nat) : List (List Char) :=
  if hs = [] then [[]] else hs.map (Nat.toDigits 16)

/-- The parts of a text from which one run of zeros is left out. -/
def withoutRun (before after : List Nat) : List (List Char) :=
  endParts before ++ [] :: endParts after

theorem endParts_length (hs : List Nat) :
    (endParts hs).length = if hs = [] then 1 else hs.length := by
  unfold endParts
  split <;> simp

theorem endParts_pos (hs : List Nat) : 0 < (endParts hs).length := by
  rw [endParts_length]
  split
  · omega
  · next hne => exact List.length_pos_iff.mpr hne

theorem not_mem_endParts {hs : List Nat} {c : Char} {part : List Char}
    (hc : ∀ d, d < 16 → d.digitChar ≠ c) (h : part ∈ endParts hs) :
    c ∉ part := by
  unfold endParts at h
  split at h
  · rw [List.mem_singleton.mp h]
    exact List.not_mem_nil
  · obtain ⟨n, -, rfl⟩ := List.mem_map.mp h
    exact not_mem_toDigits (by decide) hc

theorem not_mem_withoutRun {before after : List Nat} {c : Char}
    {part : List Char} (hc : ∀ d, d < 16 → d.digitChar ≠ c)
    (h : part ∈ withoutRun before after) : c ∉ part := by
  rcases List.mem_append.mp h with h | h
  · exact not_mem_endParts hc h
  · rcases List.mem_cons.mp h with rfl | h
    · exact List.not_mem_nil
    · exact not_mem_endParts hc h

theorem endParts_isEmpty {hs : List Nat} {i : Nat}
    (h : i < (endParts hs).length) :
    ((endParts hs).getD i []).isEmpty = decide (hs = []) := by
  unfold endParts at h ⊢
  by_cases hnil : hs = []
  · rw [if_pos hnil] at h ⊢
    obtain rfl : i = 0 := by simpa using h
    simp [hnil]
  · rw [if_neg hnil] at h ⊢
    rw [List.getD_eq_getElem _ _ h, List.getElem_map]
    simp [hnil]

theorem withoutRun_length (before after : List Nat) :
    (withoutRun before after).length
      = (endParts before).length + 1 + (endParts after).length := by
  rw [withoutRun, List.length_append, List.length_cons]
  omega

/-- The only empty part between the ends is the run. -/
theorem skipIndices_withoutRun (before after : List Nat) :
    skipIndices (withoutRun before after) = [(endParts before).length] := by
  have hbefore := endParts_length before
  have hafter := endParts_length after
  have hlength := withoutRun_length before after
  have hskip (i : Nat) (hi : i < (withoutRun before after).length) :
      (decide (0 < i) && decide (i + 1 < (withoutRun before after).length)
        && ((withoutRun before after).getD i []).isEmpty)
      = decide (i = (endParts before).length) := by
    rcases Nat.lt_trichotomy i (endParts before).length with hlt | heq | hgt
    · -- in front of the run only an end is empty
      have hpart : (withoutRun before after).getD i []
          = (endParts before).getD i [] := List.getD_append _ _ _ _ hlt
      rw [hpart, endParts_isEmpty hlt]
      by_cases hnil : before = []
      · rw [if_pos hnil] at hbefore
        simp [show i = 0 by omega, hbefore]
      · simp [hnil, Nat.ne_of_lt hlt]
    · have hpart : (withoutRun before after).getD i [] = [] := by
        rw [withoutRun, List.getD_append_right _ _ _ _ (by omega), heq,
          Nat.sub_self, List.getD_cons_zero]
      have hpos := endParts_pos before
      have hpos' := endParts_pos after
      rw [hpart, heq, hlength]
      simp only [List.isEmpty_nil, Bool.and_true, decide_true, Bool.and_eq_true,
        decide_eq_true_eq]
      omega
    · obtain ⟨j, rfl⟩ : ∃ j, i = (endParts before).length + (j + 1) :=
        ⟨i - (endParts before).length - 1, by omega⟩
      have hpart : (withoutRun before after).getD
          ((endParts before).length + (j + 1)) [] = (endParts after).getD j [] := by
        rw [withoutRun, List.getD_append_right _ _ _ _ (by omega),
          Nat.add_sub_cancel_left, List.getD_cons_succ]
      have hj : j < (endParts after).length := by omega
      rw [hpart, endParts_isEmpty hj]
      by_cases hnil : after = []
      · rw [if_pos hnil] at hafter
        have hlast : ¬ (endParts before).length + (j + 1) + 1
            < (withoutRun before after).length := by omega
        simp [hlast]
      · simp [hnil]
  have hmem : (endParts before).length < (withoutRun before after).length := by
    rw [hlength]
    omega
  rw [skipIndices, List.filter_congr fun i hi => hskip i (List.mem_range.mp hi)]
  rw [List.filter_eq, List.count_range, if_pos hmem]
  rfl

theorem endParts_head (hs : List Nat) :
    (endParts hs).head?.any (·.isEmpty) = decide (hs = []) := by
  cases hs with
  | nil => rfl
  | cons h hs => simp [endParts]

theorem endParts_getLast (hs : List Nat) :
    (endParts hs).getLast?.any (·.isEmpty) = decide (hs = []) := by
  induction hs using List.reverseRecOn with
  | nil => rfl
  | append_singleton hs h => simp [endParts]

theorem withoutRun_head (before after : List Nat) :
    (withoutRun before after).head?.any (·.isEmpty) = decide (before = []) := by
  have hne : endParts before ≠ [] := List.length_pos_iff.mp (endParts_pos before)
  rw [withoutRun, List.head?_append_of_ne_nil _ hne, endParts_head]

theorem withoutRun_getLast (before after : List Nat) :
    (withoutRun before after).getLast?.any (·.isEmpty) = decide (after = []) := by
  obtain ⟨part, parts, hparts⟩ := List.exists_cons_of_ne_nil
    (List.length_pos_iff.mp (endParts_pos after))
  rw [← endParts_getLast after, withoutRun, hparts, List.getLast?_append_cons,
    List.getLast?_cons_cons]

theorem withoutRun_take (before after : List Nat) :
    (withoutRun before after).take before.length
      = before.map (Nat.toDigits 16) := by
  by_cases hnil : before = []
  · subst hnil
    rfl
  · rw [withoutRun, endParts, if_neg hnil]
    exact List.take_left' (List.length_map _)

theorem withoutRun_drop (before after : List Nat) :
    (withoutRun before after).drop
        ((withoutRun before after).length - after.length)
      = after.map (Nat.toDigits 16) := by
  by_cases hnil : after = []
  · subst hnil
    rw [List.length_nil, Nat.sub_zero, List.drop_length]
    rfl
  · have hend : endParts after = after.map (Nat.toDigits 16) := if_neg hnil
    have hsplit : withoutRun before after
        = (endParts before ++ [[]]) ++ after.map (Nat.toDigits 16) := by
      rw [withoutRun, hend, List.append_assoc]
      rfl
    rw [hsplit]
    refine List.drop_left' ?_
    simp only [List.length_append, List.length_singleton, List.length_map]
    omega

theorem embedIPv4_of_not_mem {parts : List (List Char)}
    (h : ∀ part ∈ parts, '.' ∉ part) : embedIPv4 parts = some parts := by
  unfold embedIPv4
  cases hlast : parts.getLast? with
  | none => rfl
  | some last =>
      have hfree := h last (List.mem_of_getLast? hlast)
      have hcontains : last.contains '.' = false := by
        simpa using hfree
      simp only [hcontains, Bool.false_eq_true, if_false]

theorem isNotHex (c : Char) (hc : ∀ d : Fin 16, Nat.digitChar d ≠ c) :
    ∀ d, d < 16 → d.digitChar ≠ c :=
  fun d hd => hc ⟨d, hd⟩

/-- **The reader fills in the run that was left out.** -/
theorem parseIPv6Value_withoutRun {before after : List Nat}
    (hlength : before.length + after.length + 2 ≤ 8)
    (hbefore : ∀ g ∈ before, g < 65536) (hafter : ∀ g ∈ after, g < 65536) :
    parseIPv6Value ([':'].intercalate (withoutRun before after))
      = some (joinGroups 65536 (before
        ++ List.replicate (8 - before.length - after.length) 0 ++ after)) := by
  have hends := endParts_length before
  have hends' := endParts_length after
  have hparts := withoutRun_length before after
  have hsplit : ([':'].intercalate (withoutRun before after)).splitOn ':'
      = withoutRun before after := by
    refine List.splitOn_intercalate ':' (fun part hpart =>
      not_mem_withoutRun (isNotHex _ (by decide)) hpart) ?_
    exact List.length_pos_iff.mp (by omega)
  have hembed : embedIPv4 (withoutRun before after)
      = some (withoutRun before after) :=
    embedIPv4_of_not_mem fun part hpart =>
      not_mem_withoutRun (isNotHex _ (by decide)) hpart
  have hlong : 3 ≤ (withoutRun before after).length := by
    have hpos := endParts_pos before
    have hpos' := endParts_pos after
    omega
  have hshort : (withoutRun before after).length ≤ 9 := by
    rw [hparts, hends, hends']
    split <;> split <;> omega
  have hhi : (if decide (before = []) = true then (endParts before).length - 1
      else (endParts before).length) = before.length := by
    rw [hends]
    by_cases hnil : before = [] <;> simp [hnil]
  have hlo : (withoutRun before after).length - (endParts before).length - 1
      - (if decide (after = []) = true then 1 else 0) = after.length := by
    rw [hparts, hends']
    by_cases hnil : after = [] <;> simp [hnil] <;> omega
  have hhigh := hextetsValue_toDigits hbefore
  have hlow := hextetsValue_toDigits hafter
  have hvalue : joinGroups 65536 (before
        ++ List.replicate (8 - before.length - after.length) 0 ++ after)
      = joinGroups 65536 before * Nat.pow 65536 (8 - before.length)
        + joinGroups 65536 after := by
    have hfill : (List.replicate (8 - before.length - after.length) 0
        ++ after).length = 8 - before.length := by
      rw [List.length_append, List.length_replicate]
      omega
    rw [List.append_assoc, joinGroups_append, hfill, joinGroups_append,
      joinGroups_zeros, Nat.zero_mul, Nat.zero_add]
  have hleading : ¬ (decide (before = []) = true ∧ (endParts before).length ≠ 1) := by
    rw [hends]
    by_cases hnil : before = [] <;> simp [hnil]
  have htrailing : ¬ (decide (after = []) = true ∧
      (endParts before).length + 2 ≠ (withoutRun before after).length) := by
    rw [hparts, hends']
    by_cases hnil : after = [] <;> simp [hnil]
  unfold parseIPv6Value
  simp only [hsplit, hembed, skipIndices_withoutRun, withoutRun_head,
    withoutRun_getLast, Option.bind_eq_bind, Option.bind_some]
  rw [if_neg (Nat.not_lt.mpr hlong), if_neg (Nat.not_lt.mpr hshort)]
  simp only [hhi, hlo, withoutRun_take, withoutRun_drop, hhigh, hlow]
  rw [if_neg (by simpa using hleading), if_neg (by simpa using htrailing),
    if_neg (by omega), hvalue]
  rfl

/-- A text without a run is read as its groups. -/
theorem parseIPv6Value_plain {hs : List Nat} (hlength : hs.length = 8)
    (hs_lt : ∀ g ∈ hs, g < 65536) :
    parseIPv6Value ([':'].intercalate (hs.map (Nat.toDigits 16)))
      = some (joinGroups 65536 hs) := by
  have hfree {c : Char} (hc : ∀ d : Fin 16, Nat.digitChar d ≠ c) :
      ∀ part ∈ hs.map (Nat.toDigits 16), c ∉ part := by
    intro part hpart
    obtain ⟨n, -, rfl⟩ := List.mem_map.mp hpart
    exact not_mem_toDigits (by decide) (isNotHex c hc)
  have hsplit := List.splitOn_intercalate ':' (hfree (by decide))
    (by simp [← List.length_pos_iff, hlength])
  have hembed := embedIPv4_of_not_mem (hfree (c := '.') (by decide))
  have hfull : ∀ part ∈ hs.map (Nat.toDigits 16), part.isEmpty = false := by
    intro part hpart
    obtain ⟨n, -, rfl⟩ := List.mem_map.mp hpart
    exact List.isEmpty_eq_false_iff.mpr Nat.toDigits_ne_nil
  have hskip : skipIndices (hs.map (Nat.toDigits 16)) = [] := by
    refine List.filter_eq_nil_iff.mpr fun i hi => ?_
    have hlt := List.mem_range.mp hi
    rw [List.getD_eq_getElem _ _ hlt, hfull _ (List.getElem_mem hlt)]
    simp
  have hhead : (hs.map (Nat.toDigits 16)).head?.any (·.isEmpty) = false := by
    cases hpart : (hs.map (Nat.toDigits 16)).head? with
    | none => rfl
    | some part => exact hfull part (List.mem_of_mem_head? hpart)
  have hlast : (hs.map (Nat.toDigits 16)).getLast?.any (·.isEmpty) = false := by
    cases hpart : (hs.map (Nat.toDigits 16)).getLast? with
    | none => rfl
    | some part => exact hfull part (List.mem_of_getLast? hpart)
  unfold parseIPv6Value
  simp only [hsplit, hembed, hskip, hhead, hlast, Option.bind_eq_bind,
    Option.bind_some, List.length_map, hlength]
  exact hextetsValue_toDigits hs_lt

/-! ## The run that is left out -/

/-- What the scan has found among the first `index` groups. -/
structure ZeroRun.Found (hs : List Nat) (index : Nat) (r : ZeroRun) : Prop where
  within : r.bestStart + r.bestLength ≤ index
  zeros : ∀ i, r.bestStart ≤ i → i < r.bestStart + r.bestLength →
    hs[i]? = some 0
  open_le : r.length ≤ index
  open_zeros : ∀ i, index - r.length ≤ i → i < index → hs[i]? = some 0

theorem ZeroRun.Found.scan {hs : List Nat} {index h : Nat} {r : ZeroRun}
    (hf : r.Found hs index) (hh : hs[index]? = some h) :
    (r.scan index h).Found hs (index + 1) := by
  have hwithin := hf.within
  have hopen := hf.open_le
  have hzeros (hzero : h = 0) (i : Nat) (hle : index - r.length ≤ i)
      (hlt : i < index + 1) : hs[i]? = some 0 := by
    rcases Nat.lt_succ_iff_lt_or_eq.mp hlt with hlt | rfl
    · exact hf.open_zeros i hle hlt
    · rw [hh, hzero]
  unfold ZeroRun.scan
  by_cases hzero : h = 0
  · rw [if_pos hzero]
    by_cases hbest : r.bestLength < r.length + 1
    · rw [if_pos hbest]
      refine ⟨by dsimp only; omega, fun i hle hlt => ?_, by dsimp only; omega,
        fun i hle hlt => ?_⟩
      all_goals dsimp only at hle hlt; exact hzeros hzero i (by omega) (by omega)
    · rw [if_neg hbest]
      refine ⟨by dsimp only; omega, hf.zeros, by dsimp only; omega,
        fun i hle hlt => ?_⟩
      dsimp only at hle
      exact hzeros hzero i (by omega) hlt
  · rw [if_neg hzero]
    refine ⟨by dsimp only; omega, hf.zeros, Nat.zero_le _, fun i hle hlt => ?_⟩
    dsimp only at hle
    omega

theorem longestZeroRun_found (hs : List Nat) :
    (longestZeroRun hs).Found hs hs.length := by
  have hscan (done rest : List Nat) (r : ZeroRun)
      (hf : r.Found (done ++ rest) done.length) :
      ((rest.zipIdx done.length).foldl (fun r p => r.scan p.2 p.1) r).Found
        (done ++ rest) (done ++ rest).length := by
    induction rest generalizing done r with
    | nil => simpa using hf
    | cons h rest ih =>
        have hnext := hf.scan (h := h) (by simp)
        have hstep := ih (done ++ [h]) (r.scan done.length h)
          (by simpa using hnext)
        simpa using hstep
  exact hscan [] hs ⟨0, 0, 0⟩ ⟨Nat.le_refl _, fun i _ hlt => by simp at hlt,
    Nat.le_refl _, fun i _ hlt => by simp at hlt⟩

/-- The groups around the run, and the run. -/
theorem groups_eq {hs : List Nat} {start length : Nat}
    (hzeros : ∀ i, start ≤ i → i < start + length → hs[i]? = some 0) :
    hs.take start ++ List.replicate length 0 ++ hs.drop (start + length)
      = hs := by
  have hrun : (hs.drop start).take length = List.replicate length 0 := by
    refine List.ext_getElem? fun i => ?_
    rw [List.getElem?_replicate]
    by_cases hi : i < length
    · rw [if_pos hi, List.getElem?_take_of_lt hi, List.getElem?_drop]
      exact hzeros (start + i) (by omega) (by omega)
    · rw [if_neg hi, List.getElem?_take, if_neg hi]
  rw [← hrun, List.append_assoc, ← List.drop_drop, List.take_append_drop,
    List.take_append_drop]

theorem hextets_length (ip : BitVec 128) : (hextets ip).length = 8 := by
  simp [hextets]

theorem hextets_lt (ip : BitVec 128) : ∀ g ∈ hextets ip, g < 65536 := by
  intro g hg
  obtain ⟨i, -, rfl⟩ := List.mem_map.mp hg
  exact Nat.mod_lt _ (by decide)

theorem joinGroups_hextets (ip : BitVec 128) :
    joinGroups 65536 (hextets ip) = ip.toNat := by
  rw [hextets, joinGroups_range 65536 ip.toNat 8]
  exact Nat.mod_eq_of_lt ip.isLt

theorem endParts_take {hs : List Nat} (hne : hs ≠ []) (start : Nat) :
    endParts (hs.take start) = (if start = 0 then [[]] else [])
      ++ (hs.map (Nat.toDigits 16)).take start := by
  by_cases hstart : start = 0
  · simp [hstart, endParts]
  · have htake : hs.take start ≠ [] := by
      rw [Ne, List.take_eq_nil_iff]
      tauto
    rw [endParts, if_neg htake, if_neg hstart, List.map_take, List.nil_append]

theorem endParts_drop {hs : List Nat} {stop : Nat} (hstop : stop ≤ hs.length) :
    endParts (hs.drop stop) = (hs.map (Nat.toDigits 16)).drop stop
      ++ (if stop = hs.length then [[]] else []) := by
  by_cases hlast : stop = hs.length
  · simp [hlast, endParts]
  · have hdrop : hs.drop stop ≠ [] := by
      rw [Ne, List.drop_eq_nil_iff]
      omega
    rw [endParts, if_neg hdrop, if_neg hlast, List.map_drop, List.append_nil]

/-- The printed parts are all the groups, or those around a run of zeros. -/
theorem renderIPv6_eq (ip : BitVec 128) :
    (renderIPv6 ip = [':'].intercalate ((hextets ip).map (Nat.toDigits 16))) ∨
    ∃ before after, renderIPv6 ip = [':'].intercalate (withoutRun before after) ∧
      before.length + after.length + 2 ≤ 8 ∧
      before ++ List.replicate (8 - before.length - after.length) 0 ++ after
        = hextets ip := by
  have hlength := hextets_length ip
  have hf := longestZeroRun_found (hextets ip)
  have hwithin := hf.within
  by_cases hrun : 1 < (longestZeroRun (hextets ip)).bestLength
  · right
    refine ⟨(hextets ip).take (longestZeroRun (hextets ip)).bestStart,
      (hextets ip).drop ((longestZeroRun (hextets ip)).bestStart
        + (longestZeroRun (hextets ip)).bestLength), ?_, ?_, ?_⟩
    · rw [renderIPv6, if_pos hrun]
      have hne : hextets ip ≠ [] := List.length_pos_iff.mp (by omega)
      rw [withoutRun, endParts_take hne, endParts_drop hwithin]
      simp only [List.append_assoc, List.cons_append]
    · rw [List.length_take, List.length_drop]
      omega
    · rw [List.length_take, List.length_drop]
      have hcount : 8 - min (longestZeroRun (hextets ip)).bestStart
            (hextets ip).length
          - ((hextets ip).length - ((longestZeroRun (hextets ip)).bestStart
            + (longestZeroRun (hextets ip)).bestLength))
          = (longestZeroRun (hextets ip)).bestLength := by omega
      rw [hcount]
      exact groups_eq hf.zeros
  · left
    rw [renderIPv6, if_neg hrun]

theorem parseIPv6Value_render (ip : BitVec 128) :
    parseIPv6Value (renderIPv6 ip) = some ip.toNat := by
  rcases renderIPv6_eq ip with heq | ⟨before, after, heq, hlength, hgroups⟩
  · rw [heq, parseIPv6Value_plain (hextets_length ip) (hextets_lt ip),
      joinGroups_hextets]
  · have hlt : ∀ g ∈ before ++ List.replicate (8 - before.length - after.length) 0
        ++ after, g < 65536 := hgroups ▸ hextets_lt ip
    rw [heq, parseIPv6Value_withoutRun hlength
      (fun g hg => hlt g (by simp [hg])) (fun g hg => hlt g (by simp [hg])),
      hgroups, joinGroups_hextets]

theorem not_mem_intercalate {c sep : Char} {parts : List (List Char)}
    (hsep : sep ≠ c) (hparts : ∀ part ∈ parts, c ∉ part) :
    c ∉ [sep].intercalate parts := by
  induction parts with
  | nil => simp
  | cons part parts ih =>
      have hrest := ih fun q hq => hparts q (List.mem_cons_of_mem _ hq)
      have hfirst := hparts part (List.mem_cons_self ..)
      cases parts with
      | nil => simpa using hfirst
      | cons q parts =>
          rw [List.intercalate_cons_cons]
          simp only [List.mem_append, List.mem_singleton, not_or]
          exact ⟨⟨hfirst, Ne.symm hsep⟩, hrest⟩

/-- A printed address has only digits and colons. -/
theorem not_mem_renderIPv6 {c : Char} (ip : BitVec 128)
    (hc : ∀ d : Fin 16, Nat.digitChar d ≠ c) (hcolon : ':' ≠ c) :
    c ∉ renderIPv6 ip := by
  rcases renderIPv6_eq ip with heq | ⟨before, after, heq, -, -⟩
  · rw [heq]
    refine not_mem_intercalate hcolon fun part hpart => ?_
    obtain ⟨n, -, rfl⟩ := List.mem_map.mp hpart
    exact not_mem_toDigits (by decide) (isNotHex c hc)
  · rw [heq]
    exact not_mem_intercalate hcolon fun part hpart =>
      not_mem_withoutRun (isNotHex c hc) hpart

theorem mem_intercalate_of_two {c : Char} {part q : List Char}
    {parts : List (List Char)} : c ∈ [c].intercalate (part :: q :: parts) := by
  rw [List.intercalate_cons_cons]
  simp

theorem colon_mem_renderIPv6 (ip : BitVec 128) : ':' ∈ renderIPv6 ip := by
  have hjoin (parts : List (List Char)) (hlong : 2 ≤ parts.length) :
      ':' ∈ [':'].intercalate parts := by
    match parts with
    | _ :: _ :: _ => exact mem_intercalate_of_two
  rcases renderIPv6_eq ip with heq | ⟨before, after, heq, -, -⟩
  · rw [heq]
    refine hjoin _ ?_
    rw [List.length_map, hextets_length]
    decide
  · rw [heq]
    refine hjoin _ ?_
    have hpos := endParts_pos before
    rw [withoutRun_length]
    omega

theorem parseOctet_of_colon {text : List Char} (h : ':' ∈ text) :
    parseOctet text = none := by
  have hdigits : allDigits text = false := by
    rw [allDigits, Bool.and_eq_false_iff, List.all_eq_false]
    exact .inr ⟨':', h, by decide⟩
  rw [parseOctet, hdigits]
  rfl

/-- In front of any dot there is a colon. -/
theorem parseIPv4_renderIPv6 (ip : BitVec 128) (rest : List Char) :
    parseIPv4 (renderIPv6 ip ++ rest) = none := by
  have hdot := not_mem_renderIPv6 (c := '.') ip (by decide) (by decide)
  have hcolon := colon_mem_renderIPv6 ip
  have hfirst : ∃ part parts, (renderIPv6 ip ++ rest).splitOn '.' = part :: parts
      ∧ ':' ∈ part := by
    by_cases hrest : '.' ∈ rest
    · obtain ⟨as, bs, hsplit, hfree⟩ := List.eq_append_cons_of_mem hrest
      refine ⟨renderIPv6 ip ++ as, bs.splitOn '.', ?_,
        List.mem_append_left _ hcolon⟩
      rw [hsplit, ← List.append_assoc]
      exact List.splitOn_append_cons_self_of_not_mem (by simp [hdot, hfree]) bs
    · exact ⟨_, [], List.splitOn_eq_singleton (by simp [hdot, hrest]),
        List.mem_append_left _ hcolon⟩
  obtain ⟨part, parts, hsplit, hmem⟩ := hfirst
  unfold parseIPv4
  rw [hsplit]
  split
  · next heq =>
    cases heq
    rw [parseOctet_of_colon hmem]
    rfl
  · rfl

/-! ## Addresses -/

/-- A scope that can be written behind an address. -/
def IPAddress.Printable : IPAddress → Prop
  | .v6 _ (some scope) => scope ≠ [] ∧ '%' ∉ scope ∧ '/' ∉ scope
  | _ => True

/-- **Every address that is printed is read back.** -/
theorem parseIPAddress_render {address : IPAddress} (h : address.Printable) :
    parseIPAddress address.render = some address := by
  cases address with
  | v4 ip => rw [IPAddress.render, parseIPAddress, parseIPv4_render]
  | v6 ip scope =>
      have hslash := not_mem_renderIPv6 (c := '/') ip (by decide) (by decide)
      have hpercent := not_mem_renderIPv6 (c := '%') ip (by decide) (by decide)
      have hip : BitVec.ofNat 128 ip.toNat = ip := by simp
      cases scope with
      | none =>
          have hv4 := parseIPv4_renderIPv6 ip []
          rw [List.append_nil] at hv4
          rw [IPAddress.render, parseIPAddress, hv4]
          dsimp only
          rw [parseIPv6, if_neg (by simpa using hslash), splitScope,
            List.splitOn_eq_singleton hpercent]
          simp [parseIPv6Value_render, hip]
      | some scope =>
          obtain ⟨hne, hscope, hslash'⟩ := h
          rw [IPAddress.render, parseIPAddress, parseIPv4_renderIPv6]
          dsimp only
          rw [parseIPv6, if_neg (by simp [hslash, hslash']), splitScope,
            List.splitOn_append_cons_self_of_not_mem hpercent,
            List.splitOn_eq_singleton hscope]
          simp [parseIPv6Value_render, hip, hne]

theorem not_mem_of_mem_splitOn {c : Char} {text part : List Char}
    (h : part ∈ text.splitOn c) : c ∉ part := by
  intro hmem
  rw [List.splitOn_eq_splitOnP] at h
  have hfree := of_mem_splitOnP h c hmem
  simp at hfree

theorem splitScope_printable {text addr : List Char}
    {scope : Option (List Char)} {ip : BitVec 128} (hslash : '/' ∉ text)
    (h : splitScope text = some (addr, scope)) :
    (IPAddress.v6 ip scope).Printable := by
  unfold splitScope at h
  split at h
  · cases h
    trivial
  · next addr' scope' hsplit =>
    split at h
    · cases h
    · next hempty =>
      cases h
      have htext : text = addr ++ '%' :: scope' := by
        have hjoin : ['%'].intercalate (text.splitOn '%') = text :=
          List.intercalate_splitOn '%'
        rw [hsplit] at hjoin
        simpa using hjoin.symm
      have hmem : scope' ∈ text.splitOn '%' := by
        rw [hsplit]
        simp
      have hfree : '%' ∉ scope' := not_mem_of_mem_splitOn hmem
      refine ⟨by simpa using hempty, hfree, fun hmem => hslash ?_⟩
      simp [htext, hmem]
  · cases h

/-- What is read can be printed. -/
theorem printable_of_parse {text : List Char} {address : IPAddress}
    (h : parseIPAddress text = some address) : address.Printable := by
  unfold parseIPAddress at h
  split at h
  · cases h
    trivial
  · unfold parseIPv6 at h
    split at h
    · cases h
    · next hslash =>
      obtain ⟨⟨addr, scope⟩, hscope, h⟩ := Option.bind_eq_some_iff.mp h
      obtain ⟨n, -, h⟩ := Option.bind_eq_some_iff.mp h
      cases h
      exact splitScope_printable (by simpa using hslash) hscope

end CallingAgent.Lib
