import Mathlib
import PlatformLayer.DescriptorSet
/-!
# Descriptor sets as sets of descriptors

`contains fd` reads bit `fd % 64` of word `fd / 64`. Main statements: inserting a descriptor of
`[0, 1024)` adds exactly it, erasing one removes exactly it, and `below max` lists the members
under `max`, ascending and each once.
-/
namespace PlatformLayer.DescriptorSet

theorem toNat_bit {b : Nat} (hb : b < 64) : (bit b).toNat = 2 ^ b := by
  have hb' : b.toUInt64.toNat = b := by simp; omega
  rw [bit, UInt64.toNat_shiftLeft, hb', Nat.mod_eq_of_lt hb, UInt64.toNat_one, Nat.one_shiftLeft]
  exact Nat.mod_eq_of_lt (Nat.pow_lt_pow_right (by norm_num) hb)

/-- Testing bit `b` of a word by shifting and masking is reading bit `b` of its value. -/
theorem test_eq_testBit (x : UInt64) {b : Nat} (hb : b < 64) :
    ((x >>> b.toUInt64) &&& 1 != 0) = x.toNat.testBit b := by
  have hb' : b.toUInt64.toNat = b := by simp; omega
  rw [Nat.testBit, Nat.and_comm]
  have h : (x >>> b.toUInt64 &&& 1 == 0) = (x.toNat >>> b &&& 1 == 0) := by
    rw [Bool.eq_iff_iff, beq_iff_eq, beq_iff_eq, ← UInt64.toNat_inj]
    simp [UInt64.toNat_shiftRight, hb', Nat.mod_eq_of_lt hb]
  simp only [bne, h]

theorem testBit_or_bit (x : UInt64) {b : Nat} (hb : b < 64) (b' : Nat) :
    (x ||| bit b).toNat.testBit b' = (x.toNat.testBit b' || decide (b = b')) := by
  rw [UInt64.toNat_or, Nat.testBit_or, toNat_bit hb, Nat.testBit_two_pow]

theorem testBit_not (y : UInt64) {b : Nat} (hb : b < 64) : (~~~y).toNat.testBit b = !y.toNat.testBit b := by
  rw [← UInt64.toNat_toBitVec, ← UInt64.toNat_toBitVec y, BitVec.testBit_toNat,
    BitVec.testBit_toNat, UInt64.toBitVec_not, BitVec.getLsbD_not]
  simp [hb]

theorem testBit_and_not_bit (x : UInt64) {b b' : Nat} (hb : b < 64) (hb' : b' < 64) :
    (x &&& ~~~(bit b)).toNat.testBit b' = (x.toNat.testBit b' && !decide (b = b')) := by
  rw [UInt64.toNat_and, Nat.testBit_and, testBit_not _ hb', toNat_bit hb, Nat.testBit_two_pow]

theorem words_get_set (v : Vector UInt64 16) (i : Nat) (hi : i < 16) (j : Fin 16) (x : UInt64) :
    (v.set i x hi).get j = if i = j.val then x else v.get j := by
  show (v.set i x hi)[j] = if i = j.val then x else v[j]
  simp [Vector.getElem_set]

theorem slot?_of_range {fd : Int} (h0 : 0 ≤ fd) (h1 : fd < 1024) :
    slot? fd = some (⟨fd.toNat / 64, by omega⟩, fd.toNat % 64) := by
  simp [slot?, h0, h1]

theorem contains_range {s : DescriptorSet} {fd : Int} (h : s.contains fd) : 0 ≤ fd ∧ fd < 1024 := by
  by_contra hr
  rw [contains_out_of_range s (by omega)] at h
  exact Bool.false_ne_true h

/-- Two descriptors of the range are equal exactly when their words and bits are. -/
theorem eq_iff_slot {fd g : Int} (hf : 0 ≤ fd) (hg : 0 ≤ g) :
    g = fd ↔ fd.toNat / 64 = g.toNat / 64 ∧ fd.toNat % 64 = g.toNat % 64 := by
  omega

theorem contains_insert (s : DescriptorSet) {fd : Int} (h0 : 0 ≤ fd) (h1 : fd < 1024) (g : Int) :
    (s.insert fd).contains g = (s.contains g || decide (g = fd)) := by
  by_cases hg : 0 ≤ g ∧ g < 1024
  · simp only [insert, contains, slot?_of_range h0 h1, slot?_of_range hg.1 hg.2,
      test_eq_testBit _ (Nat.mod_lt _ (by norm_num : 0 < 64)), words_get_set]
    have hslot := eq_iff_slot h0 hg.1
    split_ifs with hw
    · rw [testBit_or_bit _ (Nat.mod_lt _ (by norm_num))]
      simp [hw, hslot]
    · simp [hslot, hw]
  · rw [contains_out_of_range _ (by omega), contains_out_of_range _ (by omega)]
    have hne : g ≠ fd := by omega
    simp [hne]

theorem contains_erase (s : DescriptorSet) (fd g : Int) :
    (s.erase fd).contains g = (s.contains g && !decide (g = fd)) := by
  by_cases hf : 0 ≤ fd ∧ fd < 1024
  · by_cases hg : 0 ≤ g ∧ g < 1024
    · simp only [erase, contains, slot?_of_range hf.1 hf.2, slot?_of_range hg.1 hg.2,
        test_eq_testBit _ (Nat.mod_lt _ (by norm_num : 0 < 64)), words_get_set]
      have hslot := eq_iff_slot hf.1 hg.1
      split_ifs with hw
      · rw [testBit_and_not_bit _ (Nat.mod_lt _ (by norm_num)) (Nat.mod_lt _ (by norm_num))]
        simp [hw, hslot]
      · simp [hslot, hw]
    · rw [contains_out_of_range _ (by omega), contains_out_of_range _ (by omega)]
      simp
  · rw [erase_out_of_range s (by omega)]
    by_cases hgf : g = fd
    · subst hgf
      simp [contains_out_of_range s (by omega : g < 0 ∨ 1024 ≤ g)]
    · simp [hgf]

theorem mem_below {s : DescriptorSet} {max fd : Int} : fd ∈ s.below max ↔ s.contains fd ∧ fd < max := by
  simp only [below, List.mem_filter, List.mem_map, List.mem_range, Int.ofNat_eq_natCast]
  constructor
  · rintro ⟨⟨n, hn, rfl⟩, hc⟩
    exact ⟨hc, by omega⟩
  · rintro ⟨hc, hlt⟩
    have hr := contains_range hc
    exact ⟨⟨fd.toNat, by omega, by omega⟩, hc⟩

/-- When, under `max`, `t` holds exactly the members of `s` that pass `p`, its members below
`max` are those of `s` that pass `p`. -/
theorem below_filter {s t : DescriptorSet} {max : Int} {p : Int → Bool}
    (h : ∀ fd, fd < max → t.contains fd = (s.contains fd && p fd)) :
    (s.below max).filter p = t.below max := by
  simp only [below, List.filter_filter]
  apply List.filter_congr
  intro x hx
  obtain ⟨n, hn, rfl⟩ := List.mem_map.1 hx
  have hlt : Int.ofNat n < max := by
    rw [List.mem_range] at hn
    simp only [Int.ofNat_eq_natCast]
    omega
  rw [h _ hlt, Bool.and_comm]

theorem below_nodup (s : DescriptorSet) (max : Int) : (s.below max).Nodup := by
  apply List.Nodup.filter
  exact (List.nodup_range).map (fun a b h => by simpa using h)

theorem below_sortedLT (s : DescriptorSet) (max : Int) : (s.below max).SortedLT := by
  apply List.Pairwise.sortedLT
  apply List.Pairwise.filter
  exact List.pairwise_map.2 (List.pairwise_lt_range.imp fun h => by simpa using h)

/-- The members of a set, as a finite set of descriptors. -/
def members (s : DescriptorSet) : Finset Int := s.toList.toFinset

@[simp] theorem mem_members {s : DescriptorSet} {fd : Int} : fd ∈ s.members ↔ s.contains fd := by
  simp only [members, toList, List.mem_toFinset, mem_below, and_iff_left_iff_imp]
  exact fun h => (contains_range h).2

theorem members_range {s : DescriptorSet} {fd : Int} (h : fd ∈ s.members) : 0 ≤ fd ∧ fd < 1024 :=
  contains_range (mem_members.1 h)

theorem members_insert (s : DescriptorSet) (fd : Int) :
    (s.insert fd).members = if 0 ≤ fd ∧ fd < 1024 then Insert.insert fd s.members else s.members := by
  split_ifs with h
  · ext g
    simp [contains_insert s h.1 h.2, or_comm]
  · rw [insert_out_of_range s (by omega)]

theorem members_erase (s : DescriptorSet) (fd : Int) : (s.erase fd).members = s.members.erase fd := by
  ext g
  simp [contains_erase, and_comm]

theorem contains_empty (fd : Int) : empty.contains fd = false := by
  unfold contains
  split
  · simp [empty, Vector.get]
  · rfl

@[simp] theorem members_empty : empty.members = ∅ := by
  ext g
  simp [contains_empty]

theorem count_eq_card (s : DescriptorSet) : s.count = s.members.card :=
  (List.toFinset_card_of_nodup (below_nodup s 1024)).symm

/-- The members below `max` are listed in ascending order, and only they. -/
theorem below_eq_sort (s : DescriptorSet) (max : Int) :
    s.below max = (s.members.filter (· < min max 1024)).sort := by
  apply (below_sortedLT s max).eq_of_mem_iff (Finset.sortedLT_sort _)
  intro fd
  simp only [mem_below, Finset.mem_sort, Finset.mem_filter, mem_members, lt_min_iff,
    and_congr_right_iff]
  intro h
  simp [(contains_range h).2]

end PlatformLayer.DescriptorSet
