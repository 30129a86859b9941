import Mathlib
import PlatformLayer.Proofs.DescriptorSet
import PlatformLayer.Host.Network
/-!
# Descriptor sets across the kernel's layout

The host backend hands each set of a select to the kernel in the kernel's layout and reads the
kernel's answer back over the caller's set. Main statement (`lawful_translates_below`): over every
lawful layout and for every bound up to 1024, a set goes to the layout as exactly its members
below the bound (and no set as none), a kernel's set comes back as exactly its members below the
bound, neither way addresses a word the layout does not have, and so a kernel that hands the sets
back unchanged narrows each given set to its members below the bound. The host kernel's layout
of 16 signed 64-bit words is lawful (`KernelFdSet.layout_lawful`).
-/
namespace PlatformLayer

namespace DescriptorSet

/-- A descriptor set is determined by its members: each bit of each word is some descriptor's. -/
theorem eq_of_contains {s t : DescriptorSet} (h : ∀ fd, s.contains fd = t.contains fd) :
    s = t := by
  obtain ⟨sw⟩ := s
  obtain ⟨tw⟩ := t
  congr 1
  apply Vector.ext
  intro w hw
  apply UInt64.toNat_inj.1
  apply Nat.eq_of_testBit_eq
  intro b
  by_cases hb : b < 64
  · -- bit `b` of word `w` is descriptor `64 * w + b`
    have hfd := h (64 * w + b)
    have hq : (64 * (w : Int) + b).toNat / 64 = w := by omega
    have hr : (64 * (w : Int) + b).toNat % 64 = b := by omega
    simp only [contains, slot?_of_range (by omega : (0 : Int) ≤ 64 * w + b) (by omega),
      hq, hr] at hfd
    rw [test_eq_testBit _ hb, test_eq_testBit _ hb] at hfd
    exact hfd
  · have h64 : 2 ^ 64 ≤ 2 ^ b := Nat.pow_le_pow_right (by norm_num) (by omega)
    rw [Nat.testBit_lt_two_pow (lt_of_lt_of_le (UInt64.toNat_lt _) h64),
      Nat.testBit_lt_two_pow (lt_of_lt_of_le (UInt64.toNat_lt _) h64)]

theorem contains_foldl_insert (s : DescriptorSet) {l : List Int}
    (hl : ∀ fd ∈ l, 0 ≤ fd ∧ fd < 1024) (g : Int) :
    (l.foldl insert s).contains g = (s.contains g || decide (g ∈ l)) := by
  induction l generalizing s with
  | nil => simp
  | cons fd l ih =>
    obtain ⟨h0, h1⟩ := hl fd (by simp)
    rw [List.foldl_cons, ih _ (fun x hx => hl x (by simp [hx])), contains_insert s h0 h1]
    simp [Bool.or_assoc]

/-- The restriction of a set to `max` holds its members below `max`. -/
theorem contains_restrict (s : DescriptorSet) (max g : Int) :
    (s.restrict max).contains g = (s.contains g && decide (g < max)) := by
  rw [restrict, ofList,
    contains_foldl_insert empty (fun fd hfd => contains_range (mem_below.1 hfd).1), contains_empty]
  simp [mem_below]

end DescriptorSet

namespace KernelFdSet

theorem word_lt {fd : Int} (h0 : 0 ≤ fd) (h1 : fd < 1024) : fd.toNat / 64 < 16 := by
  omega

theorem slot?_of_range {fd : Int} (h0 : 0 ≤ fd) (h1 : fd < 1024) :
    slot? fd = some (⟨fd.toNat / 64, word_lt h0 h1⟩, fd.toNat % 64) := by
  have hq : fd.tdiv 64 = fd / 64 := Int.tdiv_eq_ediv_of_nonneg h0
  simp only [slot?, hq]
  rw [dif_pos (by omega)]
  simp only [Option.some.injEq, Prod.mk.injEq, Fin.mk.injEq]
  omega

theorem toBitVec_bit {b : Nat} (hb : b < 64) : (bit b).toBitVec = BitVec.twoPow 64 b := by
  -- the shift amount is taken modulo 64 as a signed word, which leaves `b` alone
  have hmsb : (BitVec.ofNat 64 b).msb = false := by
    rw [BitVec.msb_eq_false_iff_two_mul_lt]
    simp
    omega
  have h64 : (64#64).msb = false := by decide
  have hamount : ((BitVec.ofNat 64 b).smod 64).toNat = b := by
    rw [BitVec.toNat_smod]
    simp [hmsb, h64, BitVec.toNat_umod]
    omega
  have hb' : b.toInt64.toBitVec = BitVec.ofNat 64 b := by
    simp [Nat.toInt64, Int64.ofNat]
    rfl
  rw [bit, Int64.toBitVec_shiftLeft, Int64.toBitVec_one, hb', BitVec.shiftLeft_eq', hamount]
  rfl

theorem test_bit (x : Int64) {b : Nat} (hb : b < 64) :
    (x &&& bit b != 0) = x.toBitVec.getLsbD b := by
  have hand : (x &&& bit b).toBitVec =
      if x.toBitVec.getLsbD b then BitVec.twoPow 64 b else 0#64 := by
    rw [Int64.toBitVec_and, toBitVec_bit hb, BitVec.and_twoPow]
  have hpow : BitVec.twoPow 64 b ≠ 0#64 := by
    intro h0
    have := congrArg (fun v => v.getLsbD b) h0
    simp [hb] at this
  cases hx : x.toBitVec.getLsbD b
  · simp only [hx, Bool.false_eq_true, ↓reduceIte] at hand
    simp [bne, ← Int64.toBitVec_inj, hand]
  · simp only [hx, ↓reduceIte] at hand
    simp [bne, ← Int64.toBitVec_inj, hand, hpow]

theorem getLsbD_or_bit (x : Int64) {b : Nat} (hb : b < 64) (b' : Nat) :
    (x ||| bit b).toBitVec.getLsbD b' = (x.toBitVec.getLsbD b' || decide (b = b')) := by
  rw [Int64.toBitVec_or, BitVec.getLsbD_or, toBitVec_bit hb, BitVec.getLsbD_twoPow]
  simp [hb]

theorem get_setIfInBounds (v : Vector Int64 16) (i : Nat) (j : Fin 16) (x : Int64) :
    (v.setIfInBounds i x).get j = if i = j.val then x else v.get j := by
  show (v.setIfInBounds i x)[(j : Nat)] = if i = j.val then x else v[(j : Nat)]
  simp [Vector.getElem_setIfInBounds]

theorem isSet?_of_range (u : KernelFdSet) {fd : Int} (h0 : 0 ≤ fd) (h1 : fd < 1024) :
    u.isSet? fd =
      some ((u.words.get ⟨fd.toNat / 64, word_lt h0 h1⟩).toBitVec.getLsbD (fd.toNat % 64)) := by
  simp [isSet?, slot?_of_range h0 h1, test_bit _ (Nat.mod_lt _ (by norm_num : 0 < 64))]

theorem set?_of_range (u : KernelFdSet) {fd : Int} (h0 : 0 ≤ fd) (h1 : fd < 1024) :
    u.set? fd = some ⟨u.words.setIfInBounds (fd.toNat / 64)
      (u.words.get ⟨fd.toNat / 64, word_lt h0 h1⟩ ||| bit (fd.toNat % 64))⟩ := by
  simp [set?, slot?_of_range h0 h1]

/-- The host kernel's layout finds the word of every descriptor of `[0, 1024)`, and adding one
sets its own bit and no other. -/
theorem layout_lawful : layout.Lawful where
  set_isSome u fd h0 h1 := by simp [layout, set?_of_range u h0 h1]
  isSet_isSome u fd h0 h1 := by simp [layout, isSet?_of_range u h0 h1]
  isSet_empty fd h0 h1 := by simp [layout, isSet?_of_range _ h0 h1, empty, Vector.get]
  isSet_set u u' fd g hset h0 h1 hg0 hg1 := by
    simp only [layout] at hset ⊢
    rw [set?_of_range u h0 h1, Option.some.injEq] at hset
    subst hset
    rw [isSet?_of_range _ hg0 hg1, isSet?_of_range u hg0 hg1, Option.map_some]
    dsimp only
    rw [get_setIfInBounds]
    have hslot := DescriptorSet.eq_iff_slot h0 hg0
    split_ifs with hw
    · -- the same word: the new bit is `g`'s exactly when `g = fd`
      rw [getLsbD_or_bit _ (Nat.mod_lt _ (by norm_num))]
      simp [hslot, hw]
    · have hne : g ≠ fd := fun h => hw (hslot.1 h).1
      simp [hne]

end KernelFdSet

namespace SetLayout

variable {K : Type} {L : SetLayout K}

theorem holds_range {u : K} {fd : Int} (h : L.holds u fd) : 0 ≤ fd ∧ fd < 1024 := by
  simp only [holds, Bool.and_eq_true, decide_eq_true_eq] at h
  exact h.1

theorem mem_range_toNat {n fd : Int} :
    fd ∈ (List.range n.toNat).map Int.ofNat ↔ 0 ≤ fd ∧ fd < n := by
  simp only [List.mem_map, List.mem_range, Int.ofNat_eq_natCast]
  constructor
  · rintro ⟨k, hk, rfl⟩
    omega
  · intro h
    exact ⟨fd.toNat, by omega, by omega⟩

theorem foldlM_set (hL : L.Lawful) (u : K) (l : List Int) (hl : ∀ fd ∈ l, 0 ≤ fd ∧ fd < 1024) :
    ∃ u', l.foldlM L.set u = some u' ∧
      ∀ g, 0 ≤ g → g < 1024 → L.isSet u' g = (L.isSet u g).map (· || decide (g ∈ l)) := by
  -- on the descriptors still to add: no step faults, and each sets its own bit only
  induction l generalizing u with
  | nil => exact ⟨u, rfl, fun g _ _ => by simp⟩
  | cons fd l ih =>
    obtain ⟨h0, h1⟩ := hl fd (by simp)
    obtain ⟨u1, hu1⟩ := Option.isSome_iff_exists.1 (hL.set_isSome u fd h0 h1)
    obtain ⟨u', hfold, hheld⟩ := ih u1 (fun x hx => hl x (by simp [hx]))
    refine ⟨u', by simp [List.foldlM_cons, hu1, hfold], fun g hg0 hg1 => ?_⟩
    rw [hheld g hg0 hg1, hL.isSet_set u u1 fd g hu1 h0 h1 hg0 hg1, Option.map_map]
    congr 1
    funext b
    simp [Bool.or_assoc]

/-- A given set goes to the layout without a fault, as the set holding its members below
`maxFd`. -/
theorem toKernel?_some (hL : L.Lawful) (d : DescriptorSet) (maxFd : Int) :
    ∃ u, L.toKernel? (some d) maxFd = some (some u) ∧
      ∀ fd, L.holds u fd = (d.contains fd && decide (fd < maxFd)) := by
  obtain ⟨u, hfold, hheld⟩ := foldlM_set hL L.empty (d.below maxFd)
    (fun fd hfd => DescriptorSet.contains_range (DescriptorSet.mem_below.1 hfd).1)
  refine ⟨u, by simp [toKernel?, hfold], fun fd => ?_⟩
  by_cases hr : 0 ≤ fd ∧ fd < 1024
  · simp [holds, hr, hheld fd hr.1 hr.2, hL.isSet_empty fd hr.1 hr.2, DescriptorSet.mem_below]
  · simp [holds, hr, DescriptorSet.contains_out_of_range d (by omega : fd < 0 ∨ 1024 ≤ fd)]

theorem foldlM_readBack (hL : L.Lawful) (u : K) (acc : DescriptorSet) (l : List Int)
    (hl : ∀ fd ∈ l, 0 ≤ fd ∧ fd < 1024) :
    ∃ acc', l.foldlM (L.readBack u) acc = some acc' ∧
      ∀ g, acc'.contains g = (acc.contains g || decide (g ∈ l) && L.holds u g) := by
  -- on the descriptors still to test: no test faults, and each adds its descriptor or nothing
  induction l generalizing acc with
  | nil => exact ⟨acc, rfl, by simp⟩
  | cons fd l ih =>
    obtain ⟨h0, h1⟩ := hl fd (by simp)
    obtain ⟨b, hb⟩ := Option.isSome_iff_exists.1 (hL.isSet_isSome u fd h0 h1)
    obtain ⟨acc', hfold, hheld⟩ :=
      ih (if b then acc.insert fd else acc) (fun x hx => hl x (by simp [hx]))
    refine ⟨acc', by simp [List.foldlM_cons, readBack, hb, hfold], fun g => ?_⟩
    rw [hheld g]
    by_cases hg : g = fd
    · subst hg
      cases b <;> simp [holds, hb, h0, h1, DescriptorSet.contains_insert acc h0 h1]
    · cases b <;> simp [hg, DescriptorSet.contains_insert acc h0 h1]

/-- A kernel's set comes back over a caller's set without a fault, as exactly its members below
`maxFd`, whatever the caller's set held. -/
theorem fromKernel?_some (hL : L.Lawful) (u : K) (d : DescriptorSet) {maxFd : Int}
    (hmax : maxFd ≤ 1024) :
    ∃ d', L.fromKernel? (some u) (some d) maxFd = some (some d') ∧
      ∀ fd, d'.contains fd = (L.holds u fd && decide (fd < maxFd)) := by
  have hl : ∀ fd ∈ (List.range maxFd.toNat).map Int.ofNat, 0 ≤ fd ∧ fd < 1024 := by
    intro fd hfd
    have := mem_range_toNat.1 hfd
    omega
  obtain ⟨d', hfold, hheld⟩ := foldlM_readBack hL u DescriptorSet.empty _ hl
  refine ⟨d', by simp [fromKernel?, hfold], fun fd => ?_⟩
  rw [hheld, DescriptorSet.contains_empty, Bool.false_or]
  cases hh : L.holds u fd
  · simp
  · simp [mem_range_toNat, (holds_range hh).1]

theorem fromKernel?_toKernel? (hL : L.Lawful) (s : Option DescriptorSet) {maxFd : Int}
    (hmax : maxFd ≤ 1024) :
    ∃ k, L.toKernel? s maxFd = some k ∧ L.fromKernel? k s maxFd = some (s.map (·.restrict maxFd)) := by
  cases s with
  | none => exact ⟨none, rfl, rfl⟩
  | some d =>
    obtain ⟨u, hu, hheld⟩ := toKernel?_some hL d maxFd
    obtain ⟨d', hd', hback⟩ := fromKernel?_some hL u d hmax
    refine ⟨some u, hu, ?_⟩
    rw [hd', Option.map_some]
    congr 2
    apply DescriptorSet.eq_of_contains
    intro fd
    rw [hback, hheld, DescriptorSet.contains_restrict, Bool.and_assoc, Bool.and_self]

theorem toKernelSets?_of {sets : SelectSets} {maxFd : Int} {r w e : Option K}
    (hr : L.toKernel? sets.read maxFd = some r) (hw : L.toKernel? sets.write maxFd = some w)
    (he : L.toKernel? sets.except maxFd = some e) :
    L.toKernelSets? sets maxFd = some ⟨r, w, e⟩ := by
  simp [toKernelSets?, hr, hw, he]

theorem fromKernelSets?_of {ks : KernelSets K} {sets : SelectSets} {maxFd : Int}
    {r w e : Option DescriptorSet} (hr : L.fromKernel? ks.read sets.read maxFd = some r)
    (hw : L.fromKernel? ks.write sets.write maxFd = some w)
    (he : L.fromKernel? ks.except sets.except maxFd = some e) :
    L.fromKernelSets? ks sets maxFd = some ⟨r, w, e⟩ := by
  simp [fromKernelSets?, hr, hw, he]

theorem selectThrough_of_ok {σ ε : Type}
    {kernel : Int → KernelSets K → Option Int64 → σ → Except ε (Int × KernelSets K) × σ}
    {maxFd : Int} {sets sets' : SelectSets} {tv : Option Int64} {st st' : σ}
    {ks after : KernelSets K} {n : Int} (hks : L.toKernelSets? sets maxFd = some ks)
    (hk : kernel maxFd ks tv st = (.ok (n, after), st'))
    (hback : L.fromKernelSets? after sets maxFd = some sets') :
    L.selectThrough kernel maxFd sets tv st = some (.ok (n, sets'), st') := by
  simp [selectThrough, hks, hk, hback]

/-- A select whose kernel hands back the sets it is given returns the kernel's count with each
given set narrowed to its members below `maxFd`. -/
theorem selectThrough_of_unchanged (hL : L.Lawful) {maxFd : Int} (hmax : maxFd ≤ 1024)
    {σ ε : Type} (kernel : Int → KernelSets K → Option Int64 → σ → Except ε (Int × KernelSets K) × σ)
    (sets : SelectSets) (tv : Option Int64) {st st' : σ} {n : Int}
    (hk : ∀ ks, L.toKernelSets? sets maxFd = some ks → kernel maxFd ks tv st = (.ok (n, ks), st')) :
    L.selectThrough kernel maxFd sets tv st = some (.ok (n, ⟨sets.read.map (·.restrict maxFd),
      sets.write.map (·.restrict maxFd), sets.except.map (·.restrict maxFd)⟩), st') := by
  obtain ⟨r, hr, hr'⟩ := fromKernel?_toKernel? hL sets.read hmax
  obtain ⟨w, hw, hw'⟩ := fromKernel?_toKernel? hL sets.write hmax
  obtain ⟨e, he, he'⟩ := fromKernel?_toKernel? hL sets.except hmax
  have hks := toKernelSets?_of hr hw he
  exact selectThrough_of_ok hks (hk _ hks) (fromKernelSets?_of hr' hw' he')

theorem toKernel?_isSome (hL : L.Lawful) (s : Option DescriptorSet) (maxFd : Int) :
    (L.toKernel? s maxFd).isSome := by
  cases s with
  | none => rfl
  | some d =>
    obtain ⟨u, hu, -⟩ := toKernel?_some hL d maxFd
    simp [hu]

theorem fromKernel?_isSome (hL : L.Lawful) (k : Option K) (s : Option DescriptorSet)
    {maxFd : Int} (hmax : maxFd ≤ 1024) : (L.fromKernel? k s maxFd).isSome := by
  match k, s with
  | some u, some d =>
    obtain ⟨d', hd', -⟩ := fromKernel?_some hL u d hmax
    simp [hd']
  | none, _ => rfl
  | some _, none => rfl

/-- A select through a lawful layout never faults for a bound up to 1024, whatever the kernel
answers. -/
theorem selectThrough_isSome (hL : L.Lawful) {maxFd : Int} (hmax : maxFd ≤ 1024) {σ ε : Type}
    (kernel : Int → KernelSets K → Option Int64 → σ → Except ε (Int × KernelSets K) × σ)
    (sets : SelectSets) (tv : Option Int64) (st : σ) :
    (L.selectThrough kernel maxFd sets tv st).isSome := by
  obtain ⟨r, hr⟩ := Option.isSome_iff_exists.1 (toKernel?_isSome hL sets.read maxFd)
  obtain ⟨w, hw⟩ := Option.isSome_iff_exists.1 (toKernel?_isSome hL sets.write maxFd)
  obtain ⟨e, he⟩ := Option.isSome_iff_exists.1 (toKernel?_isSome hL sets.except maxFd)
  have hks := toKernelSets?_of hr hw he
  rcases hk : kernel maxFd ⟨r, w, e⟩ tv st with ⟨_ | ⟨n, after⟩, st'⟩
  · simp [selectThrough, hks, hk]
  · -- the kernel's answer comes back whatever it holds
    obtain ⟨r', hr'⟩ := Option.isSome_iff_exists.1 (fromKernel?_isSome hL after.read sets.read hmax)
    obtain ⟨w', hw'⟩ := Option.isSome_iff_exists.1 (fromKernel?_isSome hL after.write sets.write hmax)
    obtain ⟨e', he'⟩ :=
      Option.isSome_iff_exists.1 (fromKernel?_isSome hL after.except sets.except hmax)
    rw [selectThrough_of_ok hks hk (fromKernelSets?_of hr' hw' he')]
    rfl

variable (L) in
/-- What the translations of a select do for the bound `maxFd`: a set goes to the layout as a set
holding exactly its members below `maxFd`, and no set as none; a kernel's set comes back over a
caller's set as exactly its members below `maxFd`; neither way faults; and a select whose kernel
hands back the sets it is given narrows each given set to its members below `maxFd`. -/
structure TranslatesBelow (maxFd : Int) : Prop where
  toKernel_none : L.toKernel? none maxFd = some none
  toKernel_some : ∀ d : DescriptorSet, ∃ u, L.toKernel? (some d) maxFd = some (some u) ∧
    ∀ fd, L.holds u fd = (d.contains fd && decide (fd < maxFd))
  fromKernel_some : ∀ (u : K) (d : DescriptorSet), ∃ d',
    L.fromKernel? (some u) (some d) maxFd = some (some d') ∧
      ∀ fd, d'.contains fd = (L.holds u fd && decide (fd < maxFd))
  narrows : ∀ {σ ε : Type}
    (kernel : Int → KernelSets K → Option Int64 → σ → Except ε (Int × KernelSets K) × σ)
    (sets : SelectSets) (tv : Option Int64) (st st' : σ) (n : Int),
    (∀ ks, L.toKernelSets? sets maxFd = some ks → kernel maxFd ks tv st = (.ok (n, ks), st')) →
    L.selectThrough kernel maxFd sets tv st = some (.ok (n, ⟨sets.read.map (·.restrict maxFd),
      sets.write.map (·.restrict maxFd), sets.except.map (·.restrict maxFd)⟩), st')

/-- Over a lawful layout, the translations of a select do what `TranslatesBelow` says for every
bound up to 1024. -/
theorem lawful_translates_below (hL : L.Lawful) {maxFd : Int} (hmax : maxFd ≤ 1024) :
    L.TranslatesBelow maxFd where
  toKernel_none := rfl
  toKernel_some d := toKernel?_some hL d maxFd
  fromKernel_some u d := fromKernel?_some hL u d hmax
  narrows kernel sets tv _ _ _ hk := selectThrough_of_unchanged hL hmax kernel sets tv hk

end SetLayout

namespace KernelFdSet

/-- The host kernel's layout translates the sets of a select at the largest bound, 1024. -/
theorem layout_translates_below_capacity :
    layout.Lawful ∧ (1024 : Int) ≤ 1024 ∧ layout.TranslatesBelow 1024 :=
  ⟨layout_lawful, le_refl _, SetLayout.lawful_translates_below layout_lawful (le_refl _)⟩

end KernelFdSet

/-- For every bound the socket service lets through, the host's select is the one made through the
kernel's layout: the answer put in place of a fault is never given. -/
theorem HostNet.select_of_admitted {maxFd : Int} (hmax : maxFd ≤ 1024) (sets : SelectSets)
    (tv : Option Int64) (net : HostNet) :
    some (HostNet.select maxFd sets tv net) =
      KernelFdSet.layout.selectThrough HostNet.kernelSelect maxFd sets tv net := by
  obtain ⟨r, hr⟩ := Option.isSome_iff_exists.1
    (SetLayout.selectThrough_isSome KernelFdSet.layout_lawful hmax HostNet.kernelSelect sets tv net)
  simp [HostNet.select, hr]

end PlatformLayer
