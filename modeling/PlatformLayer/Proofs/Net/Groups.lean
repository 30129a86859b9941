import Mathlib
import PlatformLayer.Proofs.Net.Digits
/-!
# IPv6 groups: printing and scanning

An IPv6 address prints as its eight 16-bit groups in hex, joined by colons, with the first of
the longest runs of two or more zero groups written `::`. The group scanner reads such text back:
each group becomes its two octets (`groupBytes`), and a `::` marks where the zero groups it stands
for go. The module shows that the groups hold the address's octets two by two, that the scanner
reads a joined list of groups to its octets (`scanGroups_join`), also when `::` follows
(`scanGroups_join_ellipsis`), reads a dotted quad in the place of the last two groups
(`scanGroups_quad`), and that the zero run the printer picks is one (`longestZeroRun_split`).
-/
namespace PlatformLayer.Net

/-- The two octets of a 16-bit group, high first, as the scanner stores them. -/
def groupBytes (g : Nat) : List UInt8 := [(g / 256).toUInt8, (g % 256).toUInt8]

/-- The text of a list of groups joined by colons. -/
def joinText (gs : List Nat) : List Char := [':'].intercalate (gs.map fun g => (Hex.ofNat g).toList)

theorem groupBytes_pair (x y : UInt8) : groupBytes (x.toNat * 256 + y.toNat) = [x, y] := by
  have hx := x.toNat_lt
  have hy := y.toNat_lt
  simp only [groupBytes, List.cons.injEq, and_true]
  constructor
  · rw [show (x.toNat * 256 + y.toNat) / 256 = x.toNat by omega]
    exact UInt8.ofNat_toNat
  · rw [show (x.toNat * 256 + y.toNat) % 256 = y.toNat by omega]
    exact UInt8.ofNat_toNat

theorem flatMap_groupBytes_replicate_zero (l : Nat) :
    (List.replicate l 0).flatMap groupBytes = List.replicate (2 * l) 0 := by
  induction l with
  | zero => rfl
  | succ l ih =>
    rw [List.replicate_succ, List.flatMap_cons, ih, show 2 * (l + 1) = 2 + 2 * l by omega,
      List.replicate_add]
    rfl

/-- The eight groups of an address hold its sixteen octets, two by two. -/
theorem groups_flatMap_groupBytes (a : Ip6) : a.groups.flatMap groupBytes = a.octets.toList := by
  obtain ⟨⟨⟨l⟩, hl⟩⟩ := a
  simp only [List.size_toArray] at hl
  match l, hl with
  | [x0, x1, x2, x3, x4, x5, x6, x7, x8, x9, x10, x11, x12, x13, x14, x15], _ =>
    simp [Ip6.groups, List.range_succ, groupBytes_pair]

@[simp] theorem length_groupBytes (g : Nat) : (groupBytes g).length = 2 := rfl

theorem length_flatMap_groupBytes (gs : List Nat) : (gs.flatMap groupBytes).length = 2 * gs.length := by
  induction gs with
  | nil => rfl
  | cons g rest ih => simp [ih]; omega

theorem length_groups (a : Ip6) : a.groups.length = 8 := by
  simp [Ip6.groups]

theorem groups_lt (a : Ip6) : ∀ g ∈ a.groups, g < 65536 := by
  simp only [Ip6.groups, List.mem_map, List.mem_range]
  rintro g ⟨i, -, rfl⟩
  have h1 := (a.octets.toList.getD (2 * i) 0).toNat_lt
  have h2 := (a.octets.toList.getD (2 * i + 1) 0).toNat_lt
  omega

theorem bytesToVector_toList {n : Nat} (v : Vector UInt8 n) : bytesToVector n v.toList = v := by
  ext i hi
  simp [bytesToVector]

theorem Ip6.ofList_toList (a : Ip6) : Ip6.ofList a.octets.toList = a := by
  simp [Ip6.ofList, bytesToVector_toList]

/-! ## Scanning groups -/

theorem isHexDigit_colon : isHexDigit ':' = false := by decide

theorem isHexDigit_dot : isHexDigit '.' = false := by decide

theorem isHexDigit_of_isDigit {c : Char} (h : c.isDigit = true) : isHexDigit c = true := by
  simp [isHexDigit, Hex.value?, Char.isDigit] at h ⊢
  simp [Char.le_def, h]

/-- Hex digits are read up to the first character that is no hex digit. -/
theorem takeWhile_hexDigits {ds : List Char} (hds : ∀ c ∈ ds, isHexDigit c = true)
    (after : List Char) (hafter : ∀ c ∈ after.head?, isHexDigit c = false) :
    (ds ++ after).takeWhile isHexDigit = ds := by
  rw [List.takeWhile_append_of_pos hds]
  cases after with
  | nil => simp
  | cons c more => simp [hafter c rfl]

theorem dropWhile_hexDigits {ds : List Char} (hds : ∀ c ∈ ds, isHexDigit c = true)
    (after : List Char) (hafter : ∀ c ∈ after.head?, isHexDigit c = false) :
    (ds ++ after).dropWhile isHexDigit = after := by
  rw [List.dropWhile_append_of_pos hds]
  cases after with
  | nil => simp
  | cons c more => simp [hafter c rfl]

/-- A group's digits are read up to the first character that is no hex digit. -/
theorem takeWhile_group (g : Nat) (after : List Char)
    (hafter : ∀ c ∈ after.head?, isHexDigit c = false) :
    ((Hex.ofNat g).toList ++ after).takeWhile isHexDigit = (Hex.ofNat g).toList :=
  takeWhile_hexDigits (fun _ => isHexDigit_of_mem_ofNat) after hafter

theorem dropWhile_group (g : Nat) (after : List Char)
    (hafter : ∀ c ∈ after.head?, isHexDigit c = false) :
    ((Hex.ofNat g).toList ++ after).dropWhile isHexDigit = after :=
  dropWhile_hexDigits (fun _ => isHexDigit_of_mem_ofNat) after hafter

section Step

variable (input : String) (fuel : Nat) {g : Nat} (hg : g < 65536) {oct : List UInt8}
  (ho : oct.length < 16) (e : Option Nat)
include hg ho

/-- The last group of the text. -/
theorem scanGroups_last :
    scanGroups input (fuel + 1) ⟨oct, e, (Hex.ofNat g).toList⟩ = pure ⟨oct ++ groupBytes g, e, []⟩ := by
  have ht := takeWhile_group g [] (by simp)
  have hd := dropWhile_group g [] (by simp)
  rw [List.append_nil] at ht hd
  simp [scanGroups, ht, hd, groupValue_ofNat, Nat.not_lt.2 (length_ofNat_le hg), ofNat_ne_empty,
    Nat.not_le.2 ho, groupBytes]

/-- A group followed by one colon and more text: the scan goes on after the colon. -/
theorem scanGroups_colon {more : List Char} (hm : more ≠ []) (hc : more.head? ≠ some ':') :
    scanGroups input (fuel + 1) ⟨oct, e, (Hex.ofNat g).toList ++ ':' :: more⟩ =
      scanGroups input fuel ⟨oct ++ groupBytes g, e, more⟩ := by
  have ht := takeWhile_group g (':' :: more) (by simp [isHexDigit_colon])
  have hd := dropWhile_group g (':' :: more) (by simp [isHexDigit_colon])
  simp [scanGroups, ht, hd, groupValue_ofNat, Nat.not_lt.2 (length_ofNat_le hg), ofNat_ne_empty,
    Nat.not_le.2 ho, groupBytes, hm, hc]

/-- A group followed by `::`: the zero groups go where the octets read so far end. -/
theorem scanGroups_ellipsis (tail : List Char) :
    scanGroups input (fuel + 1) ⟨oct, none, (Hex.ofNat g).toList ++ ':' :: ':' :: tail⟩ =
      if tail = [] then pure ⟨oct ++ groupBytes g, some (oct.length + 2), []⟩
      else scanGroups input fuel ⟨oct ++ groupBytes g, some (oct.length + 2), tail⟩ := by
  have ht := takeWhile_group g (':' :: ':' :: tail) (by simp [isHexDigit_colon])
  have hd := dropWhile_group g (':' :: ':' :: tail) (by simp [isHexDigit_colon])
  simp only [scanGroups, ht, hd]
  by_cases htail : tail = [] <;>
    simp [groupValue_ofNat, Nat.not_lt.2 (length_ofNat_le hg), ofNat_ne_empty, Nat.not_le.2 ho,
      groupBytes, htail]

end Step

/-- A dotted quad after a `::`, in the place of the last two groups, is read as its four
octets. -/
theorem scanGroups_quad (input : String) (fuel : Nat) {oct : List UInt8} (ho : oct.length ≤ 12)
    (e : Nat) {q : List UInt8} (hq : q.length = 4) :
    scanGroups input (fuel + 1) ⟨oct, some e, quadText q⟩ = pure ⟨oct ++ q, some e, []⟩ := by
  obtain ⟨b, rest, rfl⟩ := List.exists_cons_of_length_eq_add_one hq
  cases rest with
  | nil => simp at hq
  | cons c rest =>
    -- the first octet's decimal digits are hex digits too, and the dot after them stops the group
    have hds : ∀ x ∈ Nat.toDigits 10 b.toNat, isHexDigit x = true :=
      fun x hx => isHexDigit_of_isDigit (Nat.isDigit_of_mem_toDigits (by decide) (by decide) hx)
    have hdot : ∀ x ∈ ('.' :: quadText (c :: rest)).head?, isHexDigit x = false := by
      simp [isHexDigit_dot]
    have ht : (quadText (b :: c :: rest)).takeWhile isHexDigit = Nat.toDigits 10 b.toNat := by
      rw [quadText_cons_cons]
      exact takeWhile_hexDigits hds _ hdot
    have hd : (quadText (b :: c :: rest)).dropWhile isHexDigit = '.' :: quadText (c :: rest) := by
      rw [quadText_cons_cons]
      exact dropWhile_hexDigits hds _ hdot
    have hlen : (Nat.toDigits 10 b.toNat).length ≤ 3 :=
      Nat.toDigits_length 10 _ 3 (by decide) (by have := b.toNat_lt; omega)
    have hquad := dottedQuad_quadText input (List.cons_ne_nil b (c :: rest)) [] (by simpa using hq)
    simp [scanGroups, ht, hd, hquad, Nat.toDigits_ne_nil, show ¬ 16 ≤ oct.length by omega,
      show ¬ 4 < (Nat.toDigits 10 b.toNat).length by omega, show ¬ 16 < oct.length + 4 by omega]

theorem joinText_singleton (g : Nat) : joinText [g] = (Hex.ofNat g).toList := by
  simp [joinText]

theorem joinText_cons_cons (g h : Nat) (rest : List Nat) :
    joinText (g :: h :: rest) = (Hex.ofNat g).toList ++ ':' :: joinText (h :: rest) := by
  simp [joinText]

/-- Joined groups start with a hex digit. -/
theorem joinText_head (g : Nat) (rest : List Nat) :
    ∃ c more, joinText (g :: rest) = c :: more ∧ isHexDigit c = true := by
  obtain ⟨c, cs, hcs⟩ := List.exists_cons_of_ne_nil (ofNat_ne_nil g)
  have hmem : c ∈ (Hex.ofNat g).toList := by rw [hcs]; exact List.mem_cons_self
  have hc : isHexDigit c = true := isHexDigit_of_mem_ofNat hmem
  cases rest with
  | nil => exact ⟨c, cs, by rw [joinText_singleton, hcs], hc⟩
  | cons h rest => exact ⟨c, cs ++ ':' :: joinText (h :: rest), by rw [joinText_cons_cons, hcs]; rfl, hc⟩

theorem ne_colon_of_isHexDigit {c : Char} (hc : isHexDigit c = true) : c ≠ ':' := by
  rintro rfl
  simp [isHexDigit_colon] at hc

/-- A group, a colon, and more joined groups with any text after them: the scan goes on with the
next group. -/
theorem scanGroups_colon_join (input : String) (fuel : Nat) {g : Nat} (hg : g < 65536)
    {oct : List UInt8} (ho : oct.length < 16) (e : Option Nat) (h : Nat) (rest : List Nat)
    (tail : List Char) :
    scanGroups input (fuel + 1)
        ⟨oct, e, (Hex.ofNat g).toList ++ ':' :: (joinText (h :: rest) ++ tail)⟩ =
      scanGroups input fuel ⟨oct ++ groupBytes g, e, joinText (h :: rest) ++ tail⟩ := by
  obtain ⟨c, more, hjoin, hc⟩ := joinText_head h rest
  rw [hjoin]
  exact scanGroups_colon input fuel hg ho e (List.cons_ne_nil _ _)
    (by simp [ne_colon_of_isHexDigit hc])

/-- Groups joined by colons are read to their octets, with whatever ellipsis was seen before. -/
theorem scanGroups_join (input : String) {gs : List Nat} (hne : gs ≠ [])
    (hg : ∀ g ∈ gs, g < 65536) (fuel : Nat) (oct : List UInt8)
    (ho : oct.length + 2 * gs.length ≤ 16) (e : Option Nat) :
    scanGroups input (fuel + gs.length) ⟨oct, e, joinText gs⟩ =
      pure ⟨oct ++ gs.flatMap groupBytes, e, []⟩ := by
  induction gs generalizing oct with
  | nil => exact absurd rfl hne
  | cons g rest ih =>
    have hg0 := hg g (by simp)
    have ho' : oct.length < 16 := by simp at ho; omega
    cases rest with
    | nil => simpa [joinText_singleton] using scanGroups_last input fuel hg0 ho' e
    | cons h rest =>
      have step := scanGroups_colon_join input (fuel + (h :: rest).length) hg0 ho' e h rest []
      simp only [List.append_nil] at step
      rw [joinText_cons_cons, List.length_cons, ← Nat.add_assoc, step,
        ih (by simp) (fun x hx => hg x (by simp [hx])) _ (by simp [groupBytes] at ho ⊢; omega)]
      simp [groupBytes]

/-- Groups joined by colons and followed by `::` are read to their octets, and the zero groups
go where those octets end. -/
theorem scanGroups_join_ellipsis (input : String) {gs : List Nat} (hne : gs ≠ [])
    (hg : ∀ g ∈ gs, g < 65536) (fuel : Nat) (oct : List UInt8)
    (ho : oct.length + 2 * gs.length ≤ 16) (tail : List Char) :
    scanGroups input (fuel + gs.length) ⟨oct, none, joinText gs ++ ':' :: ':' :: tail⟩ =
      if tail = [] then pure ⟨oct ++ gs.flatMap groupBytes, some (oct.length + 2 * gs.length), []⟩
      else scanGroups input fuel
        ⟨oct ++ gs.flatMap groupBytes, some (oct.length + 2 * gs.length), tail⟩ := by
  induction gs generalizing oct with
  | nil => exact absurd rfl hne
  | cons g rest ih =>
    have hg0 := hg g (by simp)
    have ho' : oct.length < 16 := by simp at ho; omega
    cases rest with
    | nil =>
      simpa [joinText_singleton, groupBytes] using scanGroups_ellipsis input fuel hg0 ho' tail
    | cons h rest =>
      have hlen : (oct ++ groupBytes g).length + 2 * (h :: rest).length =
          oct.length + 2 * (g :: h :: rest).length := by
        simp [groupBytes]
        omega
      rw [joinText_cons_cons, List.append_assoc, List.cons_append, List.length_cons, ← Nat.add_assoc,
        scanGroups_colon_join input _ hg0 ho' none h rest,
        ih (by simp) (fun x hx => hg x (by simp [hx])) _ (by simp [groupBytes] at ho ⊢; omega), hlen]
      simp only [List.flatMap_cons, List.append_assoc, List.length_cons]

/-! ## The zero run the printer compresses -/

/-- A choice of zero run: none, or a start where a run of two or more zero groups begins,
with its length. -/
def IsZeroRun (gs : List Nat) : Option (Nat × Nat) → Prop
  | none => True
  | some (s, l) => 2 ≤ l ∧ Ip6.zeroRun (gs.drop s) = l

theorem longestZeroRun_isZeroRun (gs : List Nat) : IsZeroRun gs (Ip6.longestZeroRun gs) := by
  unfold Ip6.longestZeroRun
  -- each step keeps the run it holds or takes the longer one that starts at `i`
  refine List.foldlRecOn (motive := IsZeroRun gs) _ _ trivial fun best hbest i _ => ?_
  rcases best with _ | ⟨s, bl⟩
  · dsimp only
    split_ifs with h
    · exact ⟨h, rfl⟩
    · trivial
  · dsimp only
    split_ifs with h
    · exact ⟨by have := hbest.1; omega, rfl⟩
    · exact hbest

/-- A list is its leading zeros followed by the rest. -/
theorem zeroRun_split (xs : List Nat) :
    xs = List.replicate (Ip6.zeroRun xs) 0 ++ xs.drop (Ip6.zeroRun xs) := by
  have hsplit := @List.takeWhile_append_dropWhile _ (· == 0) xs
  have hrep : xs.takeWhile (· == 0) = List.replicate (Ip6.zeroRun xs) 0 :=
    List.eq_replicate_iff.2 ⟨rfl, fun b hb => by simpa using List.mem_takeWhile_imp hb⟩
  have hdrop : xs.drop (Ip6.zeroRun xs) = xs.dropWhile (· == 0) := by
    have h : (xs.takeWhile (· == 0) ++ xs.dropWhile (· == 0)).drop (Ip6.zeroRun xs) =
        xs.dropWhile (· == 0) := List.drop_left' rfl
    rwa [hsplit] at h
  rw [hdrop, ← hrep, hsplit]

/-- The run the printer writes as `::` is a run of zero groups: the groups are those before it,
`l ≥ 2` zeros, and those after it. -/
theorem longestZeroRun_split {gs : List Nat} {s l : Nat} (h : Ip6.longestZeroRun gs = some (s, l)) :
    2 ≤ l ∧ s + l ≤ gs.length ∧ gs.take s ++ List.replicate l 0 ++ gs.drop (s + l) = gs := by
  have hrun := longestZeroRun_isZeroRun gs
  rw [h] at hrun
  obtain ⟨hl, hz⟩ := hrun
  have hsplit := zeroRun_split (gs.drop s)
  rw [hz] at hsplit
  have hlen := congrArg List.length hsplit
  simp only [List.length_drop, List.length_append, List.length_replicate] at hlen
  refine ⟨hl, by omega, ?_⟩
  rw [List.append_assoc, ← List.drop_drop, ← hsplit, List.take_append_drop]

end PlatformLayer.Net
