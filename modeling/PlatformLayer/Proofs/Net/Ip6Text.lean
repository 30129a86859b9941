import Mathlib
import PlatformLayer.Proofs.Net.Groups
/-!
# The printed forms of an IPv6 address, read back

The printer writes the address part of IPv6 text in one of four forms: eight groups; `::` and
at most six groups; groups, `::` and groups; or `::ffff:` and a dotted quad. `Ip6Text` names the
forms, each with the sixteen octets it stands for. Every address prints in one of them with its
own octets (`ip6Text_body`), and the reader takes each form, followed by any zone, to those octets
and the zone (`Ip6Text.parseIp6`). Main statement: `parseIp6_render`, the IPv6 text of every
address and zone reads back as that address and zone.
-/
namespace PlatformLayer.Net

/-- A zone as the printer appends it: nothing for no zone, else `%` and the zone. -/
def zoneText (zone : String) : List Char := if zone.isEmpty then [] else '%' :: zone.toList

/-- The forms of the address part of IPv6 text, each with the octets it stands for. -/
inductive Ip6Text : List Char → List UInt8 → Prop where
  /-- Eight groups and no `::`. -/
  | groups {gs : List Nat} : gs.length = 8 → (∀ g ∈ gs, g < 65536) →
      Ip6Text (joinText gs) (gs.flatMap groupBytes)
  /-- `::` first, for the zero groups that the groups after it leave. -/
  | front {post : List Nat} : post.length ≤ 6 → (∀ g ∈ post, g < 65536) →
      Ip6Text (':' :: ':' :: joinText post)
        (List.replicate (16 - 2 * post.length) 0 ++ post.flatMap groupBytes)
  /-- Groups, `::` for zero groups, then more groups. -/
  | middle {pre post : List Nat} : pre ≠ [] → pre.length + post.length ≤ 6 →
      (∀ g ∈ pre ++ post, g < 65536) →
      Ip6Text (joinText pre ++ ':' :: ':' :: joinText post)
        (pre.flatMap groupBytes ++ List.replicate (16 - 2 * (pre.length + post.length)) 0 ++
          post.flatMap groupBytes)
  /-- `::ffff:` and a dotted quad: an IPv4-mapped address. -/
  | mapped {q : List UInt8} : q.length = 4 →
      Ip6Text (':' :: ':' :: ((Hex.ofNat 65535).toList ++ ':' :: quadText q))
        (List.replicate 10 0 ++ [255, 255] ++ q)

/-! ## The characters of the forms -/

/-- A character of pieces joined by `sep` is `sep` or a character of a piece. -/
theorem mem_intercalate_sep {sep c : Char} {pieces : List (List Char)}
    (hc : c ∈ [sep].intercalate pieces) : c = sep ∨ ∃ piece ∈ pieces, c ∈ piece := by
  induction pieces with
  | nil => simp at hc
  | cons piece rest ih =>
    cases rest with
    | nil => exact .inr ⟨piece, by simp, by simpa using hc⟩
    | cons next rest =>
      rw [List.intercalate_cons_cons] at hc
      simp only [List.mem_append, List.mem_singleton] at hc
      rcases hc with (hc | rfl) | hc
      · exact .inr ⟨piece, by simp, hc⟩
      · exact .inl rfl
      · rcases ih hc with h | ⟨p, hp, hcp⟩
        · exact .inl h
        · exact .inr ⟨p, List.mem_cons_of_mem _ hp, hcp⟩

theorem mem_joinText {gs : List Nat} {c : Char} (hc : c ∈ joinText gs) :
    isHexDigit c = true ∨ c = ':' := by
  rcases mem_intercalate_sep hc with h | ⟨piece, hp, hcp⟩
  · exact .inr h
  · obtain ⟨g, -, rfl⟩ := List.mem_map.1 hp
    exact .inl (isHexDigit_of_mem_ofNat hcp)

theorem mem_quadText {bs : List UInt8} {c : Char} (hc : c ∈ quadText bs) :
    c.isDigit = true ∨ c = '.' := by
  rcases mem_intercalate_sep hc with h | ⟨piece, hp, hcp⟩
  · exact .inr h
  · obtain ⟨b, -, rfl⟩ := List.mem_map.1 hp
    exact .inl (Nat.isDigit_of_mem_toDigits (by decide) (by decide) hcp)

theorem colon_not_mem_quadText (bs : List UInt8) : ':' ∉ quadText bs := fun h => by
  rcases mem_quadText h with h | h <;> revert h <;> decide

theorem ofNat_ffff : (Hex.ofNat 65535).toList = ['f', 'f', 'f', 'f'] := by
  rw [Hex.ofNat, if_neg (by decide), String.toList_ofList, natDigits_of_ge (by decide),
    natDigits_of_ge (by decide), natDigits_of_ge (by decide), Hex.natDigits]
  decide

theorem groupBytes_ffff : groupBytes 65535 = [255, 255] := by decide

/-- Every character of a form is a hex digit, a colon or a dot. -/
theorem Ip6Text.chars {body : List Char} {oct : List UInt8} (h : Ip6Text body oct) :
    ∀ c ∈ body, isHexDigit c = true ∨ c = ':' ∨ c = '.' := by
  have ofJoin : ∀ gs c, c ∈ joinText gs → isHexDigit c = true ∨ c = ':' ∨ c = '.' :=
    fun _ _ hc => (mem_joinText hc).imp_right .inl
  intro c hc
  cases h with
  | groups => exact ofJoin _ c hc
  | front =>
    simp only [List.mem_cons] at hc
    rcases hc with rfl | rfl | hc
    · exact .inr (.inl rfl)
    · exact .inr (.inl rfl)
    · exact ofJoin _ c hc
  | middle =>
    simp only [List.mem_append, List.mem_cons] at hc
    rcases hc with hc | rfl | rfl | hc
    · exact ofJoin _ c hc
    · exact .inr (.inl rfl)
    · exact .inr (.inl rfl)
    · exact ofJoin _ c hc
  | mapped =>
    simp only [List.mem_cons, List.mem_append] at hc
    rcases hc with rfl | rfl | hc | rfl | hc
    · exact .inr (.inl rfl)
    · exact .inr (.inl rfl)
    · exact .inl (isHexDigit_of_mem_ofNat hc)
    · exact .inr (.inl rfl)
    · exact (mem_quadText hc).imp isHexDigit_of_isDigit .inr

/-- No form holds a `%`, so the zone is whatever follows the first one. -/
theorem Ip6Text.percent_not_mem {body : List Char} {oct : List UInt8} (h : Ip6Text body oct) :
    '%' ∉ body := fun hp => by
  rcases h.chars '%' hp with h | h | h <;> revert h <;> decide

/-- Every form starts with hex digits and a colon. -/
theorem Ip6Text.hex_colon {body : List Char} {oct : List UInt8} (h : Ip6Text body oct) :
    ∃ ds r, body = ds ++ ':' :: r ∧ ∀ c ∈ ds, isHexDigit c = true := by
  cases h with
  | @groups gs h8 _ =>
    rcases gs with _ | ⟨g, _ | ⟨h', rest⟩⟩
    · simp at h8
    · simp at h8
    · exact ⟨_, _, joinText_cons_cons g h' rest, fun _ => isHexDigit_of_mem_ofNat⟩
  | front => exact ⟨[], _, rfl, by simp⟩
  | middle hpre =>
    obtain ⟨p, rest, rfl⟩ := List.exists_cons_of_ne_nil hpre
    cases rest with
    | nil => exact ⟨_, _, by rw [joinText_singleton], fun _ => isHexDigit_of_mem_ofNat⟩
    | cons p' rest =>
      exact ⟨(Hex.ofNat p).toList, _, by rw [joinText_cons_cons, List.append_assoc]; rfl,
        fun _ => isHexDigit_of_mem_ofNat⟩
  | mapped => exact ⟨[], _, rfl, by simp⟩

/-- The first `.`, `:` or `%` of a form, with anything after it, is a colon: the text is read as
IPv6. -/
theorem Ip6Text.find_sep {body : List Char} {oct : List UInt8} (h : Ip6Text body oct)
    (after : List Char) :
    (body ++ after).find? (fun c => c = '.' ∨ c = ':' ∨ c = '%') = some ':' := by
  obtain ⟨ds, r, rfl, hds⟩ := h.hex_colon
  have hnone : ds.find? (fun c => c = '.' ∨ c = ':' ∨ c = '%') = none :=
    List.find?_eq_none.2 fun c hc => by
      have := hds c hc
      rintro h
      simp only [decide_eq_true_eq] at h
      rcases h with rfl | rfl | rfl <;> revert this <;> decide
  rw [List.find?_append, List.find?_append, hnone]
  simp

/-! ## Reading the forms -/

section Zone

variable {body : List Char} (hb : '%' ∉ body) (zone : String)
include hb

theorem takeWhile_zoneText : (body ++ zoneText zone).takeWhile (· ≠ '%') = body := by
  rw [List.takeWhile_append_of_pos fun c hc => by simpa using fun (h : c = '%') => hb (h ▸ hc)]
  by_cases hz : zone.isEmpty <;> simp [zoneText, hz]

theorem zone_of_zoneText :
    String.ofList (((body ++ zoneText zone).dropWhile (· ≠ '%')).drop 1) = zone := by
  rw [List.dropWhile_append_of_pos fun c hc => by simpa using fun (h : c = '%') => hb (h ▸ hc)]
  by_cases hz : zone.isEmpty
  · obtain rfl := String.isEmpty_iff.1 hz
    simp [zoneText]
  · simp [zoneText, hz]

theorem contains_zoneText : (body ++ zoneText zone).contains '%' = !zone.isEmpty := by
  by_cases hz : zone.isEmpty <;> simp [zoneText, hz, hb]

end Zone

theorem Ip6.ofList_replicate_zero (n : Nat) : Ip6.ofList (List.replicate n 0) = Ip6.unspecified := by
  simp only [Ip6.unspecified, Ip6.ofList, Ip6.mk.injEq]
  ext i hi
  simp [bytesToVector]

section Forms

variable {input zone : String}

/-! The reader's last steps, from the result of the group scan: text that does not start with
`::` and fills all sixteen octets, text with a `::` after its first group, and text that starts
with `::`. -/

theorem parseIp6_of_full_scan {c : Char} {more : List Char} (hc : c ≠ ':') (hb : '%' ∉ c :: more)
    (hin : input.toList = c :: more ++ zoneText zone) {F : List UInt8}
    (hscan : scanGroups input 8 ⟨[], none, c :: more⟩ = pure ⟨F, none, []⟩) (hF : F.length = 16) :
    parseIp6 input = pure (.v6 (Ip6.ofList F) zone) := by
  simp only [parseIp6, hin, takeWhile_zoneText hb, zone_of_zoneText hb, contains_zoneText hb]
  simp [hc, hscan, hF]

theorem parseIp6_of_ellipsis_scan {c : Char} {more : List Char} (hc : c ≠ ':')
    (hb : '%' ∉ c :: more) (hin : input.toList = c :: more ++ zoneText zone) {F : List UInt8}
    {e : Nat} (hscan : scanGroups input 8 ⟨[], none, c :: more⟩ = pure ⟨F, some e, []⟩)
    (hF : F.length < 16) :
    parseIp6 input =
      pure (.v6 (Ip6.ofList (F.take e ++ List.replicate (16 - F.length) 0 ++ F.drop e)) zone) := by
  simp only [parseIp6, hin, takeWhile_zoneText hb, zone_of_zoneText hb, contains_zoneText hb]
  simp [hc, hscan, hF]

theorem parseIp6_of_front_scan {tail : List Char} (htail : tail ≠ []) (hb : '%' ∉ ':' :: ':' :: tail)
    (hin : input.toList = ':' :: ':' :: tail ++ zoneText zone) {F : List UInt8}
    (hscan : scanGroups input 8 ⟨[], some 0, tail⟩ = pure ⟨F, some 0, []⟩) (hF : F.length < 16) :
    parseIp6 input = pure (.v6 (Ip6.ofList (List.replicate (16 - F.length) 0 ++ F)) zone) := by
  simp only [parseIp6, hin, takeWhile_zoneText hb, zone_of_zoneText hb, contains_zoneText hb]
  simp [htail, hscan, hF]

/-! Each form, read. -/

theorem parseIp6_groups {gs : List Nat} (h8 : gs.length = 8) (hg : ∀ g ∈ gs, g < 65536)
    (hin : input.toList = joinText gs ++ zoneText zone) :
    parseIp6 input = pure (.v6 (Ip6.ofList (gs.flatMap groupBytes)) zone) := by
  have hb := (Ip6Text.groups h8 hg).percent_not_mem
  obtain ⟨g, rest, rfl⟩ := List.exists_cons_of_ne_nil (List.ne_nil_of_length_eq_add_one h8)
  obtain ⟨c, more, hj, hc⟩ := joinText_head g rest
  have hscan := scanGroups_join input (List.cons_ne_nil g rest) hg 0 [] (by simp [h8]) none
  rw [Nat.zero_add, h8, hj, List.nil_append] at hscan
  rw [hj] at hb hin
  exact parseIp6_of_full_scan (ne_colon_of_isHexDigit hc) hb hin hscan
    (by rw [length_flatMap_groupBytes, h8])

theorem parseIp6_front {post : List Nat} (h6 : post.length ≤ 6) (hg : ∀ g ∈ post, g < 65536)
    (hin : input.toList = ':' :: ':' :: joinText post ++ zoneText zone) :
    parseIp6 input = pure (.v6 (Ip6.ofList
      (List.replicate (16 - 2 * post.length) 0 ++ post.flatMap groupBytes)) zone) := by
  have hb := (Ip6Text.front h6 hg).percent_not_mem
  rcases post with _ | ⟨g, rest⟩
  -- `::` alone is the unspecified address
  · simp only [parseIp6, hin, takeWhile_zoneText hb, zone_of_zoneText hb, contains_zoneText hb]
    simp only [joinText, List.map_nil, List.intercalate_nil, List.length_nil]
    rw [← Ip6.ofList_replicate_zero 16]
    simp
  · obtain ⟨c, more, hj, -⟩ := joinText_head g rest
    have hscan := scanGroups_join input (List.cons_ne_nil g rest) hg (8 - (rest.length + 1)) []
      (by simp at h6 ⊢; omega) (some 0)
    rw [List.length_cons, Nat.sub_add_cancel (by simp at h6; omega), List.nil_append] at hscan
    have hF := length_flatMap_groupBytes (g :: rest)
    rw [← hF]
    exact parseIp6_of_front_scan (by simp [hj]) hb hin hscan (by omega)

theorem parseIp6_middle {pre post : List Nat} (hpre : pre ≠ []) (h6 : pre.length + post.length ≤ 6)
    (hg : ∀ g ∈ pre ++ post, g < 65536)
    (hin : input.toList = joinText pre ++ ':' :: ':' :: joinText post ++ zoneText zone) :
    parseIp6 input = pure (.v6 (Ip6.ofList (pre.flatMap groupBytes ++
      List.replicate (16 - 2 * (pre.length + post.length)) 0 ++ post.flatMap groupBytes)) zone) := by
  have hb := (Ip6Text.middle hpre h6 hg).percent_not_mem
  have hgpre : ∀ g ∈ pre, g < 65536 := fun g h => hg g (List.mem_append_left _ h)
  have hgpost : ∀ g ∈ post, g < 65536 := fun g h => hg g (List.mem_append_right _ h)
  have hpreF := length_flatMap_groupBytes pre
  have hpostF := length_flatMap_groupBytes post
  -- the groups before `::`, then those after it, are read to their octets
  have hscan : scanGroups input 8 ⟨[], none, joinText pre ++ ':' :: ':' :: joinText post⟩ =
      pure ⟨pre.flatMap groupBytes ++ post.flatMap groupBytes, some (2 * pre.length), []⟩ := by
    have h := scanGroups_join_ellipsis input hpre hgpre (8 - pre.length) [] (by simp; omega)
      (joinText post)
    rw [Nat.sub_add_cancel (by omega)] at h
    rw [h]
    rcases post with _ | ⟨g, rest⟩
    · simp [joinText]
    · obtain ⟨c, more, hj, -⟩ := joinText_head g rest
      have h2 := scanGroups_join input (List.cons_ne_nil g rest) hgpost
        (8 - pre.length - (rest.length + 1)) (pre.flatMap groupBytes)
        (by simp only [List.length_cons] at h6 ⊢; omega) (some (2 * pre.length))
      rw [List.length_cons, Nat.sub_add_cancel (by simp only [List.length_cons] at h6; omega)] at h2
      rw [if_neg (by simp [hj])]
      simpa using h2
  obtain ⟨p, prest, rfl⟩ := List.exists_cons_of_ne_nil hpre
  obtain ⟨c, more, hj, hc⟩ := joinText_head p prest
  rw [hj, List.cons_append] at hscan hb hin
  rw [parseIp6_of_ellipsis_scan (ne_colon_of_isHexDigit hc) hb hin hscan
    (by rw [List.length_append]; omega), List.take_left' hpreF, List.drop_left' hpreF,
    List.length_append, hpreF, hpostF, Nat.mul_add]

theorem parseIp6_mapped {q : List UInt8} (hq : q.length = 4)
    (hin : input.toList = ':' :: ':' :: ((Hex.ofNat 65535).toList ++ ':' :: quadText q) ++
      zoneText zone) :
    parseIp6 input = pure (.v6 (Ip6.ofList (List.replicate 10 0 ++ [255, 255] ++ q)) zone) := by
  have hb := (Ip6Text.mapped hq).percent_not_mem
  obtain ⟨b, rest, rfl⟩ := List.exists_cons_of_length_eq_add_one hq
  -- `ffff` and its colon, then the dotted quad
  have hhead : (quadText (b :: rest)).head? ≠ some ':' := fun h =>
    colon_not_mem_quadText _ (List.mem_of_head? h)
  have hscan := scanGroups_colon input 7 (by decide : 65535 < 65536)
    (show ([] : List UInt8).length < 16 by decide) (some 0) (quadText_ne_nil b rest) hhead
  rw [scanGroups_quad input 6 (by decide) 0 hq] at hscan
  have h6 : ([] ++ groupBytes 65535 ++ b :: rest).length = 6 := by
    simp only [List.length_cons] at hq
    simp [hq]
  rw [parseIp6_of_front_scan (by simp [ofNat_ffff]) hb hin hscan (by omega), h6, groupBytes_ffff]
  simp

end Forms

/-- Each form, followed by a zone, is read as the octets it stands for and the zone. -/
theorem Ip6Text.parseIp6 {body : List Char} {oct : List UInt8} (h : Ip6Text body oct)
    {input zone : String} (hin : input.toList = body ++ zoneText zone) :
    parseIp6 input = pure (.v6 (Ip6.ofList oct) zone) := by
  cases h with
  | groups h8 hg => exact parseIp6_groups h8 hg hin
  | front h6 hg => exact parseIp6_front h6 hg hin
  | middle hpre h6 hg => exact parseIp6_middle hpre h6 hg hin
  | mapped hq => exact parseIp6_mapped hq hin

/-! ## Every address prints as a form -/

theorem Ip6.joinGroups_toList (gs : List Nat) : (Ip6.joinGroups gs).toList = joinText gs := by
  simp [Ip6.joinGroups, joinText, Function.comp_def]

theorem Ip4.render_toList (a : Ip4) : a.render.toList = quadText a.octets.toList := by
  simp [Ip4.render, quadText, Function.comp_def, Nat.toList_repr]

/-- The group form of an address, with the first longest zero run as `::`, is a form that
stands for the address's octets. -/
theorem ip6Text_renderGroups (a : Ip6) : Ip6Text a.renderGroups.toList a.octets.toList := by
  have h8 := length_groups a
  have hg := groups_lt a
  rw [← groups_flatMap_groupBytes a]
  unfold Ip6.renderGroups
  rcases hrun : Ip6.longestZeroRun a.groups with _ | ⟨s, l⟩
  · simp only [hrun, Ip6.joinGroups_toList]
    exact .groups h8 hg
  · obtain ⟨hl, hsl, hsplit⟩ := longestZeroRun_split hrun
    -- the octets are those of the groups before the run, the run's zeros, and those after it
    have hoct : a.groups.flatMap groupBytes = (a.groups.take s).flatMap groupBytes ++
        List.replicate (2 * l) 0 ++ (a.groups.drop (s + l)).flatMap groupBytes := by
      conv_lhs => rw [← hsplit]
      simp [List.flatMap_append, flatMap_groupBytes_replicate_zero]
    have hcolons : ("::" : String).toList = [':', ':'] := rfl
    have hpre : (a.groups.take s).length = s := by simp [h8]; omega
    have hpost : (a.groups.drop (s + l)).length = 8 - (s + l) := by simp [h8]
    have hgpre : ∀ g ∈ a.groups.take s, g < 65536 := fun g h => hg g (List.mem_of_mem_take h)
    have hgpost : ∀ g ∈ a.groups.drop (s + l), g < 65536 := fun g h => hg g (List.mem_of_mem_drop h)
    simp only [hrun, String.toList_append, Ip6.joinGroups_toList, hcolons, List.append_assoc,
      List.cons_append, List.nil_append]
    rw [hoct]
    rcases Nat.eq_zero_or_pos s with rfl | hs
    · have hrep : 2 * l = 16 - 2 * (a.groups.drop (0 + l)).length := by rw [hpost]; omega
      simp only [List.take_zero, joinText, List.map_nil, List.intercalate_nil, List.nil_append,
        List.flatMap_nil]
      rw [hrep]
      exact .front (by omega) hgpost
    · have hne : a.groups.take s ≠ [] := by
        intro h
        simp [h] at hpre
        omega
      have hrep : 2 * l = 16 - 2 * ((a.groups.take s).length + (a.groups.drop (s + l)).length) := by
        rw [hpre, hpost]
        omega
      rw [hrep]
      exact .middle hne (by omega) fun g h => (List.mem_append.1 h).elim (hgpre g) (hgpost g)

theorem bytesToVector_toList_of_length {n : Nat} {bs : List UInt8} (h : bs.length = n) :
    (bytesToVector n bs).toList = bs := by
  apply List.ext_getElem (by simp [h])
  intro i h1 h2
  simp [bytesToVector, h2]

/-- An address of the IPv4-mapped block prints as `::ffff:` and the dotted quad of its last four
octets, a form that stands for its octets. -/
theorem ip6Text_mapped (a : Ip6) (h : a.isMapped = true) :
    Ip6Text ("::ffff:" ++ a.lowIp4.render).toList a.octets.toList := by
  have hlow : a.lowIp4.octets.toList = a.octets.toList.drop 12 :=
    bytesToVector_toList_of_length (by simp)
  have hprefix : a.octets.toList.take 12 = List.replicate 10 0 ++ [255, 255] := by
    simpa [Ip6.isMapped] using h
  have hoct : a.octets.toList = List.replicate 10 0 ++ [255, 255] ++ a.lowIp4.octets.toList := by
    rw [hlow, ← hprefix, List.take_append_drop]
  have htext : ("::ffff:" ++ a.lowIp4.render).toList =
      ':' :: ':' :: ((Hex.ofNat 65535).toList ++ ':' :: quadText a.lowIp4.octets.toList) := by
    simp only [String.toList_append, Ip4.render_toList, ofNat_ffff]
    rfl
  rw [htext, hoct]
  exact .mapped (by simp)

/-- The address part of the text of every address is a form with the address's octets. -/
theorem ip6Text_body (a : Ip6) :
    Ip6Text (if a.isMapped then "::ffff:" ++ a.lowIp4.render else a.renderGroups).toList
      a.octets.toList := by
  split
  · exact ip6Text_mapped a (by assumption)
  · exact ip6Text_renderGroups a

theorem Ip6.render_toList (a : Ip6) (zone : String) :
    (a.render zone).toList =
      (if a.isMapped then "::ffff:" ++ a.lowIp4.render else a.renderGroups).toList ++ zoneText zone := by
  by_cases hz : zone.isEmpty <;> simp [Ip6.render, zoneText, hz]

/-- The IPv6 text of every address and zone is read back as that address and zone. -/
theorem parseIp6_render (a : Ip6) (zone : String) : parseIp6 (a.render zone) = pure (.v6 a zone) := by
  rw [(ip6Text_body a).parseIp6 (Ip6.render_toList a zone), Ip6.ofList_toList]

end PlatformLayer.Net
