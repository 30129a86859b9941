import Mathlib
import PlatformLayer.Session.Memory
/-!
# The lifecycle of physical mappings

The device source keeps a table of the regions it mapped, keyed by the address it answered. Every
region it makes is numbered by the count of regions made before it, so the key of a new region is
in no live entry: `Mapper.Fresh` says that the keys of the table are such places, numbered below
the count and each there once, and every call keeps it.

Main statement (`mapping_lifecycle`): after any calls of the facade on a device file, a map fails
before the source, leaving pointer and table, exactly when the pointer is missing or in use or the
size is not positive; an admitted map succeeds where the kernel accepts the region; a failed map
leaves the pointer; a successful map adds one entry, keyed by a non-zero place that is in no live
entry, for the page below the physical address, and the window there is the file's bytes from the
physical address on. An unmap zeroes the pointers, touches the
table only for a non-zero address, removes exactly the entry keyed by it, and a second unmap with
the pointers the first left changes nothing. Along the whole history no region is released twice.
-/
namespace PlatformLayer

open Session

namespace Mapper

def keys (m : Mapper) : List Address := m.live.map (·.1)

/-- What the table of a mapper keeps: every key is a kernel-chosen place in a region numbered
below the count of regions made, and no key is there twice. -/
structure Fresh (m : Mapper) : Prop where
  below : ∀ e ∈ m.live, ∃ i d, e.1 = .mapped i d ∧ i < m.made
  nodup : m.keys.Nodup

@[simp] theorem unmap_live (m : Mapper) (v : Address) : (m.unmap v).live = m.live.filter (·.1 ≠ v) :=
  rfl

@[simp] theorem unmap_made (m : Mapper) (v : Address) : (m.unmap v).made = m.made := rfl

@[simp] theorem unmap_source (m : Mapper) (v : Address) : (m.unmap v).source = m.source := rfl

theorem start_fresh (src : MapSource) : (start src).Fresh :=
  ⟨by simp [start], by simp [start, keys]⟩

theorem next_not_mem_keys {m : Mapper} (h : m.Fresh) (d : Nat) : Address.mapped m.made d ∉ m.keys := by
  intro hk
  obtain ⟨e, he, hek⟩ := List.mem_map.1 hk
  obtain ⟨i, d', hi, hlt⟩ := h.below e he
  rw [hi] at hek
  cases hek
  omega

/-- What the device source does with a map: it refuses and keeps its table, or it adds the region
of the page below `phys`, keyed by the place `phys % page` bytes into the next region. -/
theorem map_device {m : Mapper} {path : String} {bs : Bytes} {page : Nat}
    (hsrc : m.source = .deviceFile path (some bs) page) (phys size : Nat) :
    (∃ e, m.map phys size = (.error e, m)) ∨
      m.map phys size = (.ok (.mapped m.made (phys % page)),
        { m with live := m.live ++ [(.mapped m.made (phys % page), ⟨phys - phys % page, phys % page, size⟩)],
                 made := m.made + 1 }) := by
  simp only [map, hsrc]
  split
  · exact .inl ⟨_, rfl⟩
  · exact .inr rfl

theorem map_device_of_accepted {m : Mapper} {path : String} {bs : Bytes} {page : Nat}
    (hsrc : m.source = .deviceFile path (some bs) page) {phys size : Nat}
    (hk : mmapRefusal page (phys - phys % page) (signedLength (size + phys % page)) = none) :
    m.map phys size = (.ok (.mapped m.made (phys % page)),
      { m with live := m.live ++ [(.mapped m.made (phys % page), ⟨phys - phys % page, phys % page, size⟩)],
               made := m.made + 1 }) := by
  simp only [map, hsrc, hk]

theorem map_keeps {m : Mapper} (hsrc : ∀ path bs page, m.source ≠ .deviceFile path (some bs) page)
    (phys size : Nat) : (m.map phys size).2 = m := by
  rcases hs : m.source with _ | ⟨path, _ | bs, page⟩
  · simp [map, hs]
  · simp [map, hs]
  · exact absurd hs (hsrc path bs page)

/-- A map keeps the source and lowers no count, and every entry after it was there before it or
is numbered from the count before it on. -/
theorem map_grows (m : Mapper) (phys size : Nat) :
    (m.map phys size).2.source = m.source ∧ m.made ≤ (m.map phys size).2.made ∧
      ∀ e ∈ (m.map phys size).2.live, e ∈ m.live ∨ ∃ i d, e.1 = .mapped i d ∧ m.made ≤ i := by
  by_cases hsrc : ∃ path bs page, m.source = .deviceFile path (some bs) page
  · obtain ⟨path, bs, page, hsrc⟩ := hsrc
    rcases map_device hsrc phys size with ⟨e, he⟩ | hok
    · rw [he]
      exact ⟨rfl, le_refl _, fun e he => .inl he⟩
    · rw [hok]
      refine ⟨rfl, Nat.le_succ _, fun e he => ?_⟩
      rcases List.mem_append.1 he with he | he
      · exact .inl he
      · exact .inr ⟨m.made, phys % page, by rw [List.mem_singleton.1 he], le_refl _⟩
  · rw [map_keeps (fun path bs page hs => hsrc ⟨path, bs, page, hs⟩)]
    exact ⟨rfl, le_refl _, fun e he => .inl he⟩

theorem fresh_append_next {m : Mapper} (h : m.Fresh) (r : Region) :
    ({ m with live := m.live ++ [(.mapped m.made r.delta, r)], made := m.made + 1 } : Mapper).Fresh := by
  refine ⟨fun e he => ?_, ?_⟩
  · rcases List.mem_append.1 he with he | he
    · obtain ⟨i, d, hi, hlt⟩ := h.below e he
      exact ⟨i, d, hi, by simp only; omega⟩
    · rw [List.mem_singleton.1 he]
      exact ⟨m.made, r.delta, rfl, by simp⟩
  · have hnew := next_not_mem_keys h r.delta
    simp only [keys, List.map_append, List.map_cons, List.map_nil]
    refine List.nodup_append.2 ⟨h.nodup, List.nodup_singleton _, ?_⟩
    rintro a ha b hb rfl
    rw [List.mem_singleton.1 hb] at ha
    exact hnew ha

theorem map_fresh {m : Mapper} (h : m.Fresh) (phys size : Nat) : (m.map phys size).2.Fresh := by
  by_cases hsrc : ∃ path bs page, m.source = .deviceFile path (some bs) page
  · obtain ⟨path, bs, page, hsrc⟩ := hsrc
    rcases map_device hsrc phys size with ⟨e, he⟩ | hok
    · rw [he]
      exact h
    · rw [hok]
      exact fresh_append_next h ⟨phys - phys % page, phys % page, size⟩
  · rw [map_keeps (fun path bs page hs => hsrc ⟨path, bs, page, hs⟩)]
    exact h

theorem unmap_fresh {m : Mapper} (h : m.Fresh) (v : Address) : (m.unmap v).Fresh := by
  refine ⟨fun e he => h.below e (List.mem_filter.1 he).1, ?_⟩
  exact h.nodup.sublist (List.filter_sublist.map _)

theorem filter_key_ne_of_forall {l : List (Address × Region)} {v : Address} (h : ∀ e ∈ l, e.1 ≠ v) :
    l.filter (fun e => decide (e.1 ≠ v)) = l :=
  List.filter_eq_self.2 fun e he => by simpa using h e he

/-- On a fresh table the entry keyed by `v`, if there is one, is the only one the release of `v`
removes. -/
theorem unmap_of_mem {m : Mapper} (h : m.Fresh) {v : Address} {r : Region} (hv : (v, r) ∈ m.live) :
    ∃ l₁ l₂, m.live = l₁ ++ (v, r) :: l₂ ∧ m.unmap v = { m with live := l₁ ++ l₂ } := by
  obtain ⟨l₁, l₂, hsplit⟩ := List.append_of_mem hv
  have hnodup : (l₁.map (·.1) ++ v :: l₂.map (·.1)).Nodup := by
    simpa [keys, hsplit] using h.nodup
  obtain ⟨-, hcons, hdisj⟩ := List.nodup_append.1 hnodup
  -- `v` is the key of no other entry, on either side
  have h₁ : ∀ e ∈ l₁, e.1 ≠ v := fun e he =>
    hdisj _ (List.mem_map_of_mem he) _ List.mem_cons_self
  have h₂ : ∀ e ∈ l₂, e.1 ≠ v := fun e he hev =>
    (List.nodup_cons.1 hcons).1 (by rw [← hev]; exact List.mem_map_of_mem he)
  have hfilter : m.live.filter (fun e => decide (e.1 ≠ v)) = l₁ ++ l₂ := by
    rw [hsplit, List.filter_append, List.filter_cons_of_neg (by simp), filter_key_ne_of_forall h₁,
      filter_key_ne_of_forall h₂]
  exact ⟨l₁, l₂, hsplit, by rw [unmap, hfilter]⟩

theorem unmap_of_not_mem {m : Mapper} {v : Address} (hv : v ∉ m.keys) : m.unmap v = m := by
  have hkeep : ∀ e ∈ m.live, e.1 ≠ v := fun e he hev =>
    hv (by rw [← hev]; exact List.mem_map_of_mem he)
  rw [unmap, filter_key_ne_of_forall hkeep]

/-- The window at the key of the last region added is the file from the physical address on,
when the file reaches the region's end. -/
theorem window?_append {m : Mapper} {path : String} {bs : Bytes} {page : Nat}
    (hsrc : m.source = .deviceFile path (some bs) page) {v : Address} (hv : v ∉ m.keys)
    (r : Region) (made : Nat) (hend : r.base + r.delta + r.size ≤ bs.length) :
    ({ m with live := m.live ++ [(v, r)], made := made } : Mapper).window? v =
      some ((bs.drop (r.base + r.delta)).take r.size) := by
  have hnone : m.live.find? (·.1 == v) = none :=
    List.find?_eq_none.2 fun e he hev =>
      hv (by rw [← beq_iff_eq.1 hev]; exact List.mem_map_of_mem he)
  simp [window?, hsrc, List.find?_append, hnone, hend]

end Mapper

namespace MemMapService

/-! ### Calls of the facade -/

/-- The mapper after a call of the facade. -/
def stepMapper (m : Mapper) : MapStep → Mapper
  | .map phys size virt => (map m phys size virt).2
  | .unmap phys _ virt => (unmap m phys virt).2

def runMapper (m : Mapper) (calls : List MapStep) : Mapper := calls.foldl stepMapper m

/-- The table entries a call releases: those of the table before it that are gone after it. -/
def released (m : Mapper) (s : MapStep) : List (Address × Region) :=
  m.live.filter (· ∉ (stepMapper m s).live)

/-- The table entries released along calls made in order. -/
def releasedAlong : Mapper → List MapStep → List (Address × Region)
  | _, [] => []
  | m, s :: rest => released m s ++ releasedAlong (stepMapper m s) rest

/-- The failure of a map refused before the source. -/
def refusal : Except (Fault MapError) Unit := .error (.failed "memmap-map" none)

/-- What a map of the facade can do: refuse before the source, keeping pointer and table, when
the pointer is missing or in use or the size is not positive; otherwise pass the source's answer
on, its error as the cause of a failure that keeps the pointer, or its address into the pointer. -/
theorem map_cases (m : Mapper) (phys : Nat) (size : Int) (virt : Option Address) :
    (map m phys size virt = ((refusal, virt), m) ∧
      (virt = none ∨ (∃ v, virt = some v ∧ v.isZero = false) ∨ size ≤ 0)) ∨
    ∃ v, virt = some v ∧ v.isZero = true ∧ 0 < size ∧
      ((∃ e m', m.map phys size.toNat = (.error e, m') ∧
          map m phys size virt = ((.error (.failed "memmap-map" (some e)), virt), m')) ∨
        ∃ a m', m.map phys size.toNat = (.ok a, m') ∧ map m phys size virt = ((.ok (), some a), m')) := by
  rcases virt with _ | v
  · exact .inl ⟨rfl, .inl rfl⟩
  by_cases hr : v.isZero = false ∨ size ≤ 0
  · refine .inl ⟨?_, .inr ?_⟩
    · simp only [map, refusal]
      rw [if_pos (by simpa using hr)]
    · rcases hr with hr | hr
      · exact .inl ⟨v, rfl, hr⟩
      · exact .inr hr
  · simp only [not_or, Bool.not_eq_false, not_le] at hr
    obtain ⟨hv, hs⟩ := hr
    have hguard : ¬ ((!v.isZero) = true ∨ size ≤ 0) := by simp [hv]; omega
    refine .inr ⟨v, rfl, hv, hs, ?_⟩
    rcases hmap : m.map phys size.toNat with ⟨_ | a, m'⟩
    · exact .inl ⟨_, m', rfl, by simp only [map, if_neg hguard, hmap]⟩
    · exact .inr ⟨a, m', rfl, by simp only [map, if_neg hguard, hmap]⟩

theorem map_refused_iff (m : Mapper) (phys : Nat) (size : Int) (virt : Option Address) :
    map m phys size virt = ((refusal, virt), m) ↔
      virt = none ∨ (∃ v, virt = some v ∧ v.isZero = false) ∨ size ≤ 0 := by
  rcases map_cases m phys size virt with ⟨href, hwhy⟩ | ⟨v, rfl, hv, hs, hsrc⟩
  · exact ⟨fun _ => hwhy, fun _ => href⟩
  -- an admitted map answers the source's error or a success, never the refusal
  · have hne : map m phys size (some v) ≠ ((refusal, some v), m) := by
      rcases hsrc with ⟨e, m', -, hmap⟩ | ⟨a, m', -, hmap⟩ <;> simp [hmap, refusal]
    simp only [hne, false_iff, reduceCtorEq, Option.some.injEq, exists_eq_left', hv, false_or,
      Bool.true_eq_false, not_le]
    exact hs

theorem map_failed_pointer {m m' : Mapper} {phys : Nat} {size : Int} {virt virt' : Option Address}
    {fault : Fault MapError} (h : map m phys size virt = ((.error fault, virt'), m')) : virt' = virt := by
  rcases map_cases m phys size virt with ⟨href, -⟩ | ⟨v, rfl, -, -, ⟨e, m'', -, hmap⟩ | ⟨a, m'', -, hmap⟩⟩
  · rw [href] at h
    cases h
    rfl
  · rw [hmap] at h
    cases h
    rfl
  · rw [hmap] at h
    cases h

theorem map_mapper (m : Mapper) (phys : Nat) (size : Int) (virt : Option Address) :
    (map m phys size virt).2 = m ∨ (map m phys size virt).2 = (m.map phys size.toNat).2 := by
  rcases map_cases m phys size virt with ⟨href, -⟩ | ⟨v, rfl, -, -, ⟨e, m', hsrc, hmap⟩ | ⟨a, m', hsrc, hmap⟩⟩
  · exact .inl (by rw [href])
  · exact .inr (by rw [hmap, hsrc])
  · exact .inr (by rw [hmap, hsrc])

/-- A successful map on a readable device file stores a non-zero place that keys no live entry and
adds exactly the entry of the page below `phys`; where the file reaches `phys + size`, the window
there is `size` bytes, each the file's byte at its offset from `phys`. -/
theorem map_ok {m m' : Mapper} {path : String} {bs : Bytes} {page : Nat}
    (hsrc : m.source = .deviceFile path (some bs) page) (hf : m.Fresh) {phys : Nat} {size : Int}
    {virt virt' : Option Address} (h : map m phys size virt = ((.ok (), virt'), m')) :
    ∃ v, virt' = some v ∧ v.isZero = false ∧ v ∉ m.keys ∧
      m'.live = m.live ++ [(v, ⟨phys - phys % page, phys % page, size.toNat⟩)] ∧
      (phys + size.toNat ≤ bs.length → ∃ w, m'.window? v = some w ∧ w.length = size.toNat ∧
        ∀ i < size.toNat, w[i]? = bs[phys + i]?) := by
  rcases map_cases m phys size virt with ⟨href, -⟩ | ⟨u, rfl, -, hs, ⟨e, m'', -, hmap⟩ | ⟨a, m'', hsrcmap, hmap⟩⟩
  · rw [href] at h
    cases h
  · rw [hmap] at h
    cases h
  rw [hmap] at h
  cases h
  -- the source added the entry of the page below `phys`
  rcases Mapper.map_device hsrc phys size.toNat with ⟨e, he⟩ | hok
  · rw [he] at hsrcmap
    cases hsrcmap
  rw [hok] at hsrcmap
  cases hsrcmap
  have hdelta : phys - phys % page + phys % page = phys := Nat.sub_add_cancel (Nat.mod_le _ _)
  refine ⟨_, rfl, rfl, Mapper.next_not_mem_keys hf _, rfl, fun hend => ?_⟩
  refine ⟨(bs.drop phys).take size.toNat, ?_, by simp; omega, fun i hi => ?_⟩
  · rw [Mapper.window?_append hsrc (Mapper.next_not_mem_keys hf _) _ _ (by simp only; omega)]
    simp only [hdelta]
  · simp [hi]

theorem unmap_of_zero (m : Mapper) (phys virt : Option Address)
    (h : ∀ v, virt = some v → v.isZero = true) : (unmap m phys virt).2 = m := by
  rcases virt with _ | v
  · rfl
  · simp [unmap, h v rfl]

theorem unmap_of_nonzero (m : Mapper) (phys : Option Address) {v : Address} (h : v.isZero = false) :
    (unmap m phys (some v)).2 = m.unmap v := by
  simp [unmap, h]

theorem unmap_mapper (m : Mapper) (phys virt : Option Address) :
    (unmap m phys virt).2 = m ∨ ∃ v, virt = some v ∧ v.isZero = false ∧ (unmap m phys virt).2 = m.unmap v := by
  rcases virt with _ | v
  · exact .inl rfl
  · cases hv : v.isZero
    · exact .inr ⟨v, rfl, hv, unmap_of_nonzero m phys hv⟩
    · exact .inl (unmap_of_zero m phys _ fun _ h => by cases h; exact hv)

/-- A second unmap with the pointers the first left changes nothing. -/
theorem unmap_unmap (m : Mapper) (phys virt : Option Address) :
    unmap (unmap m phys virt).2 (unmap m phys virt).1.1 (unmap m phys virt).1.2 = unmap m phys virt := by
  -- the first unmap leaves no pointer or a zero one
  have hz : ∀ v, (unmap m phys virt).1.2 = some v → v.isZero = true := by
    intro v hv
    rcases virt with _ | u
    · cases hv
    · cases hv
      rfl
  refine Prod.ext ?_ (unmap_of_zero _ _ _ hz)
  rcases phys with _ | p <;> rcases virt with _ | u <;> rfl

/-! ### Whole histories -/

theorem step_grows (m : Mapper) (s : MapStep) :
    (stepMapper m s).source = m.source ∧ m.made ≤ (stepMapper m s).made ∧
      ∀ e ∈ (stepMapper m s).live, e ∈ m.live ∨ ∃ i d, e.1 = .mapped i d ∧ m.made ≤ i := by
  cases s with
  | map phys size virt =>
    rcases map_mapper m phys size virt with h | h
    · rw [show stepMapper m (.map phys size virt) = m from h]
      exact ⟨rfl, le_refl _, fun e he => .inl he⟩
    · rw [show stepMapper m (.map phys size virt) = _ from h]
      exact Mapper.map_grows m phys size.toNat
  | unmap phys size virt =>
    rcases unmap_mapper m phys virt with h | ⟨v, -, -, h⟩
    · rw [show stepMapper m (.unmap phys size virt) = m from h]
      exact ⟨rfl, le_refl _, fun e he => .inl he⟩
    · rw [show stepMapper m (.unmap phys size virt) = _ from h]
      exact ⟨rfl, le_refl _, fun e he => .inl (List.mem_filter.1 he).1⟩

theorem step_fresh {m : Mapper} (h : m.Fresh) (s : MapStep) : (stepMapper m s).Fresh := by
  cases s with
  | map phys size virt =>
    rcases map_mapper m phys size virt with hm | hm
    · simpa only [stepMapper, hm] using h
    · simpa only [stepMapper, hm] using Mapper.map_fresh h phys size.toNat
  | unmap phys _ virt =>
    rcases unmap_mapper m phys virt with hm | ⟨v, -, -, hm⟩
    · simpa only [stepMapper, hm] using h
    · simpa only [stepMapper, hm] using Mapper.unmap_fresh h v

/-- The run lemma: calls made in order keep the source and a fresh table. -/
theorem run_fresh {m : Mapper} (h : m.Fresh) (calls : List MapStep) :
    (runMapper m calls).source = m.source ∧ (runMapper m calls).Fresh := by
  induction calls generalizing m with
  | nil => exact ⟨rfl, h⟩
  | cons s calls ih =>
    obtain ⟨hsrc, hf⟩ := ih (step_fresh h s)
    exact ⟨hsrc.trans (step_grows m s).1, hf⟩

theorem mem_released {m : Mapper} {s : MapStep} {e : Address × Region} (he : e ∈ released m s) :
    e ∈ m.live ∧ e ∉ (stepMapper m s).live := by
  simpa [released] using he

theorem mem_releasedAlong {m : Mapper} {calls : List MapStep} {e : Address × Region}
    (he : e ∈ releasedAlong m calls) : e ∈ m.live ∨ ∃ i d, e.1 = .mapped i d ∧ m.made ≤ i := by
  induction calls generalizing m with
  | nil => simp [releasedAlong] at he
  | cons s calls ih =>
    rcases List.mem_append.1 he with he | he
    · exact .inl (mem_released he).1
    · obtain ⟨-, hmade, hlive⟩ := step_grows m s
      rcases ih he with he | ⟨i, d, hi, hle⟩
      · exact hlive e he
      · exact .inr ⟨i, d, hi, hmade.trans hle⟩

/-- No region is released twice: along calls from a fresh table, the entries released are all
different. -/
theorem releasedAlong_nodup {m : Mapper} (h : m.Fresh) (calls : List MapStep) :
    (releasedAlong m calls).Nodup := by
  induction calls generalizing m with
  | nil => exact List.nodup_nil
  | cons s calls ih =>
    have hlive : m.live.Nodup := List.Nodup.of_map _ h.nodup
    refine List.nodup_append.2 ⟨hlive.filter _, ih (step_fresh h s), ?_⟩
    -- an entry released now leaves the table, and later tables only gain entries numbered from
    -- the count on, which is above its number
    rintro e he e' he' rfl
    obtain ⟨hin, hout⟩ := mem_released he
    obtain ⟨i, d, hi, hlt⟩ := h.below e hin
    rcases mem_releasedAlong he' with he' | ⟨i', d', hi', hle⟩
    · exact hout he'
    · rw [hi] at hi'
      cases hi'
      have hmade := (step_grows m s).2.1
      omega

/-! ### The lifecycle -/

/-- What the facade does from a mapper on the device file `bs` with page size `page`, call by
call. -/
structure Lifecycle (bs : Bytes) (page : Nat) (m : Mapper) : Prop where
  /-- A map fails before the source, keeping pointer and table, exactly when the pointer is
  missing or in use or the size is not positive. -/
  refused_iff : ∀ phys size virt, map m phys size virt = ((refusal, virt), m) ↔
    virt = none ∨ (∃ v, virt = some v ∧ v.isZero = false) ∨ size ≤ 0
  /-- A map with an empty pointer and a positive size succeeds where the kernel accepts the
  region. -/
  admitted : ∀ phys size, 0 < size →
    mmapRefusal page (phys - phys % page) (signedLength (size.toNat + phys % page)) = none →
    ∃ v m', map m phys size (some .zero) = ((.ok (), some v), m')
  /-- A failed map leaves the pointer. -/
  failed_keeps_pointer : ∀ phys size virt fault virt' m',
    map m phys size virt = ((.error fault, virt'), m') → virt' = virt
  /-- A successful map stores a non-zero place in no live entry and adds exactly its entry, for
  the page below `phys`; the window there is the file's `size` bytes from `phys` on. -/
  mapped : ∀ phys size virt virt' m', map m phys size virt = ((.ok (), virt'), m') →
    ∃ v, virt' = some v ∧ v.isZero = false ∧ v ∉ m.keys ∧
      m'.live = m.live ++ [(v, ⟨phys - phys % page, phys % page, size.toNat⟩)] ∧
      (phys + size.toNat ≤ bs.length → ∃ w, m'.window? v = some w ∧ w.length = size.toNat ∧
        ∀ i < size.toNat, w[i]? = bs[phys + i]?)
  /-- An unmap zeroes the pointers that are there. -/
  unmap_pointers : ∀ phys virt,
    (unmap m phys virt).1 = (phys.map fun _ => .zero, virt.map fun _ => .zero)
  /-- Without a non-zero address an unmap keeps the mapper. -/
  unmap_zero : ∀ phys virt, (∀ v, virt = some v → v.isZero = true) → (unmap m phys virt).2 = m
  /-- An unmap of a non-zero address removes exactly the entry keyed by it. -/
  unmap_removes : ∀ phys v r, v.isZero = false → (v, r) ∈ m.live →
    ∃ l₁ l₂, m.live = l₁ ++ (v, r) :: l₂ ∧ (unmap m phys (some v)).2 = { m with live := l₁ ++ l₂ }
  /-- An unmap of an address that keys no entry keeps the mapper. -/
  unmap_absent : ∀ phys v, v ∉ m.keys → (unmap m phys (some v)).2 = m
  /-- A second unmap with the pointers the first left changes nothing. -/
  unmap_twice : ∀ phys virt,
    unmap (unmap m phys virt).2 (unmap m phys virt).1.1 (unmap m phys virt).1.2 = unmap m phys virt

theorem lifecycle_of_fresh {m : Mapper} {path : String} {bs : Bytes} {page : Nat}
    (hsrc : m.source = .deviceFile path (some bs) page) (hf : m.Fresh) : Lifecycle bs page m where
  refused_iff := map_refused_iff m
  admitted phys size hs hk := by
    rcases map_cases m phys size (some .zero) with ⟨-, hwhy⟩ | ⟨v, hv, -, -, hsrcmap⟩
    · simp [Address.zero, Address.isZero] at hwhy
      omega
    · cases hv
      rcases hsrcmap with ⟨e, m', hmap, -⟩ | ⟨a, m', -, hmap⟩
      · rw [Mapper.map_device_of_accepted hsrc hk] at hmap
        cases hmap
      · exact ⟨a, m', hmap⟩
  failed_keeps_pointer _ _ _ _ _ _ h := map_failed_pointer h
  mapped _ _ _ _ _ h := map_ok hsrc hf h
  unmap_pointers _ _ := rfl
  unmap_zero := unmap_of_zero m
  unmap_removes phys v r hv hmem := by
    obtain ⟨l₁, l₂, hsplit, hun⟩ := Mapper.unmap_of_mem hf hmem
    exact ⟨l₁, l₂, hsplit, by rw [unmap_of_nonzero m phys hv, hun]⟩
  unmap_absent phys v hv := by
    rcases unmap_mapper m phys (some v) with h | ⟨u, hu, -, h⟩
    · exact h
    · cases hu
      rw [h, Mapper.unmap_of_not_mem hv]
  unmap_twice := unmap_unmap m

/-- From a fresh device source, after any calls of the facade, the next call keeps the lifecycle
of a mapping, and no region is released twice along the calls. -/
theorem mapping_lifecycle (path : String) (bs : Bytes) (page : Nat) (calls : List MapStep) :
    Lifecycle bs page (runMapper (Mapper.start (.deviceFile path (some bs) page)) calls) ∧
    (releasedAlong (Mapper.start (.deviceFile path (some bs) page)) calls).Nodup := by
  obtain ⟨hsrc, hf⟩ := run_fresh (Mapper.start_fresh (.deviceFile path (some bs) page)) calls
  exact ⟨lifecycle_of_fresh hsrc hf, releasedAlong_nodup (Mapper.start_fresh _) calls⟩

end MemMapService

end PlatformLayer
