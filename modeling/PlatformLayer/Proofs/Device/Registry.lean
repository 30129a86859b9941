import Mathlib
import PlatformLayer.Proofs.Device.Table
/-!
# The driver registry and the device nodes

A node is served by the registered driver whose key, its cleaned path, is the longest prefix of
the node's path. The store of nodes is a parameter; `NodeStore.Lawful` is what the service
assumes of it: the listing names each node once, making directories adds no node, writing an
empty file adds at most that node, and removing a listed node works and removes exactly it.

Main statement: from a fresh service over an empty store, after any calls, the keys are
registered once each and every node has a registered key as a prefix. Registering a key that is
already there fails and changes nothing, a node is made only under a registered key, and
unregistering works exactly when the key is registered; it then drops that entry and exactly the
nodes whose longest registered prefix was that key, and keeps the descriptor table.
-/
namespace PlatformLayer

variable {σ : Type}

/-- What the service assumes of the store its device nodes live in. -/
structure NodeStore.Lawful (fs : NodeStore σ) : Prop where
  nodes_nodup : ∀ t, (fs.nodes t).Nodup
  mkdirAll_nodes : ∀ t q n, n ∈ fs.nodes (fs.mkdirAll t q) → n ∈ fs.nodes t
  writeEmpty_nodes : ∀ t p n, n ∈ fs.nodes (fs.writeEmpty t p) → n ∈ fs.nodes t ∨ n = p
  remove_node : ∀ t p, p ∈ fs.nodes t →
    ∃ t', fs.remove t p = .ok (.ok t') ∧ ∀ n, n ∈ fs.nodes t' ↔ n ∈ fs.nodes t ∧ n ≠ p

namespace Emulation

/-! ### Prefixes of paths -/

theorem isPrefixOf_iff {k n : String} : k.isPrefixOf n = true ↔ k.toList <+: n.toList := by
  simp [String.isPrefixOf]

theorem isPrefixOf_self (k : String) : k.isPrefixOf k = true :=
  isPrefixOf_iff.2 (List.prefix_refl _)

/-- Two prefixes of one path with the same length are the same. -/
theorem eq_of_isPrefixOf {k k' n : String} (h : k.isPrefixOf n = true) (h' : k'.isPrefixOf n = true)
    (hl : k.length = k'.length) : k = k' := by
  rw [isPrefixOf_iff] at h h'
  have hl' : k.toList.length = k'.toList.length := by rw [String.length_toList, String.length_toList, hl]
  exact String.toList_inj.1 (List.prefix_of_prefix_length_le h h' hl'.le |>.eq_of_length hl')

/-! ### The serving driver -/

/-- One step of the search for the longest fitting key: a strictly longer key replaces the best. -/
def longer (best : Option (String × Driver)) (e : String × Driver) : Option (String × Driver) :=
  match best with
  | some b => if e.1.length > b.1.length then some e else best
  | none => some e

/-- A step keeps either the new entry or the best so far, whichever is at least as long. -/
theorem longer_spec (best : Option (String × Driver)) (e : String × Driver) :
    ∃ c, longer best e = some c ∧ (c = e ∨ best = some c) ∧ e.1.length ≤ c.1.length ∧
      ∀ b₀, best = some b₀ → b₀.1.length ≤ c.1.length := by
  unfold longer
  split
  · next b =>
    by_cases hlen : e.1.length > b.1.length
    · exact ⟨e, by simp [hlen], .inl rfl, le_refl _, fun b₀ h => by cases h; omega⟩
    · exact ⟨b, by simp [hlen], .inr rfl, by omega, fun b₀ h => by cases h; exact le_refl _⟩
  · exact ⟨e, rfl, .inl rfl, le_refl _, fun _ h => by cases h⟩

theorem servedBy?_eq (s : Emulation σ) (p : String) :
    s.servedBy? p = ((s.registry.filter fun e => e.1.isPrefixOf p).foldl longer none).map (·.2) := by
  simp only [servedBy?]
  congr 2
  funext best e
  rcases best with _ | ⟨bk, bd⟩ <;> rfl

/-- The search ends with nothing only on nothing, and otherwise with an entry at least as long
as every entry it saw. -/
theorem foldl_longer (l : List (String × Driver)) (init : Option (String × Driver)) :
    (l.foldl longer init = none ↔ init = none ∧ l = []) ∧
    ∀ b, l.foldl longer init = some b → (init = some b ∨ b ∈ l) ∧
      (∀ e ∈ l, e.1.length ≤ b.1.length) ∧ ∀ b₀, init = some b₀ → b₀.1.length ≤ b.1.length := by
  induction l generalizing init with
  | nil =>
    refine ⟨by simp, fun b hb => ?_⟩
    simp only [List.foldl_nil] at hb
    subst hb
    simp
  | cons x l ih =>
    obtain ⟨c, hc, hcx, hxc, hinit⟩ := longer_spec init x
    obtain ⟨hnone, hsome⟩ := ih (some c)
    rw [List.foldl_cons, hc]
    refine ⟨by simp [hnone], fun b hb => ?_⟩
    obtain ⟨hmem, hle, hprev⟩ := hsome b hb
    -- the best after `x` is at least as long as `x` and as the best before it
    have hcb := hprev c rfl
    refine ⟨?_, List.forall_mem_cons.2 ⟨hxc.trans hcb, hle⟩, fun b₀ h₀ => (hinit b₀ h₀).trans hcb⟩
    rcases hmem with h | h
    · cases h
      rcases hcx with rfl | h
      · exact .inr List.mem_cons_self
      · exact .inl h
    · exact .inr (List.mem_cons_of_mem _ h)

/-- `k` is the longest registered key that is a prefix of `n`. -/
def LongestPrefix (s : Emulation σ) (n k : String) : Prop :=
  (∃ d, (k, d) ∈ s.registry) ∧ k.isPrefixOf n = true ∧
    ∀ e ∈ s.registry, e.1.isPrefixOf n = true → e.1.length ≤ k.length

theorem longestPrefix_unique {s : Emulation σ} {n k k' : String} (h : s.LongestPrefix n k)
    (h' : s.LongestPrefix n k') : k = k' := by
  obtain ⟨⟨d, hd⟩, hk, hmax⟩ := h
  obtain ⟨⟨d', hd'⟩, hk', hmax'⟩ := h'
  exact eq_of_isPrefixOf hk hk' (le_antisymm (hmax' _ hd hk) (hmax _ hd' hk'))

theorem servedBy?_eq_none_iff {s : Emulation σ} {p : String} :
    s.servedBy? p = none ↔ ∀ e ∈ s.registry, e.1.isPrefixOf p = false := by
  rw [servedBy?_eq, Option.map_eq_none_iff, (foldl_longer _ none).1]
  simp [List.filter_eq_nil_iff]

/-- A path is served by the driver of its longest registered prefix. -/
theorem longestPrefix_of_servedBy? {s : Emulation σ} {p : String} {d : Driver}
    (h : s.servedBy? p = some d) : ∃ k, (k, d) ∈ s.registry ∧ s.LongestPrefix p k := by
  rw [servedBy?_eq, Option.map_eq_some_iff] at h
  obtain ⟨b, hb, rfl⟩ := h
  obtain ⟨hmem, hle, -⟩ := (foldl_longer _ none).2 b hb
  have hb' : b ∈ s.registry ∧ b.1.isPrefixOf p = true := by simpa using hmem
  exact ⟨b.1, hb'.1, ⟨b.2, hb'.1⟩, hb'.2, fun e he hp => hle e (List.mem_filter.2 ⟨he, hp⟩)⟩

theorem servedBy?_ne_none {s : Emulation σ} {n : String} {e : String × Driver} (he : e ∈ s.registry)
    (hp : e.1.isPrefixOf n = true) : s.servedBy? n ≠ none := fun hs => by
  simp [servedBy?_eq_none_iff.1 hs e he] at hp

theorem registered?_eq_none_iff {s : Emulation σ} {k : String} :
    s.registered? k = none ↔ ∀ e ∈ s.registry, e.1 ≠ k := by
  simp [registered?, List.find?_eq_none]

/-! ### The invariant -/

variable (fs : NodeStore σ)

/-- What every reachable service keeps of its registry and nodes: each key is the cleaned path
of its driver and is registered once, and every node has a registered key as a prefix. -/
structure Consistent (s : Emulation σ) : Prop where
  keys_nodup : (s.registry.map (·.1)).Nodup
  key_clean : ∀ e ∈ s.registry, e.1 = DevicePath.clean e.2.path
  covered : ∀ n ∈ s.nodes fs, ∃ e ∈ s.registry, e.1.isPrefixOf n = true

variable {fs}

theorem Consistent.of_store {s s' : Emulation σ} (h : s.Consistent fs) (ht : s'.tree = s.tree)
    (hr : s'.registry = s.registry) : s'.Consistent fs where
  keys_nodup := hr ▸ h.keys_nodup
  key_clean := hr ▸ h.key_clean
  covered := by
    rw [hr]
    simpa only [nodes, ht] using h.covered

/-- Under a consistent registry, the serving driver has the cleaned path `path` exactly when
`path` is the longest registered prefix. -/
theorem servedBy?_path_iff {s : Emulation σ} (h : s.Consistent fs) {n path : String} :
    (∃ drv, s.servedBy? n = some drv ∧ DevicePath.clean drv.path = path) ↔ s.LongestPrefix n path := by
  constructor
  · rintro ⟨drv, hs, rfl⟩
    obtain ⟨k, hk, hl⟩ := longestPrefix_of_servedBy? hs
    rwa [← h.key_clean _ hk]
  · intro hl
    obtain ⟨d, hd⟩ := hl.1
    rcases hs : s.servedBy? n with _ | drv
    · exact absurd hs (servedBy?_ne_none hd hl.2.1)
    · obtain ⟨k, hk, hlk⟩ := longestPrefix_of_servedBy? hs
      have hkp : k = path := longestPrefix_unique hlk hl
      exact ⟨drv, rfl, hkp ▸ (h.key_clean _ hk).symm⟩

theorem mem_nodes_makeNode (hfs : fs.Lawful) {s : Emulation σ} {p n : String}
    (h : n ∈ (s.makeNode fs p).nodes fs) : n ∈ s.nodes fs ∨ n = p := by
  simp only [nodes, makeNode] at h ⊢
  rcases hfs.writeEmpty_nodes _ _ _ h with h | h
  · exact Or.inl (hfs.mkdirAll_nodes _ _ _ h)
  · exact Or.inr h

/-! ### Each call keeps the invariant -/

theorem register_of_registered (d : Driver) {s : Emulation σ}
    (h : (s.registered? (DevicePath.clean d.path)).isSome) :
    register fs d s = (.error (.alreadyRegistered (DevicePath.clean d.path)), s) := by
  simp [register, h]

theorem register_consistent (hfs : fs.Lawful) {s : Emulation σ} (h : s.Consistent fs) (d : Driver) :
    (register fs d s).2.Consistent fs := by
  by_cases hreg : (s.registered? (DevicePath.clean d.path)).isSome
  · rw [register_of_registered d hreg]
    exact h
  · have hfresh := registered?_eq_none_iff.1 (by simpa using hreg)
    simp only [register, hreg, Bool.false_eq_true, ↓reduceIte]
    refine ⟨?_, ?_, ?_⟩
    · simp only [makeNode, List.map_append, List.map_cons, List.map_nil]
      refine List.nodup_append.2 ⟨h.keys_nodup, List.nodup_singleton _, ?_⟩
      simp only [List.mem_map, List.mem_singleton]
      rintro _ ⟨e, he, rfl⟩ _ rfl
      exact hfresh e he
    · intro e he
      rcases List.mem_append.1 he with he | he
      · exact h.key_clean e he
      · rw [List.mem_singleton.1 he]
    · intro n hn
      rcases mem_nodes_makeNode hfs hn with hn | rfl
      · obtain ⟨e, he, hp⟩ := h.covered n hn
        exact ⟨e, List.mem_append_left _ he, hp⟩
      · exact ⟨_, List.mem_append_right _ (List.mem_singleton_self _), isPrefixOf_self _⟩

theorem exists_prefix_of_servedBy? {s : Emulation σ} {p : String}
    (h : (s.servedBy? p).isNone = false) : ∃ e ∈ s.registry, e.1.isPrefixOf p = true := by
  obtain ⟨d, hd⟩ := Option.isSome_iff_exists.1 (by simpa using h)
  obtain ⟨k, hk, hl⟩ := longestPrefix_of_servedBy? hd
  exact ⟨(k, d), hk, hl.2.1⟩

theorem makeServedNode_covered {p : String} {s : Emulation σ}
    (h : (makeServedNode fs p s).1 = .ok ()) :
    ∃ e ∈ s.registry, e.1.isPrefixOf (DevicePath.clean p) = true := by
  cases hs : (s.servedBy? (DevicePath.clean p)).isNone
  · exact exists_prefix_of_servedBy? hs
  · simp [makeServedNode, hs] at h

theorem makeServedNode_consistent (hfs : fs.Lawful) {s : Emulation σ} (h : s.Consistent fs)
    (p : String) : (makeServedNode fs p s).2.Consistent fs := by
  cases hs : (s.servedBy? (DevicePath.clean p)).isNone
  · obtain ⟨e, he, hp⟩ := exists_prefix_of_servedBy? hs
    simp only [makeServedNode, hs, Bool.false_eq_true, ↓reduceIte]
    refine ⟨h.keys_nodup, h.key_clean, fun n hn => ?_⟩
    rcases mem_nodes_makeNode hfs hn with hn | rfl
    · exact h.covered n hn
    · exact ⟨e, he, hp⟩
  · simp only [makeServedNode, hs, ↓reduceIte]
    exact h

/-- Removing listed nodes one by one works and removes exactly them. -/
theorem removeAll_of_listed (hfs : fs.Lawful) (l : List String) (t : σ) (hl : l.Nodup)
    (hsub : ∀ n ∈ l, n ∈ fs.nodes t) :
    ∃ t', removeAll fs t l = .ok (.ok (), t') ∧ ∀ n, n ∈ fs.nodes t' ↔ n ∈ fs.nodes t ∧ n ∉ l := by
  induction l generalizing t with
  | nil => exact ⟨t, rfl, by simp⟩
  | cons p ps ih =>
    obtain ⟨hp, hps⟩ := List.nodup_cons.1 hl
    obtain ⟨t₁, hrem, hmem₁⟩ := hfs.remove_node t p (hsub p List.mem_cons_self)
    have hsub₁ : ∀ n ∈ ps, n ∈ fs.nodes t₁ := fun n hn =>
      (hmem₁ n).2 ⟨hsub n (List.mem_cons_of_mem _ hn), fun e => hp (e ▸ hn)⟩
    obtain ⟨t', hall, hmem'⟩ := ih t₁ hps hsub₁
    refine ⟨t', by simp [removeAll, hrem, hall], fun n => ?_⟩
    rw [hmem', hmem₁, List.mem_cons]
    tauto

theorem removeAll_filter_nodes (hfs : fs.Lawful) {t : σ} {q : String → Bool}
    {res : Except String (Except RemoveError Unit × σ)} (h : removeAll fs t ((fs.nodes t).filter q) = res) :
    ∃ t', res = .ok (.ok (), t') ∧ ∀ n, n ∈ fs.nodes t' ↔ n ∈ fs.nodes t ∧ q n = false := by
  obtain ⟨t', hall, hmem⟩ :=
    removeAll_of_listed hfs _ t ((hfs.nodes_nodup t).filter q) (fun n hn => (List.mem_filter.1 hn).1)
  refine ⟨t', h ▸ hall, fun n => ?_⟩
  rw [hmem, List.mem_filter]
  cases q n <;> simp

theorem unregister_of_not_registered (d : Driver) {s : Emulation σ}
    (h : (s.registered? (DevicePath.clean d.path)).isNone) :
    unregister fs d s = .ok (.error (.notRegistered (DevicePath.clean d.path)), s) := by
  simp [unregister, h]

/-- Unregistering a registered key drops its entry and exactly the nodes whose longest
registered prefix it was, and keeps the descriptor table. -/
theorem unregister_of_registered (hfs : fs.Lawful) {s : Emulation σ} (h : s.Consistent fs)
    (d : Driver) (hreg : (s.registered? (DevicePath.clean d.path)).isSome) :
    ∃ s', unregister fs d s = .ok (.ok (), s') ∧
      s'.registry = s.registry.filter (·.1 ≠ DevicePath.clean d.path) ∧
      (∀ n, n ∈ s'.nodes fs ↔ n ∈ s.nodes fs ∧ ¬ s.LongestPrefix n (DevicePath.clean d.path)) ∧
      s'.table = s.table := by
  have hnone : (s.registered? (DevicePath.clean d.path)).isNone = false := by simpa using hreg
  simp only [unregister, hnone, Bool.false_eq_true, ↓reduceIte]
  split
  · next halt heq =>
    obtain ⟨t', hres, -⟩ := removeAll_filter_nodes hfs heq
    cases hres
  · next r t heq =>
    obtain ⟨t', hres, hmem⟩ := removeAll_filter_nodes hfs heq
    simp only [Except.ok.injEq, Prod.mk.injEq] at hres
    obtain ⟨rfl, rfl⟩ := hres
    refine ⟨_, rfl, rfl, fun n => ?_, rfl⟩
    simp only [nodes] at hmem ⊢
    rw [hmem, ← servedBy?_path_iff h]
    -- a node is removed when its serving driver has the unregistered path
    rcases hs : s.servedBy? n with _ | drv
    · simp
    · simp

theorem unregister_consistent (hfs : fs.Lawful) {s s' : Emulation σ} (h : s.Consistent fs)
    {d : Driver} {r : Except DeviceError Unit} (hu : unregister fs d s = .ok (r, s')) :
    s'.Consistent fs := by
  by_cases hreg : (s.registered? (DevicePath.clean d.path)).isSome
  · obtain ⟨s'', hu', hreg', hnodes, -⟩ := unregister_of_registered hfs h d hreg
    rw [hu] at hu'
    simp only [Except.ok.injEq, Prod.mk.injEq] at hu'
    obtain ⟨-, rfl⟩ := hu'
    refine ⟨?_, ?_, fun n hn => ?_⟩
    · rw [hreg']
      exact h.keys_nodup.sublist ((List.filter_sublist).map _)
    · intro e he
      rw [hreg'] at he
      exact h.key_clean e (List.mem_filter.1 he).1
    · -- a node that stays is served by another key, which stays registered
      obtain ⟨hn, hnot⟩ := (hnodes n).1 hn
      obtain ⟨e, he, hp⟩ := h.covered n hn
      rcases hs : s.servedBy? n with _ | drv
      · exact absurd hs (servedBy?_ne_none he hp)
      · obtain ⟨k, hk, hl⟩ := longestPrefix_of_servedBy? hs
        have hkp : k ≠ DevicePath.clean d.path := fun hkp => hnot (hkp ▸ hl)
        refine ⟨(k, drv), ?_, hl.2.1⟩
        rw [hreg']
        exact List.mem_filter.2 ⟨hk, by simpa using hkp⟩
  · have hnone : (s.registered? (DevicePath.clean d.path)).isNone := by simpa using hreg
    rw [unregister_of_not_registered d hnone] at hu
    simp only [Except.ok.injEq, Prod.mk.injEq] at hu
    obtain ⟨-, rfl⟩ := hu
    exact h

theorem onDevice_store {α : Type} (fd : Int) (act : OpenDevice → Except DeviceError (α × MessageQueue))
    (s : Emulation σ) : (onDevice fd act s).2.tree = s.tree ∧ (onDevice fd act s).2.registry = s.registry := by
  unfold onDevice
  split
  · split
    · split <;> exact ⟨rfl, rfl⟩
    · exact ⟨rfl, rfl⟩
  · exact ⟨rfl, rfl⟩

theorem call_keeps_store {c : Call} {r : Reply} {s s' : Emulation σ} (hc : c.onDescriptors)
    (h : call fs c s = .ok (r, s')) : s'.tree = s.tree ∧ s'.registry = s.registry := by
  cases c with
  | openPath name =>
    simp only [call, Except.ok.injEq, Prod.mk.injEq] at h
    obtain ⟨-, rfl⟩ := h
    rcases openDevice_cases fs name s with ⟨e, he, -⟩ | ⟨i, d, -, -, -, -, -, hok⟩
    · rw [he]
      exact ⟨rfl, rfl⟩
    · rw [hok]
      exact ⟨rfl, rfl⟩
  | close fd =>
    simp only [call, Except.ok.injEq, Prod.mk.injEq] at h
    obtain ⟨-, rfl⟩ := h
    by_cases ho : s.IsOpen fd
    · obtain ⟨i, -, hcl⟩ := close_of_isOpen ho
      rw [hcl]
      exact ⟨rfl, rfl⟩
    · rw [close_of_not_isOpen ho]
      exact ⟨rfl, rfl⟩
  | write fd msg | read fd msg | control fd msg =>
    simp only [call, Except.ok.injEq, Prod.mk.injEq] at h
    obtain ⟨-, rfl⟩ := h
    exact onDevice_store _ _ s
  | select maxFd watch ready =>
    simp only [call, Except.ok.injEq, Prod.mk.injEq] at h
    obtain ⟨-, rfl⟩ := h
    exact ⟨rfl, rfl⟩
  | register d | unregister d | makeNode path => simp [Call.onDescriptors] at hc

theorem call_consistent (hfs : fs.Lawful) {c : Call} {r : Reply} {s s' : Emulation σ}
    (h : s.Consistent fs) (hcall : call fs c s = .ok (r, s')) : s'.Consistent fs := by
  cases c with
  | register d =>
    simp only [call, Except.ok.injEq, Prod.mk.injEq] at hcall
    obtain ⟨-, rfl⟩ := hcall
    exact register_consistent hfs h d
  | unregister d =>
    simp only [call] at hcall
    rcases hu : unregister fs d s with halt | ⟨r', s''⟩
    · rw [hu] at hcall
      cases hcall
    · rw [hu] at hcall
      simp only [Except.map, Except.ok.injEq, Prod.mk.injEq] at hcall
      obtain ⟨-, rfl⟩ := hcall
      exact unregister_consistent hfs h hu
  | makeNode p =>
    simp only [call, Except.ok.injEq, Prod.mk.injEq] at hcall
    obtain ⟨-, rfl⟩ := hcall
    exact makeServedNode_consistent hfs h p
  | openPath _ | close _ | write _ _ | read _ _ | control _ _ | select _ _ _ =>
    obtain ⟨ht, hr⟩ := call_keeps_store (by simp [Call.onDescriptors]) hcall
    exact h.of_store ht hr

theorem Trace.consistent (hfs : fs.Lawful) {s s' : Emulation σ} {t : List (Call × Reply)}
    (h : s.Consistent fs) (ht : Trace fs s t s') : s'.Consistent fs := by
  induction ht with
  | nil => exact h
  | cons hc _ ih => exact ih (call_consistent hfs h hc)

theorem withDrivers_consistent (hfs : fs.Lawful) {t₀ : σ} (h₀ : fs.nodes t₀ = []) (ds : List Driver) :
    (withDrivers fs t₀ ds).Consistent fs := by
  -- registering keeps the invariant, whatever the state the fold has reached
  suffices h : ∀ s : Emulation σ, s.Consistent fs →
      (ds.foldl (fun s d => if d.enabled then (register fs d s).2 else s) s).Consistent fs from
    h (empty t₀) ⟨List.nodup_nil, by simp [empty], by simp [nodes, empty, h₀]⟩
  induction ds with
  | nil => exact fun s h => h
  | cons d ds ih =>
    intro s h
    rw [List.foldl_cons]
    apply ih
    split
    · exact register_consistent hfs h d
    · exact h

/-- From a fresh service over an empty store, after any calls: the keys are registered once each
and every node has a registered key as a prefix; registering a registered key fails and changes
nothing; a node is made only under a registered key; and unregistering fails without change on an
unregistered key and otherwise drops that entry and exactly the nodes whose longest registered
prefix it was, keeping every other entry and node and the descriptor table. -/
theorem reachable_registry_consistent (hfs : fs.Lawful) {t₀ : σ} (h₀ : fs.nodes t₀ = [])
    {ds : List Driver} {t : List (Call × Reply)} {s : Emulation σ}
    (h : Trace fs (withDrivers fs t₀ ds) t s) :
    (s.registry.map (·.1)).Nodup ∧
    (∀ n ∈ s.nodes fs, ∃ e ∈ s.registry, e.1.isPrefixOf n = true) ∧
    (∀ d : Driver, (s.registered? (DevicePath.clean d.path)).isSome →
      register fs d s = (.error (.alreadyRegistered (DevicePath.clean d.path)), s)) ∧
    (∀ p, (makeServedNode fs p s).1 = .ok () →
      ∃ e ∈ s.registry, e.1.isPrefixOf (DevicePath.clean p) = true) ∧
    (∀ d : Driver, (s.registered? (DevicePath.clean d.path)).isNone →
      unregister fs d s = .ok (.error (.notRegistered (DevicePath.clean d.path)), s)) ∧
    (∀ d : Driver, (s.registered? (DevicePath.clean d.path)).isSome → ∃ s',
      unregister fs d s = .ok (.ok (), s') ∧
      s'.registry = s.registry.filter (·.1 ≠ DevicePath.clean d.path) ∧
      (∀ n, n ∈ s'.nodes fs ↔ n ∈ s.nodes fs ∧ ¬ s.LongestPrefix n (DevicePath.clean d.path)) ∧
      s'.table = s.table) := by
  have hc := Trace.consistent hfs (withDrivers_consistent hfs h₀ ds) h
  exact ⟨hc.keys_nodup, hc.covered, fun d => register_of_registered d,
    fun _ => makeServedNode_covered, fun d => unregister_of_not_registered d,
    unregister_of_registered hfs hc⟩

end Emulation

/-- A store that keeps its nodes as a list, and lists each once. -/
def NodeStore.flat : NodeStore (List String) where
  present t p := t.contains p
  mkdirAll t _ := t
  writeEmpty t p := p :: t
  remove t p := if p ∈ t then .ok (.ok (t.filter (· ≠ p))) else .ok (.error ⟨p⟩)
  nodes t := t.dedup

theorem NodeStore.flat_lawful : NodeStore.flat.Lawful where
  nodes_nodup t := List.nodup_dedup t
  mkdirAll_nodes _ _ _ h := h
  writeEmpty_nodes t p n h := by
    simp only [NodeStore.flat, List.mem_dedup, List.mem_cons] at h ⊢
    tauto
  remove_node t p h := by
    have hp : p ∈ t := List.mem_dedup.1 h
    refine ⟨t.filter (· ≠ p), by simp [NodeStore.flat, hp], fun n => ?_⟩
    simp [NodeStore.flat]

/-- The service with the default drivers over an empty flat store. -/
def Emulation.flatStart : Emulation (List String) := Emulation.withDrivers NodeStore.flat [] Driver.defaults

namespace Emulation

theorem flatStart_registry_consistent :
    NodeStore.flat.Lawful ∧ NodeStore.flat.nodes [] = [] ∧
    Trace NodeStore.flat (withDrivers NodeStore.flat [] Driver.defaults) [] flatStart ∧
    (flatStart.registry.map (·.1)).Nodup ∧
    (∀ n ∈ flatStart.nodes NodeStore.flat, ∃ e ∈ flatStart.registry, e.1.isPrefixOf n = true) ∧
    (∀ d : Driver, (flatStart.registered? (DevicePath.clean d.path)).isSome →
      register NodeStore.flat d flatStart =
        (.error (.alreadyRegistered (DevicePath.clean d.path)), flatStart)) ∧
    (∀ p, (makeServedNode NodeStore.flat p flatStart).1 = .ok () →
      ∃ e ∈ flatStart.registry, e.1.isPrefixOf (DevicePath.clean p) = true) ∧
    (∀ d : Driver, (flatStart.registered? (DevicePath.clean d.path)).isNone →
      unregister NodeStore.flat d flatStart =
        .ok (.error (.notRegistered (DevicePath.clean d.path)), flatStart)) ∧
    (∀ d : Driver, (flatStart.registered? (DevicePath.clean d.path)).isSome → ∃ s',
      unregister NodeStore.flat d flatStart = .ok (.ok (), s') ∧
      s'.registry = flatStart.registry.filter (·.1 ≠ DevicePath.clean d.path) ∧
      (∀ n, n ∈ s'.nodes NodeStore.flat ↔
        n ∈ flatStart.nodes NodeStore.flat ∧ ¬ flatStart.LongestPrefix n (DevicePath.clean d.path)) ∧
      s'.table = flatStart.table) :=
  ⟨NodeStore.flat_lawful, rfl, .nil _,
    reachable_registry_consistent NodeStore.flat_lawful rfl (.nil _)⟩

end Emulation

end PlatformLayer
