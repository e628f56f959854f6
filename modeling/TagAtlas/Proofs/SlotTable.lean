import Mathlib
import TagAtlas.Table.Slots

/-! The open-addressing table is a finite map. Its probe visits the slots in a fixed order that
reaches every slot when the table has fewer than sixteen slots or sixteen times a power of two
(the triangular strides of the windows meet every residue modulo a power of two). From that,
every occupied slot is the one the probe for its key stops at; an insertion, a change of value
and a move to a larger table keep that, and so a lookup finds exactly the entries the table
holds, each key once. -/
namespace TagAtlas
namespace SlotTable

variable {α β : Type}

section Order

/-- The slots a scan of `len` slots from `start` looks at, in order. -/
def scanOrder (n start len : Nat) : List Nat := (List.range len).map fun j => (start + j) % n

/-- The slots the windowed probe looks at, window after window. -/
def windowsOrder (n : Nat) : Nat → Nat → Nat → List Nat
  | _, _, 0 => []
  | pos, stride, fuel + 1 =>
    scanOrder n pos 16 ++ windowsOrder n ((pos + stride) % n) (stride + 16) fuel

/-- The slots a table of `n` slots probes for a hash, in order. -/
def probeOrder (n : Nat) (h : UInt64) : List Nat :=
  if n = 0 then [] else if n < 16 then scanOrder n (h.toNat % n) n
  else windowsOrder n (h.toNat % n) 16 (n / 16)

theorem findSome?_map_guard {γ : Type} (g : γ → Nat) (p : Nat → Bool) (l : List γ) :
    l.findSome? (fun j => if p (g j) then some (g j) else none) = (l.map g).find? p := by
  induction l with
  | nil => rfl
  | cons j l ih => by_cases hp : p (g j) <;> simp [hp, ih]

variable (slots : Array (Option (Slot α β))) (test : Option (Slot α β) → Bool)

theorem scan_eq (start len : Nat) :
    scan slots test start len =
      (scanOrder slots.size start len).find? fun i => test slots[i]?.join :=
  findSome?_map_guard (fun j => (start + j) % slots.size) (fun i => test slots[i]?.join) _

theorem windows_eq (pos stride fuel : Nat) :
    probe.windows slots test slots.size pos stride fuel =
      (windowsOrder slots.size pos stride fuel).find? fun i => test slots[i]?.join := by
  induction fuel generalizing pos stride with
  | zero => rfl
  | succ fuel ih =>
    rw [probe.windows, windowsOrder, List.find?_append, ← scan_eq, ih]
    cases scan slots test pos 16 <;> rfl

theorem probe_eq (h : UInt64) :
    probe slots test h = (probeOrder slots.size h).find? fun i => test slots[i]?.join := by
  unfold probe probeOrder
  simp only [scan_eq, windows_eq]
  split_ifs <;> rfl

end Order

section Cover

theorem lt_of_mem_scanOrder {n start len i : Nat} (hn : 0 < n) (hi : i ∈ scanOrder n start len) :
    i < n := by
  obtain ⟨j, -, rfl⟩ := List.mem_map.1 hi
  exact Nat.mod_lt _ hn

theorem lt_of_mem_windowsOrder {n i : Nat} (hn : 0 < n) :
    ∀ {pos stride fuel : Nat}, i ∈ windowsOrder n pos stride fuel → i < n
  | _, _, 0, hi => absurd hi List.not_mem_nil
  | _, _, _ + 1, hi => by
    rcases List.mem_append.1 hi with hi | hi
    · exact lt_of_mem_scanOrder hn hi
    · exact lt_of_mem_windowsOrder hn hi

theorem lt_of_mem_probeOrder {n i : Nat} {h : UInt64} (hi : i ∈ probeOrder n h) : i < n := by
  unfold probeOrder at hi
  split_ifs at hi with h0 h16
  · exact absurd hi List.not_mem_nil
  · exact lt_of_mem_scanOrder (Nat.pos_of_ne_zero h0) hi
  · exact lt_of_mem_windowsOrder (Nat.pos_of_ne_zero h0) hi

/-- A slot count whose probing order reaches every slot: fewer than sixteen, or sixteen times a
power of two. -/
def GoodSize (n : Nat) : Prop := n < 16 ∨ ∃ k, n = 16 * 2 ^ k

theorem exists_offset {n start i : Nat} (hi : i < n) (hs : start < n) :
    ∃ d < n, (start + d) % n = i := by
  by_cases hle : start ≤ i
  · exact ⟨i - start, by omega, by rw [Nat.add_sub_cancel' hle, Nat.mod_eq_of_lt hi]⟩
  · refine ⟨i + n - start, by omega, ?_⟩
    rw [show start + (i + n - start) = i + n by omega, Nat.add_mod_right, Nat.mod_eq_of_lt hi]

theorem mem_scanOrder_self {n start i : Nat} (hi : i < n) (hs : start < n) :
    i ∈ scanOrder n start n := by
  obtain ⟨d, hd, rfl⟩ := exists_offset hi hs
  exact List.mem_map.2 ⟨d, List.mem_range.2 hd, rfl⟩

/-- The triangular numbers `0, 0, 1, 3, 6, …`: the `w`-th window of a probe starts `w` strides
and `16 * tri w` slots past the first, as each stride is sixteen longer than the last. -/
def tri : Nat → Nat
  | 0 => 0
  | w + 1 => tri w + w

theorem mem_windowsOrder (n : Nat) :
    ∀ (fuel pos stride w j : Nat), w < fuel → j < 16 →
      (pos + w * stride + 16 * tri w + j) % n ∈ windowsOrder n pos stride fuel
  | 0, _, _, _, _, hw, _ => absurd hw (Nat.not_lt_zero _)
  | fuel + 1, pos, stride, 0, j, _, hj =>
    List.mem_append_left _ (List.mem_map.2 ⟨j, List.mem_range.2 hj, by simp [tri]⟩)
  | fuel + 1, pos, stride, w + 1, j, hw, hj => by
    have hslot : (pos + (w + 1) * stride + 16 * tri (w + 1) + j) % n =
        ((pos + stride) % n + w * (stride + 16) + 16 * tri w + j) % n := by
      rw [Nat.add_assoc ((pos + stride) % n), Nat.add_assoc ((pos + stride) % n),
        Nat.mod_add_mod, tri]
      congr 1
      ring
    rw [hslot]
    exact List.mem_append_right _
      (mem_windowsOrder n fuel ((pos + stride) % n) (stride + 16) w j (by omega) hj)

theorem two_mul_tri (w : Nat) : 2 * tri (w + 1) = w * (w + 1) := by
  induction w with
  | zero => rfl
  | succ w ih =>
    rw [tri, Nat.mul_add, ih]
    ring

/-- Distinct windows below a power of two start at distinct residues: twice the gap between
two triangular numbers is the product of `d` and `2 * w + d + 1`, one of which is odd. -/
theorem tri_mod_injective {k v w : Nat} (hv : v < 2 ^ k) (hw : w < 2 ^ k)
    (h : tri (v + 1) % 2 ^ k = tri (w + 1) % 2 ^ k) : v = w := by
  wlog hwv : w < v generalizing v w
  · rcases Nat.lt_or_ge v w with hvw | hvw
    · exact (this hw hv h.symm hvw).symm
    · omega
  obtain ⟨d, rfl⟩ : ∃ d, v = w + d := ⟨v - w, by omega⟩
  have htwo : 2 * tri (w + d + 1) = 2 * tri (w + 1) + d * (2 * w + d + 1) := by
    rw [two_mul_tri, two_mul_tri]
    ring
  obtain ⟨x, hx⟩ : ∃ x, tri (w + d + 1) = tri (w + 1) + x :=
    ⟨tri (w + d + 1) - tri (w + 1), by omega⟩
  have hdvd : 2 ^ k ∣ x := by
    rw [hx] at h
    exact (Nat.modEq_zero_iff_dvd).1
      (Nat.ModEq.add_left_cancel' (tri (w + 1)) (by rw [Nat.add_zero]; exact h))
  have hprod : 2 ^ (k + 1) ∣ d * (2 * w + d + 1) := by
    have h2x : 2 * x = d * (2 * w + d + 1) := by omega
    rw [← h2x, Nat.pow_succ, Nat.mul_comm _ 2]
    exact Nat.mul_dvd_mul_left 2 hdvd
  have hpow : 2 ^ (k + 1) = 2 * 2 ^ k := by rw [Nat.pow_succ, Nat.mul_comm]
  rcases Nat.even_or_odd d with hd | hd
  · have hodd : Odd (2 * w + d + 1) := by
      obtain ⟨r, rfl⟩ := hd
      exact ⟨w + r, by ring⟩
    have hle := Nat.le_of_dvd (by omega)
      ((Nat.Coprime.pow_left (k + 1) (Nat.coprime_two_left.2 hodd)).dvd_of_dvd_mul_right hprod)
    omega
  · have hle := Nat.le_of_dvd (by omega)
      ((Nat.Coprime.pow_left (k + 1) (Nat.coprime_two_left.2 hd)).dvd_of_dvd_mul_left hprod)
    omega

theorem exists_tri_mod_eq {k q : Nat} (hq : q < 2 ^ k) : ∃ w < 2 ^ k, tri (w + 1) % 2 ^ k = q := by
  have hinj : Set.InjOn (fun w => tri (w + 1) % 2 ^ k) (Finset.range (2 ^ k) : Set Nat) :=
    fun v hv w hw h => tri_mod_injective (Finset.mem_range.1 hv) (Finset.mem_range.1 hw) h
  have himage : (Finset.range (2 ^ k)).image (fun w => tri (w + 1) % 2 ^ k) =
      Finset.range (2 ^ k) := by
    refine Finset.eq_of_subset_of_card_le (fun r hr => ?_) ?_
    · obtain ⟨w, -, rfl⟩ := Finset.mem_image.1 hr
      exact Finset.mem_range.2 (Nat.mod_lt _ (Nat.two_pow_pos k))
    · rw [Finset.card_image_of_injOn hinj]
  obtain ⟨w, hw, hwq⟩ := Finset.mem_image.1 (himage ▸ Finset.mem_range.2 hq)
  exact ⟨w, Finset.mem_range.1 hw, hwq⟩

theorem mem_windowsOrder_of_lt {k i home : Nat} (hi : i < 16 * 2 ^ k) (hh : home < 16 * 2 ^ k) :
    i ∈ windowsOrder (16 * 2 ^ k) home 16 (2 ^ k) := by
  obtain ⟨d, hd, rfl⟩ := exists_offset hi hh
  obtain ⟨w, hw, hwq⟩ := exists_tri_mod_eq (show d / 16 < 2 ^ k by omega)
  have hmem := mem_windowsOrder (16 * 2 ^ k) (2 ^ k) home 16 w (d % 16) hw (Nat.mod_lt _ (by omega))
  have hcong : 16 * tri (w + 1) ≡ 16 * (d / 16) [MOD 16 * 2 ^ k] :=
    Nat.ModEq.mul_left' 16 (by rw [Nat.ModEq, hwq, Nat.mod_eq_of_lt (by omega)])
  have hslot : (home + w * 16 + 16 * tri w + d % 16) % (16 * 2 ^ k) = (home + d) % (16 * 2 ^ k) :=
    calc (home + w * 16 + 16 * tri w + d % 16) % (16 * 2 ^ k)
        = (home + d % 16 + 16 * tri (w + 1)) % (16 * 2 ^ k) := by congr 1; rw [tri]; ring
      _ = (home + d % 16 + 16 * (d / 16)) % (16 * 2 ^ k) := Nat.ModEq.add_left _ hcong
      _ = (home + d) % (16 * 2 ^ k) := by congr 1; omega
  rw [← hslot]
  exact hmem

/-- Every slot of a table of a good size lies on every probing order. -/
theorem mem_probeOrder {n i : Nat} (hn : GoodSize n) (hi : i < n) (h : UInt64) :
    i ∈ probeOrder n h := by
  have hpos : 0 < n := by omega
  unfold probeOrder
  rw [if_neg (by omega)]
  split_ifs with h16
  · exact mem_scanOrder_self hi (Nat.mod_lt _ hpos)
  · obtain ⟨k, rfl⟩ := hn.resolve_left h16
    rw [Nat.mul_div_cancel_left _ (by omega)]
    exact mem_windowsOrder_of_lt hi (Nat.mod_lt _ hpos)

end Cover

section Probe

variable {slots slots' : Array (Option (Slot α β))} {test test' : Option (Slot α β) → Bool}
  {h : UInt64}

theorem probe_eq_some {i : Nat} (hp : probe slots test h = some i) :
    i < slots.size ∧ test slots[i]?.join = true := by
  rw [probe_eq] at hp
  have ht := List.find?_some hp
  exact ⟨lt_of_mem_probeOrder (List.mem_of_find?_eq_some hp), ht⟩

theorem probe_isSome (hn : GoodSize slots.size) {i : Nat} (hi : i < slots.size)
    (ht : test slots[i]?.join = true) : (probe slots test h).isSome := by
  rw [probe_eq, List.find?_isSome]
  exact ⟨i, mem_probeOrder hn hi h, ht⟩

theorem probe_congr {γ : Type} {slots' : Array (Option (Slot α γ))}
    {test' : Option (Slot α γ) → Bool} (hsize : slots'.size = slots.size)
    (heq : ∀ i : Nat, test' slots'[i]?.join = test slots[i]?.join) :
    probe slots' test' h = probe slots test h := by
  rw [probe_eq, probe_eq, hsize]
  exact List.find?_congr fun i _ => heq i

theorem find?_eq_of_flip {l : List Nat} {p q : Nat → Bool} {i j : Nat} (h : l.find? p = some i)
    (hj : j ≠ i) (hq : ∀ x, x ≠ j → q x = p x) (hqj : q j = false) : l.find? q = some i := by
  induction l with
  | nil => simp at h
  | cons x l ih =>
    by_cases hpx : p x = true
    · rw [List.find?_cons_of_pos hpx] at h
      obtain rfl := Option.some.inj h
      rw [List.find?_cons_of_pos (by rw [hq x (Ne.symm hj), hpx])]
    · rw [List.find?_cons_of_neg hpx] at h
      have hqx : q x = false := by
        by_cases hxj : x = j
        · rw [hxj, hqj]
        · rw [hq x hxj]
          simpa using hpx
      rw [List.find?_cons_of_neg (by simp [hqx])]
      exact ih h

/-- A probe that stopped at slot `i` stops there again when one other slot turns from passing
its test to failing it and nothing else changes. -/
theorem probe_eq_of_flip {i j : Nat} (hp : probe slots test h = some i)
    (hsize : slots'.size = slots.size) (hj : j ≠ i)
    (heq : ∀ x : Nat, x ≠ j → test' slots'[x]?.join = test slots[x]?.join)
    (hfalse : test' slots'[j]?.join = false) : probe slots' test' h = some i := by
  rw [probe_eq] at hp ⊢
  rw [hsize]
  exact find?_eq_of_flip hp hj heq hfalse

end Probe

section Findable

variable [BEq α] {hash : α → UInt64}

/-- The test of the probe for a key: the slot is free or holds the key. -/
def keyTest (key : α) (s : Option (Slot α β)) : Bool := s.all (·.key == key)

@[simp] theorem keyTest_none (key : α) : keyTest key (none : Option (Slot α β)) = true := rfl

@[simp] theorem keyTest_some (key : α) (e : Slot α β) : keyTest key (some e) = (e.key == key) :=
  rfl

theorem keyTest_congr {γ : Type} {key : α} {o : Option (Slot α β)} {o' : Option (Slot α γ)}
    (h : o'.map (fun e => (e.key, e.hash)) = o.map (fun e => (e.key, e.hash))) :
    keyTest key o' = keyTest key o := by
  cases o <;> cases o' <;> simp_all

/-- Every occupied slot holds an entry whose hash is its key's, and the probe for its key stops
at that slot: no free slot and no other slot comes before it in its probing order. -/
def Findable (hash : α → UInt64) (slots : Array (Option (Slot α β))) : Prop :=
  ∀ (i : Nat) (e : Slot α β), slots[i]?.join = some e →
    e.hash = hash e.key ∧ probe slots (keyTest e.key) e.hash = some i

theorem findable_replicate (n : Nat) : Findable hash (Array.replicate n (none : Option (Slot α β))) := by
  intro i e he
  rw [Array.getElem?_replicate] at he
  split_ifs at he <;> simp at he

theorem Findable.slot_unique {slots : Array (Option (Slot α β))} (hf : Findable hash slots)
    {i j : Nat} {e e' : Slot α β} (hi : slots[i]?.join = some e) (hj : slots[j]?.join = some e')
    (hk : e.key = e'.key) : i = j := by
  obtain ⟨hhi, hpi⟩ := hf i e hi
  obtain ⟨hhj, hpj⟩ := hf j e' hj
  rw [hhi, hk, ← hhj, hpj] at hpi
  exact (Option.some.inj hpi).symm

/-- Slots that keep every key and hash where it is keep every key findable. -/
theorem Findable.of_keys {γ : Type} {slots : Array (Option (Slot α β))}
    {slots' : Array (Option (Slot α γ))} (hf : Findable hash slots)
    (hsize : slots'.size = slots.size)
    (hkeys : ∀ x : Nat, (slots'[x]?.join).map (fun e => (e.key, e.hash)) =
      (slots[x]?.join).map (fun e => (e.key, e.hash))) :
    Findable hash slots' := by
  intro x e' hx
  have hx' := hkeys x
  rw [hx] at hx'
  obtain ⟨e, he, hke⟩ : ∃ e, slots[x]?.join = some e ∧ (e.key, e.hash) = (e'.key, e'.hash) := by
    cases hs : slots[x]?.join with
    | none => rw [hs] at hx'; simp at hx'
    | some e => rw [hs] at hx'; exact ⟨e, rfl, (Option.some.inj hx').symm⟩
  obtain ⟨hkey, hhash⟩ := Prod.mk.inj hke
  obtain ⟨hh, hp⟩ := hf x e he
  refine ⟨by rw [← hhash, hh, hkey], ?_⟩
  rw [← hkey, ← hhash, probe_congr hsize fun y => keyTest_congr (hkeys y)]
  exact hp

/-- Putting a new key in the first free slot of its probing order keeps every key findable. -/
theorem Findable.setIfInBounds [LawfulBEq α] {slots : Array (Option (Slot α β))} (hf : Findable hash slots)
    {e : Slot α β} (he : e.hash = hash e.key)
    (hnew : ∀ (i : Nat) (e' : Slot α β), slots[i]?.join = some e' → e'.key ≠ e.key) {i : Nat}
    (hi : probe slots Option.isNone e.hash = some i) :
    Findable hash (slots.setIfInBounds i (some e)) := by
  obtain ⟨hlt, hfree⟩ := probe_eq_some hi
  have hfree' : slots[i]?.join = none := Option.isNone_iff_eq_none.1 hfree
  intro x e' hx
  by_cases hxi : i = x
  · subst hxi
    rw [Array.getElem?_setIfInBounds_self_of_lt hlt] at hx
    obtain rfl : e = e' := by simpa using hx
    refine ⟨he, ?_⟩
    rw [← hi]
    refine probe_congr Array.size_setIfInBounds fun y => ?_
    by_cases hyi : i = y
    · subst hyi
      rw [Array.getElem?_setIfInBounds_self_of_lt hlt, hfree']
      simp
    · rw [Array.getElem?_setIfInBounds_ne hyi]
      cases hy : slots[y]?.join with
      | none => simp
      | some e'' => simp [hnew y e'' hy]
  · rw [Array.getElem?_setIfInBounds_ne hxi] at hx
    obtain ⟨hhash, hprobe⟩ := hf x e' hx
    refine ⟨hhash, probe_eq_of_flip hprobe Array.size_setIfInBounds hxi
      (fun y hy => by rw [Array.getElem?_setIfInBounds_ne (Ne.symm hy)]) ?_⟩
    rw [Array.getElem?_setIfInBounds_self_of_lt hlt]
    simp [Ne.symm (hnew x e' hx)]

end Findable

section Entries

@[simp] theorem get?_empty [BEq α] (k : α) (h : UInt64) : ({} : SlotTable α β).get? k h = none := rfl

@[simp] theorem keys_empty : ({} : SlotTable α β).keys = [] := rfl

theorem mem_entries {t : SlotTable α β} {e : Slot α β} :
    e ∈ t.entries ↔ ∃ i : Nat, t.slots[i]?.join = some e := by
  rw [entries, List.mem_filterMap]
  simp only [id, exists_eq_right]
  rw [List.mem_iff_getElem?]
  simp only [Array.getElem?_toList, Option.join_eq_some_iff]

theorem keys_eq_map_walk (t : SlotTable α β) : t.keys = t.walk.map Prod.fst := by
  simp [keys, walk]

theorem filterMap_set_perm {γ : Type} (e : γ) :
    ∀ {l : List (Option γ)} {i : Nat}, l[i]? = some none →
      ((l.set i (some e)).filterMap id).Perm (e :: l.filterMap id)
  | [], _, h => by simp at h
  | none :: l, 0, _ => by simp
  | some _ :: _, 0, h => by simp at h
  | none :: l, i + 1, h => by simpa using filterMap_set_perm e (l := l) (by simpa using h)
  | some a :: l, i + 1, h => by
    simpa using ((filterMap_set_perm e (l := l) (by simpa using h)).cons a).trans (List.Perm.swap ..)

theorem exists_none_of_length_filterMap_lt {γ : Type} :
    ∀ {l : List (Option γ)}, (l.filterMap id).length < l.length → none ∈ l
  | [], h => absurd h (Nat.lt_irrefl 0)
  | none :: _, _ => List.mem_cons_self ..
  | some _ :: l, h => List.mem_cons_of_mem _ (exists_none_of_length_filterMap_lt (l := l)
      (by simpa using h))

theorem exists_free {slots : Array (Option (Slot α β))}
    (h : (slots.toList.filterMap id).length < slots.size) :
    ∃ i < slots.size, slots[i]?.join = none := by
  obtain ⟨i, hi⟩ := List.mem_iff_getElem?.1
    (exists_none_of_length_filterMap_lt (l := slots.toList) (by rw [Array.length_toList]; exact h))
  rw [Array.getElem?_toList] at hi
  exact ⟨i, (Array.getElem?_eq_some_iff.1 hi).1, by rw [hi]; rfl⟩

end Entries

section Placing

variable [BEq α] {hash : α → UInt64}

/-- Slots being filled: `n` of them, every key findable, holding exactly the entries placed. -/
structure Placed (hash : α → UInt64) (n : Nat) (done : List (Slot α β))
    (slots : Array (Option (Slot α β))) : Prop where
  size : slots.size = n
  findable : Findable hash slots
  perm : (slots.toList.filterMap id).Perm done

theorem placed_replicate (n : Nat) : Placed hash n [] (Array.replicate n (none : Option (Slot α β))) :=
  ⟨Array.size_replicate, findable_replicate n, by simp⟩

/-- Placing a new key in slots with one free keeps them placed, one entry more. -/
theorem Placed.place [LawfulBEq α] {n : Nat} {done : List (Slot α β)} {slots : Array (Option (Slot α β))}
    (hp : Placed hash n done slots) (hn : GoodSize n) {e : Slot α β} (he : e.hash = hash e.key)
    (hnew : e.key ∉ done.map Slot.key) (hlen : done.length < n) :
    Placed hash n (done ++ [e]) (place slots e) := by
  have hcount : (slots.toList.filterMap id).length < slots.size := by
    rw [hp.perm.length_eq, hp.size]
    exact hlen
  obtain ⟨y, hy, hfree⟩ := exists_free hcount
  have hsome : (probe slots Option.isNone e.hash).isSome :=
    probe_isSome (hp.size ▸ hn) hy (by rw [hfree]; rfl)
  obtain ⟨i, hi⟩ := Option.isSome_iff_exists.1 hsome
  have hnew' : ∀ (x : Nat) (e' : Slot α β), slots[x]?.join = some e' → e'.key ≠ e.key := by
    intro x e' hx hkey
    have hmem : e' ∈ slots.toList.filterMap id := (mem_entries (t := ⟨slots, 0⟩)).2 ⟨x, hx⟩
    exact hnew (hkey ▸ List.mem_map_of_mem (hp.perm.subset hmem))
  have hlt := (probe_eq_some hi).1
  have hslot : slots.toList[i]? = some none := by
    have hj := Option.isNone_iff_eq_none.1 (probe_eq_some hi).2
    rw [Array.getElem?_eq_getElem hlt] at hj
    rw [Array.getElem?_toList, Array.getElem?_eq_getElem hlt]
    simpa using hj
  unfold SlotTable.place
  rw [hi]
  refine ⟨by rw [Array.size_setIfInBounds, hp.size], hp.findable.setIfInBounds he hnew' hi, ?_⟩
  rw [Array.toList_setIfInBounds]
  exact ((filterMap_set_perm e hslot).trans (hp.perm.cons e)).trans (List.perm_append_singleton ..).symm

theorem Placed.foldl [LawfulBEq α] {n : Nat} (hn : GoodSize n) :
    ∀ (todo : List (Slot α β)) {done : List (Slot α β)} {slots : Array (Option (Slot α β))},
      Placed hash n done slots → (∀ e ∈ todo, e.hash = hash e.key) →
      ((done ++ todo).map Slot.key).Nodup → done.length + todo.length ≤ n →
      Placed hash n (done ++ todo) (todo.foldl SlotTable.place slots)
  | [], _, _, hp, _, _, _ => by simpa using hp
  | e :: todo, done, slots, hp, hh, hnd, hlen => by
    have hnew : e.key ∉ done.map Slot.key := by
      intro hk
      rw [List.map_append, List.map_cons] at hnd
      exact List.disjoint_of_nodup_append hnd hk (List.mem_cons_self ..)
    have hstep := hp.place hn (hh e (List.mem_cons_self ..)) hnew (by simp at hlen; omega)
    have hrest := Placed.foldl hn todo hstep (fun e' he' => hh e' (List.mem_cons_of_mem _ he'))
      (by simpa using hnd) (by simp at hlen ⊢; omega)
    simpa using hrest

end Placing

section Sizes

theorem le_powerOfTwoAtLeast (n : Nat) : n ≤ powerOfTwoAtLeast n := by
  unfold powerOfTwoAtLeast
  split_ifs with h
  · omega
  · have := Nat.lt_log2_self (n := n - 1)
    rw [Nat.pow_eq]
    omega

/-- A table made for eight keys or more has sixteen times a power of two slots, at least eight
sevenths of the keys. -/
theorem slotsFor_of_ge {x : Nat} (hx : 8 ≤ x) :
    ∃ k, slotsFor x = 16 * 2 ^ k ∧ x * 8 / 7 ≤ slotsFor x := by
  have hslots : slotsFor x = 2 ^ ((x * 8 / 7 - 1).log2 + 1) := by
    unfold slotsFor powerOfTwoAtLeast
    rw [if_neg (by omega), if_neg (by omega), if_neg (by omega), Nat.pow_eq]
  have hge := le_powerOfTwoAtLeast (x * 8 / 7)
  unfold powerOfTwoAtLeast at hge
  rw [if_neg (by omega), Nat.pow_eq, ← hslots] at hge
  obtain ⟨j, hj⟩ : ∃ j, slotsFor x = 2 ^ j := ⟨_, hslots⟩
  have h4 : 4 ≤ j := by
    by_contra hj4
    have : 2 ^ j ≤ 2 ^ 3 := Nat.pow_le_pow_right (by decide) (by omega)
    omega
  refine ⟨j - 4, ?_, hge⟩
  rw [hj, show (16 : Nat) = 2 ^ 4 from rfl, ← Nat.pow_add, Nat.add_sub_cancel' h4]

theorem goodSize_slotsFor (x : Nat) : GoodSize (slotsFor x) := by
  by_cases hx : 8 ≤ x
  · obtain ⟨k, hk, -⟩ := slotsFor_of_ge hx
    exact Or.inr ⟨k, hk⟩
  · left
    unfold slotsFor
    split_ifs <;> omega

theorem le_capacityOf_slotsFor (x : Nat) : x ≤ capacityOf (slotsFor x) := by
  by_cases hx : 8 ≤ x
  · obtain ⟨k, hk, hge⟩ := slotsFor_of_ge hx
    rw [hk] at hge ⊢
    have : 1 ≤ 2 ^ k := Nat.one_le_two_pow
    unfold capacityOf
    split_ifs <;> omega
  · unfold slotsFor capacityOf
    split_ifs <;> omega

theorem capacityOf_le (n : Nat) : capacityOf n ≤ n := by
  unfold capacityOf
  split_ifs <;> omega

theorem capacityOf_lt {n : Nat} (hn : 0 < n) : capacityOf n < n := by
  unfold capacityOf
  split_ifs <;> omega

theorem pos_of_capacityOf_pos {n : Nat} (h : 0 < capacityOf n) : 0 < n := by
  unfold capacityOf at h
  split_ifs at h <;> omega

end Sizes

section WF

variable [BEq α] [LawfulBEq α] {hash : α → UInt64} {t : SlotTable α β}

/-- A table whose lookups work: every key findable, each key once, its size the number of its
entries, a slot count its probe covers, and no more keys than its capacity. -/
structure WF (hash : α → UInt64) (t : SlotTable α β) : Prop where
  findable : Findable hash t.slots
  nodup : t.keys.Nodup
  size_eq : t.size = t.entries.length
  good : GoodSize t.slots.size
  room : t.size ≤ capacityOf t.slots.size

omit [LawfulBEq α] in
theorem wf_empty : WF hash ({} : SlotTable α β) where
  findable := fun i e he => by simp at he
  nodup := by simp [keys, entries]
  size_eq := rfl
  good := Or.inl (show 0 < 16 by omega)
  room := Nat.zero_le _

omit [LawfulBEq α] in
theorem WF.hash_eq (hw : WF hash t) {e : Slot α β} (he : e ∈ t.entries) : e.hash = hash e.key := by
  obtain ⟨i, hi⟩ := mem_entries.1 he
  exact (hw.findable i e hi).1

omit [LawfulBEq α] in
theorem WF.placed (hw : WF hash t) : Placed hash t.slots.size t.entries t.slots :=
  ⟨rfl, hw.findable, List.Perm.refl _⟩

omit [LawfulBEq α] in
theorem WF.entry_unique (hw : WF hash t) {e e' : Slot α β} (he : e ∈ t.entries)
    (he' : e' ∈ t.entries) (hk : e.key = e'.key) : e = e' := by
  obtain ⟨i, hi⟩ := mem_entries.1 he
  obtain ⟨j, hj⟩ := mem_entries.1 he'
  obtain rfl := hw.findable.slot_unique hi hj hk
  exact Option.some.inj (hi.symm.trans hj)

theorem WF.rebuild (hw : WF hash t) {n : Nat} (hn : GoodSize n) (hroom : t.size ≤ capacityOf n) :
    WF hash (t.rebuild n) ∧ (t.rebuild n).slots.size = n ∧ (t.rebuild n).entries.Perm t.entries := by
  have hp : Placed hash n t.entries (t.entries.foldl SlotTable.place (Array.replicate n none)) := by
    simpa using Placed.foldl hn t.entries (placed_replicate n) (fun e he => hw.hash_eq he)
      (by simpa [keys] using hw.nodup)
      (by rw [List.length_nil, Nat.zero_add, ← hw.size_eq]; exact hroom.trans (capacityOf_le n))
  have hperm : (t.rebuild n).entries.Perm t.entries := hp.perm
  have hsize : (t.rebuild n).slots.size = n := hp.size
  refine ⟨⟨hp.findable, (hperm.map Slot.key).nodup_iff.2 hw.nodup, ?_, by rw [hsize]; exact hn,
    by rw [hsize]; exact hroom⟩, hsize, hperm⟩
  rw [hperm.length_eq]
  exact hw.size_eq

/-- Making room keeps a table well formed and its entries, and leaves room for the keys asked. -/
theorem WF.reserve (hw : WF hash t) (extra : Nat) :
    WF hash (t.reserve extra) ∧ (t.reserve extra).entries.Perm t.entries ∧
      (t.reserve extra).size = t.size ∧ t.size + extra ≤ capacityOf (t.reserve extra).slots.size := by
  unfold SlotTable.reserve
  dsimp only
  split_ifs with hcap
  · have hroom := le_trans (le_max_left (t.size + extra) (capacityOf t.slots.size + 1))
      (le_capacityOf_slotsFor (max (t.size + extra) (capacityOf t.slots.size + 1)))
    obtain ⟨hw', hsize, hperm⟩ :=
      hw.rebuild (goodSize_slotsFor (max (t.size + extra) (capacityOf t.slots.size + 1))) (by omega)
    exact ⟨hw', hperm, rfl, by rw [hsize]; exact hroom⟩
  · exact ⟨hw, List.Perm.refl _, rfl, by have := hw.room; omega⟩

omit [LawfulBEq α] in
theorem find?_eq (t : SlotTable α β) (k : α) (h : UInt64) :
    t.find? k h = (probe t.slots (keyTest k) h).bind
      fun i => if (t.slots[i]?.join).isSome then some i else none := by
  unfold SlotTable.find? keyTest
  cases probe t.slots (fun s => s.all (·.key == k)) h <;> rfl

theorem find?_eq_some {k : α} {h : UInt64} {x : Nat} (hx : t.find? k h = some x) :
    ∃ e, t.slots[x]?.join = some e ∧ e.key = k := by
  rw [find?_eq] at hx
  obtain ⟨i, hi, hsome⟩ := Option.bind_eq_some_iff.1 hx
  split_ifs at hsome with hocc
  obtain rfl := Option.some.inj hsome
  obtain ⟨e, he⟩ := Option.isSome_iff_exists.1 hocc
  have ht := (probe_eq_some hi).2
  rw [he, keyTest_some, beq_iff_eq] at ht
  exact ⟨e, he, ht⟩

omit [LawfulBEq α] in
theorem WF.find?_of_slot (hw : WF hash t) {x : Nat} {e : Slot α β}
    (hx : t.slots[x]?.join = some e) : t.find? e.key (hash e.key) = some x := by
  obtain ⟨hh, hp⟩ := hw.findable x e hx
  rw [find?_eq, ← hh, hp, Option.bind_some, hx]
  rfl

theorem WF.mem_keys_iff (hw : WF hash t) {k : α} : k ∈ t.keys ↔ (t.find? k (hash k)).isSome := by
  constructor
  · intro hk
    obtain ⟨e, he, rfl⟩ := List.mem_map.1 hk
    obtain ⟨x, hx⟩ := mem_entries.1 he
    rw [hw.find?_of_slot hx]
    rfl
  · intro hk
    obtain ⟨x, hx⟩ := Option.isSome_iff_exists.1 hk
    obtain ⟨e, he, rfl⟩ := find?_eq_some hx
    exact List.mem_map_of_mem (mem_entries.2 ⟨x, he⟩)

theorem WF.contains_iff (hw : WF hash t) {k : α} : t.contains k (hash k) = true ↔ k ∈ t.keys :=
  hw.mem_keys_iff.symm

/-- A lookup finds a value exactly when the walk lists it with its key. -/
theorem WF.get?_eq_some_iff (hw : WF hash t) {k : α} {v : β} :
    t.get? k (hash k) = some v ↔ (k, v) ∈ t.walk := by
  constructor
  · intro hv
    obtain ⟨x, hx, hval⟩ := Option.bind_eq_some_iff.1 hv
    obtain ⟨e, he, rfl⟩ := find?_eq_some hx
    rw [he, Option.map_some] at hval
    obtain rfl := Option.some.inj hval
    exact List.mem_map_of_mem (f := fun e => (e.key, e.value)) (mem_entries.2 ⟨x, he⟩)
  · intro hkv
    obtain ⟨e, he, hek⟩ := List.mem_map.1 hkv
    obtain ⟨x, hx⟩ := mem_entries.1 he
    obtain ⟨rfl, rfl⟩ := Prod.mk.inj hek
    unfold SlotTable.get?
    rw [hw.find?_of_slot hx, Option.bind_some, hx, Option.map_some]

theorem WF.get?_isSome_iff (hw : WF hash t) {k : α} : (t.get? k (hash k)).isSome ↔ k ∈ t.keys := by
  rw [keys_eq_map_walk, List.mem_map, Option.isSome_iff_exists]
  constructor
  · rintro ⟨v, hv⟩
    exact ⟨(k, v), hw.get?_eq_some_iff.1 hv, rfl⟩
  · rintro ⟨⟨k', v⟩, hkv, rfl⟩
    exact ⟨v, hw.get?_eq_some_iff.2 hkv⟩

omit [LawfulBEq α] in
theorem WF.size_eq_length_keys (hw : WF hash t) : t.size = t.keys.length := by
  rw [hw.size_eq, keys, List.length_map]

/-- Two well-formed tables whose walks list the same pairs answer every lookup alike. -/
theorem WF.eq_of_mem_walk (hw : WF hash t) {k : α} {v v' : β} (h : (k, v) ∈ t.walk)
    (h' : (k, v') ∈ t.walk) : v = v' :=
  Option.some.inj ((hw.get?_eq_some_iff.2 h).symm.trans (hw.get?_eq_some_iff.2 h'))

theorem WF.get?_congr {t' : SlotTable α β} (hw : WF hash t) (hw' : WF hash t')
    (h : ∀ p, p ∈ t'.walk ↔ p ∈ t.walk) (k : α) : t'.get? k (hash k) = t.get? k (hash k) :=
  Option.ext fun v => by rw [hw'.get?_eq_some_iff, hw.get?_eq_some_iff, h]

theorem WF.upsert_of_find?_some (hw : WF hash t) {k : α} {f : Option β → β} {x : Nat}
    (hx : t.find? k (hash k) = some x) :
    WF hash (t.upsert k (hash k) f) ∧ (t.upsert k (hash k) f).walk =
      t.walk.map fun p => if p.1 == k then (p.1, f (some p.2)) else p := by
  obtain ⟨e₀, he₀, rfl⟩ := find?_eq_some hx
  let φ : Slot α β → Slot α β := fun e =>
    if e.key == e₀.key then { e with value := f (some e.value) } else e
  have hφ : ∀ e, (φ e).key = e.key ∧ (φ e).hash = e.hash := fun e => by
    simp only [φ]
    split <;> exact ⟨rfl, rfl⟩
  have hslots : (t.upsert e₀.key (hash e₀.key) f).slots.toList =
      t.slots.toList.map (Option.map φ) := by
    unfold SlotTable.upsert
    rw [hx]
    dsimp only
    rw [Array.toList_modify]
    refine List.ext_getElem? fun y => ?_
    rw [List.getElem?_modify, List.getElem?_map, Array.getElem?_toList]
    by_cases hxy : x = y
    · subst hxy
      rw [Option.join_eq_some_iff.1 he₀]
      simp [φ]
    · cases hs : t.slots[y]? with
      | none => simp
      | some s =>
        cases s with
        | none => simp [hxy]
        | some e =>
          have hne : e.key ≠ e₀.key := fun hk =>
            hxy (hw.findable.slot_unique he₀ (by rw [hs]; rfl) hk.symm)
          simp [hxy, φ, hne]
  have hget : ∀ y : Nat, (t.upsert e₀.key (hash e₀.key) f).slots[y]? =
      t.slots[y]?.map (Option.map φ) := fun y => by
    rw [← Array.getElem?_toList, hslots, List.getElem?_map, Array.getElem?_toList]
  have hentries : (t.upsert e₀.key (hash e₀.key) f).entries = t.entries.map φ := by
    rw [entries, hslots, List.filterMap_map, entries, List.map_filterMap]
    rfl
  have hsize : (t.upsert e₀.key (hash e₀.key) f).slots.size = t.slots.size := by
    rw [← Array.length_toList, hslots, List.length_map, Array.length_toList]
  have hcount : (t.upsert e₀.key (hash e₀.key) f).size = t.size := by
    unfold SlotTable.upsert
    rw [hx]
  have hkeys : (t.upsert e₀.key (hash e₀.key) f).keys = t.keys := by
    rw [keys, hentries, List.map_map, keys]
    exact List.map_congr_left fun e _ => (hφ e).1
  refine ⟨⟨hw.findable.of_keys hsize fun y => ?_, hkeys ▸ hw.nodup, ?_, hsize ▸ hw.good,
    hsize ▸ hcount ▸ hw.room⟩, ?_⟩
  · rw [hget y]
    cases t.slots[y]? with
    | none => rfl
    | some s => cases s with
      | none => rfl
      | some e => simp [hφ]
  · rw [hcount, hentries, List.length_map]
    exact hw.size_eq
  · rw [walk, hentries, List.map_map, walk, List.map_map]
    refine List.map_congr_left fun e _ => ?_
    simp only [Function.comp, φ]
    split <;> simp_all

theorem WF.upsert_of_find?_none (hw : WF hash t) {k : α} {f : Option β → β}
    (hk : t.find? k (hash k) = none) :
    WF hash (t.upsert k (hash k) f) ∧
      (t.upsert k (hash k) f).walk.Perm (t.walk ++ [(k, f none)]) := by
  have hnot : k ∉ t.keys := fun h => by
    rw [hw.mem_keys_iff, hk] at h
    exact absurd h (by simp)
  obtain ⟨hw', hperm, hsize, hroom⟩ := hw.reserve 1
  have hnot' : k ∉ (t.reserve 1).entries.map Slot.key := fun h =>
    hnot ((hperm.map Slot.key).subset h)
  have hpos : 0 < (t.reserve 1).slots.size := pos_of_capacityOf_pos (by omega)
  have hp := hw'.placed.place hw'.good (e := ⟨k, hash k, f none⟩) rfl hnot'
    (by rw [← hw'.size_eq, hsize]; have := capacityOf_lt hpos; omega)
  have hperm' : (⟨SlotTable.place (t.reserve 1).slots ⟨k, hash k, f none⟩,
      (t.reserve 1).size + 1⟩ : SlotTable α β).entries.Perm (t.entries ++ [⟨k, hash k, f none⟩]) :=
    hp.perm.trans (hperm.append_right _)
  have hwalk := hperm'.map fun e => (e.key, e.value)
  rw [List.map_append] at hwalk
  unfold SlotTable.upsert
  rw [hk]
  dsimp only
  refine ⟨⟨hp.findable, (hperm'.map Slot.key).nodup_iff.2 ?_, ?_, hp.size ▸ hw'.good, ?_⟩, hwalk⟩
  · rw [List.map_append]
    exact List.nodup_append.2 ⟨hw.nodup, List.nodup_singleton k, fun a ha b hb hab => by
      rw [List.mem_singleton.1 hb] at hab
      rw [hab] at ha
      exact hnot ha⟩
  · show (t.reserve 1).size + 1 = _
    rw [hperm'.length_eq, List.length_append, hsize, hw.size_eq]
    rfl
  · show (t.reserve 1).size + 1 ≤ capacityOf (SlotTable.place (t.reserve 1).slots _).size
    rw [hp.size, hsize]
    exact hroom

end WF

section Api

variable [BEq α] [LawfulBEq α] {hash : α → UInt64} {t : SlotTable α β}

theorem WF.upsert (hw : WF hash t) (k : α) (f : Option β → β) : WF hash (t.upsert k (hash k) f) := by
  cases hx : t.find? k (hash k) with
  | none => exact (hw.upsert_of_find?_none hx).1
  | some x => exact (hw.upsert_of_find?_some hx).1

/-- After an upsert, a lookup of its key finds the value made from the old one, and every other
lookup is as before. -/
theorem WF.get?_upsert (hw : WF hash t) (k k' : α) (f : Option β → β) :
    (t.upsert k (hash k) f).get? k' (hash k') =
      if k' == k then some (f (t.get? k (hash k))) else t.get? k' (hash k') := by
  refine Option.ext fun v => ?_
  rw [(hw.upsert k f).get?_eq_some_iff]
  cases hx : t.find? k (hash k) with
  | none =>
    have hnone : t.get? k (hash k) = none := by
      unfold SlotTable.get?
      rw [hx]
      rfl
    rw [(hw.upsert_of_find?_none hx).2.mem_iff, List.mem_append, List.mem_singleton, hnone]
    by_cases hkk : k' = k
    · subst hkk
      have hnot : (k', v) ∉ t.walk := fun hm => by
        rw [← hw.get?_eq_some_iff, hnone] at hm
        cases hm
      simp [hnot, eq_comm]
    · simp [hkk, hw.get?_eq_some_iff]
  | some x =>
    rw [(hw.upsert_of_find?_some hx).2, List.mem_map]
    by_cases hkk : k' = k
    · subst hkk
      obtain ⟨v₀, hv₀⟩ := Option.isSome_iff_exists.1
        (hw.get?_isSome_iff.2 (hw.mem_keys_iff.2 (by rw [hx]; rfl)))
      simp only [hv₀, beq_self_eq_true, if_true, Option.some.injEq]
      constructor
      · rintro ⟨p, hp, hpv⟩
        by_cases hpk : p.1 = k'
        · rw [if_pos (beq_iff_eq.2 hpk)] at hpv
          obtain ⟨-, rfl⟩ := Prod.mk.inj hpv
          have hp' : (k', p.2) ∈ t.walk := hpk ▸ hp
          rw [hw.eq_of_mem_walk hp' (hw.get?_eq_some_iff.1 hv₀)]
        · rw [if_neg (by simpa using hpk)] at hpv
          exact absurd (congrArg Prod.fst hpv) hpk
      · rintro rfl
        exact ⟨(k', v₀), hw.get?_eq_some_iff.1 hv₀, by simp⟩
    · rw [if_neg (by simpa using hkk), hw.get?_eq_some_iff]
      constructor
      · rintro ⟨p, hp, hpv⟩
        by_cases hpk : p.1 = k
        · rw [if_pos (beq_iff_eq.2 hpk)] at hpv
          have hfst : p.1 = k' := congrArg Prod.fst hpv
          exact absurd (hpk.symm.trans hfst) (Ne.symm hkk)
        · rw [if_neg (by simpa using hpk)] at hpv
          exact hpv ▸ hp
      · intro hm
        exact ⟨(k', v), hm, by simp [hkk]⟩

theorem WF.get?_reserve (hw : WF hash t) (extra : Nat) (k : α) :
    (t.reserve extra).get? k (hash k) = t.get? k (hash k) := by
  obtain ⟨hw', hperm, -, -⟩ := hw.reserve extra
  exact hw.get?_congr hw' (fun p => (hperm.map _).mem_iff) k

theorem WF.insert (hw : WF hash t) (k : α) (v : β) : WF hash (t.insert k (hash k) v) :=
  (hw.reserve 1).1.upsert k _

theorem WF.get?_insert (hw : WF hash t) (k k' : α) (v : β) :
    (t.insert k (hash k) v).get? k' (hash k') =
      if k' == k then some v else t.get? k' (hash k') := by
  rw [SlotTable.insert, (hw.reserve 1).1.get?_upsert, hw.get?_reserve]

theorem WF.mem_keys_upsert (hw : WF hash t) (k k' : α) (f : Option β → β) :
    k' ∈ (t.upsert k (hash k) f).keys ↔ k' = k ∨ k' ∈ t.keys := by
  rw [← (hw.upsert k f).get?_isSome_iff, hw.get?_upsert, ← hw.get?_isSome_iff]
  by_cases h : k' = k <;> simp [h]

theorem WF.mem_keys_insert (hw : WF hash t) (k k' : α) (v : β) :
    k' ∈ (t.insert k (hash k) v).keys ↔ k' = k ∨ k' ∈ t.keys := by
  rw [← (hw.insert k v).get?_isSome_iff, hw.get?_insert, ← hw.get?_isSome_iff]
  by_cases h : k' = k <;> simp [h]

/-- Inserting a list of keys, one after the other, adds exactly those keys. -/
theorem WF.foldl_insert (hw : WF hash t) (v : β) (l : List α) :
    WF hash (l.foldl (fun t k => t.insert k (hash k) v) t) ∧
      ∀ k, k ∈ (l.foldl (fun t k => t.insert k (hash k) v) t).keys ↔ k ∈ l ∨ k ∈ t.keys := by
  induction l generalizing t with
  | nil => simp [hw]
  | cons k l ih =>
    obtain ⟨hw', hkeys⟩ := ih (hw.insert k v)
    refine ⟨hw', fun k' => ?_⟩
    rw [List.foldl_cons, hkeys, hw.mem_keys_insert, List.mem_cons]
    tauto

section MapValues

variable {γ : Type} (f : β → γ)

omit [BEq α] [LawfulBEq α] in
theorem entries_mapValues (t : SlotTable α β) :
    (t.mapValues f).entries = t.entries.map fun e => ⟨e.key, e.hash, f e.value⟩ := by
  rw [entries, mapValues, Array.toList_map, List.filterMap_map, entries, List.map_filterMap]
  rfl

omit [BEq α] [LawfulBEq α] in
theorem keys_mapValues (t : SlotTable α β) : (t.mapValues f).keys = t.keys := by
  rw [keys, entries_mapValues, List.map_map, keys]
  rfl

omit [BEq α] [LawfulBEq α] in
theorem walk_mapValues (t : SlotTable α β) :
    (t.mapValues f).walk = t.walk.map fun p => (p.1, f p.2) := by
  rw [walk, entries_mapValues, List.map_map, walk, List.map_map]
  rfl

omit [LawfulBEq α] in
theorem WF.mapValues (hw : WF hash t) : WF hash (t.mapValues f) where
  findable := hw.findable.of_keys (Array.size_map ..) fun y => by
    rw [SlotTable.mapValues, Array.getElem?_map]
    cases t.slots[y]? with
    | none => rfl
    | some s => cases s <;> rfl
  nodup := by
    rw [keys_mapValues]
    exact hw.nodup
  size_eq := by
    rw [entries_mapValues, List.length_map]
    exact hw.size_eq
  good := by
    rw [SlotTable.mapValues, Array.size_map]
    exact hw.good
  room := by
    rw [SlotTable.mapValues, Array.size_map]
    exact hw.room

theorem WF.get?_mapValues (hw : WF hash t) (k : α) :
    (t.mapValues f).get? k (hash k) = (t.get? k (hash k)).map f := by
  refine Option.ext fun w => ?_
  rw [(hw.mapValues f).get?_eq_some_iff, walk_mapValues, List.mem_map, Option.map_eq_some_iff]
  constructor
  · rintro ⟨⟨k', v⟩, hkv, he⟩
    obtain ⟨rfl, rfl⟩ := Prod.mk.inj he
    exact ⟨v, hw.get?_eq_some_iff.2 hkv, rfl⟩
  · rintro ⟨v, hv, rfl⟩
    exact ⟨(k, v), hw.get?_eq_some_iff.1 hv, rfl⟩

end MapValues

end Api

end SlotTable
end TagAtlas
