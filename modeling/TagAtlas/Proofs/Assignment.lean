import TagAtlas.Proofs.Partition
import TagAtlas.Plan.Assign
/-! Placing items in components. The owner table names, for each dense index, the last
component that lists it. The score buffer is shared by all items, and it is clear again after
every item: an item leaves in each slot the sum of the weights of its tags that the slot's
component owns, touching exactly the owners of its tags, and the slots it touched are then
cleared. So every item is placed as if the buffer were new, by its own tags alone: in at most
one component, always one that holds one of its tags, and somewhere when it has an owned
tag. -/
namespace TagAtlas

section Owners

variable {size : Nat}

theorem size_setOwners (idx : Nat) (ms : List Nat) (acc : Array (Option Nat)) :
    (ms.foldl (fun acc tag => if tag < size then acc.set! tag (some idx) else acc) acc).size =
      acc.size := by
  induction ms generalizing acc with
  | nil => rfl
  | cons tag rest ih =>
    rw [List.foldl_cons, ih]
    split <;> simp

theorem getElem?_setOwners (idx : Nat) (ms : List Nat) {acc : Array (Option Nat)}
    (hsize : acc.size = size) (t : Nat) :
    (ms.foldl (fun acc tag => if tag < size then acc.set! tag (some idx) else acc) acc)[t]? =
      if t ∈ ms ∧ t < size then some (some idx) else acc[t]? := by
  induction ms generalizing acc with
  | nil => simp
  | cons tag rest ih =>
    have hsize' : (if tag < size then acc.set! tag (some idx) else acc).size = size := by
      split <;> simp [hsize]
    have hstep : (if tag < size then acc.set! tag (some idx) else acc)[t]? =
        if t = tag ∧ t < size then some (some idx) else acc[t]? := by
      by_cases htag : tag < size
      · rw [if_pos htag, Array.set!_eq_setIfInBounds, Array.getElem?_setIfInBounds]
        by_cases h : t = tag
        · rw [if_pos h.symm, if_pos (by omega), if_pos ⟨h, h ▸ htag⟩]
        · rw [if_neg (Ne.symm h), if_neg fun h' => h h'.1]
      · rw [if_neg htag, if_neg fun (h : t = tag ∧ t < size) => htag (h.1 ▸ h.2)]
    rw [List.foldl_cons, ih hsize', hstep]
    by_cases hrest : t ∈ rest ∧ t < size
    · rw [if_pos hrest, if_pos ⟨List.mem_cons_of_mem _ hrest.1, hrest.2⟩]
    · rw [if_neg hrest]
      by_cases htag : t = tag ∧ t < size
      · rw [if_pos htag, if_pos ⟨htag.1 ▸ List.mem_cons_self .., htag.2⟩]
      · rw [if_neg htag, if_neg fun h => ?_]
        rcases List.mem_cons.1 h.1 with heq | hr
        · exact htag ⟨heq, h.2⟩
        · exact hrest ⟨hr, h.2⟩

theorem size_owners_fold (L : List (Component × Nat)) (acc : Array (Option Nat)) :
    (L.foldl (fun acc (c, idx) =>
      c.members.foldl (fun acc tag => if tag < size then acc.set! tag (some idx) else acc) acc)
      acc).size = acc.size := by
  induction L generalizing acc with
  | nil => rfl
  | cons e rest ih =>
    rw [List.foldl_cons, ih]
    exact size_setOwners e.2 e.1.members acc

/-- The owner fold writes, at each index below the size, the position of the last component
listing it, and leaves the other indices alone. -/
theorem getElem?_owners_fold {t : Nat} (ht : t < size) (L : List (Component × Nat))
    {acc : Array (Option Nat)} (hsize : acc.size = size) :
    (L.foldl (fun acc (c, idx) =>
      c.members.foldl (fun acc tag => if tag < size then acc.set! tag (some idx) else acc) acc)
      acc)[t]? =
      ((L.filter fun e => t ∈ e.1.members).getLast?.map fun e => some e.2).or acc[t]? := by
  induction L generalizing acc with
  | nil => simp
  | cons e rest ih =>
    obtain ⟨C, c⟩ := e
    rw [List.foldl_cons, ih (by rw [size_setOwners, hsize]), getElem?_setOwners c C.members hsize]
    by_cases hC : t ∈ C.members
    · rw [List.filter_cons_of_pos (by simpa using hC), List.getLast?_cons, if_pos ⟨hC, ht⟩]
      cases (rest.filter fun e => t ∈ e.1.members).getLast? <;> rfl
    · rw [List.filter_cons_of_neg (by simpa using hC), if_neg fun h => hC h.1]

theorem size_owners (comps : List Component) : (owners size comps).size = size := by
  rw [owners, size_owners_fold, Array.size_replicate]

/-- The owner of a dense index below the size is the last component listing it, if any. -/
theorem getElem?_owners (comps : List Component) {t : Nat} (ht : t < size) :
    (owners size comps)[t]? =
      some ((comps.zipIdx.filter fun e => t ∈ e.1.members).getLast?.map Prod.snd) := by
  rw [owners, getElem?_owners_fold ht _ (Array.size_replicate ..),
    Array.getElem?_replicate, if_pos ht]
  cases (comps.zipIdx.filter fun e => t ∈ e.1.members).getLast? <;> rfl

/-- An owner is a component that lists the index. -/
theorem owner_eq_some {comps : List Component} {t c : Nat}
    (h : (owners size comps)[t]?.getD none = some c) : ∃ C, comps[c]? = some C ∧ t ∈ C.members := by
  by_cases ht : t < size
  · rw [getElem?_owners comps ht, Option.getD_some] at h
    obtain ⟨e, he, rfl⟩ := Option.map_eq_some_iff.1 h
    have hmem := List.mem_of_getLast? he
    rw [List.mem_filter, List.mem_zipIdx_iff_getElem?] at hmem
    exact ⟨e.1, hmem.1, by simpa using hmem.2⟩
  · rw [Array.getElem?_eq_none (by rw [size_owners]; omega)] at h
    cases h

/-- An index below the size that some component lists has an owner. -/
theorem exists_owner {comps : List Component} {C : Component} (hC : C ∈ comps) {t : Nat}
    (ht : t < size) (htC : t ∈ C.members) : ∃ c, (owners size comps)[t]?.getD none = some c := by
  rw [getElem?_owners comps ht, Option.getD_some]
  obtain ⟨c, hc⟩ := List.mem_iff_getElem?.1 hC
  have hlisted : (C, c) ∈ comps.zipIdx.filter fun e => t ∈ e.1.members := by
    rw [List.mem_filter, List.mem_zipIdx_iff_getElem?]
    exact ⟨hc, by simpa using htC⟩
  obtain ⟨e, he⟩ := Option.isSome_iff_exists.1 (List.getLast?_isSome.2 (List.ne_nil_of_mem hlisted))
  exact ⟨e.2, by rw [he]; rfl⟩

/-- Every owner is a position of the component list. -/
theorem owner_lt_length {comps : List Component} {t c : Nat}
    (h : (owners size comps)[t]?.getD none = some c) : c < comps.length := by
  obtain ⟨C, hC, -⟩ := owner_eq_some h
  exact (List.getElem?_eq_some_iff.1 hC).1

end Owners

section Buffer

variable {owner : Array (Option Nat)} {weights : Array Float} {n : Nat}

/-- The weights the tags `P` of an item put into the slot of component `c`, in the order they
are listed, summed from zero. -/
def slotSum (owner : Array (Option Nat)) (weights : Array Float) (P : List Nat) (c : Nat) : Float :=
  ((P.filter fun t => owner[t]?.getD none == some c).map fun t => weights.getD t 0.0).foldl
    (· + ·) 0.0

theorem slotSum_append_of_owner {P : List Nat} {t c : Nat} (h : owner[t]?.getD none = some c) :
    slotSum owner weights (P ++ [t]) c = slotSum owner weights P c + weights.getD t 0.0 := by
  simp [slotSum, List.filter_append, h, List.foldl_append]

theorem slotSum_append_of_ne {P : List Nat} {t c : Nat} (h : owner[t]?.getD none ≠ some c) :
    slotSum owner weights (P ++ [t]) c = slotSum owner weights P c := by
  simp [slotSum, List.filter_append, h]

theorem slotSum_of_not_owner {P : List Nat} {c : Nat}
    (h : ¬∃ t ∈ P, owner[t]?.getD none = some c) : slotSum owner weights P c = 0.0 := by
  have hnil : (P.filter fun t => owner[t]?.getD none == some c) = [] :=
    List.filter_eq_nil_iff.2 fun t ht hown => h ⟨t, ht, by simpa using hown⟩
  rw [slotSum, hnil]
  rfl

/-- What a buffer of `n` slots holds once the tags `P` of one item went into it clear: each slot
the sum of the weights its component owns among the tags, and the owners of the tags touched,
each once. -/
structure Gathered (owner : Array (Option Nat)) (weights : Array Float) (n : Nat) (P : List Nat)
    (buf : ScoreBuffer) : Prop where
  size : buf.scores.size = n
  nodup : buf.touched.Nodup
  mem_touched : ∀ c, c ∈ buf.touched ↔ ∃ t ∈ P, owner[t]?.getD none = some c
  score : ∀ c < n, buf.scores.getD c 0.0 = slotSum owner weights P c

theorem gathered_clear : Gathered owner weights n [] (ScoreBuffer.clear n) where
  size := Array.size_replicate ..
  nodup := List.nodup_nil
  mem_touched _ := by simp [ScoreBuffer.clear]
  score c hc := by simp [ScoreBuffer.clear, Array.getD_eq_getD_getElem?, hc, slotSum]

theorem getD_modify {a : Array Float} {c d : Nat} (f : Float → Float) (hd : d < a.size) :
    (a.modify c f).getD d 0.0 = if c = d then f (a.getD d 0.0) else a.getD d 0.0 := by
  simp only [Array.getD_eq_getD_getElem?, Array.getElem?_modify, Array.getElem?_eq_getElem hd]
  split <;> rfl

variable (hown : ∀ (t c : Nat), owner[t]?.getD none = some c → c < n)
include hown

/-- One more tag adds its weight into the slot of its owner and touches the owner, if it has
one, and leaves the buffer alone otherwise. -/
theorem Gathered.addTag {P : List Nat} {buf : ScoreBuffer} (h : Gathered owner weights n P buf)
    (t : Nat) : Gathered owner weights n (P ++ [t]) (buf.addTag owner weights t) := by
  have hmem : ∀ c, (∃ t' ∈ P ++ [t], owner[t']?.getD none = some c) ↔
      (∃ t' ∈ P, owner[t']?.getD none = some c) ∨ owner[t]?.getD none = some c := by
    simp [or_and_right, exists_or]
  unfold ScoreBuffer.addTag
  cases hc : owner[t]?.getD none with
  | none =>
    refine ⟨h.size, h.nodup, fun c => ?_, fun d hd => ?_⟩
    · rw [h.mem_touched, hmem, hc]
      simp
    · rw [h.score d hd, slotSum_append_of_ne (by simp [hc])]
  | some c =>
    have hcn := hown t c hc
    dsimp only
    refine ⟨by simp [h.size], ?_, fun d => ?_, fun d hd => ?_⟩
    · split_ifs with hin
      · exact h.nodup
      · exact h.nodup.append (List.nodup_singleton c)
          (List.disjoint_singleton.2 fun hmem => hin (List.contains_iff_mem.2 hmem))
    · rw [hmem, hc, ← h.mem_touched, Option.some_inj]
      split_ifs with hin
      · exact ⟨.inl, fun h' => h'.elim id fun hdc => hdc ▸ List.contains_iff_mem.1 hin⟩
      · simp [eq_comm]
    · rw [getD_modify _ (h.size ▸ hd)]
      by_cases hdc : c = d
      · subst hdc
        rw [if_pos rfl, h.score c hd, slotSum_append_of_owner hc]
      · rw [if_neg hdc, h.score d hd, slotSum_append_of_ne (by rw [hc]; simpa using hdc)]

theorem gathered_foldl (tags : List Nat) {P : List Nat} {buf : ScoreBuffer}
    (h : Gathered owner weights n P buf) :
    Gathered owner weights n (P ++ tags) (tags.foldl (ScoreBuffer.addTag owner weights) buf) := by
  induction tags generalizing P buf with
  | nil => simpa using h
  | cons t rest ih =>
    rw [List.foldl_cons, ← List.singleton_append, ← List.append_assoc]
    exact ih (h.addTag hown t)

omit hown in
/-- The buffer the tags of one item leave when they go into clear slots for `n` components. -/
def ScoreBuffer.gather (owner : Array (Option Nat)) (weights : Array Float) (n : Nat)
    (tags : List Nat) : ScoreBuffer :=
  tags.foldl (ScoreBuffer.addTag owner weights) (ScoreBuffer.clear n)

theorem gathered_gather (tags : List Nat) :
    Gathered owner weights n tags (ScoreBuffer.gather owner weights n tags) := by
  have h := gathered_foldl hown tags (gathered_clear : Gathered owner weights n [] _)
  rwa [List.nil_append] at h

end Buffer

section Release

variable {owner : Array (Option Nat)} {weights : Array Float} {n : Nat}

theorem size_foldl_clearSlot (l : List Nat) (a : Array Float) :
    (l.foldl (fun s c => s.set! c 0.0) a).size = a.size := by
  induction l generalizing a with
  | nil => rfl
  | cons c rest ih => rw [List.foldl_cons, ih, Array.size_set!]

/-- Clearing a list of slots leaves zero in each slot of the list and every other slot alone. -/
theorem getD_foldl_clearSlot (l : List Nat) (a : Array Float) (d : Nat) :
    (l.foldl (fun s c => s.set! c 0.0) a).getD d 0.0 = if d ∈ l then 0.0 else a.getD d 0.0 := by
  induction l generalizing a with
  | nil => simp
  | cons c rest ih =>
    have hset : (a.set! c 0.0).getD d 0.0 = if c = d then 0.0 else a.getD d 0.0 := by
      simp only [Array.getD_eq_getD_getElem?, Array.set!_eq_setIfInBounds,
        Array.getElem?_setIfInBounds]
      by_cases hcd : c = d
      · subst hcd
        by_cases hc : c < a.size
        · simp [hc]
        · simp [hc]
      · simp [hcd]
    rw [List.foldl_cons, ih, hset]
    by_cases hd : d ∈ rest
    · simp [hd]
    · by_cases hcd : c = d
      · simp [hcd]
      · simp [hd, hcd, Ne.symm hcd]

theorem eq_replicate_zero {a : Array Float} (hsize : a.size = n)
    (h : ∀ d < n, a.getD d 0.0 = 0.0) : a = Array.replicate n 0.0 := by
  refine Array.ext (by simp [hsize]) fun d hd _ => ?_
  have hd' : d < n := hsize ▸ hd
  have := h d hd'
  simp only [Array.getD_eq_getD_getElem?, Array.getElem?_eq_getElem hd, Option.getD_some] at this
  simp [this]

/-- Clearing the touched slots leaves every slot zero: the slots no tag went into were zero. -/
theorem Gathered.clearSlots {P : List Nat} {buf : ScoreBuffer}
    (h : Gathered owner weights n P buf) :
    buf.touched.foldl (fun s c => s.set! c 0.0) buf.scores = Array.replicate n 0.0 := by
  refine eq_replicate_zero (by rw [size_foldl_clearSlot, h.size]) fun d hd => ?_
  rw [getD_foldl_clearSlot]
  split_ifs with hin
  · rfl
  · rw [h.score d hd]
    exact slotSum_of_not_owner fun hP => hin ((h.mem_touched d).2 hP)

theorem Gathered.release {P : List Nat} {buf : ScoreBuffer} (h : Gathered owner weights n P buf) :
    buf.release = ScoreBuffer.clear n := by
  rw [ScoreBuffer.release, h.clearSlots]
  rfl

end Release

section Scan

/-- The scan for the highest score from `b`, a later index taking over only on a strictly
higher score. -/
def scanBest (f : Nat → Float) (b : Nat) (rest : List Nat) : Nat :=
  rest.foldl (fun b c => if f c > f b then c else b) b

theorem scanBest_mem (f : Nat → Float) (b : Nat) (rest : List Nat) :
    scanBest f b rest ∈ b :: rest := by
  induction rest generalizing b with
  | nil => exact List.mem_singleton_self b
  | cons c rest ih =>
    rw [scanBest, List.foldl_cons]
    split_ifs
    · exact List.mem_cons_of_mem _ (ih c)
    · exact List.mem_cons.2 ((List.mem_cons.1 (ih b)).imp id (List.mem_cons_of_mem _))

theorem ScoreBuffer.best_eq (buf : ScoreBuffer) :
    buf.best = match buf.touched.mergeSort (· ≤ ·) with
      | [] => none
      | first :: rest => some (scanBest (buf.scores.getD · 0.0) first rest) := rfl

/-- The best component is a touched one. -/
theorem ScoreBuffer.best_mem {buf : ScoreBuffer} {c : Nat} (h : buf.best = some c) :
    c ∈ buf.touched := by
  rw [ScoreBuffer.best_eq] at h
  split at h
  · cases h
  · rename_i first rest hsort
    cases h
    have hmem := scanBest_mem (buf.scores.getD · 0.0) first rest
    rw [← hsort] at hmem
    exact (List.mergeSort_perm _ _).subset hmem

/-- An item that touched a component is placed. -/
theorem ScoreBuffer.best_isSome {buf : ScoreBuffer} (h : buf.touched ≠ []) : buf.best.isSome := by
  rw [ScoreBuffer.best_eq]
  split
  · rename_i hsort
    have hlen := congrArg List.length hsort
    rw [List.length_mergeSort, List.length_nil] at hlen
    exact absurd (List.length_eq_zero_iff.1 hlen) h
  · rfl

theorem ScoreBuffer.best_eq_none {buf : ScoreBuffer} (h : buf.best = none) : buf.touched = [] := by
  by_contra hne
  have := ScoreBuffer.best_isSome hne
  rw [h] at this
  cases this

end Scan

section Assign

variable {owner : Array (Option Nat)} {weights : Array Float} {n : Nat}
  (hown : ∀ (t c : Nat), owner[t]?.getD none = some c → c < n)
include hown

/-- An item that touches nothing passes through and leaves the buffer clear. -/
theorem assignStep_of_best_none (A : Array (List Int)) {e : Int × List Nat}
    (hb : (ScoreBuffer.gather owner weights n e.2).best = none) :
    assignStep owner weights ⟨A, ScoreBuffer.clear n⟩ e = ⟨A, ScoreBuffer.clear n⟩ := by
  have hg : Gathered owner weights n e.2 (ScoreBuffer.gather owner weights n e.2) :=
    gathered_gather hown e.2
  have htouched := ScoreBuffer.best_eq_none hb
  have hclear : ScoreBuffer.gather owner weights n e.2 = ScoreBuffer.clear n := by
    have hscores := hg.clearSlots
    rw [htouched, List.foldl_nil] at hscores
    rw [ScoreBuffer.clear, ← hscores, ← htouched]
  unfold assignStep
  dsimp only
  rw [← ScoreBuffer.gather, hb]
  exact congrArg (AssignState.mk A) hclear

/-- An item that touches a component joins the best one and leaves the buffer clear. -/
theorem assignStep_of_best_some (A : Array (List Int)) {e : Int × List Nat} {c : Nat}
    (hb : (ScoreBuffer.gather owner weights n e.2).best = some c) :
    assignStep owner weights ⟨A, ScoreBuffer.clear n⟩ e =
      ⟨A.modify c (· ++ [e.1]), ScoreBuffer.clear n⟩ := by
  unfold assignStep
  dsimp only
  rw [← ScoreBuffer.gather, hb, (gathered_gather hown e.2).release]

/-- The placement loop from a clear buffer: the buffer is clear again after every item, and each
item joins the component its own tags choose in a clear buffer. -/
theorem foldl_assignStep (l : List (Int × List Nat)) (A : Array (List Int)) :
    l.foldl (assignStep owner weights) ⟨A, ScoreBuffer.clear n⟩ =
      ⟨(l.filterMap fun e => (ScoreBuffer.gather owner weights n e.2).best.map (·, e.1)).foldl
        (fun A p => A.modify p.1 (· ++ [p.2])) A, ScoreBuffer.clear n⟩ := by
  induction l generalizing A with
  | nil => rfl
  | cons e rest ih =>
    rw [List.foldl_cons, List.filterMap_cons]
    cases hb : (ScoreBuffer.gather owner weights n e.2).best with
    | none => rw [assignStep_of_best_none hown A hb, ih, Option.map_none]
    | some c => rw [assignStep_of_best_some hown A hb, ih, Option.map_some, List.foldl_cons]

end Assign

/-- Appending each item to the list of its component gives each component its items in
order. -/
theorem getElem?_foldl_append (ps : List (Nat × Int)) (A : Array (List Int)) (c : Nat) :
    (ps.foldl (fun A p => A.modify p.1 (· ++ [p.2])) A)[c]? =
      A[c]?.map (· ++ (ps.filter (·.1 == c)).map Prod.snd) := by
  induction ps generalizing A with
  | nil => simp
  | cons p rest ih =>
    rw [List.foldl_cons, ih, Array.getElem?_modify, List.filter_cons]
    by_cases hpc : p.1 = c
    · rw [if_pos hpc, if_pos (by simpa using hpc)]
      cases A[c]? <;> simp
    · rw [if_neg hpc, if_neg (by simpa using hpc)]

section Assignment

variable (memberships : List (Int × List Nat)) (comps : List Component) (cands : CandidateSet)

/-- Each placed item with the position of the component its own tags choose, in membership
order. -/
def placements : List (Nat × Int) :=
  memberships.filterMap fun (item, tags) =>
    (ScoreBuffer.gather (owners cands.size comps) cands.weights comps.length tags).best.map
      fun c => (c, item)

/-- The items placed in the component at a position. -/
def placedIn (c : Nat) : List Int :=
  ((placements memberships comps cands).filter (·.1 == c)).map Prod.snd

/-- The placement loop keeps its buffer clear between items and appends each placed item to its
component. -/
theorem assignRun_eq :
    assignRun memberships comps cands =
      ⟨(placements memberships comps cands).foldl (fun A p => A.modify p.1 (· ++ [p.2]))
        (Array.replicate comps.length []), ScoreBuffer.clear comps.length⟩ := by
  rw [assignRun, foldl_assignStep (fun _ _ h => owner_lt_length h)]
  rfl

theorem assignItems_eq :
    assignItems memberships comps cands =
      (List.range comps.length).map (placedIn memberships comps cands) := by
  refine List.ext_getElem? fun c => ?_
  rw [assignItems, assignRun_eq, Array.getElem?_toList, getElem?_foldl_append,
    List.getElem?_map, Array.getElem?_replicate]
  by_cases hc : c < comps.length
  · simp [hc, placedIn]
  · simp [hc]

theorem length_assignItems : (assignItems memberships comps cands).length = comps.length := by
  simp [assignItems_eq]

/-- Each component paired with its items is the component at a position with the items placed
there. -/
theorem zip_assignItems :
    comps.zip (assignItems memberships comps cands) =
      comps.zipIdx.map fun e => (e.1, placedIn memberships comps cands e.2) := by
  rw [assignItems_eq, List.zip_map_right, List.range_eq_range', ← List.zipIdx_eq_zip_range']
  rfl

/-- The buffer the tags of an item leave holds its scores for the plan's components. -/
theorem gathered_plan (tags : List Nat) :
    Gathered (owners cands.size comps) cands.weights comps.length tags
      (ScoreBuffer.gather (owners cands.size comps) cands.weights comps.length tags) :=
  gathered_gather (fun _ _ h => owner_lt_length h) tags

variable {memberships comps cands}

theorem mem_placements {c : Nat} {item : Int} :
    (c, item) ∈ placements memberships comps cands ↔ ∃ tags, (item, tags) ∈ memberships ∧
      (ScoreBuffer.gather (owners cands.size comps) cands.weights comps.length tags).best =
        some c := by
  unfold placements
  rw [List.mem_filterMap]
  constructor
  · rintro ⟨⟨i, tags⟩, hmem, h⟩
    obtain ⟨d, hd, he⟩ := Option.map_eq_some_iff.1 h
    cases he
    exact ⟨tags, hmem, hd⟩
  · rintro ⟨tags, hmem, hbest⟩
    exact ⟨(item, tags), hmem, by simp [hbest]⟩

@[simp] theorem mem_placedIn {c : Nat} {item : Int} :
    item ∈ placedIn memberships comps cands c ↔ (c, item) ∈ placements memberships comps cands := by
  simp [placedIn]

/-- A placed item carries a tag of its component. -/
theorem exists_tag_of_mem_placements {c : Nat} {item : Int}
    (h : (c, item) ∈ placements memberships comps cands) :
    ∃ C, comps[c]? = some C ∧ ∃ tags, (item, tags) ∈ memberships ∧ ∃ j ∈ tags, j ∈ C.members := by
  obtain ⟨tags, hmem, hbest⟩ := mem_placements.1 h
  obtain ⟨j, hj, hown⟩ := ((gathered_plan comps cands tags).mem_touched c).1 (ScoreBuffer.best_mem hbest)
  obtain ⟨C, hC, hjC⟩ := owner_eq_some hown
  exact ⟨C, hC, tags, hmem, j, hj, hjC⟩

/-- An item with a tag that a component lists is placed somewhere. -/
theorem exists_placement {item : Int} {tags : List Nat} (hmem : (item, tags) ∈ memberships)
    {C : Component} (hC : C ∈ comps) {j : Nat} (hj : j ∈ tags) (hjC : j ∈ C.members)
    (hsize : j < cands.size) : ∃ c, (c, item) ∈ placements memberships comps cands := by
  obtain ⟨d, hd⟩ := exists_owner hC hsize hjC
  have htouched := List.ne_nil_of_mem (((gathered_plan comps cands tags).mem_touched d).2 ⟨j, hj, hd⟩)
  obtain ⟨c, hc⟩ := Option.isSome_iff_exists.1 (ScoreBuffer.best_isSome htouched)
  exact ⟨c, mem_placements.2 ⟨tags, hmem, hc⟩⟩

theorem placements_items_sublist :
    ((placements memberships comps cands).map Prod.snd).Sublist (memberships.map Prod.fst) := by
  rw [placements, List.map_filterMap, ← List.filterMap_eq_map]
  exact filterMap_sublist_of_imp (fun ⟨item, tags⟩ i h => by
    simp only [Option.map_map] at h
    obtain ⟨c, -, rfl⟩ := Option.map_eq_some_iff.1 h
    rfl) memberships

variable (hitems : (memberships.map Prod.fst).Nodup)
include hitems

/-- With one membership per item, an item is placed in one component only. -/
theorem eq_of_mem_placements {c d : Nat} {item : Int}
    (hc : (c, item) ∈ placements memberships comps cands)
    (hd : (d, item) ∈ placements memberships comps cands) : c = d :=
  (Prod.mk.inj (List.inj_on_of_nodup_map ((hitems.sublist placements_items_sublist)) hc hd rfl)).1

theorem nodup_placedIn (c : Nat) : (placedIn memberships comps cands c).Nodup :=
  (hitems.sublist placements_items_sublist).sublist (List.filter_sublist.map _)

theorem disjoint_placedIn {c d : Nat} (hcd : c ≠ d) :
    (placedIn memberships comps cands c).Disjoint (placedIn memberships comps cands d) := by
  intro item hc hd
  exact hcd (eq_of_mem_placements hitems (mem_placedIn.1 hc) (mem_placedIn.1 hd))

/-- Different components receive different items. -/
theorem pairwise_disjoint_assignItems :
    (assignItems memberships comps cands).Pairwise List.Disjoint := by
  rw [assignItems_eq, List.pairwise_map]
  exact List.pairwise_lt_range.imp fun hcd => disjoint_placedIn hitems (Nat.ne_of_lt hcd)

end Assignment

end TagAtlas
