import TagAtlas.Service.Query
/-! Serving a query over a store whose reads each answer from memory or fail. Without a
deadline a query makes the reads of its success path in order, up to the first one that fails,
and answers that failure, or the sectors built from the in-memory answers when none fails. The
success path reads the applications always, the tag ids only for a non-empty load of an
explicit tag set with an include, and the tag names and then the attributions only for a plan
with sectors. Under a deadline a query ends the same way or is dropped.

Every finished query counts once, and as exactly one of a failure, an empty result or its
emitted sectors; finished or dropped, it leaves the in-flight gauge where it found it.

The run of a query is described step by step by `Follows`: the counters it keeps, and how it
ends along a path of reads. Each primitive of a run follows its own path, and a sequence of
steps follows the paths of its steps one after the other. -/
namespace TagAtlas

section Paths

/-- The reads made along a path, up to and including the first one set to fail, with the
message it fails with. -/
def Faults.attempt (f : Faults) : List Accessor → List Accessor × Option String
  | [] => ([], none)
  | a :: rest =>
    match f.failure? a with
    | some message => ([a], some message)
    | none => (a :: (Faults.attempt f rest).1, (Faults.attempt f rest).2)

/-- How a run along a path ends: with the failure of its first failing read, or as `ans` when
every read answers. -/
def Faults.settle {α : Type} (f : Faults) (path : List Accessor) (ans : Except Halt α) : Except Halt α :=
  match (f.attempt path).2 with
  | some message => .error (.answer (.error ⟨message⟩))
  | none => ans

variable {f : Faults}

theorem Faults.attempt_append_of_some {R : List Accessor} {message : String}
    (h : (f.attempt R).2 = some message) (R' : List Accessor) : f.attempt (R ++ R') = f.attempt R := by
  induction R with
  | nil => cases h
  | cons a rest ih =>
    rw [List.cons_append, Faults.attempt, Faults.attempt]
    cases hf : f.failure? a with
    | some _ => rfl
    | none =>
      rw [Faults.attempt, hf] at h
      rw [ih h]

theorem Faults.attempt_append_of_none {R : List Accessor} (h : (f.attempt R).2 = none)
    (R' : List Accessor) :
    f.attempt (R ++ R') = ((f.attempt R).1 ++ (f.attempt R').1, (f.attempt R').2) := by
  induction R with
  | nil => rfl
  | cons a rest ih =>
    simp only [Faults.attempt] at h ⊢
    split
    · rename_i message hsome
      rw [hsome] at h
      cases h
    · rename_i hnone
      rw [hnone] at h
      rw [List.cons_append, Faults.attempt, hnone, ih h]
      rfl

theorem Faults.attempt_singleton_fst (a : Accessor) : (f.attempt [a]).1 = [a] := by
  unfold Faults.attempt
  cases f.failure? a <;> rfl

/-- Along a path where no read fails, every read is made. -/
theorem Faults.attempt_of_forall_none {R : List Accessor} (h : ∀ a ∈ R, f.failure? a = none) :
    f.attempt R = (R, none) := by
  induction R with
  | nil => rfl
  | cons a rest ih =>
    rw [Faults.attempt, h a List.mem_cons_self, ih fun b hb => h b (List.mem_cons_of_mem _ hb)]

/-- Along a path, the reads are made up to the first one that fails. -/
theorem Faults.attempt_of_first_failure {done : List Accessor} {a : Accessor} {message : String}
    (hdone : ∀ b ∈ done, f.failure? b = none) (ha : f.failure? a = some message) (rest : List Accessor) :
    f.attempt (done ++ a :: rest) = (done ++ [a], some message) := by
  have hfirst : f.attempt (a :: rest) = ([a], some message) := by
    rw [Faults.attempt, ha]
  rw [Faults.attempt_append_of_none (by rw [Faults.attempt_of_forall_none hdone]),
    Faults.attempt_of_forall_none hdone, hfirst]

theorem Faults.settle_of_some {α : Type} {ans : Except Halt α} {R : List Accessor} {message : String}
    (h : (f.attempt R).2 = some message) : f.settle R ans = .error (.answer (.error ⟨message⟩)) := by
  rw [Faults.settle, h]

theorem Faults.settle_of_none {α : Type} {ans : Except Halt α} {R : List Accessor}
    (h : (f.attempt R).2 = none) : f.settle R ans = ans := by
  rw [Faults.settle, h]

end Paths

/-- The counters the service keeps about queries: queries, failures, empty results, emitted
sectors and queries in flight. -/
def Metrics.queryCounts (m : Metrics) : Nat × Nat × Nat × Nat × Nat :=
  (m.queries, m.failures, m.emptyResults, m.sectorsEmitted, m.inflight)

namespace QueryRun

variable {α β : Type}

theorem run_bind (x : QueryRun α) (f : α → QueryRun β) (st : RunState) :
    (x >>= f).run.run st = match x.run.run st with
      | (.ok a, st') => (f a).run.run st'
      | (.error e, st') => (.error e, st') := by
  simp only [ExceptT.run_bind, StateT.run_bind]
  rcases x.run.run st with ⟨_ | _, _⟩ <;> rfl

theorem run_bind_of_error {x : QueryRun α} {f : α → QueryRun β} {st : RunState} {e : Halt}
    (h : (x.run.run st).1 = .error e) : (x >>= f).run.run st = (.error e, (x.run.run st).2) := by
  rw [run_bind]
  rcases hx : x.run.run st with ⟨o, st'⟩
  rw [hx] at h
  subst h
  rfl

theorem run_bind_of_ok {x : QueryRun α} {f : α → QueryRun β} {st : RunState} {a : α}
    (h : (x.run.run st).1 = .ok a) : (x >>= f).run.run st = (f a).run.run (x.run.run st).2 := by
  rw [run_bind]
  rcases hx : x.run.run st with ⟨o, st'⟩
  rw [hx] at h
  subst h
  rfl

theorem run_get (st : RunState) : (get : QueryRun RunState).run.run st = (.ok st, st) := rfl

/-- A wait moves the clock on, or under a deadline drops the query and changes nothing. -/
theorem run_wait (d : Option Nat) (ms : Nat) (st : RunState) :
    (wait d ms).run.run st = (.ok (), { st with now := st.now + ms }) ∨
      (d.isSome ∧ (wait d ms).run.run st = (.error .dropped, st)) := by
  unfold wait
  split
  · subst_vars
    exact .inl rfl
  · rw [run_bind, run_get]
    rcases d with _ | d
    · exact .inl rfl
    · by_cases hlate : d < st.now + ms
      · exact .inr ⟨rfl, by simp only [if_pos hlate]; rfl⟩
      · exact .inl (by simp only [if_neg hlate]; rfl)

/-- A suspension point goes on, or under a deadline drops the query and changes nothing. -/
theorem run_yieldAt (d : Option Nat) (st : RunState) :
    (yieldAt d).run.run st = (.ok (), st) ∨ (d.isSome ∧ (yieldAt d).run.run st = (.error .dropped, st)) := by
  unfold yieldAt
  rw [run_bind, run_get]
  rcases d with _ | d
  · exact .inl rfl
  · by_cases hlate : d ≤ st.now
    · exact .inr ⟨rfl, by simp only [if_pos hlate]; rfl⟩
    · exact .inl (by simp only [if_neg hlate]; rfl)

theorem run_modify (g : RunState → RunState) (st : RunState) :
    (modify g : QueryRun Unit).run.run st = (.ok (), g st) := rfl

section Read

variable {α : Type} {fs : FaultyStore} {d : Option Nat} {a : Accessor}
  {answer : FaultyStore → Except String α} {st st' : RunState}

/-- A read whose wait passes ends as its answer says, noted. -/
theorem run_read_of_wait {v : α}
    (hw : (wait d (fs.faults.delay a)).run.run { service := st.service.noteRead a, now := st.now } = (.ok (), st'))
    (h : answer fs = fs.guard a v) :
    (read fs d a answer).run.run st = (fs.faults.settle [a] (.ok v), st') := by
  unfold read
  rw [run_bind, run_modify]
  dsimp only
  rw [run_bind, hw]
  dsimp only
  rw [h, FaultyStore.guard]
  unfold Faults.settle Faults.attempt
  cases fs.faults.failure? a <;> rfl

/-- A read whose wait runs past the deadline drops the query, noted. -/
theorem run_read_of_drop
    (hw : (wait d (fs.faults.delay a)).run.run { service := st.service.noteRead a, now := st.now } =
      (.error .dropped, st')) :
    (read fs d a answer).run.run st = (.error .dropped, st') := by
  unfold read
  rw [run_bind, run_modify]
  dsimp only
  rw [run_bind, hw]

end Read

end QueryRun

/-- What a run does under every deadline and from every state: it keeps the query counters,
and unless a deadline drops it, it makes the reads of `path` up to the first that fails and
ends with that failure, or with `ans` when none fails. -/
structure Follows {α : Type} (fs : FaultyStore) (x : Option Nat → QueryRun α) (path : List Accessor)
    (ans : Except Halt α) : Prop where
  keeps : ∀ d st, ((x d).run.run st).2.service.metrics.queryCounts = st.service.metrics.queryCounts
  ends : ∀ d st, (d.isSome ∧ ((x d).run.run st).1 = .error .dropped) ∨
    (((x d).run.run st).1 = fs.faults.settle path ans ∧
      ((x d).run.run st).2.service.reads.toList = st.service.reads.toList ++ (fs.faults.attempt path).1)

namespace Follows

variable {α β : Type} {fs : FaultyStore}

theorem pure (a : α) : Follows fs (fun _ => Pure.pure a) [] (.ok a) :=
  ⟨fun _ _ => rfl, fun _ _ => .inr ⟨rfl, (List.append_nil _).symm⟩⟩

theorem finish (r : Except QueryError (List Sector)) :
    Follows fs (fun _ => (QueryRun.finish r : QueryRun α)) [] (.error (.answer r)) :=
  ⟨fun _ _ => rfl, fun _ _ => .inr ⟨rfl, (List.append_nil _).symm⟩⟩

theorem metric {g : Metrics → Metrics} (hg : ∀ m, (g m).queryCounts = m.queryCounts) :
    Follows fs (fun _ => QueryRun.metric g) [] (.ok ()) :=
  ⟨fun _ st => hg st.service.metrics, fun _ _ => .inr ⟨rfl, (List.append_nil _).symm⟩⟩

theorem yieldAt : Follows fs QueryRun.yieldAt [] (.ok ()) := by
  refine ⟨fun d st => ?_, fun d st => ?_⟩
  · rcases QueryRun.run_yieldAt d st with h | ⟨-, h⟩ <;> rw [h]
  · rcases QueryRun.run_yieldAt d st with h | ⟨hd, h⟩
    · exact .inr ⟨by rw [h]; rfl, by rw [h]; exact (List.append_nil _).symm⟩
    · exact .inl ⟨hd, by rw [h]⟩

/-- A read notes itself, may wait, and then answers from memory or fails. -/
theorem read (a : Accessor) {answer : FaultyStore → Except String α} {v : α}
    (h : answer fs = fs.guard a v) : Follows fs (fun d => QueryRun.read fs d a answer) [a] (.ok v) := by
  refine ⟨fun d st => ?_, fun d st => ?_⟩ <;>
    rcases QueryRun.run_wait d (fs.faults.delay a) { service := st.service.noteRead a, now := st.now }
      with hw | ⟨hd, hw⟩
  · rw [QueryRun.run_read_of_wait hw h]
    rfl
  · rw [QueryRun.run_read_of_drop hw]
    rfl
  · rw [QueryRun.run_read_of_wait hw h]
    refine .inr ⟨rfl, ?_⟩
    rw [Faults.attempt_singleton_fst]
    exact Array.toList_push
  · rw [QueryRun.run_read_of_drop hw]
    exact .inl ⟨hd, rfl⟩

/-- A step that goes on with a value, then the rest: the run follows the two paths one after
the other. -/
theorem bind {x : Option Nat → QueryRun α} {g : Option Nat → α → QueryRun β} {P Q path : List Accessor}
    {a : α} {ans : Except Halt β} (hx : Follows fs x P (.ok a)) (hg : Follows fs (fun d => g d a) Q ans)
    (hpath : P ++ Q = path) : Follows fs (fun d => x d >>= g d) path ans := by
  subst hpath
  refine ⟨fun d st => ?_, fun d st => ?_⟩
  · rcases hx.ends d st with ⟨-, hdrop⟩ | ⟨hres, -⟩
    · rw [QueryRun.run_bind_of_error hdrop]
      exact hx.keeps d st
    · cases hP : (fs.faults.attempt P).2 with
      | some message =>
        rw [QueryRun.run_bind_of_error (by rw [hres, Faults.settle_of_some hP])]
        exact hx.keeps d st
      | none =>
        rw [QueryRun.run_bind_of_ok (by rw [hres, Faults.settle_of_none hP]), hg.keeps, hx.keeps]
  · rcases hx.ends d st with ⟨hd, hdrop⟩ | ⟨hres, hreads⟩
    · rw [QueryRun.run_bind_of_error hdrop]
      exact .inl ⟨hd, rfl⟩
    · cases hP : (fs.faults.attempt P).2 with
      | some message =>
        rw [QueryRun.run_bind_of_error (by rw [hres, Faults.settle_of_some hP])]
        refine .inr ⟨?_, ?_⟩
        · rw [Faults.settle_of_some (by rw [Faults.attempt_append_of_some hP, hP])]
        · rw [Faults.attempt_append_of_some hP]
          exact hreads
      | none =>
        rw [QueryRun.run_bind_of_ok (by rw [hres, Faults.settle_of_none hP])]
        rcases hg.ends d ((x d).run.run st).2 with hdrop | ⟨hres', hreads'⟩
        · exact .inl hdrop
        · refine .inr ⟨?_, ?_⟩
          · rw [hres', Faults.settle, Faults.settle, Faults.attempt_append_of_none hP]
          · rw [hreads', hreads, Faults.attempt_append_of_none hP, List.append_assoc]

/-- A step that stops, then anything: the run follows the step's path. -/
theorem bind_error {x : Option Nat → QueryRun α} {g : Option Nat → α → QueryRun β} {P path : List Accessor}
    {e : Halt} (hx : Follows fs x P (.error e)) (hpath : P = path) :
    Follows fs (fun d => x d >>= g d) path (.error e) := by
  subst hpath
  -- every way the step ends is an error, so the rest never runs
  have hstops : ∀ d st, ∃ e', ((x d).run.run st).1 = .error e' := fun d st => by
    rcases hx.ends d st with ⟨-, hdrop⟩ | ⟨hres, -⟩
    · exact ⟨_, hdrop⟩
    · rw [hres, Faults.settle]
      split <;> exact ⟨_, rfl⟩
  refine ⟨fun d st => ?_, fun d st => ?_⟩ <;>
    obtain ⟨e', he'⟩ := hstops d st <;>
    rw [QueryRun.run_bind_of_error he']
  · exact hx.keeps d st
  · rcases hx.ends d st with ⟨hd, hdrop⟩ | ⟨hres, hreads⟩
    · rw [hdrop] at he'
      cases he'
      exact .inl ⟨hd, rfl⟩
    · refine .inr ⟨?_, hreads⟩
      rw [hres] at he'
      cases hP : (fs.faults.attempt P).2 with
      | some message =>
        rw [Faults.settle_of_some hP] at he' ⊢
        cases he'
        rfl
      | none =>
        rw [Faults.settle_of_none hP] at he' ⊢
        cases he'
        rfl

end Follows

namespace MemoryStore

variable (m : MemoryStore) (p : Params)

/-- The rows a query loads. -/
def queryRows : List Application := m.loadApplications p.namespace_ p.statusFilter

/-- The include ids and the exclude ids that a query's tag set resolves to. -/
def resolvedIds : List Int × List Int :=
  let tagset := CustomTagset.parse p.customTagset
  let resolved := m.resolveTagIds p.namespace_ tagset.names
  (resolveInOrder tagset.includes resolved, resolveInOrder tagset.excludes resolved)

/-- Whether a query resolves tag ids: it loads rows, and names a tag set with an include. -/
def resolvesTags : Bool :=
  !(m.queryRows p).isEmpty && p.isCustom && !(CustomTagset.parse p.customTagset).isEmpty

/-- The plan a query computes from the rows it loads; none when it answers no sectors without
planning: it loads no rows, or its tag set resolves no include. -/
def queryPlan : Option SectorPlan :=
  if (m.queryRows p).isEmpty then none
  else if p.isCustom then
    if (CustomTagset.parse p.customTagset).isEmpty || (m.resolvedIds p).1.isEmpty then none
    else some (planCustomSector (Snapshot.ofApplications (m.queryRows p)) (m.resolvedIds p).1 (m.resolvedIds p).2)
  else some (planSectors (Snapshot.ofApplications (m.queryRows p)) p)

/-- Whether a query reports sectors: its plan has some. -/
def reportsSectors : Bool := (m.queryPlan p).any fun plan => !plan.sectors.isEmpty

/-- The reads of a query when every read answers, in order: the applications; the tag ids when
it resolves tags; the tag names and then the attributions when it reports sectors. -/
def queryReads : List Accessor :=
  .loadApplications :: ((if m.resolvesTags p then [.resolveTagIds] else []) ++
    (if m.reportsSectors p then [.tagNames, .itemAttributions] else []))

/-- The sectors of a plan, reported with the tag names and attributions the store holds. -/
def reportFrom (plan : SectorPlan) : List Sector :=
  buildSectors plan.sectors
    (fun t => (m.tagNames (distinctSorted (plan.sectors.flatMap (·.tags)))).lookup t)
    (fun i => (m.itemAttributions (distinctSorted (plan.sectors.flatMap (·.items)))).lookup i)
    p.maxMappers

/-- The answer of a query when every read answers: the sectors of its plan, none without one. -/
def queryAnswer : List Sector := (m.queryPlan p).elim [] (m.reportFrom p)

/-- How the run of a query ends when every read answers: with its sectors when it reports
some, and before that with no sectors otherwise. -/
def queryOutcome : Except Halt (List Sector) :=
  if m.reportsSectors p then .ok (m.queryAnswer p) else .error (.answer (.ok []))

end MemoryStore

section Run

variable (fs : FaultyStore) (p : Params)

theorem follows_planQuery (hrows : (fs.store.queryRows p).isEmpty = false) :
    Follows fs (fun d => planQuery fs d p (fs.store.queryRows p))
      (if fs.store.resolvesTags p then [.resolveTagIds] else [])
      ((fs.store.queryPlan p).elim (.error (.answer (.ok []))) .ok) := by
  unfold planQuery
  by_cases hcustom : p.isCustom = true
  · by_cases hempty : (CustomTagset.parse p.customTagset).isEmpty = true
    · -- no include to resolve: the query answers empty at once
      have hpath : (if fs.store.resolvesTags p then [Accessor.resolveTagIds] else []) = [] := by
        simp [MemoryStore.resolvesTags, hempty]
      have hplan : fs.store.queryPlan p = none := by
        simp [MemoryStore.queryPlan, hrows, hcustom, hempty]
      rw [hpath, hplan, Option.elim_none]
      simp only [hcustom, hempty, if_true]
      exact Follows.bind_error (Follows.finish _) rfl
    · have hpath : (if fs.store.resolvesTags p then [Accessor.resolveTagIds] else []) = [.resolveTagIds] := by
        simp [MemoryStore.resolvesTags, hrows, hcustom, hempty]
      rw [hpath]
      simp only [hcustom, hempty, if_true, Bool.false_eq_true, if_false]
      by_cases hinc : (resolveInOrder (CustomTagset.parse p.customTagset).includes
          (fs.store.resolveTagIds p.namespace_ (CustomTagset.parse p.customTagset).names)).isEmpty = true
      · -- the tag set resolves no include: the query answers empty after the read
        have hplan : fs.store.queryPlan p = none := by
          simp [MemoryStore.queryPlan, MemoryStore.resolvedIds, hrows, hcustom, hempty, hinc]
        rw [hplan, Option.elim_none]
        refine Follows.bind (Follows.read .resolveTagIds rfl) ?_ rfl
        simp only [hinc, if_true]
        exact Follows.bind_error (Follows.finish _) rfl
      · have hplan : fs.store.queryPlan p = some (planCustomSector
            (Snapshot.ofApplications (fs.store.queryRows p)) (fs.store.resolvedIds p).1 (fs.store.resolvedIds p).2) := by
          simp [MemoryStore.queryPlan, MemoryStore.resolvedIds, hrows, hcustom, hempty, hinc]
        rw [hplan, Option.elim_some]
        refine Follows.bind (Follows.read .resolveTagIds rfl) ?_ rfl
        simp only [hinc, Bool.false_eq_true, if_false]
        exact Follows.bind Follows.yieldAt (Follows.pure _) rfl
  · -- the query plans its sectors from the rows alone
    have hpath : (if fs.store.resolvesTags p then [Accessor.resolveTagIds] else []) = [] := by
      simp [MemoryStore.resolvesTags, hcustom]
    have hplan : fs.store.queryPlan p = some (planSectors (Snapshot.ofApplications (fs.store.queryRows p)) p) := by
      simp [MemoryStore.queryPlan, hrows, hcustom]
    rw [hpath, hplan, Option.elim_some]
    simp only [hcustom, Bool.false_eq_true, if_false]
    exact Follows.bind Follows.yieldAt (Follows.pure _) rfl

/-- The run of a query follows its success path and ends with its outcome. -/
theorem follows_runQuery :
    Follows fs (fun d => runQuery fs d p) (fs.store.queryReads p) (fs.store.queryOutcome p) := by
  unfold runQuery
  refine Follows.bind (Follows.read .loadApplications rfl) (Follows.bind (Follows.metric fun _ => rfl) ?_ rfl) rfl
  by_cases hrows : (fs.store.queryRows p).isEmpty = true
  · -- no rows: the query answers empty after the load
    have hresolves : fs.store.resolvesTags p = false := by simp [MemoryStore.resolvesTags, hrows]
    have hreports : fs.store.reportsSectors p = false := by
      simp [MemoryStore.reportsSectors, MemoryStore.queryPlan, hrows]
    rw [MemoryStore.queryOutcome, hresolves, hreports]
    simp only [MemoryStore.queryRows] at hrows
    simp only [hrows, if_true]
    exact Follows.bind_error (Follows.finish _) rfl
  · simp only [MemoryStore.queryRows, Bool.not_eq_true] at hrows
    simp only [hrows, Bool.false_eq_true, if_false]
    have hplanned := follows_planQuery fs p hrows
    cases hplan : fs.store.queryPlan p with
    | none =>
      have hreports : fs.store.reportsSectors p = false := by simp [MemoryStore.reportsSectors, hplan]
      rw [hplan, Option.elim_none] at hplanned
      simp only [MemoryStore.queryOutcome, hreports, Bool.false_eq_true, if_false]
      exact Follows.bind_error hplanned (List.append_nil _).symm
    | some plan =>
      rw [hplan, Option.elim_some] at hplanned
      by_cases hs : plan.sectors.isEmpty = true
      · -- a plan without sectors: the query answers empty without reading names
        have hreports : fs.store.reportsSectors p = false := by simp [MemoryStore.reportsSectors, hplan, hs]
        simp only [MemoryStore.queryOutcome, hreports, Bool.false_eq_true, if_false]
        refine Follows.bind hplanned (Follows.bind (Follows.metric fun _ => rfl) ?_ rfl) rfl
        simp only [hs, if_true]
        exact Follows.bind_error (Follows.finish _) rfl
      · have hreports : fs.store.reportsSectors p = true := by simp [MemoryStore.reportsSectors, hplan, hs]
        have hanswer : fs.store.queryAnswer p = fs.store.reportFrom p plan := by
          rw [MemoryStore.queryAnswer, hplan, Option.elim_some]
        simp only [MemoryStore.queryOutcome, hreports, if_true, hanswer]
        refine Follows.bind hplanned (Follows.bind (Follows.metric fun _ => rfl) ?_ rfl) rfl
        simp only [hs, Bool.false_eq_true, if_false]
        exact Follows.bind (Follows.read .tagNames rfl)
          (Follows.bind (Follows.read .itemAttributions rfl) (Follows.pure _) rfl) rfl

end Run

/-- The answer of a query along its success path: the failure of its first failing read, or
`sectors` when no read fails. -/
def Faults.answerAlong (f : Faults) (path : List Accessor) (sectors : List Sector) :
    Except QueryError (List Sector) :=
  match (f.attempt path).2 with
  | some message => .error ⟨message⟩
  | none => .ok sectors

theorem Faults.answerAlong_of_some {f : Faults} {path : List Accessor} {message : String}
    (h : (f.attempt path).2 = some message) (sectors : List Sector) :
    f.answerAlong path sectors = .error ⟨message⟩ := by
  rw [Faults.answerAlong, h]

theorem Faults.answerAlong_of_none {f : Faults} {path : List Accessor} (h : (f.attempt path).2 = none)
    (sectors : List Sector) : f.answerAlong path sectors = .ok sectors := by
  rw [Faults.answerAlong, h]

/-- The query counters after a query that finished with `r`, against those before it: one more
query, as many in flight, and one more failure, one more empty result, or the sectors it
emitted, the other two unchanged. -/
def Metrics.CountsFinished (m m' : Metrics) : Except QueryError (List Sector) → Prop
  | .error _ =>
    m'.queryCounts = (m.queries + 1, m.failures + 1, m.emptyResults, m.sectorsEmitted, m.inflight)
  | .ok [] =>
    m'.queryCounts = (m.queries + 1, m.failures, m.emptyResults + 1, m.sectorsEmitted, m.inflight)
  | .ok sectors =>
    m'.queryCounts =
      (m.queries + 1, m.failures, m.emptyResults, m.sectorsEmitted + sectors.length, m.inflight)

theorem Metrics.CountsFinished.inflight_eq {m m' : Metrics} {r : Except QueryError (List Sector)}
    (h : m.CountsFinished m' r) : m'.inflight = m.inflight := by
  rcases r with _ | _ | ⟨_, _⟩ <;>
    simp only [Metrics.CountsFinished, Metrics.queryCounts, Prod.mk.injEq] at h <;> exact h.2.2.2.2

theorem MemoryStore.queryAnswer_of_reportsSectors_eq_false {m : MemoryStore} {p : Params}
    (h : m.reportsSectors p = false) : m.queryAnswer p = [] := by
  unfold MemoryStore.queryAnswer
  cases hplan : m.queryPlan p with
  | none => rfl
  | some plan =>
    have hs : plan.sectors = [] := by simpa [MemoryStore.reportsSectors, hplan] using h
    simp [MemoryStore.reportFrom, buildSectors, hs]

section Serve

variable (s : ServiceState) (fs : FaultyStore) (p : Params) (d : Option Nat)

theorem ServiceState.reads_close (r : Except QueryError (List Sector)) : (s.close r).reads = s.reads := by
  unfold ServiceState.close
  split <;> rfl

/-- Closing a query from the counters it ran with counts it as finished with its answer. -/
theorem countsFinished_close {m : Metrics} (r : Except QueryError (List Sector))
    (hs : s.metrics.queryCounts =
      (m.queries + 1, m.failures, m.emptyResults, m.sectorsEmitted, m.inflight + 1)) (start : Nat) :
    m.CountsFinished (((s.close r).update fun m => { m with inflight := m.inflight - 1 }).enclose
      start p.span).metrics r := by
  simp only [Metrics.queryCounts, Prod.mk.injEq] at hs
  rcases r with _ | _ | ⟨_, _⟩ <;>
    simp [ServiceState.close, ServiceState.update, ServiceState.emit, ServiceState.enclose,
      Metrics.CountsFinished, Metrics.queryCounts, hs]

/-- A query is dropped under a deadline, leaving the in-flight gauge as it was, or it finishes
with the answer of its success path cut at its first failing read, having made the reads up
to that one and counted itself as finished. -/
theorem query_cases :
    (d.isSome ∧ (s.query fs d p).1 = .dropped ∧ (s.query fs d p).2.metrics.inflight = s.metrics.inflight) ∨
    ((s.query fs d p).1 = .finished (fs.faults.answerAlong (fs.store.queryReads p) (fs.store.queryAnswer p)) ∧
      (s.query fs d p).2.reads.toList = s.reads.toList ++ (fs.faults.attempt (fs.store.queryReads p)).1 ∧
      s.metrics.CountsFinished (s.query fs d p).2.metrics
        (fs.faults.answerAlong (fs.store.queryReads p) (fs.store.queryAnswer p))) := by
  have hrun := follows_runQuery fs p
  have hkeeps := hrun.keeps d
    { service := s.update fun m => { m with queries := m.queries + 1, inflight := m.inflight + 1 } }
  have hends := hrun.ends d
    { service := s.update fun m => { m with queries := m.queries + 1, inflight := m.inflight + 1 } }
  unfold ServiceState.query
  dsimp only
  rcases hr : (runQuery fs d p).run.run
    { service := s.update fun m => { m with queries := m.queries + 1, inflight := m.inflight + 1 } } with ⟨o, st'⟩
  rw [hr] at hkeeps hends
  dsimp only at hkeeps hends ⊢
  rcases hends with ⟨hd, rfl⟩ | ⟨rfl, hreads⟩
  · -- a deadline dropped the query: only the gauge is put back
    refine .inl ⟨hd, rfl, ?_⟩
    simp only [Metrics.queryCounts, Prod.mk.injEq] at hkeeps
    simp [ServiceState.update, ServiceState.enclose, hkeeps.2.2.2.2]
  · -- the query finished: its answer is closed, and its reads are those of the run
    right
    have hclosed : ∀ r, (((st'.service.close r).update fun m => { m with inflight := m.inflight - 1 }).enclose
        s.records.size p.span).reads.toList = s.reads.toList ++ (fs.faults.attempt (fs.store.queryReads p)).1 :=
      fun r => (congrArg Array.toList (ServiceState.reads_close st'.service r)).trans hreads
    cases hP : (fs.faults.attempt (fs.store.queryReads p)).2 with
    | some message =>
      rw [Faults.settle_of_some hP, Faults.answerAlong_of_some hP]
      exact ⟨rfl, hclosed _, countsFinished_close _ _ _ hkeeps _⟩
    | none =>
      rw [Faults.settle_of_none hP, MemoryStore.queryOutcome, Faults.answerAlong_of_none hP]
      cases hreports : fs.store.reportsSectors p
      · -- the run stopped with no sectors before reporting any
        rw [MemoryStore.queryAnswer_of_reportsSectors_eq_false hreports]
        exact ⟨rfl, hclosed _, countsFinished_close _ _ _ hkeeps _⟩
      · exact ⟨rfl, hclosed _, countsFinished_close _ _ _ hkeeps _⟩

/-- A query that finishes with sectors answers the sectors of its plan. -/
theorem query_finished_ok {sectors : List Sector}
    (h : (s.query fs d p).1 = .finished (.ok sectors)) : sectors = fs.store.queryAnswer p := by
  rcases query_cases s fs p d with ⟨-, hdrop, -⟩ | ⟨hfin, -, -⟩
  · rw [hdrop] at h
    cases h
  · rw [hfin] at h
    have hanswer := QueryEnd.finished.inj h
    unfold Faults.answerAlong at hanswer
    split at hanswer
    · cases hanswer
    · exact (Except.ok.inj hanswer).symm

/-- Serving a query over a store whose reads answer from memory or fail. Without a deadline it
finishes. A finished query fails at the first read of its success path that fails, having made
no read after it; when no read fails it answers the sectors of the plan computed from the
loaded rows, built with the names and attributions the store holds, having made every read of
the path. It counts once, and as exactly one of a failure, an empty result or its emitted
sectors; finished or dropped, it leaves the in-flight gauge where it found it. -/
theorem query_spec :
    (d = none → ∃ r, (s.query fs d p).1 = .finished r) ∧
    (∀ r, (s.query fs d p).1 = .finished r →
      (∀ done a rest message, fs.store.queryReads p = done ++ a :: rest →
          (∀ b ∈ done, fs.faults.failure? b = none) → fs.faults.failure? a = some message →
          r = .error ⟨message⟩ ∧ (s.query fs d p).2.reads.toList = s.reads.toList ++ done ++ [a]) ∧
      ((∀ a ∈ fs.store.queryReads p, fs.faults.failure? a = none) →
          r = .ok (fs.store.queryAnswer p) ∧
          (s.query fs d p).2.reads.toList = s.reads.toList ++ fs.store.queryReads p) ∧
      s.metrics.CountsFinished (s.query fs d p).2.metrics r) ∧
    (s.query fs d p).2.metrics.inflight = s.metrics.inflight := by
  rcases query_cases s fs p d with ⟨hd, hdrop, hinflight⟩ | ⟨hfin, hreads, hcounts⟩
  · refine ⟨fun hnone => by simp [hnone] at hd, fun r hr => ?_, hinflight⟩
    rw [hdrop] at hr
    cases hr
  · refine ⟨fun _ => ⟨_, hfin⟩, fun r hr => ?_, hcounts.inflight_eq⟩
    obtain rfl := QueryEnd.finished.inj (hfin.symm.trans hr)
    refine ⟨fun done a rest message hpath hdone ha => ?_, fun hnone => ?_, hcounts⟩
    · -- the path is cut at its first failing read
      have hattempt := Faults.attempt_of_first_failure hdone ha rest
      rw [← hpath] at hattempt
      rw [Faults.answerAlong_of_some (by rw [hattempt]), hreads, hattempt, List.append_assoc]
      exact ⟨rfl, rfl⟩
    · -- no read fails: the whole path is read
      have hattempt := Faults.attempt_of_forall_none hnone
      rw [Faults.answerAlong_of_none (by rw [hattempt]), hreads, hattempt]
      exact ⟨rfl, rfl⟩

end Serve

end TagAtlas
