import TagAtlas.Config.Env
import TagAtlas.Proofs.Clamping
/-! Reading the worker's settings from an environment. Reading makes a fixed list of checks,
one variable at a time: the database address is set and not blank; the bind address, the two
ratios and the six counts, when set, read as their types, the ratios within `[0, 1]`; the query
timeout is not zero; the least number of connections is at most the greatest. Every default
passes its own check, and every error names the variable of the check that made it. So the
settings read exactly when every check passes, and otherwise the error names the first check
that fails. Main statement: `ofEnv_spec`. -/
namespace TagAtlas

/-- The variable an error names. -/
def ConfigError.name : ConfigError → String
  | .missing name => name
  | .invalid name _ => name

namespace Config

/-- The variable named by the first failing check of a list. -/
def firstFailing (cs : List (String × Bool)) : Option String :=
  (cs.find? fun c => !c.2).map Prod.fst

/-- What reading through the checks `cs` should give: a value exactly when every check passes,
and otherwise an error naming the variable of the first failing check. -/
structure Outcome {α : Type} (r : Except ConfigError α) (cs : List (String × Bool)) : Prop where
  ok_iff : (∃ a, r = .ok a) ↔ ∀ c ∈ cs, c.2 = true
  error_name : ∀ e, r = .error e → firstFailing cs = some e.name

/-- A step that makes one check: it gives a value when the check passes, and an error naming
`name` when it fails. -/
structure Checked {α : Type} (s : Except ConfigError α) (name : String) (pass : Bool) : Prop where
  ok_of_pass : pass = true → ∃ a, s = .ok a
  error_of_fail : pass = false → ∃ e, s = .error e ∧ e.name = name

section Steps

variable {α β : Type} {cs : List (String × Bool)} {name : String} {pass : Bool}

theorem Outcome.pure (a : α) : Outcome (Except.ok a : Except ConfigError α) [] where
  ok_iff := by simp
  error_name _ h := by cases h

/-- A checked step followed by a reading through the remaining checks reads through them all. -/
theorem Outcome.bind {s : Except ConfigError α} {f : α → Except ConfigError β}
    (hs : Checked s name pass) (hf : ∀ a, s = .ok a → Outcome (f a) cs) :
    Outcome (s >>= f) ((name, pass) :: cs) := by
  cases pass with
  | true =>
    -- the step passes, so its check is neither a failure nor the first one
    obtain ⟨a, ha⟩ := hs.ok_of_pass rfl
    have hrest := hf a ha
    rw [ha]
    show Outcome (f a) _
    refine ⟨?_, fun e he => ?_⟩
    · rw [hrest.ok_iff]
      simp
    · rw [firstFailing, List.find?_cons_of_neg (by simp)]
      exact hrest.error_name e he
  | false =>
    obtain ⟨e, he, hname⟩ := hs.error_of_fail rfl
    rw [he]
    show Outcome (Except.error e) _
    refine ⟨?_, fun e' he' => ?_⟩
    · simp only [List.mem_cons, forall_eq_or_imp, Bool.false_eq_true, false_and, iff_false]
      rintro ⟨a, ha⟩
      cases ha
    · cases he'
      rw [firstFailing, List.find?_cons_of_pos (by simp), hname]
      rfl

/-- A guard that fails with an error naming `name` exactly when its check fails. -/
theorem Outcome.guard {c : Prop} [Decidable c] {e : ConfigError} {k : Unit → Except ConfigError β}
    (hpass : pass = !decide c) (hname : e.name = name) (hk : ¬c → Outcome (k ()) cs) :
    Outcome (if c then Except.error e >>= k else k ()) ((name, pass) :: cs) := by
  have hstep : (if c then Except.error e >>= k else k ()) =
      (if c then Except.error e else Except.ok ()) >>= k := by
    split <;> rfl
  rw [hstep]
  refine Outcome.bind ⟨fun h => ?_, fun h => ?_⟩ fun _ hok => hk fun hc => ?_
  · rw [hpass, Bool.not_eq_true', decide_eq_false_iff_not] at h
    exact ⟨(), if_neg h⟩
  · rw [hpass, Bool.not_eq_false', decide_eq_true_iff] at h
    exact ⟨e, if_pos h, hname⟩
  · rw [if_pos hc] at hok
    cases hok

end Steps

/-- Whether a variable, when set, passes a test. -/
def whenSet (env : Env) (name : String) (p : String → Bool) : Bool := (env.lookup name).all p

/-- Whether a text reads as an integer of a range. -/
def countText (range : Numeral.IntRange) (v : String) : Bool := (Numeral.readInt range v).isOk

/-- Whether a text reads as a double within `[0, 1]`. -/
def unitText (v : String) : Bool :=
  match Numeral.readReal v with
  | .ok x => decide (0.0 ≤ x ∧ x ≤ 1.0)
  | .error _ => false

/-- Whether a text reads as anything but the integer zero. -/
def nonzeroText (v : String) : Bool := (Numeral.readInt .u64 v).toOption != some 0

/-- Whether the least number of connections is at most the greatest, where both read; an unset
number takes its default. -/
def connectionsOrdered (env : Env) : Bool :=
  match Numeral.readInt .u32 (valueOr env "TAGMAP_DB_MIN_CONNECTIONS" "1"),
      Numeral.readInt .u32 (valueOr env "TAGMAP_DB_MAX_CONNECTIONS" "10") with
  | .ok lo, .ok hi => decide (lo ≤ hi)
  | _, _ => true

/-- The checks of an environment's settings in the order they are made, each with the variable
its error names and whether the environment passes it. -/
def checks (env : Env) : List (String × Bool) :=
  [("TAGMAP_DB_DSN", (env.lookup "TAGMAP_DB_DSN").any fun v => !Text.isBlankText v),
   ("TAGMAP_WORKER_HTTP_BIND",
     whenSet env "TAGMAP_WORKER_HTTP_BIND" fun v => (SocketAddr.parse? v).isSome),
   ("TAGMAP_DEFAULT_CONSOLIDATION", whenSet env "TAGMAP_DEFAULT_CONSOLIDATION" unitText),
   ("TAGMAP_QUERY_TIMEOUT_SECS", whenSet env "TAGMAP_QUERY_TIMEOUT_SECS" (countText .u64)),
   ("TAGMAP_QUERY_TIMEOUT_SECS", whenSet env "TAGMAP_QUERY_TIMEOUT_SECS" nonzeroText),
   ("OTEL_SAMPLING_RATIO", whenSet env "OTEL_SAMPLING_RATIO" unitText),
   ("TAGMAP_DB_MAX_CONNECTIONS", whenSet env "TAGMAP_DB_MAX_CONNECTIONS" (countText .u32)),
   ("TAGMAP_DB_MIN_CONNECTIONS", whenSet env "TAGMAP_DB_MIN_CONNECTIONS" (countText .u32)),
   ("TAGMAP_DB_MIN_CONNECTIONS", connectionsOrdered env),
   ("TAGMAP_DB_ACQUIRE_TIMEOUT_SECS",
     whenSet env "TAGMAP_DB_ACQUIRE_TIMEOUT_SECS" (countText .u64)),
   ("TAGMAP_DB_IDLE_TIMEOUT_SECS", whenSet env "TAGMAP_DB_IDLE_TIMEOUT_SECS" (countText .u64)),
   ("TAGMAP_DB_MAX_LIFETIME_SECS", whenSet env "TAGMAP_DB_MAX_LIFETIME_SECS" (countText .u64))]

section Readers

variable {α : Type} (env : Env)

/-- A text read by a parser whose errors name `name` makes one check: that it reads. -/
theorem checked_read {read : String → Except ConfigError α} {name : String}
    (hname : ∀ v e, read v = .error e → e.name = name) (v : String) :
    Checked (read v) name (read v).isOk := by
  cases h : read v with
  | ok a => exact ⟨fun _ => ⟨a, rfl⟩, (fun hf => by cases hf)⟩
  | error e => exact ⟨(fun ht => by cases ht), fun _ => ⟨e, rfl, hname v e h⟩⟩

/-- A variable read by a parser whose errors name it, from a default text that reads when it is
not set, makes one check: that the variable, when set, reads. -/
theorem checked_of_valueOr {name fallback : String} {read : String → Except ConfigError α}
    {p : String → Bool} (hp : ∀ v, (read v).isOk = p v)
    (hname : ∀ v e, read v = .error e → e.name = name) (hfb : p fallback = true) :
    Checked (read (valueOr env name fallback)) name (whenSet env name p) := by
  unfold valueOr whenSet
  cases env.lookup name with
  | none =>
    have hstep := checked_read hname fallback
    rw [hp, hfb] at hstep
    exact hstep
  | some v =>
    have hstep := checked_read hname v
    rw [hp] at hstep
    exact hstep

/-- The required variable makes one check: that it is set and not blank. -/
theorem checked_requireVar (name : String) :
    Checked (requireVar env name) name ((env.lookup name).any fun v => !Text.isBlankText v) := by
  unfold requireVar
  cases env.lookup name with
  | none => exact ⟨(fun h => by cases h), fun _ => ⟨.missing name, rfl, rfl⟩⟩
  | some v =>
    cases hb : Text.isBlankText v with
    | false => exact ⟨fun _ => ⟨v, by simp [hb]⟩, fun h => by simp [hb] at h⟩
    | true => exact ⟨fun h => by simp [hb] at h, fun _ => ⟨.missing name, by simp [hb], rfl⟩⟩

end Readers

section Parsers

variable {name v : String}

theorem parseSocketAddr_isOk : (parseSocketAddr name v).isOk = (SocketAddr.parse? v).isSome := by
  unfold parseSocketAddr
  cases SocketAddr.parse? v <;> rfl

theorem name_of_parseSocketAddr {e : ConfigError} (h : parseSocketAddr name v = .error e) :
    e.name = name := by
  unfold parseSocketAddr at h
  split at h
  · cases h
  · cases h
    rfl

theorem parseCount_isOk (range : Numeral.IntRange) :
    (parseCount range name v).isOk = countText range v := by
  unfold parseCount countText
  cases Numeral.readInt range v <;> rfl

theorem name_of_parseCount {range : Numeral.IntRange} {e : ConfigError}
    (h : parseCount range name v = .error e) : e.name = name := by
  unfold parseCount at h
  split at h
  · cases h
  · cases h
    rfl

/-- A double is outside `[0, 1]` exactly when it is not-a-number, infinite, below zero or
above one. -/
theorem outsideUnit_eq (x : Float) :
    (x.isNaN || x.isInf || x < 0.0 || x > 1.0) = !decide (0.0 ≤ x ∧ x ≤ 1.0) := by
  by_cases hin : 0.0 ≤ x ∧ x ≤ 1.0
  · -- within the range the double is finite, and compares as it lies
    have hfin := isFinite_of_le_of_le (by decide) (by decide) hin.1 hin.2
    rw [isFinite_eq, Bool.not_eq_true', Bool.or_eq_false_iff] at hfin
    rw [hfin.1, hfin.2, decide_eq_false (not_lt_of_le hin.1),
      decide_eq_false (show ¬x > 1.0 from not_lt_of_le hin.2), decide_eq_true hin]
    rfl
  · rw [decide_eq_false hin, Bool.not_false]
    by_contra hout
    simp only [Bool.or_eq_true, decide_eq_true_eq, not_or, Bool.not_eq_true] at hout
    obtain ⟨⟨⟨hnan, -⟩, hlt⟩, hgt⟩ := hout
    exact hin ⟨float_le_of_not_lt hnan (by decide) hlt, float_le_of_not_lt (by decide) hnan hgt⟩

theorem parseUnit_isOk : (parseUnit name v).isOk = unitText v := by
  unfold parseUnit unitText
  cases Numeral.readReal v with
  | error => rfl
  | ok x =>
    dsimp only
    rw [outsideUnit_eq]
    cases decide (0.0 ≤ x ∧ x ≤ 1.0) <;> rfl

theorem name_of_parseUnit {e : ConfigError} (h : parseUnit name v = .error e) : e.name = name := by
  unfold parseUnit at h
  split at h
  · cases h
    rfl
  · split at h
    · cases h
      rfl
    · cases h

end Parsers

section Variables

variable {env : Env} {name : String}

/-- The bind address, when set, reads as a socket address. -/
theorem checked_readSocketAddr {fallback : String} (hfb : (SocketAddr.parse? fallback).isSome) :
    Checked (readSocketAddr env name fallback) name
      (whenSet env name fun v => (SocketAddr.parse? v).isSome) :=
  checked_of_valueOr env (fun _ => parseSocketAddr_isOk) (fun _ _ => name_of_parseSocketAddr) hfb

/-- A count, when set, reads as an integer of its range. -/
theorem checked_readCount {range : Numeral.IntRange} {fallback : Nat}
    (hfb : countText range (toString fallback)) :
    Checked (readCount env range name fallback) name (whenSet env name (countText range)) :=
  checked_of_valueOr env (fun _ => parseCount_isOk range) (fun _ _ => name_of_parseCount) hfb

/-- A ratio, when set, reads as a double within `[0, 1]`. -/
theorem checked_readUnit {fallback : String} (hfb : unitText fallback) :
    Checked (readUnit env name fallback) name (whenSet env name unitText) :=
  checked_of_valueOr env (fun _ => parseUnit_isOk) (fun _ _ => name_of_parseUnit) hfb

end Variables

section Counts

/-- Reading digits upward from a non-negative start gives a non-negative integer. -/
theorem accumulate_nonneg {r : Numeral.IntRange} {acc n : Int} {cs : List Char} (hacc : 0 ≤ acc)
    (h : Numeral.accumulate r true acc cs = .ok n) : 0 ≤ n := by
  induction cs generalizing acc with
  | nil =>
    cases h
    exact hacc
  | cons c rest ih =>
    unfold Numeral.accumulate at h
    split at h
    · rename_i hdigit
      have hzero : '0'.toNat ≤ c.toNat := by
        simp only [Char.isDigit, Bool.and_eq_true, decide_eq_true_eq] at hdigit
        exact hdigit.1
      simp only [if_true, Bool.true_and, Bool.not_true, Bool.false_and, Bool.false_eq_true,
        if_false] at h
      split at h
      · cases h
      · exact ih (by omega) h
    · cases h

/-- An integer read for an unsigned range is not negative. -/
theorem readInt_nonneg {r : Numeral.IntRange} (hr : r.signed = false) {s : String} {n : Int}
    (h : Numeral.readInt r s = .ok n) : 0 ≤ n := by
  unfold Numeral.readInt at h
  split at h
  · cases h
  · cases h
  · cases h
  · exact accumulate_nonneg le_rfl h
  · rw [hr] at h
    cases h
  · exact accumulate_nonneg le_rfl h

variable {env : Env}

/-- The query timeout read is zero exactly when its check fails. -/
theorem nonzero_of_readCount {name : String} {q : Nat} (h : readCount env .u64 name 30 = .ok q) :
    whenSet env name nonzeroText = !decide (q = 0) := by
  unfold readCount parseCount valueOr at h
  unfold whenSet nonzeroText
  cases hv : env.lookup name with
  | none =>
    have hdefault : Numeral.readInt .u64 (toString (30 : Nat)) = .ok 30 := by decide
    rw [hv, Option.getD_none, hdefault] at h
    cases h
    rfl
  | some v =>
    rw [hv, Option.getD_some] at h
    cases hn : Numeral.readInt .u64 v with
    | error => rw [hn] at h; cases h
    | ok n =>
      rw [hn] at h
      cases h
      have hpos := readInt_nonneg rfl hn
      simp only [Option.all_some, hn, Except.toOption]
      rw [Bool.eq_iff_iff]
      simp only [bne_iff_ne, ne_eq, Option.some_inj, Bool.not_eq_true', decide_eq_false_iff_not]
      omega

/-- The numbers of connections read are in order exactly when their check passes. -/
theorem connectionsOrdered_of_readCount {lo hi : Nat}
    (hhi : readCount env .u32 "TAGMAP_DB_MAX_CONNECTIONS" 10 = .ok hi)
    (hlo : readCount env .u32 "TAGMAP_DB_MIN_CONNECTIONS" 1 = .ok lo) :
    connectionsOrdered env = !decide (lo > hi) := by
  unfold readCount parseCount at hhi hlo
  unfold connectionsOrdered
  rw [show toString (10 : Nat) = "10" from rfl] at hhi
  rw [show toString (1 : Nat) = "1" from rfl] at hlo
  cases hm : Numeral.readInt .u32 (valueOr env "TAGMAP_DB_MAX_CONNECTIONS" "10") with
  | error => rw [hm] at hhi; cases hhi
  | ok m =>
    cases hl : Numeral.readInt .u32 (valueOr env "TAGMAP_DB_MIN_CONNECTIONS" "1") with
    | error => rw [hl] at hlo; cases hlo
    | ok l =>
      rw [hm] at hhi
      rw [hl] at hlo
      cases hhi
      cases hlo
      -- both counts are read unsigned, so comparing them as integers or naturals agrees
      have hm0 := readInt_nonneg rfl hm
      have hl0 := readInt_nonneg rfl hl
      simp only [gt_iff_lt]
      rw [Bool.eq_iff_iff]
      simp only [decide_eq_true_eq, Bool.not_eq_true', decide_eq_false_iff_not, not_lt]
      omega

end Counts

/-- Reading the worker's settings from an environment succeeds exactly when it passes every
check, and otherwise fails with an error naming the first check it fails: the database address
is set and not blank; the bind address, when set, is a socket address; the two ratios, when
set, are doubles within `[0, 1]`; the counts and timeouts, when set, are unsigned integers of
their widths; the query timeout is not zero; the least number of connections is at most the
greatest. -/
theorem ofEnv_spec (env : Env) : Outcome (ofEnv env) (checks env) := by
  unfold ofEnv checks
  -- each default passes its own check, so an unset variable never fails
  refine Outcome.bind (checked_requireVar env _) fun _ _ => ?_
  refine Outcome.bind (checked_readSocketAddr (by decide)) fun _ _ => ?_
  refine Outcome.bind (checked_readUnit (by decide)) fun _ _ => ?_
  refine Outcome.bind (checked_readCount (by decide)) fun q hq => ?_
  refine Outcome.guard (nonzero_of_readCount hq) rfl fun _ => ?_
  refine Outcome.bind (checked_readUnit (by decide)) fun _ _ => ?_
  refine Outcome.bind (checked_readCount (by decide)) fun hi hhi => ?_
  refine Outcome.bind (checked_readCount (by decide)) fun lo hlo => ?_
  refine Outcome.guard (connectionsOrdered_of_readCount hhi hlo) rfl fun _ => ?_
  refine Outcome.bind (checked_readCount (by decide)) fun _ _ => ?_
  refine Outcome.bind (checked_readCount (by decide)) fun _ _ => ?_
  refine Outcome.bind (checked_readCount (by decide)) fun _ _ => ?_
  exact Outcome.pure _

/-- With two bad variables, the check made first is the one reported. -/
example : firstFailing (checks [("TAGMAP_DB_DSN", "postgres://db"),
    ("TAGMAP_DB_MAX_CONNECTIONS", "many"), ("TAGMAP_DEFAULT_CONSOLIDATION", "1.5")]) =
      some "TAGMAP_DEFAULT_CONSOLIDATION" := by
  decide

end Config

end TagAtlas
