import TagAtlas.Proofs.CustomTagset
/-! Reading a tag set expression. Its tokens are the successive leftmost-first matches of the
pattern `[-.]?"[^"]+"|[-.]?[^"\s]+`: at each position the matcher takes, among the parses of
the pattern that spell a prefix of the rest of the text, the one a backtracking matcher tries
first, and it skips the position when there is none. A token marked `-` names an exclude tag
by its remainder, one marked `.` an include tag by its remainder, any other an include tag by
itself; each bucket keeps the non-empty names once, in order of first appearance, and no name
holds a quote. Main statement: `tagset_reading`. -/
namespace TagAtlas

namespace Text

theorem ofNat_eq_quote {n : Nat} (h : Char.ofNat n = '"') : n = 34 := by
  have h' := congrArg Char.toNat h
  unfold Char.ofNat at h'
  split at h'
  · exact h'
  · exact absurd h' (by decide)

/-- No run of the lowercase table sends a code point past ASCII to the quote. -/
theorem runImage_ne_quote : ∀ r ∈ lowerRuns, ∀ n, 128 ≤ n → runImage n r ≠ some 34 := by
  have htable : lowerRuns.all (fun r => !decide (128 ≤ 34 - r.2.2.2 ∧ (r.1 : Int) ≤ 34 - r.2.2.2 ∧
      34 - r.2.2.2 < r.1 + r.2.2.1 * r.2.1)) = true := by decide
  intro r hr n hn himg
  obtain ⟨first, count, stride, offset⟩ := r
  have hr' := List.all_eq_true.1 htable _ hr
  simp only [runImage] at himg
  split_ifs at himg with hcover
  simp only [Option.some.injEq] at himg
  simp only [Bool.not_eq_true', decide_eq_false_iff_not] at hr'
  apply hr'
  omega

theorem lowerSimple_eq_quote {c : Char} (h : lowerSimple c = '"') : c = '"' := by
  unfold lowerSimple at h
  split at h
  · split at h
    · rename_i hupper
      have h34 := ofNat_eq_quote h
      have hA : 65 ≤ c.toNat := hupper.1
      omega
    · exact h
  · rename_i hwide
    split at h
    · rename_i n hfind
      obtain ⟨r, hr, himg⟩ := List.exists_of_findSome?_eq_some hfind
      exact absurd (ofNat_eq_quote h ▸ himg) (runImage_ne_quote r hr c.toNat (by omega))
    · exact h

/-- Lowercasing writes a quote only for a quote. -/
theorem quote_mem_lowerList {before l : List Char} (h : '"' ∈ lowerList before l) : '"' ∈ l := by
  induction l generalizing before with
  | nil => simp at h
  | cons c rest ih =>
    rw [lowerList, List.mem_append] at h
    rcases h with h | h
    · have hc : c = '"' := by
        unfold lowerAt at h
        split_ifs at h <;> simp at h
        exact lowerSimple_eq_quote h.symm
      exact hc ▸ List.mem_cons_self
    · exact List.mem_cons_of_mem _ (ih h)

theorem quote_mem_of_lowercase {s : String} (h : '"' ∈ (lowercase s).toList) : '"' ∈ s.toList := by
  rw [lowercase, String.toList_ofList] at h
  exact quote_mem_lowerList h

/-- Dropping a run from the front and then from the back keeps a run of the list. -/
theorem dropEnds_isInfix {α : Type} (p : α → Bool) (l : List α) :
    ((l.dropWhile p).reverse.dropWhile p).reverse <:+: l := by
  have hpre : ((l.dropWhile p).reverse.dropWhile p).reverse <+: l.dropWhile p := by
    rw [← List.reverse_suffix, List.reverse_reverse]
    exact List.dropWhile_suffix _
  exact hpre.isInfix.trans (List.dropWhile_suffix _).isInfix

/-- Trimming keeps a run of the text. -/
theorem trim_toList_isInfix (s : String) : (trim s).toList <:+: s.toList := by
  rw [trim, String.toList_ofList]
  exact dropEnds_isInfix _ _

/-- Trimming leaves alone a text that starts and ends with a character that is not blank. -/
theorem trim_ofList_of_ends {l : List Char} (hhead : ∀ c ∈ l.head?, isBlank c = false)
    (hlast : ∀ c ∈ l.getLast?, isBlank c = false) : (trim (String.ofList l)).toList = l := by
  rw [trim, String.toList_ofList, String.toList_ofList]
  have hfront : l.dropWhile isBlank = l := by
    cases l with
    | nil => rfl
    | cons c rest => simp [hhead c rfl]
  have hback : l.reverse.dropWhile isBlank = l.reverse := by
    cases hr : l.reverse with
    | nil => rfl
    | cons c rest =>
      have hc : c ∈ l.getLast? := by
        rw [← List.head?_reverse, hr]
        rfl
      simp [hlast c hc]
  rw [hfront, hback, List.reverse_reverse]

end Text

namespace CustomTagset

/-- A parse of one match of the token pattern: the quoted alternative `[-.]?"[^"]+"` or the bare
one `[-.]?[^"\s]+`, each with its optional mark and the body after it. -/
inductive TokenParse
  | quoted (mark : Option Char) (inner : List Char)
  | bare (mark : Option Char) (body : List Char)

namespace TokenParse

/-- The text a parse spells. -/
def text : TokenParse → List Char
  | quoted m inner => m.toList ++ '"' :: inner ++ ['"']
  | bare m body => m.toList ++ body

/-- The optional mark `[-.]?`. -/
def MarkOk : Option Char → Prop
  | none => True
  | some c => c = '-' ∨ c = '.'

/-- A parse the pattern admits: a quoted body `[^"]+`, or a bare body `[^"\s]+`. -/
def Valid : TokenParse → Prop
  | quoted m inner => MarkOk m ∧ inner ≠ [] ∧ '"' ∉ inner
  | bare m body => MarkOk m ∧ body ≠ [] ∧ ∀ c ∈ body, c ≠ '"' ∧ Text.isBlank c = false

/-- Whether a backtracking matcher tries `p` before `q`: the quoted alternative first; within an
alternative, the greedy mark taken first; then the longer body first. -/
def Before : TokenParse → TokenParse → Prop
  | quoted _ _, bare _ _ => True
  | bare _ _, quoted _ _ => False
  | quoted m a, quoted m' b => (m.isSome ∧ m'.isNone) ∨ (m.isSome = m'.isSome ∧ b.length < a.length)
  | bare m a, bare m' b => (m.isSome ∧ m'.isNone) ∨ (m.isSome = m'.isSome ∧ b.length < a.length)

end TokenParse

/-- The match taken at the front of a text: a parse of the pattern spelling a prefix of it, with
no parse tried before it spelling one. -/
def FirstMatch (cs : List Char) (p : TokenParse) : Prop :=
  p.Valid ∧ p.text <+: cs ∧ ∀ q : TokenParse, q.Valid → q.text <+: cs → ¬q.Before p

/-- `Scans cs ps`: the successive leftmost-first matches of the pattern in `cs` are `ps`. A
position where no parse spells a prefix is skipped; after a match the search resumes where the
match ended. -/
inductive Scans : List Char → List TokenParse → Prop
  | nil : Scans [] []
  | skip {c : Char} {cs : List Char} {ps : List TokenParse} :
      (∀ p : TokenParse, p.Valid → ¬p.text <+: c :: cs) → Scans cs ps → Scans (c :: cs) ps
  | hit {cs rest : List Char} {p : TokenParse} {ps : List TokenParse} :
      FirstMatch cs p → cs = p.text ++ rest → Scans rest ps → Scans cs (p :: ps)

/-- The bucket a token names a tag for (`true` for excludes) and the text that names it: a token
marked `-` excludes by its remainder, one marked `.` includes by its remainder, any other
includes by itself. -/
def route : List Char → Bool × List Char
  | '-' :: rest => (true, rest)
  | '.' :: rest => (false, rest)
  | tok => (false, tok)

/-- The name a token gives: the text routing it, trimmed, stripped of surrounding quotes and then
apostrophes, trimmed again and lowercased. -/
def tokenName (tok : List Char) : String := nameOf (route tok).2

/-- The names tokens give one bucket (`true` for excludes), in order. -/
def bucketNames (excluding : Bool) (toks : List (List Char)) : List String :=
  toks.filterMap fun tok => if (route tok).1 = excluding then some (tokenName tok) else none

/-- Add the name a token gives to the bucket it routes to. -/
def addToken (ts : CustomTagset) (tok : List Char) : CustomTagset :=
  if (route tok).1 then { ts with excludes := addName ts.excludes (tokenName tok) }
  else { ts with includes := addName ts.includes (tokenName tok) }

section Pattern

theorem wordChar_iff {c : Char} : wordChar c = true ↔ c ≠ '"' ∧ Text.isBlank c = false := by
  simp [wordChar]

theorem TokenParse.text_ne_nil {p : TokenParse} (hp : p.Valid) : p.text ≠ [] := by
  cases p with
  | quoted m inner => simp [TokenParse.text]
  | bare m body => simp [TokenParse.text, hp.2.1]

/-- A word of word characters at the front of a text lies within the longest such run. -/
theorem prefix_takeWhile {α : Type} {p : α → Bool} {b l : List α} (hb : ∀ c ∈ b, p c = true)
    (h : b <+: l) : b <+: l.takeWhile p := by
  obtain ⟨t, rfl⟩ := h
  rw [List.takeWhile_append_of_pos hb]
  exact List.prefix_append _ _

/-- A quoted phrase at the front, its inner text non-empty and free of quotes, is the one
`quotedAt` reads. -/
theorem quotedAt_of_isPrefix {inner cs : List Char} (hne : inner ≠ []) (hfree : '"' ∉ inner)
    (h : ('"' :: inner ++ ['"']) <+: cs) : quotedAt cs = some ('"' :: inner ++ ['"']) := by
  obtain ⟨rest, rfl⟩ := h
  have hpos : ∀ c ∈ inner, (c != '"') = true := fun c hc => by
    simpa using fun hq : c = '"' => hfree (hq ▸ hc)
  have htake : (inner ++ '"' :: rest).takeWhile (· != '"') = inner := by
    rw [List.takeWhile_append_of_pos hpos]
    simp
  have hdrop : (inner ++ '"' :: rest).dropWhile (· != '"') = '"' :: rest := by
    rw [List.dropWhile_append_of_pos hpos]
    simp
  have hcs : '"' :: inner ++ ['"'] ++ rest = '"' :: (inner ++ '"' :: rest) := by simp
  rw [hcs, quotedAt.eq_1]
  simp only [htake, hdrop]
  simp [hne]

/-- What `quotedAt` reads is a quoted phrase at the front, its inner text non-empty and free of
quotes. -/
theorem exists_of_quotedAt {cs t : List Char} (h : quotedAt cs = some t) :
    ∃ inner, inner ≠ [] ∧ '"' ∉ inner ∧ t = '"' :: inner ++ ['"'] ∧ t <+: cs := by
  unfold quotedAt at h
  split at h
  · rename_i rest
    split at h
    · rename_i after hdrop
      dsimp only at h
      split_ifs at h with hempty
      cases h
      refine ⟨rest.takeWhile (· != '"'), by simpa using hempty, fun hmem => ?_, rfl, ⟨after, ?_⟩⟩
      · simpa using List.mem_takeWhile_imp hmem
      · have hsplit := List.takeWhile_append_dropWhile (p := fun c => c != '"') (l := rest)
        rw [hdrop] at hsplit
        calc '"' :: rest.takeWhile (· != '"') ++ ['"'] ++ after
            = '"' :: (rest.takeWhile (· != '"') ++ '"' :: after) := by simp
          _ = '"' :: rest := by rw [hsplit]
    · cases h
  · cases h

theorem TokenParse.markOk_some_iff {m : Char} : MarkOk (some m) ↔ (m == '-' || m == '.') = true := by
  simp [MarkOk]

theorem TokenParse.wordChar_of_markOk {m : Char} (hm : MarkOk (some m)) : wordChar m = true := by
  rcases hm with rfl | rfl <;> rfl

/-- A bare parse spells a run of word characters. -/
theorem TokenParse.wordChar_of_bare {m : Option Char} {body : List Char} (hp : (bare m body).Valid) :
    ∀ c ∈ (bare m body).text, wordChar c = true := by
  intro c hc
  simp only [text, List.mem_append] at hc
  rcases hc with hc | hc
  · cases m with
    | none => simp at hc
    | some m =>
      cases (by simpa using hc : c = m)
      exact wordChar_of_markOk hp.1
  · exact wordChar_iff.2 (hp.2.2 c hc)

/-- A marked quoted parse at the front: its mark is the first character and the quoted phrase
is what `quotedAt` reads after it. -/
theorem quotedAt_of_marked_isPrefix {m c : Char} {inner rest : List Char}
    (hp : (TokenParse.quoted (some m) inner).Valid)
    (h : (TokenParse.quoted (some m) inner).text <+: c :: rest) :
    c = m ∧ quotedAt rest = some ('"' :: inner ++ ['"']) := by
  simp only [TokenParse.text, Option.toList_some, List.singleton_append] at h
  obtain ⟨hc, hrest⟩ := List.cons_prefix_cons.1 h
  exact ⟨hc.symm, quotedAt_of_isPrefix hp.2.1 hp.2.2 hrest⟩

/-- A bare parse at the front lies within the run of word characters there. -/
theorem prefix_takeWhile_of_bare {m : Option Char} {body cs : List Char}
    (hp : (TokenParse.bare m body).Valid) (h : (TokenParse.bare m body).text <+: cs) :
    (TokenParse.bare m body).text <+: cs.takeWhile wordChar :=
  prefix_takeWhile (TokenParse.wordChar_of_bare hp) h

/-- No mark at the front is followed by a quoted phrase. -/
def Unmarked (cs : List Char) : Prop :=
  ∀ m rest, cs = m :: rest → TokenParse.MarkOk (some m) → quotedAt rest = none

theorem tokenAt_marked {m : Char} {rest q : List Char} (hm : TokenParse.MarkOk (some m))
    (hq : quotedAt rest = some q) : tokenAt (m :: rest) = some (m :: q) := by
  simp [tokenAt, TokenParse.markOk_some_iff.1 hm, hq]

/-- With no marked quoted phrase at the front, the tokenizer reads a quoted phrase there, else
the run of word characters. -/
theorem tokenAt_of_unmarked {cs : List Char} (hmark : Unmarked cs) :
    tokenAt cs = (quotedAt cs).or
      (if (cs.takeWhile wordChar).isEmpty then none else some (cs.takeWhile wordChar)) := by
  unfold tokenAt
  cases cs with
  | nil => rfl
  | cons m rest =>
    by_cases hm : (m == '-' || m == '.') = true
    · simp only [hm, hmark m rest rfl (TokenParse.markOk_some_iff.2 hm), if_true, Option.map_none]
      cases quotedAt (m :: rest) <;> rfl
    · simp only [hm, Bool.false_eq_true, if_false]
      cases quotedAt (m :: rest) <;> rfl

theorem tokenAt_quoted {cs q : List Char} (hmark : Unmarked cs) (hq : quotedAt cs = some q) :
    tokenAt cs = some q := by
  rw [tokenAt_of_unmarked hmark, hq, Option.some_or]

theorem tokenAt_unquoted {cs : List Char} (hmark : Unmarked cs) (hq : quotedAt cs = none) :
    tokenAt cs =
      if (cs.takeWhile wordChar).isEmpty then none else some (cs.takeWhile wordChar) := by
  rw [tokenAt_of_unmarked hmark, hq, Option.none_or]

/-- Where no marked and no plain quoted phrase is read, no quoted parse spells a prefix. -/
theorem not_quoted_isPrefix {cs : List Char} (hmark : Unmarked cs) (hq : quotedAt cs = none)
    {m : Option Char} {inner : List Char} (hp : (TokenParse.quoted m inner).Valid) :
    ¬(TokenParse.quoted m inner).text <+: cs := by
  intro h
  cases m with
  | none => simp [quotedAt_of_isPrefix hp.2.1 hp.2.2 (by simpa [TokenParse.text] using h)] at hq
  | some m =>
    cases cs with
    | nil => simp [TokenParse.text] at h
    | cons c rest =>
      obtain ⟨rfl, hrest⟩ := quotedAt_of_marked_isPrefix hp h
      simp [hmark c rest rfl hp.1] at hrest

/-- A marked quoted phrase at the front is the match there. -/
theorem firstMatch_marked {m : Char} {rest q : List Char} (hm : TokenParse.MarkOk (some m))
    (hq : quotedAt rest = some q) : ∃ p, FirstMatch (m :: rest) p ∧ p.text = m :: q := by
  obtain ⟨inner, hne, hfree, rfl, hpre⟩ := exists_of_quotedAt hq
  refine ⟨.quoted (some m) inner, ⟨⟨hm, hne, hfree⟩, ?_, ?_⟩, by simp [TokenParse.text]⟩
  · simpa [TokenParse.text] using hpre
  · intro p' hp' hpre' hbefore
    cases p' with
    | bare => exact hbefore
    | quoted m' b =>
      cases m' with
      | none => simp [TokenParse.Before] at hbefore
      | some x =>
        -- the same quoted phrase follows the mark, so the two bodies agree
        obtain ⟨-, hb⟩ := quotedAt_of_marked_isPrefix hp' hpre'
        rw [hq] at hb
        simp_all [TokenParse.Before]

/-- With no marked quoted phrase, a quoted phrase at the front is the match there. -/
theorem firstMatch_quoted {cs q : List Char} (hmark : Unmarked cs) (hq : quotedAt cs = some q) :
    ∃ p, FirstMatch cs p ∧ p.text = q := by
  obtain ⟨inner, hne, hfree, rfl, hpre⟩ := exists_of_quotedAt hq
  refine ⟨.quoted none inner, ⟨⟨trivial, hne, hfree⟩, by simpa [TokenParse.text] using hpre, ?_⟩,
    by simp [TokenParse.text]⟩
  intro p' hp' hpre' hbefore
  cases p' with
  | bare => exact hbefore
  | quoted m' b =>
    cases m' with
    | none =>
      have hb := quotedAt_of_isPrefix hp'.2.1 hp'.2.2 (by simpa [TokenParse.text] using hpre')
      rw [hq] at hb
      simp_all [TokenParse.Before]
    | some x =>
      cases cs with
      | nil => simp [TokenParse.text] at hpre'
      | cons c rest =>
        obtain ⟨rfl, hrest⟩ := quotedAt_of_marked_isPrefix hp' hpre'
        simp [hmark c rest rfl hp'.1] at hrest

/-- With no quoted phrase at the front, the run of word characters there is the match: marked
when it starts with a mark followed by more, else bare. -/
theorem firstMatch_word {cs : List Char} {w : Char} {ws : List Char} (hmark : Unmarked cs)
    (hq : quotedAt cs = none) (hword : cs.takeWhile wordChar = w :: ws) :
    ∃ p, FirstMatch cs p ∧ p.text = w :: ws := by
  have hall : ∀ c ∈ w :: ws, wordChar c = true := fun c hc =>
    List.mem_takeWhile_imp (hword ▸ hc)
  have hpre : w :: ws <+: cs := hword ▸ List.takeWhile_prefix _
  have hrun : ∀ m' b', (TokenParse.bare m' b').Valid → (TokenParse.bare m' b').text <+: cs →
      (TokenParse.bare m' b').text <+: w :: ws := fun m' b' hv h =>
    hword ▸ prefix_takeWhile_of_bare hv h
  by_cases hmk : TokenParse.MarkOk (some w) ∧ ws ≠ []
  · refine ⟨.bare (some w) ws, ⟨⟨hmk.1, hmk.2, fun c hc => wordChar_iff.1 (hall c
      (List.mem_cons_of_mem _ hc))⟩, by simpa [TokenParse.text] using hpre, ?_⟩,
      by simp [TokenParse.text]⟩
    intro p' hp' hpre' hbefore
    cases p' with
    | quoted => exact not_quoted_isPrefix hmark hq hp' hpre'
    | bare m' b' =>
      cases m' with
      | none => simp [TokenParse.Before] at hbefore
      | some x =>
        -- a longer marked body would run past the word characters
        have hlen := (hrun _ b' hp' hpre').length_le
        simp [TokenParse.Before] at hbefore
        simp [TokenParse.text] at hlen
        omega
  · refine ⟨.bare none (w :: ws), ⟨⟨trivial, List.cons_ne_nil _ _, fun c hc => wordChar_iff.1
      (hall c hc)⟩, by simpa [TokenParse.text] using hpre, ?_⟩, by simp [TokenParse.text]⟩
    intro p' hp' hpre' hbefore
    cases p' with
    | quoted => exact not_quoted_isPrefix hmark hq hp' hpre'
    | bare m' b' =>
      have hin := hrun m' b' hp' hpre'
      cases m' with
      | none =>
        have hlen := hin.length_le
        simp_all [TokenParse.Before, TokenParse.text]
        omega
      | some x =>
        -- a mark with more after it would have been taken
        simp only [TokenParse.text, Option.toList_some, List.singleton_append] at hin
        obtain ⟨rfl, hb⟩ := List.cons_prefix_cons.1 hin
        refine hmk ⟨hp'.1, fun hws => hp'.2.1 ?_⟩
        rw [hws] at hb
        exact List.prefix_nil.1 hb

/-- With nothing read at the front, no parse spells a prefix. -/
theorem not_isPrefix_of_unread {cs : List Char} (hmark : Unmarked cs) (hq : quotedAt cs = none)
    (hword : cs.takeWhile wordChar = []) (p : TokenParse) (hp : p.Valid) : ¬p.text <+: cs := by
  intro h
  cases p with
  | quoted => exact not_quoted_isPrefix hmark hq hp h
  | bare m body =>
    have hin := prefix_takeWhile_of_bare hp h
    rw [hword, List.prefix_nil] at hin
    exact TokenParse.text_ne_nil hp hin

/-- What the tokenizer reads at the front is the first match of the pattern there, and it reads
nothing exactly where no parse of the pattern spells a prefix. -/
theorem tokenAt_spec (cs : List Char) :
    (∀ t, tokenAt cs = some t → ∃ p, FirstMatch cs p ∧ p.text = t) ∧
      (tokenAt cs = none → ∀ p : TokenParse, p.Valid → ¬p.text <+: cs) := by
  by_cases hmark : Unmarked cs
  · cases hq : quotedAt cs with
    | some q =>
      rw [tokenAt_quoted hmark hq]
      refine ⟨fun t ht => ?_, fun h => by simp at h⟩
      cases ht
      exact firstMatch_quoted hmark hq
    | none =>
      rw [tokenAt_unquoted hmark hq]
      cases hw : cs.takeWhile wordChar with
      | nil => exact ⟨fun _ h => by simp at h, fun _ => not_isPrefix_of_unread hmark hq hw⟩
      | cons w ws =>
        refine ⟨fun t ht => ?_, fun h => by simp at h⟩
        cases ht
        exact firstMatch_word hmark hq hw
  · -- a mark followed by a quoted phrase
    simp only [Unmarked, not_forall] at hmark
    obtain ⟨m, rest, rfl, hm, hq⟩ := hmark
    obtain ⟨q, hq⟩ := Option.ne_none_iff_exists'.1 hq
    rw [tokenAt_marked hm hq]
    refine ⟨fun t ht => ?_, fun h => by simp at h⟩
    cases ht
    exact firstMatch_marked hm hq

/-- Two parses spelling prefixes of one text are tried one before the other, or spell the same
text: within an alternative, bodies of one length and marks alike give texts of one length. -/
theorem TokenParse.before_or_text_eq {p q : TokenParse} {cs : List Char} (hp : p.text <+: cs)
    (hq : q.text <+: cs) : p.Before q ∨ q.Before p ∨ p.text = q.text := by
  have heq : p.text.length = q.text.length → p.text = q.text := fun hlen =>
    (List.prefix_of_prefix_length_le hp hq hlen.le).eq_of_length hlen
  cases p with
  | quoted m a =>
    cases q with
    | quoted m' b =>
      rcases lt_trichotomy a.length b.length with h | h | h <;>
        cases m <;> cases m' <;> simp_all [Before, text]
    | bare => exact .inl trivial
  | bare m a =>
    cases q with
    | quoted => exact .inr (.inl trivial)
    | bare m' b =>
      rcases lt_trichotomy a.length b.length with h | h | h <;>
        cases m <;> cases m' <;> simp_all [Before, text]

/-- The first match at the front spells one text. -/
theorem FirstMatch.text_eq {cs : List Char} {p q : TokenParse} (hp : FirstMatch cs p)
    (hq : FirstMatch cs q) : p.text = q.text := by
  rcases TokenParse.before_or_text_eq hp.2.1 hq.2.1 with h | h | h
  · exact absurd h (hq.2.2 p hp.1 hp.2.1)
  · exact absurd h (hp.2.2 q hq.1 hq.2.1)
  · exact h

/-- The tokenizer reads nothing exactly where no parse of the pattern spells a prefix. -/
theorem tokenAt_eq_none_iff (cs : List Char) :
    tokenAt cs = none ↔ ∀ p : TokenParse, p.Valid → ¬p.text <+: cs := by
  refine ⟨(tokenAt_spec cs).2, fun hnone => ?_⟩
  cases ht : tokenAt cs with
  | none => rfl
  | some t =>
    obtain ⟨p, hp, -⟩ := (tokenAt_spec cs).1 t ht
    exact absurd hp.2.1 (hnone p hp.1)

theorem tokenAt_of_firstMatch {cs : List Char} {p : TokenParse} (hp : FirstMatch cs p) :
    tokenAt cs = some p.text := by
  cases ht : tokenAt cs with
  | none => exact absurd hp.2.1 ((tokenAt_eq_none_iff cs).1 ht p hp.1)
  | some t =>
    obtain ⟨q, hq, rfl⟩ := (tokenAt_spec cs).1 t ht
    rw [hq.text_eq hp]

end Pattern

section Scan

theorem Scans.valid {cs : List Char} {ps : List TokenParse} (h : Scans cs ps) :
    ∀ p ∈ ps, p.Valid := by
  induction h with
  | nil => simp
  | skip _ _ ih => exact ih
  | hit hp _ _ ih => exact List.forall_mem_cons.2 ⟨hp.1, ih⟩

/-- A scan spells the tokens the tokenizer reads. -/
theorem Scans.map_text {cs : List Char} {ps : List TokenParse} (h : Scans cs ps) :
    ps.map TokenParse.text = tokensFrom 0 cs := by
  induction h with
  | nil => rfl
  | skip hnone _ ih => rw [tokensFrom, (tokenAt_eq_none_iff _).2 hnone, ih]
  | @hit cs rest p ps hp hcs _ ih =>
    obtain ⟨c, tl, htext⟩ := List.exists_cons_of_ne_nil (TokenParse.text_ne_nil hp.1)
    have htok := tokenAt_of_firstMatch hp
    rw [hcs, htext, List.cons_append] at htok
    rw [hcs, List.map_cons, htext, List.cons_append, tokensFrom, htok]
    dsimp only
    rw [List.length_cons, Nat.add_sub_cancel, tokensFrom_length_append, ih]

/-- Every text has a scan. -/
theorem exists_scans : ∀ cs : List Char, ∃ ps, Scans cs ps
  | [] => ⟨[], .nil⟩
  | c :: cs => by
    cases ht : tokenAt (c :: cs) with
    | none =>
      obtain ⟨ps, hps⟩ := exists_scans cs
      exact ⟨ps, .skip ((tokenAt_eq_none_iff _).1 ht) hps⟩
    | some t =>
      obtain ⟨p, hp, -⟩ := (tokenAt_spec _).1 t ht
      obtain ⟨rest, hrest⟩ := hp.2.1
      -- the match is not empty, so the search resumes on a shorter text
      have hshorter : rest.length < cs.length + 1 := by
        have hlen := congrArg List.length hrest
        have hpos := List.length_pos_of_ne_nil (TokenParse.text_ne_nil hp.1)
        simp only [List.length_append, List.length_cons] at hlen
        omega
      obtain ⟨ps, hps⟩ := exists_scans rest
      exact ⟨p :: ps, .hit hp hrest.symm hps⟩
termination_by cs => cs.length

end Scan

section Names

theorem stripChar_isInfix (c : Char) (cs : List Char) : stripChar c cs <:+: cs :=
  Text.dropEnds_isInfix _ _

theorem dropWhile_beq_of_not_mem {c : Char} {l : List Char} (hne : l ≠ []) (hfree : c ∉ l)
    (m : List Char) : (l ++ m).dropWhile (· == c) = l ++ m := by
  obtain ⟨x, xs, rfl⟩ := List.exists_cons_of_ne_nil hne
  have hx : x ≠ c := fun h => hfree (h ▸ List.mem_cons_self)
  simp [hx]

/-- Stripping a character around a run free of it gives the run. -/
theorem stripChar_around {c : Char} {l : List Char} (hne : l ≠ []) (hfree : c ∉ l) :
    stripChar c (c :: l ++ [c]) = l := by
  have hrev := dropWhile_beq_of_not_mem (List.reverse_ne_nil_iff.2 hne) (by simpa using hfree) []
  rw [List.append_nil] at hrev
  simp [stripChar, dropWhile_beq_of_not_mem hne hfree, hrev]

/-- The remainder a token routes is a suffix of it. -/
theorem route_snd_suffix (tok : List Char) : (route tok).2 <:+ tok := by
  unfold route
  split <;> simp [List.suffix_cons]

/-- A match starts and ends with a character that is not blank, so trimming leaves it alone. -/
theorem trim_text {p : TokenParse} (hp : p.Valid) :
    (Text.trim (String.ofList p.text)).toList = p.text := by
  have hends : ∀ c, c ∈ p.text.head? ∨ c ∈ p.text.getLast? → Text.isBlank c = false := by
    cases p with
    | quoted m inner =>
      rintro c (hc | hc)
      · cases m with
        | none =>
          cases (by simpa [TokenParse.text] using hc : '"' = c)
          decide
        | some x =>
          cases (by simpa [TokenParse.text] using hc : x = c)
          rcases hp.1 with rfl | rfl <;> decide
      · rw [TokenParse.text, List.getLast?_concat, Option.mem_some_iff] at hc
        cases hc
        decide
    | bare m body =>
      intro c hc
      have hmem : c ∈ (TokenParse.bare m body).text :=
        hc.elim List.mem_of_mem_head? List.mem_of_mem_getLast?
      exact (wordChar_iff.1 (TokenParse.wordChar_of_bare hp c hmem)).2
  exact Text.trim_ofList_of_ends (fun c hc => hends c (.inl hc)) (fun c hc => hends c (.inr hc))

/-- A quoted match, marked or not, is named by its inner text stripped of apostrophes, trimmed
and lowercased: the blanks inside it stay. -/
theorem tokenName_quoted {m : Option Char} {inner : List Char}
    (hp : (TokenParse.quoted m inner).Valid) :
    tokenName (TokenParse.quoted m inner).text =
      Text.lowercase (Text.trim (String.ofList (stripChar '\'' inner))) := by
  have hroute : (route (TokenParse.quoted m inner).text).2 = '"' :: inner ++ ['"'] := by
    rcases m with _ | m
    · rfl
    · rcases hp.1 with rfl | rfl <;> rfl
  have htrim : (Text.trim (String.ofList ('"' :: inner ++ ['"']))).toList = '"' :: inner ++ ['"'] := by
    simpa [TokenParse.text] using trim_text (p := .quoted none inner) ⟨trivial, hp.2⟩
  rw [tokenName, hroute, nameOf, htrim, stripChar_around hp.2.1 hp.2.2]

theorem quote_not_mem_lowercase_trim {l : List Char} (h : '"' ∉ l) :
    '"' ∉ (Text.lowercase (Text.trim (String.ofList l))).toList := by
  intro hq
  have hin := (Text.trim_toList_isInfix _).subset (Text.quote_mem_of_lowercase hq)
  rw [String.toList_ofList] at hin
  exact h hin

/-- A name read from a text without quotes has none. -/
theorem quote_not_mem_nameOf {body : List Char} (h : '"' ∉ body) : '"' ∉ (nameOf body).toList := by
  refine quote_not_mem_lowercase_trim fun hq => h ?_
  have hin := (Text.trim_toList_isInfix _).subset
    ((stripChar_isInfix _ _).subset ((stripChar_isInfix _ _).subset hq))
  rwa [String.toList_ofList] at hin

/-- No match is named with a quote: a quoted match by its inner text, a bare one by a text
without quotes. -/
theorem quote_not_mem_tokenName {p : TokenParse} (hp : p.Valid) :
    '"' ∉ (tokenName p.text).toList := by
  cases p with
  | quoted m inner =>
    rw [tokenName_quoted hp]
    exact quote_not_mem_lowercase_trim fun hq => hp.2.2 ((stripChar_isInfix _ _).subset hq)
  | bare m body =>
    exact quote_not_mem_nameOf fun hq =>
      ne_quote_of_wordChar (TokenParse.wordChar_of_bare hp _ ((route_snd_suffix _).subset hq)) rfl

end Names

section Buckets

/-- Reading a scanned text adds the names of its matches one by one. -/
theorem parse_eq_foldl_addToken {raw : String} {ps : List TokenParse} (h : Scans raw.toList ps) :
    parse raw = (ps.map TokenParse.text).foldl addToken {} := by
  rw [parse, ← h.map_text]
  refine List.foldl_ext _ _ _ fun ts tok htok => ?_
  obtain ⟨p, hp, rfl⟩ := List.mem_map.1 htok
  rw [trim_text (h.valid p hp)]
  -- the text of a match needs no trimming, so its mark is its first character
  generalize p.text = tok
  unfold addToken tokenName route
  split <;> simp_all

theorem foldl_addToken (toks : List (List Char)) (ts : CustomTagset) :
    (toks.foldl addToken ts).includes = (bucketNames false toks).foldl addName ts.includes ∧
      (toks.foldl addToken ts).excludes = (bucketNames true toks).foldl addName ts.excludes := by
  induction toks generalizing ts with
  | nil => exact ⟨rfl, rfl⟩
  | cons tok rest ih =>
    rw [List.foldl_cons, (ih _).1, (ih _).2]
    unfold addToken bucketNames
    cases h : (route tok).1 <;> simp [h]

/-- Adding names one by one keeps each non-empty name once, at its first appearance. -/
theorem foldl_addName (names : List String) :
    names.foldl addName [] = (names.filter (!·.isEmpty)).eraseDups := by
  induction names using List.reverseRecOn with
  | nil => rfl
  | append_singleton names x ih =>
    rw [List.foldl_append, ih, List.foldl_cons, List.foldl_nil, List.filter_append,
      List.eraseDups_append]
    unfold addName
    cases hx : x.isEmpty
    · -- a name that is not empty is added when it was not seen before
      by_cases hin : x ∈ names.filter (!·.isEmpty)
      · simp only [hx, hin, List.removeAll, List.filter_cons, List.filter_nil, Bool.not_false,
          if_true, List.elem_eq_mem, decide_true, Bool.not_true, Bool.false_eq_true, if_false,
          List.mem_eraseDups, Bool.false_or]
        simp
      · simp only [hx, hin, List.removeAll, List.filter_cons, List.filter_nil, Bool.not_false,
          if_true, List.elem_eq_mem, decide_false, Bool.false_eq_true, if_false,
          List.mem_eraseDups, Bool.false_or]
        rfl
    · simp only [hx, Bool.true_or, if_true, List.filter_cons, List.filter_nil, Bool.not_true,
        Bool.false_eq_true, if_false, List.removeAll]
      simp

theorem exists_of_mem_bucketNames {excluding : Bool} {toks : List (List Char)} {n : String}
    (h : n ∈ bucketNames excluding toks) : ∃ tok ∈ toks, tokenName tok = n := by
  obtain ⟨tok, htok, hn⟩ := List.mem_filterMap.1 h
  split at hn
  · exact ⟨tok, htok, Option.some.inj hn⟩
  · cases hn

/-- How a tag set expression reads. The tokenizer reads the leftmost-first matches of the
pattern, and a text always has them. Each bucket holds the non-empty names its matches route
there, once each, in order of first appearance; no name holds a quote; a quoted match is named
by its whole inner text; and a text of spaced words reads to the same names in any order. -/
structure ReadsAs (raw : String) (ts : CustomTagset) : Prop where
  scans : ∃ ps, Scans raw.toList ps
  tokens : ∀ ps, Scans raw.toList ps → ps.map TokenParse.text = tokensFrom 0 raw.toList
  includes : ∀ ps, Scans raw.toList ps →
    ts.includes = ((bucketNames false (ps.map TokenParse.text)).filter (!·.isEmpty)).eraseDups
  excludes : ∀ ps, Scans raw.toList ps →
    ts.excludes = ((bucketNames true (ps.map TokenParse.text)).filter (!·.isEmpty)).eraseDups
  nodup : ts.includes.Nodup ∧ ts.excludes.Nodup
  names : ∀ n ∈ ts.includes ++ ts.excludes, n ≠ "" ∧ '"' ∉ n.toList
  quoted : ∀ ps, Scans raw.toList ps → ∀ m inner, TokenParse.quoted m inner ∈ ps →
    tokenName (TokenParse.quoted m inner).text =
      Text.lowercase (Text.trim (String.ofList (stripChar '\'' inner)))
  reorder : ∀ raw' toks toks', Spaced raw.toList toks → Spaced raw'.toList toks' →
    (∀ tok, tok ∈ toks ↔ tok ∈ toks') →
      ts.includes.Perm (parse raw').includes ∧ ts.excludes.Perm (parse raw').excludes

theorem tagset_reading (raw : String) : ReadsAs raw (parse raw) := by
  have hbuckets : ∀ ps, Scans raw.toList ps →
      (parse raw).includes =
          ((bucketNames false (ps.map TokenParse.text)).filter (!·.isEmpty)).eraseDups ∧
        (parse raw).excludes =
          ((bucketNames true (ps.map TokenParse.text)).filter (!·.isEmpty)).eraseDups := by
    intro ps hps
    rw [parse_eq_foldl_addToken hps, (foldl_addToken _ _).1, (foldl_addToken _ _).2]
    exact ⟨foldl_addName _, foldl_addName _⟩
  obtain ⟨f, hf, hparse⟩ := exists_parse_eq_foldl
  have hnodup := hf.nodup_foldl (tokensFrom 0 raw.toList) {} List.nodup_nil List.nodup_nil
  rw [← hparse] at hnodup
  obtain ⟨ps, hps⟩ := exists_scans raw.toList
  have hname : ∀ b, ∀ n ∈ ((bucketNames b (ps.map TokenParse.text)).filter (!·.isEmpty)).eraseDups,
      n ≠ "" ∧ '"' ∉ n.toList := by
    intro b n hn
    rw [List.mem_eraseDups, List.mem_filter] at hn
    obtain ⟨tok, htok, rfl⟩ := exists_of_mem_bucketNames hn.1
    obtain ⟨p, hp, rfl⟩ := List.mem_map.1 htok
    exact ⟨by simpa using hn.2, quote_not_mem_tokenName (hps.valid p hp)⟩
  refine ⟨⟨ps, hps⟩, fun _ h => h.map_text, fun ps h => (hbuckets ps h).1,
    fun ps h => (hbuckets ps h).2, hnodup, fun n hn => ?_,
    fun _ h m inner hmem => tokenName_quoted (h.valid _ hmem),
    fun _ _ _ hs hs' hsame => parse_perm hs hs' hsame⟩
  rw [List.mem_append, (hbuckets ps hps).1, (hbuckets ps hps).2] at hn
  exact hn.elim (hname false n) (hname true n)

example : (parse "-\"Tech  Map\" .b B x-y").excludes = ["tech  map"] ∧
    (parse "-\"Tech  Map\" .b B x-y").includes = ["b", "x-y"] := by decide +kernel

end Buckets

end CustomTagset

end TagAtlas
