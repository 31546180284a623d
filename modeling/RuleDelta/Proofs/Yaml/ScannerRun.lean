import Mathlib.Logic.Relation
import RuleDelta.Proofs.Yaml.PlainScalar
import RuleDelta.Yaml.Scanner

/-!
# Runs of the scanner

Between two tokens the scanner passes over white space, and forgets candidates for keys that the
next token comes too late for. What is left is a state that is ready for the token.

* `Scanner.ready` is that state, and `Scanner.Step` the step from one such state to the next;
* `Scanner.run_of_reaches` is what a chain of steps up to the end of the text says of the tokens;
* `Scanner.ready_space`, `Scanner.ready_feed` and `Scanner.ready_line` pass over the white space of
  a block that starts at the first column.
-/

namespace RuleDelta.Yaml.Scanner

open Relation

/-! ## Steps -/

/-- The state in front of the next token. -/
def ready (s : Scanner) : Except Error Scanner := do
  let s ← s.dropStale
  let s ← s.toToken.dropStale
  return s.closeBlocks s.mark.column

/-- A token is read, and with it at least one character. -/
def Step (r r' : Scanner) : Prop :=
  ∃ c rest s, r.source.rest = c :: rest ∧ r.readToken c rest.head? = .ok s ∧
    s.ready = .ok r' ∧ r'.source.rest.length < r.source.rest.length

section

variable {s s' r r' : Scanner} {c : Char} {rest : List Char}

/-- What is read next depends on the ready state alone. -/
theorem next_of_ready (h : s.ready = .ok r) :
    ∃ s₁, s.dropStale = .ok s₁ ∧ s₁.next =
      match r.source.rest with
      | [] => do return (← r.readEnd, true)
      | c :: rest => do return (← r.readToken c rest.head?, false) := by
  unfold ready at h
  cases h₁ : s.dropStale with
  | error e =>
    rw [h₁] at h
    cases h
  | ok s₁ =>
    rw [h₁] at h
    refine ⟨s₁, rfl, ?_⟩
    replace h : (do
      let s ← s₁.toToken.dropStale
      return s.closeBlocks s.mark.column) = Except.ok r := h
    cases h₂ : s₁.toToken.dropStale with
    | error e =>
      rw [h₂] at h
      cases h
    | ok s₂ =>
      rw [h₂] at h
      cases h
      rw [next, h₂]
      rfl

theorem run_of_readToken (h : s.ready = .ok r) (hrest : r.source.rest = c :: rest)
    (hread : r.readToken c rest.head? = .ok s') (fuel : Nat) :
    run none (fuel + 1) s = run none fuel s' := by
  obtain ⟨s₁, hstale, hnext⟩ := next_of_ready h
  have hgoes : s₁.next = .ok (s', false) := by
    rw [hnext, hrest]
    show (do return (← r.readToken c rest.head?, false)) = _
    rw [hread]
    rfl
  simp [run, hstale, hgoes, nears]

theorem run_of_readEnd (h : s.ready = .ok r) (hrest : r.source.rest = [])
    (hread : r.readEnd = .ok s') (fuel : Nat) :
    run none (fuel + 1) s = (s'.tokens.reverse, none) := by
  obtain ⟨s₁, hstale, hnext⟩ := next_of_ready h
  have hends : s₁.next = .ok (s', true) := by
    rw [hnext, hrest]
    show (do return (← r.readEnd, true)) = _
    rw [hread]
    rfl
  simp [run, hstale, hends, nears]

/-- **A chain of steps up to the end of the text is a run**, which takes no more steps than there
are characters. The induction is on the chain. -/
theorem run_of_reaches (hsteps : ReflTransGen Step r r') (hrest : r'.source.rest = [])
    (hread : r'.readEnd = .ok s') (hready : s.ready = .ok r) {fuel : Nat}
    (hfuel : r.source.rest.length < fuel) : run none fuel s = (s'.tokens.reverse, none) := by
  obtain ⟨fuel, rfl⟩ := Nat.exists_eq_succ_of_ne_zero (Nat.ne_of_gt (Nat.zero_lt_of_lt hfuel))
  induction hsteps using ReflTransGen.head_induction_on generalizing s fuel with
  | refl => exact run_of_readEnd hready hrest hread fuel
  | head hstep _ ih =>
    obtain ⟨c, rest, s₁, hc, htoken, hready₁, hless⟩ := hstep
    rw [run_of_readToken hready hc htoken fuel]
    cases fuel with
    | zero => omega
    | succ fuel => exact ih hready₁ fuel (by omega)

end

/-! ## White space -/

/-- The text starts with a token, or it is empty. -/
def AtToken (rest : List Char) : Prop :=
  rest.head?.all (fun c => isVisible c && c != '#' && c != '\uFEFF') = true

section

variable {flow keyAllowed : Bool} {mark : Mark} {rest : List Char}

theorem AtToken.opensLine (h : AtToken rest) : OpensLine rest := by
  cases rest with
  | nil => rfl
  | cons c rest =>
    simp [AtToken] at h
    exact h.1.1

theorem tokenFrom_atToken (h : AtToken rest) :
    tokenFrom flow keyAllowed false mark rest = (⟨rest, mark⟩, keyAllowed) := by
  cases rest with
  | nil => rfl
  | cons c rest =>
    simp only [AtToken, List.head?_cons, Option.all_some, Bool.and_eq_true, bne_iff_ne] at h
    obtain ⟨⟨hc, hhash⟩, hmark⟩ := h
    simp [tokenFrom, isSplitReturn_of_isBreak (isBreak_of_isVisible hc), isBreak_of_isVisible hc,
      ne_blank_of_isVisible hc, hhash, hmark]

theorem tokenFrom_space (h : AtToken rest) :
    tokenFrom flow keyAllowed false mark (' ' :: rest) =
      (⟨rest, mark.advance 1⟩, keyAllowed) := by
  have hspace : tokenFrom flow keyAllowed false mark (' ' :: rest) =
      tokenFrom flow keyAllowed false (mark.advance 1) rest := by
    simp [tokenFrom, isSplitReturn, isBreak]
  rw [hspace, tokenFrom_atToken h]

theorem tokenFrom_feed (h : AtToken rest) :
    tokenFrom false keyAllowed false mark ('\n' :: rest) = (⟨rest, mark.nextLine⟩, true) := by
  have hfeed : tokenFrom false keyAllowed false mark ('\n' :: rest) =
      tokenFrom false (keyAllowed || true) false mark.nextLine rest := rfl
  rw [hfeed, Bool.or_true, tokenFrom_atToken h]

end

/-! ## Candidates for keys -/

/-- A candidate that need not be a key, from line `line` or one above it. -/
def Passing (line : Nat) (candidate : Option Candidate) : Prop :=
  ∀ k, candidate = some k → k.required = false ∧ k.mark.line ≤ line

section

variable {line : Nat} {candidate : Option Candidate}

theorem passing_none (line : Nat) : Passing line none :=
  nofun

theorem Passing.mono {line' : Nat} (h : Passing line candidate) (hle : line ≤ line') :
    Passing line' candidate :=
  fun k hk => ⟨(h k hk).1, Nat.le_trans (h k hk).2 hle⟩

theorem refresh_passing (h : Passing line candidate) (s : Scanner) :
    ∃ candidate', s.refresh candidate = .ok candidate' ∧ Passing line candidate' := by
  cases candidate with
  | none => exact ⟨none, rfl, h⟩
  | some k =>
    by_cases hstale : s.isStale k = true
    · exact ⟨none, by simp [refresh, hstale, (h k rfl).1], passing_none line⟩
    · exact ⟨some k, by simp [refresh, hstale], h⟩

/-- A key ends on its line. -/
theorem refresh_late (h : Passing line candidate) {s : Scanner} (hline : line < s.mark.line) :
    s.refresh candidate = .ok none := by
  cases candidate with
  | none => rfl
  | some k =>
    obtain ⟨hrequired, hle⟩ := h k rfl
    have hstale : s.isStale k = true := by
      have : k.mark.line < s.mark.line := by omega
      simp [isStale, this]
    simp [refresh, hstale, hrequired]

end

/-! ## States of a block at the first column -/

/-- A state outside of flow collections, with one block collection at most, at the first column. -/
def inBlock (source : Source) (opened : Bool) (candidate : Option Candidate) (keyAllowed : Bool)
    (tokens : List Token) : Scanner where
  source := source
  blocks := if opened then [0] else []
  candidate := candidate
  outer := []
  keyAllowed := keyAllowed
  tokens := tokens
  count := tokens.length

section

variable {source source' : Source} {opened keyAllowed keyAllowed' : Bool} {mark : Mark}
  {candidate candidate' candidate'' : Option Candidate} {tokens : List Token} {rest : List Char}

theorem dropStale_inBlock
    (h : (inBlock source opened candidate keyAllowed tokens).refresh candidate = .ok candidate') :
    (inBlock source opened candidate keyAllowed tokens).dropStale =
      .ok (inBlock source opened candidate' keyAllowed tokens) := by
  rw [dropStale]
  show (do
    let c ← (inBlock source opened candidate keyAllowed tokens).refresh candidate
    return { inBlock source opened candidate keyAllowed tokens with
      outer := [], candidate := c }) = _
  rw [h]
  rfl

theorem closeBlocks_inBlock (source : Source) (opened : Bool) (candidate : Option Candidate)
    (keyAllowed : Bool) (tokens : List Token) (column : Nat) :
    (inBlock source opened candidate keyAllowed tokens).closeBlocks column =
      inBlock source opened candidate keyAllowed tokens := by
  cases opened <;> rfl

/-- White space in front of a token, with what becomes of the candidate before and behind it. -/
theorem ready_inBlock {text : List Char}
    (htoken : tokenFrom false keyAllowed false mark text = (source', keyAllowed'))
    (hbefore : (inBlock ⟨text, mark⟩ opened candidate keyAllowed tokens).refresh candidate =
      .ok candidate')
    (hbehind : (inBlock source' opened candidate' keyAllowed' tokens).refresh candidate' =
      .ok candidate'') :
    (inBlock ⟨text, mark⟩ opened candidate keyAllowed tokens).ready =
      .ok (inBlock source' opened candidate'' keyAllowed' tokens) := by
  have hwhite : (inBlock ⟨text, mark⟩ opened candidate' keyAllowed tokens).toToken =
      inBlock source' opened candidate' keyAllowed' tokens := by
    rw [toToken]
    show { inBlock ⟨text, mark⟩ opened candidate' keyAllowed tokens with
      source := (tokenFrom false keyAllowed false mark text).1
      keyAllowed := (tokenFrom false keyAllowed false mark text).2 } = _
    rw [htoken]
    rfl
  rw [ready, dropStale_inBlock hbefore]
  show (do
    let s ← (inBlock ⟨text, mark⟩ opened candidate' keyAllowed tokens).toToken.dropStale
    return s.closeBlocks s.mark.column) = _
  rw [hwhite, dropStale_inBlock hbehind]
  exact congrArg Except.ok (closeBlocks_inBlock ..)

/-- A space in front of a value. -/
theorem ready_space (hrest : AtToken rest) :
    (inBlock ⟨' ' :: rest, mark⟩ opened none keyAllowed tokens).ready =
      .ok (inBlock ⟨rest, mark.advance 1⟩ opened none keyAllowed tokens) :=
  ready_inBlock (tokenFrom_space hrest) rfl rfl

/-- The end of a line. A key may stand on the next one. -/
theorem ready_feed (hrest : AtToken rest) (hpassing : Passing mark.line candidate) :
    (inBlock ⟨'\n' :: rest, mark⟩ opened candidate keyAllowed tokens).ready =
      .ok (inBlock ⟨rest, mark.nextLine⟩ opened none true tokens) := by
  obtain ⟨candidate', hbefore, hpassing'⟩ :=
    refresh_passing hpassing (inBlock ⟨'\n' :: rest, mark⟩ opened candidate keyAllowed tokens)
  exact ready_inBlock (tokenFrom_feed hrest) hbefore (refresh_late hpassing' (Nat.lt_succ_self _))

/-- The start of a line behind a scalar. -/
theorem ready_line {line : Nat} (hrest : AtToken rest) (hpassing : Passing line candidate)
    (hline : line < mark.line) :
    (inBlock ⟨rest, mark⟩ opened candidate keyAllowed tokens).ready =
      .ok (inBlock ⟨rest, mark⟩ opened none keyAllowed tokens) :=
  ready_inBlock (tokenFrom_atToken hrest) (refresh_late hpassing hline) rfl

/-- The colon behind a key. -/
theorem ready_colon {k : Candidate} (hrest : AtToken rest) (hline : mark.line ≤ k.mark.line)
    (hindex : mark.index ≤ k.mark.index + 1024) :
    (inBlock ⟨rest, mark⟩ opened (some k) keyAllowed tokens).ready =
      .ok (inBlock ⟨rest, mark⟩ opened (some k) keyAllowed tokens) := by
  have hkept : ∀ candidate, (inBlock ⟨rest, mark⟩ opened candidate keyAllowed tokens).refresh
      (some k) = .ok (some k) := by
    intro candidate
    have hline' : ¬k.mark.line < mark.line := by omega
    have hindex' : ¬k.mark.index + 1024 < mark.index := by omega
    simp [refresh, isStale, Scanner.mark, inBlock, hline', hindex']
  exact ready_inBlock (tokenFrom_atToken hrest) (hkept _) (hkept _)

end

end RuleDelta.Yaml.Scanner
