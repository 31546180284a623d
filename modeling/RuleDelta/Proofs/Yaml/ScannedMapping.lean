import RuleDelta.Proofs.Yaml.ScannerRun
import RuleDelta.Proofs.Yaml.WrittenMapping

/-!
# The tokens of a written mapping

The scanner reads a written mapping line by line, and tells the tokens of its entries.

* `Scanner.readsLine_scalar` reads a text in any style, up to the start of the next line;
* `Scanner.reaches_entry` are the steps of an entry, from one start of a line to the next;
* `scan_lines` are the tokens of a whole mapping.
-/

namespace RuleDelta.Yaml

open Relation

namespace Scanner

/-! ## Tokens -/

/-- What has no meaning of its own at its start is a plain scalar. -/
theorem readToken_plain {s : Scanner} {c : Char} {tail : List Char} {second : Option Char}
    (hflow : s.outer = []) (hmarker : s.source.atDocumentMarker = false) (hc : isVisible c = true)
    (hindicator : opensWithIndicator (c :: tail) = false)
    (hsecond : endsWord second = endsWord tail.head?) :
    s.readToken c second = s.readPlainScalar := by
  simp only [Source.atDocumentMarker, Bool.or_eq_false_iff] at hmarker
  simp only [opensWithIndicator, ← hsecond] at hindicator
  simp at hindicator
  obtain ⟨hne, hword⟩ := hindicator
  have hcut : ∀ d ∈ ['?', ':', '-'], (c == d && endsWord second) = false := by
    intro d hd
    by_cases hcd : c = d
    · subst hcd
      have : endsWord second = false := hword (by simpa using hd)
      simp [this]
    · simp [hcd]
  have hstarts : startsPlain false c second = true := by
    by_cases hdash : c = '-'
    · have hsecond' : second.any isSpace = false := by
        have := hword (.inr (.inr hdash))
        cases second with
        | none => rfl
        | some d =>
          simp only [endsWord, Bool.or_eq_false_iff] at this
          exact this.1
      simp [startsPlain, hdash, hsecond']
    · by_cases hother : c = '?' ∨ c = ':'
      · have := hword (by simpa [hdash] using hother)
        simp [startsPlain, hother, this]
      · simp only [not_or] at hother
        simp [startsPlain, endsWord_of_isVisible hc, hne, hdash, hother]
  simp [readToken, hmarker, inFlow, hflow, hne, hcut, hstarts]

section

variable {mark : Mark} {rest : List Char} {opened keyAllowed : Bool} {tokens : List Token}

theorem skip_one (c : Char) (rest : List Char) (mark : Mark) :
    Source.skip ⟨c :: rest, mark⟩ 1 = ⟨rest, mark.advance 1⟩ := by
  simp [Source.skip]

/-- A token is a candidate where a key may start. It has to be a key at the start of a line in an
open mapping. -/
theorem saveCandidate_inBlock (source : Source) (opened keyAllowed : Bool) (tokens : List Token) :
    (inBlock source opened none keyAllowed tokens).saveCandidate =
      .ok (inBlock source opened
        (if keyAllowed then some ⟨opened && source.mark.column == 0, tokens.length, source.mark⟩
          else none) keyAllowed tokens) := by
  cases keyAllowed with
  | false => rfl
  | true =>
    cases opened with
    | false => rfl
    | true =>
      have hrequired : (some 0 == some source.mark.column) = (source.mark.column == 0) := by
        cases source.mark.column <;> rfl
      simp [saveCandidate, inBlock, inFlow, dropCandidate, Scanner.mark, bind, Except.bind, pure,
        Except.pure, hrequired]

/-- Behind the start of a line a token need not be a key. -/
theorem exists_saveCandidate (hcolumn : 0 < mark.column) (rest : List Char) (keyAllowed : Bool)
    (tokens : List Token) :
    ∃ candidate, Passing mark.line candidate ∧
      (inBlock ⟨rest, mark⟩ true none keyAllowed tokens).saveCandidate =
        .ok (inBlock ⟨rest, mark⟩ true candidate keyAllowed tokens) := by
  refine ⟨_, ?_, saveCandidate_inBlock _ _ _ _⟩
  intro k hk
  split at hk
  · cases hk
    exact ⟨by simpa using Nat.ne_of_gt hcolumn, Nat.le_refl _⟩
  · cases hk

theorem readCandidate_inBlock (read : Source → Except Error (Symbol × Source)) {source' : Source}
    {symbol : Symbol} (hcolumn : 0 < mark.column)
    (hread : read ⟨rest, mark⟩ = .ok (symbol, source')) (keyAllowed : Bool) (tokens : List Token) :
    ∃ candidate, Passing mark.line candidate ∧
      (inBlock ⟨rest, mark⟩ true none keyAllowed tokens).readCandidate read =
        .ok (inBlock source' true candidate false (⟨symbol, mark⟩ :: tokens)) := by
  obtain ⟨candidate, hpassing, hsave⟩ := exists_saveCandidate hcolumn rest keyAllowed tokens
  refine ⟨candidate, hpassing, ?_⟩
  have hread' : read (inBlock ⟨rest, mark⟩ true candidate keyAllowed tokens).source =
      .ok (symbol, source') := hread
  simp only [readCandidate, hsave, hread', bind, Except.bind]
  rfl

end

/-! ## Scalars -/

/-- The scanner is at the start of a line, behind tokens of these symbols. -/
def AtLine (rest : List Char) (opened : Bool) (symbols : List Symbol) (r : Scanner) : Prop :=
  ∃ mark tokens, r = inBlock ⟨rest, mark⟩ opened none true tokens ∧ mark.column = 0 ∧
    tokens.reverse.map Token.symbol = symbols

/-- The scanner is at a value, behind a key or a dash and tokens of these symbols. -/
def AtValue (rest : List Char) (keyAllowed : Bool) (symbols : List Symbol) (r : Scanner) : Prop :=
  ∃ mark tokens, r = inBlock ⟨rest, mark⟩ true none keyAllowed tokens ∧ 0 < mark.column ∧
    tokens.reverse.map Token.symbol = symbols

/-- The text in front of the scanner is one token up to the start of the next line. -/
def ReadsLine (text rest : List Char) (symbol : Symbol) (mark : Mark) (keyAllowed : Bool)
    (tokens : List Token) : Prop :=
  ∃ c tail s mark', text = c :: tail ∧ mark'.column = 0 ∧
    (inBlock ⟨text, mark⟩ true none keyAllowed tokens).readToken c tail.head? = .ok s ∧
    s.ready = .ok (inBlock ⟨rest, mark'⟩ true none true (⟨symbol, mark⟩ :: tokens))

section

variable {mark mark' : Mark} {rest text body : List Char} {keyAllowed : Bool}
  {tokens : List Token}

theorem readsLine_plain (hfits : WrittenStyle.plain.Fits text) (hrest : AtToken rest)
    (hcolumn : 0 < mark.column) :
    ReadsLine (text ++ '\n' :: rest) rest (.scalar text .plain) mark keyAllowed tokens := by
  obtain ⟨mark', hcolumn', hline, hread⟩ := readPlain_fits hfits hrest.opensLine hcolumn
  cases text with
  | nil => exact absurd rfl hfits.1
  | cons c u =>
    obtain ⟨-, hvisible, hindicator⟩ := opens_of_fits hfits
    obtain ⟨candidate, hpassing, hsave⟩ :=
      exists_saveCandidate hcolumn (c :: u ++ '\n' :: rest) keyAllowed tokens
    refine ⟨c, u ++ '\n' :: rest, inBlock ⟨rest, mark'⟩ true candidate true
      (⟨.scalar (c :: u) .plain, mark⟩ :: tokens), mark', rfl, hcolumn', ?_,
      ready_line hrest hpassing hline⟩
    have hsecond : endsWord (u ++ '\n' :: rest).head? = endsWord u.head? := by
      cases u <;> rfl
    rw [readToken_plain rfl (not_atDocumentMarker hcolumn _) hvisible hindicator hsecond,
      readPlainScalar, hsave]
    show (do
      let scalar ← readPlain false 1 ⟨c :: u ++ '\n' :: rest, mark⟩
      return { inBlock ⟨c :: u ++ '\n' :: rest, mark⟩ true candidate keyAllowed tokens with
        keyAllowed := scalar.broken, source := scalar.source }.push
          (.scalar scalar.text .plain) mark) = _
    rw [hread]
    rfl

/-- A quoted text is read up to its closing quote, and the rest of its line has only the line
break. -/
theorem readsLine_quoted {quote : Char} {style : ScalarStyle} (hcolumn : 0 < mark.column)
    (hquote : ∀ second,
      (inBlock ⟨quote :: (body ++ quote :: '\n' :: rest), mark⟩ true none keyAllowed
          tokens).readToken quote second =
        (inBlock ⟨quote :: (body ++ quote :: '\n' :: rest), mark⟩ true none keyAllowed
          tokens).readQuotedScalar style)
    (hread : readQuoted (style == .doubleQuoted) ⟨body ++ quote :: '\n' :: rest, mark.advance 1⟩ =
      .ok ⟨text, ⟨'\n' :: rest, mark'⟩, false⟩)
    (hline : mark.line ≤ mark'.line) (hrest : AtToken rest) :
    ReadsLine (quote :: (body ++ quote :: '\n' :: rest)) rest (.scalar text style) mark keyAllowed
      tokens := by
  have hscalar : (do
      let scalar ← readQuoted (style == .doubleQuoted)
        (Source.skip ⟨quote :: (body ++ quote :: '\n' :: rest), mark⟩ 1)
      return (Symbol.scalar scalar.text style, scalar.source) : Except Error (Symbol × Source)) =
      .ok (.scalar text style, ⟨'\n' :: rest, mark'⟩) := by
    rw [skip_one, hread]
    rfl
  obtain ⟨candidate, hpassing, htoken⟩ :=
    readCandidate_inBlock (fun source => do
      let scalar ← readQuoted (style == .doubleQuoted) (source.skip 1)
      return (.scalar scalar.text style, scalar.source)) hcolumn hscalar keyAllowed tokens
  exact ⟨quote, _, _, mark'.nextLine, rfl, rfl, (hquote _).trans htoken,
    ready_feed hrest (hpassing.mono hline)⟩

theorem readsLine_literal (hfits : WrittenStyle.literal.Fits text) (hrest : AtToken rest) :
    ReadsLine ('|' :: (literalHints text ++ '\n' :: (literalLines true text ++ rest))) rest
      (.scalar text .literal) mark keyAllowed tokens := by
  obtain ⟨mark', hcolumn', hline, hread⟩ :=
    readBlock_literal hfits hrest.opensLine (mark.advance 1)
  refine ⟨'|', _, inBlock ⟨rest, mark'⟩ true none true (⟨.scalar text .literal, mark⟩ :: tokens),
    mark', rfl, hcolumn', ?_, ready_line hrest (passing_none mark.line) hline⟩
  have hsign : ∀ second,
      (inBlock ⟨'|' :: (literalHints text ++ '\n' :: (literalLines true text ++ rest)), mark⟩ true
          none keyAllowed tokens).readToken '|' second =
        (inBlock ⟨'|' :: (literalHints text ++ '\n' :: (literalLines true text ++ rest)), mark⟩
          true none keyAllowed tokens).readBlockScalar .literal := by
    simp [readToken, Source.atMarker, inBlock, inFlow, Scanner.mark]
  rw [hsign]
  show (do
    let scalar ← readBlock true 1
      (Source.skip ⟨'|' :: (literalHints text ++ '\n' :: (literalLines true text ++ rest)), mark⟩ 1)
    return { inBlock ⟨'|' :: (literalHints text ++ '\n' :: (literalLines true text ++ rest)), mark⟩
      true none keyAllowed tokens with keyAllowed := true, source := scalar.source }.push
        (.scalar scalar.text .literal) mark) = _
  rw [skip_one, hread]
  rfl

/-- A text in any style is one token. -/
theorem readsLine_scalar (x : Scalar) (hrest : AtToken rest) (hcolumn : 0 < mark.column)
    (keyAllowed : Bool) (tokens : List Token) :
    ReadsLine (x.lines ++ rest) rest x.symbol mark keyAllowed tokens := by
  obtain ⟨text, style, hfits⟩ := x
  have hinside : 0 < (mark.advance 1).column := Nat.succ_pos _
  cases style with
  | plain =>
    have hline :
        ReadsLine (text ++ '\n' :: rest) rest (.scalar text .plain) mark keyAllowed tokens :=
      readsLine_plain hfits hrest hcolumn
    simpa [Scalar.lines, Scalar.symbol, WrittenStyle.lines, WrittenStyle.scalarStyle] using hline
  | singleQuoted =>
    have hbehind : ('\n' :: rest).head? ≠ some '\'' := by simp
    obtain ⟨mark', hend, hread⟩ := readQuoted_single hfits hbehind hinside
    have hline : ReadsLine ('\'' :: (singleQuotedText false text ++ '\'' :: '\n' :: rest)) rest
        (.scalar text .singleQuoted) mark keyAllowed tokens :=
      readsLine_quoted hcolumn
        (fun second => by simp [readToken, Source.atMarker, inBlock, inFlow, Scanner.mark])
        hread hend hrest
    simpa [Scalar.lines, Scalar.symbol, WrittenStyle.lines, WrittenStyle.scalarStyle] using hline
  | doubleQuoted =>
    obtain ⟨mark', hend, hread⟩ := readQuoted_double text hinside ('\n' :: rest)
    have hline : ReadsLine ('"' :: (doubleQuotedText text ++ '"' :: '\n' :: rest)) rest
        (.scalar text .doubleQuoted) mark keyAllowed tokens :=
      readsLine_quoted hcolumn
        (fun second => by simp [readToken, Source.atMarker, inBlock, inFlow, Scanner.mark])
        hread (Nat.le_of_eq hend.symm) hrest
    simpa [Scalar.lines, Scalar.symbol, WrittenStyle.lines, WrittenStyle.scalarStyle] using hline
  | literal =>
    have hline :
        ReadsLine ('|' :: (literalHints text ++ '\n' :: (literalLines true text ++ rest))) rest
          (.scalar text .literal) mark keyAllowed tokens := readsLine_literal hfits hrest
    simpa [Scalar.lines, Scalar.symbol, WrittenStyle.lines, WrittenStyle.scalarStyle] using hline

/-- **A text is one step**, in whatever style it is written. -/
theorem step_scalar (x : Scalar) (hrest : AtToken rest) {symbols : List Symbol} {r : Scanner}
    (h : AtValue (x.lines ++ rest) keyAllowed symbols r) :
    ∃ r', Step r r' ∧ AtLine rest true (symbols ++ [x.symbol]) r' := by
  obtain ⟨mark, tokens, rfl, hcolumn, hsymbols⟩ := h
  obtain ⟨c, tail, s, mark', htext, hcolumn', hread, hready⟩ :=
    readsLine_scalar x hrest hcolumn keyAllowed tokens
  refine ⟨_, ⟨c, tail, s, htext, hread, hready, ?_⟩, mark', _, rfl, hcolumn', ?_⟩
  · show rest.length < (x.lines ++ rest).length
    have := x.length_lines_pos
    simp only [List.length_append]
    omega
  · simp [← hsymbols]

end

/-! ## Keys -/

/-- The token that the first key of a mapping opens it with. -/
def opening (opened : Bool) : List Symbol :=
  if opened then [] else [.blockMappingStart]

section

variable {mark : Mark} {rest : List Char} {opened : Bool} {symbols : List Symbol} {r : Scanner}

theorem readToken_colon {candidate : Option Candidate} {tokens : List Token}
    (hword : endsWord rest.head? = true) :
    (inBlock ⟨':' :: rest, mark⟩ opened candidate false tokens).readToken ':' rest.head? =
      (inBlock ⟨':' :: rest, mark⟩ opened candidate false tokens).readValue := by
  simp [readToken, Source.atMarker, inBlock, hword]

/-- The colon behind a key, which makes a key of the scalar in front of it. -/
theorem readValue_inBlock {t : Token} {k : Candidate} {tokens : List Token} (rest : List Char)
    (mark : Mark) (opened : Bool) (hnumber : k.number = tokens.length)
    (hcolumn : k.mark.column = 0) :
    (inBlock ⟨':' :: rest, mark⟩ opened (some k) false (t :: tokens)).readValue =
      .ok (inBlock ⟨rest, mark.advance 1⟩ true none false
        (⟨.value, mark⟩ :: t :: ⟨.key, k.mark⟩ ::
          ((opening opened).map (⟨·, k.mark⟩) ++ tokens))) := by
  have hkey : tokens.length + 1 - k.number = 1 := by omega
  have hopening : tokens.length + 1 + 1 - k.number = 2 := by omega
  cases opened <;>
    simp [readValue, inBlock, insert, openBlock, inFlow, readSign, push, opening, skip_one, hcolumn,
      hkey, hopening, Scanner.mark]

/-- The scalar of a key. -/
theorem readToken_name (e : WrittenEntry) (rest : List Char) (hword : endsWord rest.head? = true)
    (mark : Mark) (opened : Bool) (tokens : List Token) :
    ∃ c tail, e.name ++ ':' :: rest = c :: tail ∧
      (inBlock ⟨c :: tail, mark⟩ opened none true tokens).readToken c tail.head? =
        .ok (inBlock ⟨':' :: rest, mark.advance e.name.length⟩ opened
          (some ⟨opened && mark.column == 0, tokens.length, mark⟩) false
          (⟨.scalar e.name .plain, mark⟩ :: tokens)) := by
  have hread := readPlain_name (fun c hc => isNameChar_of_isKeyChar (e.isKeyChar_of_mem c hc)) hword
    (inBlock ⟨e.name ++ ':' :: rest, mark⟩ opened none true tokens).indent mark
  cases hname : e.name with
  | nil => exact absurd hname e.name_ne_nil
  | cons c u =>
    have hc : isKeyChar c = true := e.isKeyChar_of_mem c (by simp [hname])
    refine ⟨c, u ++ ':' :: rest, rfl, ?_⟩
    have hmarker : Source.atDocumentMarker ⟨c :: (u ++ ':' :: rest), mark⟩ = false := by
      have hdash : c ≠ '-' := ne_of_isKeyChar hc (by decide)
      have hdot : c ≠ '.' := ne_of_isKeyChar hc (by decide)
      simp [Source.atDocumentMarker, Source.atMarker, hdash, hdot]
    rw [readToken_plain rfl hmarker (isVisible_of_isNameChar (isNameChar_of_isKeyChar hc))
      (opensWithIndicator_of_isKeyChar hc _) rfl, readPlainScalar, saveCandidate_inBlock]
    rw [hname] at hread
    show (do
      let scalar ← readPlain false
        (inBlock ⟨c :: u ++ ':' :: rest, mark⟩ opened none true tokens).indent
        ⟨c :: u ++ ':' :: rest, mark⟩
      return { inBlock ⟨c :: u ++ ':' :: rest, mark⟩ opened
          (some ⟨opened && mark.column == 0, tokens.length, mark⟩) true tokens with
        keyAllowed := scalar.broken, source := scalar.source }.push
          (.scalar scalar.text .plain) mark) = _
    rw [hread]
    rfl

/-- **A key is two steps**, up to its colon and behind it. -/
theorem step_key (e : WrittenEntry) (hword : endsWord rest.head? = true)
    (h : AtLine (e.name ++ ':' :: rest) opened symbols r) :
    ∃ r₁ mark tokens, Step r r₁ ∧ r₁.source.rest = ':' :: rest ∧
      r₁.readToken ':' rest.head? = .ok (inBlock ⟨rest, mark⟩ true none false tokens) ∧
      0 < mark.column ∧
      tokens.reverse.map Token.symbol =
        symbols ++ opening opened ++ [.key, .scalar e.name .plain, .value] := by
  obtain ⟨mark, tokens, rfl, hcolumn, hsymbols⟩ := h
  obtain ⟨c, tail, htext, hname⟩ := readToken_name e rest hword mark opened tokens
  let named : Scanner := inBlock ⟨':' :: rest, mark.advance e.name.length⟩ opened
    (some ⟨opened && mark.column == 0, tokens.length, mark⟩) false
    (⟨.scalar e.name .plain, mark⟩ :: tokens)
  have hready : named.ready = .ok named :=
    ready_colon rfl (Nat.le_refl _) (Nat.add_le_add_left e.length_name_le _)
  have hcolon : named.readToken ':' rest.head? = .ok _ := (readToken_colon hword).trans
    (readValue_inBlock rest (mark.advance e.name.length) opened rfl hcolumn)
  refine ⟨_, _, _, ⟨c, tail, _, htext, ?_, hready, ?_⟩, rfl, hcolon, Nat.succ_pos _, ?_⟩
  · rw [htext]
    exact hname
  · have : 0 < e.name.length := List.length_pos_iff.mpr e.name_ne_nil
    show (':' :: rest).length < (e.name ++ ':' :: rest).length
    simp only [List.length_append]
    omega
  · cases opened <;> simp [opening, ← hsymbols]

/-- A key in front of a space. -/
theorem reaches_space (e : WrittenEntry) (hrest : AtToken rest)
    (h : AtLine (e.name ++ ':' :: ' ' :: rest) opened symbols r) :
    ∃ r', ReflTransGen Step r r' ∧
      AtValue rest false (symbols ++ opening opened ++ [.key, .scalar e.name .plain, .value])
        r' := by
  obtain ⟨r₁, mark, tokens, hstep, hcolon, hread, hcolumn, hsymbols⟩ := step_key e rfl h
  refine ⟨_, .tail (.single hstep) ⟨':', _, _, hcolon, hread, ready_space hrest, ?_⟩, _, _, rfl,
    Nat.succ_pos _, hsymbols⟩
  rw [hcolon]
  show rest.length < (':' :: ' ' :: rest).length
  simp only [List.length_cons]
  omega

/-- A key in front of the end of its line. -/
theorem reaches_feed (e : WrittenEntry) (hrest : AtToken rest)
    (h : AtLine (e.name ++ ':' :: '\n' :: rest) opened symbols r) :
    ∃ r', ReflTransGen Step r r' ∧
      AtLine rest true (symbols ++ opening opened ++ [.key, .scalar e.name .plain, .value])
        r' := by
  obtain ⟨r₁, mark, tokens, hstep, hcolon, hread, -, hsymbols⟩ := step_key e rfl h
  refine ⟨_, .tail (.single hstep) ⟨':', _, _, hcolon, hread,
    ready_feed hrest (passing_none _), ?_⟩, _, _, rfl, rfl, hsymbols⟩
  rw [hcolon]
  show rest.length < (':' :: '\n' :: rest).length
  simp only [List.length_cons]
  omega

end

/-! ## Values -/

section

variable {rest : List Char} {opened : Bool} {symbols : List Symbol} {r : Scanner}

/-- A written text starts with a token. -/
theorem atToken_lines (x : Scalar) (rest : List Char) : AtToken (x.lines ++ rest) := by
  obtain ⟨text, style, hfits⟩ := x
  cases style with
  | plain =>
    cases text with
    | nil => exact absurd rfl hfits.1
    | cons c u =>
      obtain ⟨hc, hvisible, hindicator⟩ := opens_of_fits hfits
      have hhash : c ≠ '#' := by
        rintro rfl
        exact absurd hindicator (by simp [opensWithIndicator])
      have hmark : c ≠ '\uFEFF' := by
        rintro rfl
        exact absurd hc (by decide)
      simp [AtToken, Scalar.lines, WrittenStyle.lines, hvisible, hhash, hmark]
  | singleQuoted | doubleQuoted | literal => rfl

/-- **An item is two steps**: its dash, and its text. -/
theorem reaches_item (x : Scalar) (hrest : AtToken rest)
    (h : AtLine ('-' :: ' ' :: (x.lines ++ rest)) true symbols r) :
    ∃ r', ReflTransGen Step r r' ∧ AtLine rest true (symbols ++ [.blockEntry, x.symbol]) r' := by
  obtain ⟨mark, tokens, rfl, hcolumn, hsymbols⟩ := h
  have hdash : (inBlock ⟨'-' :: ' ' :: (x.lines ++ rest), mark⟩ true none true tokens).readToken
      '-' (some ' ') = .ok (inBlock ⟨' ' :: (x.lines ++ rest), mark.advance 1⟩ true none true
        (⟨.blockEntry, mark⟩ :: tokens)) := by
    simp [readToken, readBlockEntry, openBlock, dropCandidate, readSign, push, Source.atMarker,
      inBlock, inFlow, endsWord, isSpace, skip_one, Scanner.mark, hcolumn]
  have hvalue : AtValue (x.lines ++ rest) true (symbols ++ [.blockEntry])
      (inBlock ⟨x.lines ++ rest, (mark.advance 1).advance 1⟩ true none true
        (⟨.blockEntry, mark⟩ :: tokens)) :=
    ⟨_, _, rfl, Nat.succ_pos _, by simp [← hsymbols]⟩
  obtain ⟨r', hstep, hline⟩ := step_scalar x hrest hvalue
  refine ⟨r', .tail (.single ⟨'-', _, _, rfl, hdash, ready_space (atToken_lines x rest), ?_⟩) hstep,
    ?_⟩
  · show (x.lines ++ rest).length < ('-' :: ' ' :: (x.lines ++ rest)).length
    simp only [List.length_cons]
    omega
  · simpa using hline

/-- The induction is on the items. -/
theorem reaches_items (items : List Scalar) (hrest : AtToken rest)
    (h : AtLine (items.flatMap (fun x => '-' :: ' ' :: x.lines) ++ rest) true symbols r) :
    ∃ r', ReflTransGen Step r r' ∧
      AtLine rest true (symbols ++ items.flatMap fun x => [.blockEntry, x.symbol]) r' := by
  induction items generalizing symbols r with
  | nil => exact ⟨r, .refl, by simpa using h⟩
  | cons x items ih =>
    have hnext : AtToken (items.flatMap (fun x => '-' :: ' ' :: x.lines) ++ rest) := by
      cases items with
      | nil => exact hrest
      | cons _ _ => rfl
    obtain ⟨r₁, hitem, hline⟩ := reaches_item x hnext (by simpa using h)
    obtain ⟨r', hitems, hline'⟩ := ih hline
    exact ⟨r', hitem.trans hitems, by simpa using hline'⟩

/-- A list without items is two steps, in and out of a flow collection. -/
theorem reaches_noItems (hrest : AtToken rest)
    (h : AtValue ('[' :: ']' :: '\n' :: rest) false symbols r) :
    ∃ r', ReflTransGen Step r r' ∧
      AtLine rest true (symbols ++ [.flowSequenceStart, .flowSequenceEnd]) r' := by
  obtain ⟨mark, tokens, rfl, hcolumn, hsymbols⟩ := h
  -- Inside of the brackets the candidate of the block is put aside.
  let inside : Scanner :=
    { inBlock ⟨']' :: '\n' :: rest, mark.advance 1⟩ true none true
        (⟨.flowSequenceStart, mark⟩ :: tokens) with outer := [none] }
  have hopen : (inBlock ⟨'[' :: ']' :: '\n' :: rest, mark⟩ true none false tokens).readToken
      '[' (some ']') = .ok inside := by
    simp [readToken, openFlow, saveCandidate, readSign, push, Source.atMarker, inBlock, skip_one,
      Scanner.mark, inside]
    rfl
  have hready : inside.ready = .ok inside := rfl
  have hclose : inside.readToken ']' (some '\n') =
      .ok (inBlock ⟨'\n' :: rest, (mark.advance 1).advance 1⟩ true none false
        (⟨.flowSequenceEnd, mark.advance 1⟩ :: ⟨.flowSequenceStart, mark⟩ :: tokens)) := by
    simp [readToken, closeFlow, dropCandidate, readSign, push, Source.atMarker, inBlock, skip_one,
      Scanner.mark, inside]
  refine ⟨_, .tail (.single ⟨'[', _, _, rfl, hopen, hready, Nat.lt_succ_self _⟩)
    ⟨']', _, _, rfl, hclose, ready_feed hrest (passing_none _), ?_⟩, _, _, rfl, rfl, ?_⟩
  · show rest.length < (']' :: '\n' :: rest).length
    simp only [List.length_cons]
    omega
  · simp [← hsymbols]

/-! ## Entries -/

/-- **An entry is read up to the start of the next line.** -/
theorem reaches_entry (e : WrittenEntry) (hrest : AtToken rest)
    (h : AtLine (e.lines ++ rest) opened symbols r) :
    ∃ r', ReflTransGen Step r r' ∧
      AtLine rest true (symbols ++ opening opened ++ e.symbols) r' := by
  unfold WrittenEntry.lines at h
  rw [List.append_assoc, List.cons_append] at h
  unfold WrittenEntry.symbols
  cases hvalue : e.value with
  | scalar x =>
    rw [hvalue] at h
    obtain ⟨r₁, hkey, hline⟩ := reaches_space e (atToken_lines x rest) h
    obtain ⟨r', hscalar, hline'⟩ := step_scalar x hrest hline
    exact ⟨r', .tail hkey hscalar, by simpa [WrittenValue.symbols] using hline'⟩
  | list items =>
    rw [hvalue] at h
    cases items with
    | nil =>
      have hbracket : AtToken ('[' :: ']' :: '\n' :: rest) := rfl
      obtain ⟨r₁, hkey, hline⟩ := reaches_space e hbracket h
      obtain ⟨r', hvalue, hline'⟩ := reaches_noItems hrest hline
      exact ⟨r', hkey.trans hvalue, by simpa [WrittenValue.symbols] using hline'⟩
    | cons x items =>
      have hdash : AtToken ((x :: items).flatMap (fun x => '-' :: ' ' :: x.lines) ++ rest) := rfl
      obtain ⟨r₁, hkey, hline⟩ := reaches_feed e hdash h
      obtain ⟨r', hvalue, hline'⟩ := reaches_items (x :: items) hrest hline
      exact ⟨r', hkey.trans hvalue, by simpa [WrittenValue.symbols] using hline'⟩

theorem atToken_of_isKeyChar {c : Char} (h : isKeyChar c = true) (rest : List Char) :
    AtToken (c :: rest) := by
  have hvisible := isVisible_of_isNameChar (isNameChar_of_isKeyChar h)
  have hhash : c ≠ '#' := ne_of_isKeyChar h (by decide)
  have hmark : c ≠ '\uFEFF' := ne_of_isKeyChar h (by decide)
  simp [AtToken, hvisible, hhash, hmark]

theorem atToken_entries (entries : List WrittenEntry) :
    AtToken (entries.flatMap WrittenEntry.lines) := by
  cases entries with
  | nil => rfl
  | cons e entries =>
    cases hname : e.name with
    | nil => exact absurd hname e.name_ne_nil
    | cons c u =>
      rw [List.flatMap_cons, WrittenEntry.lines, hname]
      exact atToken_of_isKeyChar (e.isKeyChar_of_mem c (by simp [hname])) _

/-- The induction is on the entries behind the first. -/
theorem reaches_entries (entries : List WrittenEntry)
    (h : AtLine (entries.flatMap WrittenEntry.lines) true symbols r) :
    ∃ r', ReflTransGen Step r r' ∧
      AtLine [] true (symbols ++ entries.flatMap WrittenEntry.symbols) r' := by
  induction entries generalizing symbols r with
  | nil => exact ⟨r, .refl, by simpa using h⟩
  | cons e entries ih =>
    obtain ⟨r₁, hentry, hline⟩ := reaches_entry e (atToken_entries entries) h
    obtain ⟨r', hentries, hline'⟩ := ih hline
    exact ⟨r', hentry.trans hentries, by simpa [opening] using hline'⟩

/-- At the end of the text the mapping is closed. -/
theorem readEnd_atLine (h : AtLine [] true symbols r) :
    ∃ s, r.source.rest = [] ∧ r.readEnd = .ok s ∧
      s.tokens.reverse.map Token.symbol = symbols ++ [.blockEnd, .streamEnd] := by
  obtain ⟨mark, tokens, rfl, hcolumn, hsymbols⟩ := h
  refine ⟨{ inBlock ⟨[], mark⟩ false none false
    (⟨.streamEnd, mark⟩ :: ⟨.blockEnd, mark⟩ :: tokens) with }, rfl, ?_, ?_⟩
  · simp [readEnd, closeAllBlocks, pushEnds, dropCandidate, push, inBlock, inFlow, Scanner.mark,
      hcolumn]
  · simp [← hsymbols, inBlock]

end

end Scanner

/-! ## Whole texts -/

theorem unreadableFrom_eq_none {text : List Char} (h : text.all isAllowed = true)
    (bytes start count : Nat) : unreadableFrom bytes start count text = none := by
  induction text generalizing bytes start count with
  | nil => rfl
  | cons c text ih =>
    rw [List.all_cons, Bool.and_eq_true] at h
    obtain ⟨hc, htext⟩ := h
    rw [unreadableFrom, if_pos hc]
    exact ih htext _ _ _

/-- **The tokens of a written mapping** are those of its entries, between the signs that open and
close it. -/
theorem scan_lines (e : WrittenEntry) (entries : List WrittenEntry) :
    ∃ tokens, scan ((e :: entries).flatMap WrittenEntry.lines) = (tokens, none) ∧
      tokens.map Token.symbol = .streamStart :: .blockMappingStart ::
        ((e :: entries).flatMap WrittenEntry.symbols ++ [.blockEnd, .streamEnd]) := by
  have hallowed : ((e :: entries).flatMap WrittenEntry.lines).all isAllowed = true := by
    rw [List.all_flatMap, List.all_eq_true]
    exact fun d _ => d.all_isAllowed_lines
  have hstart : Scanner.AtLine ((e :: entries).flatMap WrittenEntry.lines) false [.streamStart]
      (.inBlock (.ofText ((e :: entries).flatMap WrittenEntry.lines)) false none true
        [⟨.streamStart, .start⟩]) :=
    ⟨.start, _, rfl, rfl, rfl⟩
  have hready : (Scanner.inBlock (.ofText ((e :: entries).flatMap WrittenEntry.lines)) false none
        true [⟨.streamStart, .start⟩]).ready =
      .ok (.inBlock (.ofText ((e :: entries).flatMap WrittenEntry.lines)) false none true
        [⟨.streamStart, .start⟩]) :=
    Scanner.ready_inBlock (Scanner.tokenFrom_atToken (Scanner.atToken_entries (e :: entries))) rfl
      rfl
  obtain ⟨r₁, hfirst, hline⟩ := Scanner.reaches_entry e (Scanner.atToken_entries entries) hstart
  obtain ⟨r', hothers, hline'⟩ := Scanner.reaches_entries entries hline
  obtain ⟨s, hrest, hend, hsymbols⟩ := Scanner.readEnd_atLine hline'
  refine ⟨s.tokens.reverse, ?_, ?_⟩
  · rw [scan, unreadableFrom_eq_none hallowed]
    exact Scanner.run_of_reaches (hfirst.trans hothers) hrest hend hready (Nat.lt_succ_self _)
  · rw [hsymbols]
    simp [Scanner.opening]

end RuleDelta.Yaml
