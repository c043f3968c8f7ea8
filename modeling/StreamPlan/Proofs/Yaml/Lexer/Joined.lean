import StreamPlan.Proofs.Yaml.Bare
import StreamPlan.Proofs.Yaml.LastLine
import StreamPlan.Proofs.Yaml.Lexer.Frame

/-!
# Tokens of joined texts

A text is read to its end. If a line break and a start marker follow it, then the lexer comes to the
marker with all blocks closed, as it came to the end, and goes on after the marker as at the start of a
text.

* `Lexer.Reads.line`: the run over a text, with a line break after it and with a marker after that.
* `Lexer.Reads.afterMarker`: the run over another text after the marker.
* `Complete.joined`: the tokens of the joined text are those of both, with the marker between them. Only
  the texts of scalars may differ from those of the first text alone, because of the line break.
-/

namespace StreamPlan.Yaml

variable {rest : List Char}

@[simp]
theorem Token.within_line : Token.within (.line rest) = id := by
  funext token
  simp [Token.within]

@[simp]
theorem PossibleKey.within_line : PossibleKey.within (.line rest) 0 = id := by
  funext key
  simp [PossibleKey.within]

namespace Lexer

variable {l next m : Lexer} {kind : Token.Kind} {mark : Mark}

/-- Only what is left of the text changes if more follows it. -/
theorem within_line :
    l.within (.line rest) [] = { l with source := ⟨l.source.rest ++ '\n' :: rest, l.source.mark⟩ } := by
  simp [within, Source.within]

/-! ## The last token -/

theorem fetchDirective?_line (hrest : 1 ≤ l.source.rest.length) (hnext : l.fetchDirective? = some next)
    (hend : next.source.rest = []) :
    (∀ rest, (l.within (.line rest) []).fetchDirective? = some (next.within (.line rest) [])) ∨
      ∃ mark', mark'.column = 0 ∧ ∀ rest,
        (l.within (.line rest) []).fetchDirective? = some { next with source := ⟨rest, mark'⟩ } := by
  obtain ⟨dropped, hdropped, hnext⟩ := Option.bind_eq_some_iff.1 hnext
  obtain ⟨⟨kind, after⟩, hkind, hnext⟩ := Option.bind_eq_some_iff.1 hnext
  obtain rfl := Option.some.inj hnext
  -- Closing blocks and dropping a key take nothing from the source.
  have hsource : dropped.source = l.source := (source_dropKey? hdropped).trans source_closeTo
  have hread : ∀ rest, (l.within (.line rest) []).fetchDirective? =
      (directive? ((dropped.source.forward 1).within (.line rest))).map fun read =>
        { (dropped.push read.1 dropped.source.mark) with source := read.2, keyAllowed := false } := by
    intro rest
    rw [fetchDirective?, closeTo_within, dropKey?_within hdropped, Option.bind_eq_bind,
      Option.bind_some, source_within, Source.forward_within (hsource ▸ hrest), within_line]
    rcases directive? ((dropped.source.forward 1).within (.line rest)) with _ | ⟨kind, source⟩ <;> rfl
  obtain hline | ⟨mark', hmark, hline⟩ := directive?_line hkind hend
  · refine .inl fun rest => ?_
    rw [hread, hline, within_line]
    rfl
  · refine .inr ⟨mark', hmark, fun rest => ?_⟩
    rw [hread, hline]
    rfl

theorem fetchPlain?_line (hnext : l.fetchPlain? = some next) (hend : next.source.rest = []) :
    ∃ keyAllowed mark', mark'.column = 0 ∧ ∀ rest, Closes rest →
      (l.within (.line rest) []).fetchPlain? =
        some { next with source := ⟨rest, mark'⟩, keyAllowed } := by
  obtain ⟨noted, hnoted, hnext⟩ := Option.bind_eq_some_iff.1 hnext
  obtain ⟨⟨f, after⟩, hf, hnext⟩ := Option.bind_eq_some_iff.1 hnext
  obtain rfl := Option.some.inj hnext
  obtain ⟨g, mark', htext, hmark, hline⟩ := plainText?_line hf hend
  refine ⟨g.broken, mark', hmark, fun rest hrest => ?_⟩
  have hindent : (noted.within (.line rest) []).indent = noted.indent := rfl
  rw [fetchPlain?, noteKey?_within hnoted, Option.bind_eq_bind, Option.bind_some, source_within,
    flow_within, hindent, Source.mark_within, Source.rest_within, Mark.within_line, hline rest hrest,
    within_line]
  simp only [Folding.result, ← htext]
  rfl

theorem fetchBlock?_line {literal : Bool} (hrest : 1 ≤ l.source.rest.length)
    (hnext : l.fetchBlock? literal = some next) (hend : next.source.rest = []) :
    ∃ tokens mark', tokens.map (Token.bare false) = next.tokens.map (Token.bare false) ∧
      mark'.column = 0 ∧ ∀ rest, Closes rest →
        (l.within (.line rest) []).fetchBlock? literal =
          some { next with source := ⟨rest, mark'⟩, tokens } := by
  obtain ⟨dropped, hdropped, hnext⟩ := Option.bind_eq_some_iff.1 hnext
  obtain ⟨⟨text, after⟩, htext, hnext⟩ := Option.bind_eq_some_iff.1 hnext
  obtain rfl := Option.some.inj hnext
  have hsource : dropped.source = l.source := source_dropKey? hdropped
  obtain ⟨text', mark', hmark, hline⟩ := blockText?_line htext hend
  refine ⟨⟨.scalar text' false, dropped.source.mark⟩ :: dropped.tokens, mark', rfl, hmark,
    fun rest hcloses => ?_⟩
  have hindent : (dropped.within (.line rest) []).indent = dropped.indent := rfl
  rw [fetchBlock?, dropKey?_within hdropped, Option.bind_eq_bind, Option.bind_some, source_within,
    hindent, Source.forward_within (hsource ▸ hrest), hline rest hcloses, within_line]
  rfl

/-- A step to the end of the text either does the same if a line break and more follow, or passes the
line break. -/
theorem fetchLead?_line {lead : Lead} (h : l.Sound)
    (hlead : lead? l.flow (l.column = 0) l.source.rest = some lead)
    (hnext : l.fetchLead? lead = some next) (hend : next.source.rest = []) :
    (∀ rest, (l.within (.line rest) []).fetchLead? lead = some (next.within (.line rest) [])) ∨
      ∃ tokens keyAllowed mark', tokens.map (Token.bare false) = next.tokens.map (Token.bare false) ∧
        mark'.column = 0 ∧ ∀ rest, Closes rest →
          (l.within (.line rest) []).fetchLead? lead =
            some { next with source := ⟨rest, mark'⟩, tokens, keyAllowed } := by
  have hrest := length_of_lead? hlead
  -- A token within one line cannot tell what follows the line.
  cases hspans : lead.spans with
  | false => exact .inl fun rest => fetchLead?_within_of_not_spans h hlead hspans hnext
  | true =>
    cases lead with
    | directive =>
      refine (fetchDirective?_line hrest hnext hend).imp_right ?_
      rintro ⟨mark', hmark, hline⟩
      exact ⟨next.tokens, next.keyAllowed, mark', rfl, hmark, fun rest _ => hline rest⟩
    | block literal =>
      obtain ⟨tokens, mark', htokens, hmark, hline⟩ := fetchBlock?_line hrest hnext hend
      exact .inr ⟨tokens, next.keyAllowed, mark', htokens, hmark, hline⟩
    | plain =>
      obtain ⟨keyAllowed, mark', hmark, hline⟩ := fetchPlain?_line hnext hend
      exact .inr ⟨next.tokens, keyAllowed, mark', rfl, hmark, hline⟩
    | _ => cases hspans

/-! ## The end of a text -/

/-- The lexer with every block collection closed and no possible key. -/
def closed (l : Lexer) : Lexer :=
  { l with
      tokens := List.replicate l.outer.length ⟨.blockEnd, l.source.mark⟩ ++ l.tokens
      count := l.count + l.outer.length
      indent := -1
      outer := []
      current := none }

theorem closeBlocks_all {outer : List Int} (hblocks : Nested l.indent outer)
    (houter : l.outer = outer) :
    closeBlocks (-1) outer l = { l.closed with current := l.current } := by
  induction outer generalizing l with
  | nil =>
    obtain ⟨source, tokens, count, indent, outer, keyAllowed, current, enclosing, ended⟩ := l
    obtain rfl : indent = -1 := hblocks
    obtain rfl : outer = [] := houter
    simp [closed, closeBlocks]
  | cons next outer ih =>
    rw [closeBlocks, if_pos (Int.lt_of_lt_of_le (by decide) hblocks.1), ih hblocks.2 rfl]
    simp [closed, push, houter, List.replicate_succ', Nat.add_assoc, Nat.add_comm 1]

theorem closeBlocks_closeBlocks {column : Int} {outer : List Int} (hcolumn : -1 ≤ column)
    (houter : l.outer = outer) :
    closeBlocks (-1) (closeBlocks column outer l).outer (closeBlocks column outer l) =
      closeBlocks (-1) outer l := by
  induction outer generalizing l with
  | nil => rw [closeBlocks, houter]
  | cons next outer ih =>
    rw [closeBlocks]
    split_ifs with hdeep
    · rw [ih rfl, closeBlocks.eq_2 (-1), if_pos (Int.lt_of_le_of_lt hcolumn hdeep)]
    · rw [houter]

theorem dropKey?_eq_some (h : ∀ key ∈ l.current, key.required = false) :
    l.dropKey? = some { l with current := none } := by
  unfold dropKey?
  split
  · rename_i key hcurrent
    rw [if_neg]
    simp [h key hcurrent]
  · rename_i hcurrent
    rw [← hcurrent]

theorem refresh?_eq_some {key? : Option PossibleKey} (h : ∀ key ∈ key?, key.required = false)
    (mark : Mark) : ∃ fresh, refresh? mark key? = some fresh ∧ ∀ key ∈ fresh, key.required = false := by
  cases key? with
  | none => exact ⟨none, rfl, h⟩
  | some key =>
    rw [refresh?, h key rfl, if_neg Bool.false_ne_true]
    split
    · exact ⟨none, rfl, by simp⟩
    · exact ⟨some key, rfl, h⟩

/-- Nothing is open that cannot be closed. -/
structure Closable (l : Lexer) : Prop where
  /-- Block collections are nested. -/
  blocks : Nested l.indent l.outer
  /-- No bracket is open. -/
  enclosing : l.enclosing = []
  /-- No key is missing its colon. -/
  current : ∀ key ∈ l.current, key.required = false

/-- Outside of brackets the lexer can close everything at its next token. -/
theorem ready?_closed (h : l.advance.Closable) :
    ∃ here, l.ready? = some here ∧ here.flow = false ∧ here.source = l.advance.source ∧
      (here.closeTo (-1)).dropKey? = some l.advance.closed := by
  obtain ⟨current, hcurrent, hrequired⟩ := refresh?_eq_some h.current l.advance.source.mark
  -- Outside of brackets there are no enclosing keys that could be too old.
  have hkeys : l.advance.refreshKeys? = some { l.advance with current } := by
    have hmapM : l.advance.enclosing.mapM (refresh? l.advance.source.mark) =
        some l.advance.enclosing := by
      rw [h.enclosing]
      rfl
    rw [refreshKeys?, hcurrent, hmapM]
    rfl
  generalize hfresh : { l.advance with current } = fresh at hkeys
  have hflow : fresh.flow = false := by
    rw [← hfresh, flow, h.enclosing]
    rfl
  have hclosed : closeBlocks (-1) fresh.outer fresh = { fresh.closed with current := fresh.current } :=
    closeBlocks_all (by rw [← hfresh]; exact h.blocks) rfl
  have hready : l.ready? = some (closeBlocks fresh.column fresh.outer fresh) := by
    rw [ready?, hkeys, Option.map_some, closeTo, hflow, if_neg Bool.false_ne_true]
  have hhere : (closeBlocks fresh.column fresh.outer fresh).flow = false := by
    obtain ⟨tokens, count, indent, outer, heq⟩ := closeBlocks_eq fresh.column fresh.outer fresh
    rw [heq]
    exact hflow
  -- Closing down to the column first, and then all the rest, is closing everything at once.
  refine ⟨closeBlocks fresh.column fresh.outer fresh, hready, hhere, source_ready? hready, ?_⟩
  rw [closeTo, hhere, if_neg Bool.false_ne_true,
    closeBlocks_closeBlocks (Int.le_trans (by decide) (Int.natCast_nonneg _)) rfl, hclosed,
    dropKey?_eq_some (by rw [← hfresh]; exact hrequired), ← hfresh]
  rfl

theorem fetch?_of_end (h : l.advance.Closable) (hrest : l.advance.source.rest = []) :
    l.fetch? = some { l.advance.closed.push .streamEnd l.advance.source.mark with
      keyAllowed := false, ended := true } := by
  obtain ⟨here, hready, -, hsource, hclosed⟩ := ready?_closed h
  rw [fetch?, hready, Option.bind_some, fetchHere?, hsource, hrest, if_pos (by rfl), finish?, hclosed]
  rfl

theorem fetch?_of_marker (h : l.advance.Closable)
    (hrest : l.advance.source.rest = '-' :: '-' :: '-' :: rest) (hword : atWordEnd rest = true)
    (hcolumn : l.advance.source.mark.column = 0) :
    l.fetch? = some { l.advance.closed.take .documentStart 3 with keyAllowed := false } := by
  obtain ⟨here, hready, hflow, hsource, hclosed⟩ := ready?_closed h
  have hlead : lead? here.flow (here.column = 0) here.source.rest = some (.marker true) := by
    rw [hsource, hrest, column, hsource, hcolumn]
    simp [lead?, atDocumentMarker, hword]
  rw [fetch?, hready, Option.bind_some, fetchHere?, if_neg (by rw [hsource, hrest]; simp), hlead,
    Option.bind_some, fetchLead?, fetchMarker?, hclosed]
  rfl

theorem not_required_of_dropKey? (h : l.dropKey? = some next) :
    ∀ key ∈ l.current, key.required = false := by
  intro key hkey
  have hcurrent : l.current = some key := hkey
  unfold dropKey? at h
  rw [hcurrent] at h
  dsimp only at h
  split_ifs at h with hrequired
  exact Bool.eq_false_iff.2 hrequired

theorem not_required_of_refresh? {key? fresh : Option PossibleKey} (h : refresh? mark key? = some fresh)
    (hfresh : ∀ key ∈ fresh, key.required = false) : ∀ key ∈ key?, key.required = false := by
  rintro key rfl
  rw [refresh?] at h
  split_ifs at h with hstale hrequired
  · exact Bool.eq_false_iff.2 hrequired
  · exact hfresh key (Option.some.inj h).symm

theorem current_closeTo {column : Int} : (l.closeTo column).current = l.current := by
  unfold closeTo
  split
  · rfl
  · obtain ⟨tokens, count, indent, outer, h⟩ := closeBlocks_eq column l.outer l
    rw [h]

theorem enclosing_closeTo {column : Int} : (l.closeTo column).enclosing = l.enclosing := by
  unfold closeTo
  split
  · rfl
  · obtain ⟨tokens, count, indent, outer, h⟩ := closeBlocks_eq column l.outer l
    rw [h]

theorem enclosing_dropKey? (h : l.dropKey? = some next) : next.enclosing = l.enclosing := by
  rw [dropKey?_eq_some (not_required_of_dropKey? h)] at h
  rw [← Option.some.inj h]

/-- What the end of a text says about the lexer before it. -/
theorem ended_fetch? (h : l.Sound) (hnext : l.fetch? = some m) (hended : m.ended = true) :
    l.advance.source.rest = [] ∧ (∀ key ∈ l.current, key.required = false) ∧
      openBrackets m.tokens = l.enclosing.length ∧
      ∃ first mark, m.tokens = ⟨.streamEnd, mark⟩ :: first ∧
        ∀ token ∈ first, token.kind ≠ .streamEnd := by
  obtain ⟨here, hhere, hnext⟩ := Option.bind_eq_some_iff.1 hnext
  have hsound := h.ready? hhere
  have hsource := source_ready? hhere
  unfold fetchHere? at hnext
  split_ifs at hnext with hrest
  -- At the end of the source: what is required of the last key was required of it before.
  · obtain ⟨dropped, hdropped, rfl⟩ := Option.map_eq_some_iff.1 hnext
    obtain ⟨fresh, hfresh, rfl⟩ := Option.map_eq_some_iff.1 hhere
    have hrequired := not_required_of_dropKey? hdropped
    rw [current_closeTo, current_closeTo] at hrequired
    have henclosing := enclosing_dropKey? hdropped
    rw [enclosing_closeTo, enclosing_closeTo] at henclosing
    have hlast := hsound.closeTo.dropKey? hdropped
    obtain ⟨current, hcurrent, hfresh⟩ := Option.bind_eq_some_iff.1 hfresh
    obtain ⟨enclosing, hkeys, hfresh⟩ := Option.bind_eq_some_iff.1 hfresh
    obtain rfl := Option.some.inj hfresh
    refine ⟨by rw [← hsource]; simpa using hrest, not_required_of_refresh? hcurrent hrequired, ?_,
      dropped.tokens, dropped.source.mark, rfl, hlast.going.2⟩
    have hlength : dropped.enclosing.length = l.enclosing.length := by
      rw [henclosing]
      exact (mapM_refresh? hkeys).1
    exact hlast.brackets.trans hlength
  -- Before the end of the source no step ends the tokens.
  · obtain ⟨lead, -, hnext⟩ := Option.bind_eq_some_iff.1 hnext
    rw [(hsound.fetchLead? hnext).going.1] at hended
    cases hended

theorem ended_of_rest (hrest : l.source.rest = []) (hnext : l.fetch? = some next) :
    next.ended = true := by
  obtain ⟨here, hhere, hnext⟩ := Option.bind_eq_some_iff.1 hnext
  have hadvance : l.advance.source.rest = [] := by
    rw [advance, hrest]
    rfl
  rw [fetchHere?, source_ready? hhere, hadvance, if_pos (by rfl)] at hnext
  obtain ⟨dropped, -, rfl⟩ := Option.map_eq_some_iff.1 hnext
  rfl

/-! ## Runs -/

/-- A run of the lexer up to the end of the text, with the number of tokens before the last. -/
inductive Reads : Nat → Lexer → Lexer → Prop where
  /-- The text ends. -/
  | ends {l m : Lexer} (hnext : l.fetch? = some m) (hended : m.ended = true) : Reads 0 l m
  /-- One more token is read. -/
  | step {n : Nat} {l next m : Lexer} (hnext : l.fetch? = some next) (hended : next.ended = false)
    (h : Reads n next m) : Reads (n + 1) l m

theorem Reads.run_eq {n fuel : Nat} (h : Reads n l m) (hfuel : n < fuel) :
    run fuel l = m.tokens.reverse := by
  induction h generalizing fuel with
  | ends hnext hended =>
    obtain ⟨fuel, rfl⟩ := Nat.exists_eq_add_of_lt hfuel
    rw [Nat.zero_add, run, hnext]
    exact if_pos hended
  | step hnext hended h ih =>
    obtain ⟨fuel, rfl⟩ := Nat.exists_eq_succ_of_ne_zero (Nat.ne_zero_of_lt hfuel)
    rw [run, hnext]
    show (if _ = true then _ else _) = _
    rw [hended, if_neg Bool.false_ne_true]
    exact ih (Nat.lt_of_succ_lt_succ hfuel)

theorem exists_reads {fuel : Nat} (h : l.Sound) (hend : ∃ token ∈ run fuel l, token.kind = .streamEnd) :
    ∃ n m, Reads n l m ∧ n < fuel := by
  -- Tokens that are handed out before the end of a run do not have the end among them.
  have hsettled : ∀ l : Lexer, l.Sound → ¬∃ token ∈ l.settled, token.kind = .streamEnd := by
    rintro l h ⟨token, htoken, hkind⟩
    refine h.going.2 token ?_ hkind
    unfold settled at htoken
    split at htoken
    · exact List.mem_reverse.1 (List.mem_of_mem_take htoken)
    · exact List.mem_reverse.1 htoken
  induction fuel generalizing l with
  | zero => exact absurd hend (hsettled l h)
  | succ fuel ih =>
    rw [run] at hend
    cases hnext : l.fetch? with
    | none =>
      rw [hnext] at hend
      exact absurd hend (hsettled l h)
    | some next =>
      rw [hnext] at hend
      cases hended : next.ended with
      | true => exact ⟨0, next, .ends hnext hended, Nat.succ_pos fuel⟩
      | false =>
        simp only [hended, Bool.false_eq_true, if_false] at hend
        obtain ⟨n, m, hreads, hfuel⟩ := ih (h.fetch? hnext hended) hend
        exact ⟨n + 1, m, .step hnext hended hreads, Nat.succ_lt_succ hfuel⟩

/-- The end of the text is the last token of a run, and no other. -/
theorem Reads.last {n : Nat} (hreads : Reads n l m) (h : l.Sound) :
    ∃ first mark, m.tokens = ⟨.streamEnd, mark⟩ :: first ∧
      ∀ token ∈ first, token.kind ≠ .streamEnd := by
  induction hreads with
  | ends hnext hended => exact (ended_fetch? h hnext hended).2.2.2
  | step hnext hended hreads ih => exact ih (h.fetch? hnext hended)

/-- A run inside a longer text that ends with it. -/
theorem Reads.within {n : Nat} {frame : Frame} {before : List Token} (hreads : Reads n l m)
    (h : l.Sound)
    (htail : frame.tail = []) : Reads n (l.within frame before) (m.within frame before) := by
  induction hreads with
  | ends hnext hended => exact .ends (fetch?_within htail h hnext) hended
  | step hnext hended _ ih =>
    exact .step (fetch?_within htail h hnext) hended (ih (h.fetch? hnext hended))

/-! ## A text that a line break follows -/

/-- The lexer after a start marker at `mark`, with the tokens before it. -/
def afterMarker (tokens : List Token) (mark : Mark) (rest : List Char) : Lexer :=
  ⟨⟨rest, ((mark.step '-').step '-').step '-'⟩, ⟨.documentStart, mark⟩ :: tokens, tokens.length + 1,
    -1, [], false, none, [], false⟩

/-- Lexers that read to a line break and, with the same tokens, past a start marker after it. The tokens
are those of `m` before its last, apart from texts. -/
structure ReadsLine (n : Nat) (m : Lexer) (line : List Char → Lexer) (tokens : List Token)
    (mark : Mark) :
    Prop where
  /-- The tokens are known. -/
  alike : m.tokens.map (Token.bare false) = ⟨.streamEnd, .start⟩ :: tokens.map (Token.bare false)
  /-- The text may end after the line break. -/
  ends : ∃ last, Reads n (line []) last ∧ last.tokens = ⟨.streamEnd, mark⟩ :: tokens
  /-- A start marker may stand after the line break. -/
  continues : ∀ rest, atWordEnd rest = true → ∀ k last, Reads k (afterMarker tokens mark rest) last →
    Reads (n + 1 + k) (line ('-' :: '-' :: '-' :: rest)) last

theorem closes_marker (h : atWordEnd rest = true) : Closes ('-' :: '-' :: '-' :: rest) := .inr h

theorem ReadsLine.step {n : Nat} {line line' : List Char → Lexer} {tokens : List Token}
    (h : ReadsLine n m line' tokens mark)
    (hnext : ∀ rest, Closes rest → (line rest).fetch? = some (line' rest))
    (hended : ∀ rest, (line' rest).ended = false) : ReadsLine (n + 1) m line tokens mark where
  alike := h.alike
  ends := by
    obtain ⟨last, hlast, htokens⟩ := h.ends
    exact ⟨last, .step (hnext [] (.inl rfl)) (hended []) hlast, htokens⟩
  continues rest hrest k last hlast := by
    have hlater := h.continues rest hrest k last hlast
    rw [Nat.add_right_comm n 1 1, Nat.add_right_comm _ 1 k]
    exact .step (hnext _ (closes_marker hrest)) (hended _) hlater

/-- The last step: at the line break everything is closed. -/
theorem readsLine_zero {line : List Char → Lexer} {tokens : List Token} {keyAllowed : Bool}
    (h : l.Sound)
    (hnext : l.fetch? = some m) (hended : m.ended = true) (hbrackets : openBrackets m.tokens = 0)
    (hmark : mark.column = 0)
    (htokens : tokens.map (Token.bare false) = l.tokens.map (Token.bare false))
    (hline : ∀ rest, Closes rest →
      (line rest).advance = { l with source := ⟨rest, mark⟩, tokens, keyAllowed }) :
    ReadsLine 0 m line (List.replicate l.outer.length ⟨.blockEnd, mark⟩ ++ tokens) mark := by
  -- All brackets are closed, so the lexer can close its blocks at the line break as at the end.
  obtain ⟨hrest, hkey, hlength, -⟩ := ended_fetch? h hnext hended
  have henclosing : l.enclosing = [] := List.length_eq_zero_iff.1 (hlength.symm.trans hbrackets)
  have hm := fetch?_of_end ⟨h.blocks, henclosing, hkey⟩ hrest
  rw [hnext] at hm
  obtain rfl := Option.some.inj hm
  have hclosable (rest : List Char) (hrest : Closes rest) : (line rest).advance.Closable := by
    rw [hline rest hrest]
    exact ⟨h.blocks, henclosing, hkey⟩
  have hcount : l.count = tokens.length := by
    rw [h.count]
    simpa using (congrArg List.length htokens).symm
  refine ⟨?_, ?_, fun rest hword k last hlast => ?_⟩
  · simp [push, closed, advance, Token.bare, Token.Kind.bare, htokens]
  -- If nothing follows the line break, the run ends there.
  · have hnil : Closes [] := .inl rfl
    refine ⟨_, .ends (fetch?_of_end (hclosable [] hnil) ?_) rfl, ?_⟩
    · rw [hline [] hnil]
    · rw [hline [] hnil]
      rfl
  -- If a start marker follows, it is the next token.
  · have hcloses := closes_marker hword
    have hfetch : (line ('-' :: '-' :: '-' :: rest)).fetch? =
        some (afterMarker (List.replicate l.outer.length ⟨.blockEnd, mark⟩ ++ tokens) mark rest) := by
      rw [fetch?_of_marker (hclosable _ hcloses) (by rw [hline _ hcloses]) hword
        (by rw [hline _ hcloses]; exact hmark), hline _ hcloses]
      simp [closed, take, push, afterMarker, Source.forward, h.going.1, henclosing, hcount,
        Nat.add_comm]
    rw [Nat.zero_add, Nat.add_comm]
    exact .step hfetch rfl hlast

theorem advance_of_closes {keyAllowed : Bool} {tokens : List Token} (h : Closes rest) :
    { l with source := ⟨rest, mark⟩, tokens, keyAllowed }.advance =
      { l with source := ⟨rest, mark⟩, tokens, keyAllowed } := by
  rw [advance]
  simp only [passGaps_of_closes h]

/-- A run to the end of a text, if a line break follows the text. -/
theorem Reads.line {n : Nat} (hreads : Reads n l m) (h : l.Sound)
    (hbrackets : openBrackets m.tokens = 0) :
    ∃ tokens mark, ReadsLine n m (fun rest => l.within (.line rest) []) tokens mark := by
  induction hreads with
  -- Only gaps are left before the end, and they go on through the line break.
  | @ends l m hnext hended =>
    obtain ⟨allowed, mark, hmark, hgaps⟩ := passGaps_line rfl (ended_fetch? h hnext hended).1
    have hline (rest : List Char) (hrest : Closes rest) : (l.within (.line rest) []).advance =
        { l with source := ⟨rest, mark⟩, tokens := l.tokens, keyAllowed := allowed } := by
      rw [advance, flow_within, keyAllowed_within, source_within, Source.mark_within,
        Source.rest_within, Mark.within_line, hgaps rest hrest, within_line]
    exact ⟨_, mark, readsLine_zero h hnext hended hbrackets hmark rfl hline⟩
  | @step n l next m hnext hended hreads ih =>
    have hsound := h.fetch? hnext hended
    obtain ⟨tokens, mark, hline⟩ := ih hsound hbrackets
    obtain ⟨here, hhere, hnext⟩ := Option.bind_eq_some_iff.1 hnext
    unfold fetchHere? at hnext
    split_ifs at hnext with hempty
    -- At the end of the source the step would have ended the run.
    · obtain ⟨dropped, -, rfl⟩ := Option.map_eq_some_iff.1 hnext
      cases hended
    · obtain ⟨lead, hlead, hnext⟩ := Option.bind_eq_some_iff.1 hnext
      have hrest : here.source.rest ≠ [] := by simpa using hempty
      have hfetch (rest : List Char) : (l.within (.line rest) []).fetch? =
          (here.within (.line rest) []).fetchLead? lead := by
        rw [fetch?, ready?_within hhere (.inr hrest), Option.bind_some, fetchHere?_within hrest, hlead,
          Option.bind_some]
      -- Only a step that reaches the end of the text can see the line break.
      by_cases hend : next.source.rest = []
      · obtain hsame | ⟨tokens', keyAllowed, mark', htokens, hmark, hpassed⟩ :=
          fetchLead?_line (h.ready? hhere) hlead hnext hend
        · exact ⟨tokens, mark, hline.step (fun rest _ => (hfetch rest).trans (hsame rest)) fun _ =>
            hended⟩
        · -- The step has passed the line break, so that the next one is the last.
          cases hreads with
          | ends hlast hlastEnded =>
            have hadvance (rest : List Char) (hrest : Closes rest) :
                { next with source := ⟨rest, mark'⟩, tokens := tokens', keyAllowed }.advance =
                  { next with source := ⟨rest, mark'⟩, tokens := tokens', keyAllowed } :=
              advance_of_closes hrest
            have hzero := readsLine_zero hsound hlast hlastEnded hbrackets hmark htokens hadvance
            exact ⟨_, mark', hzero.step (fun rest hcloses => (hfetch rest).trans (hpassed rest hcloses))
              fun _ => hended⟩
          | step hlast hlastEnded hlater =>
            rw [ended_of_rest hend hlast] at hlastEnded
            cases hlastEnded
      · have hsame (rest : List Char) : (here.within (.line rest) []).fetchLead? lead =
            some (next.within (.line rest) []) :=
          fetchLead?_within (h.ready? hhere) hlead hnext (.inr hend)
        exact ⟨tokens, mark, hline.step (fun rest _ => (hfetch rest).trans (hsame rest)) fun _ =>
          hended⟩

/-! ## Texts -/

/-- The surroundings of a text after a start marker at `mark` and a line break. -/
def afterMarkerFrame (mark : Mark) : Frame where
  bytes := mark.offset + 4
  lines := mark.line + 1
  tail := []
  ends := .inl rfl

/-- After a start marker a text is read as on its own. -/
theorem fetch?_afterMarker {tokens : List Token} {cs : List Char} :
    (afterMarker tokens mark ('\n' :: cs)).fetch? =
      ((start ⟨cs, .start⟩).within (afterMarkerFrame mark)
        (⟨.documentStart, mark⟩ :: tokens)).fetch? := by
  -- After the marker the line break leaves the lexer at the start of a line, as at the start of a text.
  have hmark : (((mark.step '-').step '-').step '-').newline 1 =
      Mark.start.within (afterMarkerFrame mark) := by
    simp [Mark.step, Mark.newline, Mark.within, Mark.start, afterMarkerFrame,
      show '-'.utf8Size = 1 from rfl]
  have hgaps : passGaps false false false (((mark.step '-').step '-').step '-') ('\n' :: cs) =
      passGaps false false true (Mark.start.within (afterMarkerFrame mark)) (cs ++ []) := by
    rw [passGaps.eq_3 _ _ _ _ _ _ (by simp), ← hmark, List.append_nil]
    rfl
  have hadvance : (afterMarker tokens mark ('\n' :: cs)).advance =
      ((start ⟨cs, .start⟩).within (afterMarkerFrame mark)
        (⟨.documentStart, mark⟩ :: tokens)).advance := by
    simp only [advance, afterMarker, within, start, flow, List.isEmpty_nil, Bool.not_true, hgaps,
      List.map_nil, Source.within]
    simp [afterMarkerFrame]
  rw [fetch?, ready?, hadvance]
  rfl

theorem Reads.afterMarker {n : Nat} {tokens : List Token} {cs : List Char}
    (h : Reads n (start ⟨cs, .start⟩) m) :
    Reads n (afterMarker tokens mark ('\n' :: cs))
      (m.within (afterMarkerFrame mark) (⟨.documentStart, mark⟩ :: tokens)) := by
  have hwithin : Reads n
      ((start ⟨cs, .start⟩).within (afterMarkerFrame mark) (⟨.documentStart, mark⟩ :: tokens))
      (m.within (afterMarkerFrame mark) (⟨.documentStart, mark⟩ :: tokens)) := h.within Sound.start rfl
  cases hwithin with
  | ends hnext hended => exact .ends (fetch?_afterMarker.trans hnext) hended
  | step hnext hended hreads => exact .step (fetch?_afterMarker.trans hnext) hended hreads

end Lexer

/-- The tokens of a text go up to its end. -/
def Complete (text : String) : Prop := ∃ token ∈ tokens text, token.kind = .streamEnd

theorem tokens_eq_of_reads {text : String} {n : Nat} {m : Lexer}
    (hallowed : text.toList.all isAllowed = true)
    (h : Lexer.Reads n (.start (.ofString text)) m) (hfuel : n < text.toList.length + 2) :
    tokens text = m.tokens.reverse :=
  (if_pos hallowed).trans (h.run_eq hfuel)

theorem Complete.reads {text : String} (h : Complete text) :
    text.toList.all isAllowed = true ∧ ∃ n m, Lexer.Reads n (.start (.ofString text)) m ∧
      n < text.toList.length + 2 := by
  unfold Complete tokens at h
  dsimp only [Source.ofString] at h
  split_ifs at h with hallowed
  · exact ⟨hallowed, Lexer.exists_reads Lexer.Sound.start h⟩
  · simp at h

/-- The tokens of a text that is read to its end. -/
theorem Complete.ends {text : String} (h : Complete text) :
    ∃ first mark, tokens text = first ++ [⟨.streamEnd, mark⟩] ∧
      ∀ token ∈ first, token.kind ≠ .streamEnd := by
  obtain ⟨hallowed, n, m, hreads, hfuel⟩ := h.reads
  obtain ⟨first, mark, hlast, hfirst⟩ := hreads.last Lexer.Sound.start
  refine ⟨first.reverse, mark, ?_, fun token htoken => hfirst token (List.mem_reverse.1 htoken)⟩
  rw [tokens_eq_of_reads hallowed hreads hfuel, hlast, List.reverse_cons]

/-- A line break after a text changes the texts of its tokens at most, and a start marker and another
text after that add their tokens. -/
theorem Complete.joined {text : String} (h : Complete text)
    (hbrackets : openBrackets (tokens text).reverse = 0) : ∃ first mark,
      (tokens text).map (Token.bare false) = first.map (Token.bare false) ++ [⟨.streamEnd, .start⟩] ∧
      tokens (text ++ "\n") = first ++ [⟨.streamEnd, mark⟩] ∧
      ∀ other, Complete other → tokens (text ++ "\n---\n" ++ other) =
        first ++ ⟨.documentStart, mark⟩ :: (tokens other).map
          (Token.within (Lexer.afterMarkerFrame mark)) := by
  obtain ⟨hallowed, n, m, hreads, hfuel⟩ := h.reads
  rw [tokens_eq_of_reads hallowed hreads hfuel, List.reverse_reverse] at hbrackets
  obtain ⟨first, mark, hline⟩ := hreads.line Lexer.Sound.start hbrackets
  refine ⟨first.reverse, mark, ?_, ?_, fun other hother => ?_⟩
  · rw [tokens_eq_of_reads hallowed hreads hfuel, List.map_reverse, hline.alike, List.reverse_cons,
      List.map_reverse]
  · obtain ⟨last, hlast, htokens⟩ := hline.ends
    rw [Lexer.within_line] at hlast
    have htext : (text ++ "\n").toList = text.toList ++ ['\n'] := by simp
    have hallowed' : (text ++ "\n").toList.all isAllowed = true := by
      rw [htext, List.all_append, hallowed]
      rfl
    have hreads' : Lexer.Reads n (.start (.ofString (text ++ "\n"))) last := by
      rw [Source.ofString, htext]
      exact hlast
    -- The run takes no more steps than before, and a longer text only gives more fuel.
    have hfuel' : n < (text ++ "\n").toList.length + 2 := by
      rw [htext, List.length_append]
      omega
    rw [tokens_eq_of_reads hallowed' hreads' hfuel', htokens, List.reverse_cons]
  · obtain ⟨hallowed', k, m', hreads', hfuel'⟩ := hother.reads
    have hlast := hline.continues ('\n' :: other.toList) rfl k _ hreads'.afterMarker
    rw [Lexer.within_line] at hlast
    have htext : (text ++ "\n---\n" ++ other).toList =
        text.toList ++ '\n' :: '-' :: '-' :: '-' :: '\n' :: other.toList := by simp
    have hallowed'' : (text ++ "\n---\n" ++ other).toList.all isAllowed = true := by
      rw [htext, List.all_append, hallowed, Bool.true_and]
      exact hallowed'
    have hreads'' : Lexer.Reads (n + 1 + k) (.start (.ofString (text ++ "\n---\n" ++ other)))
        (m'.within (Lexer.afterMarkerFrame mark) (⟨.documentStart, mark⟩ :: first)) := by
      rw [Source.ofString, htext]
      exact hlast
    -- The marker is one step and five characters.
    have hfuel'' : n + 1 + k < (text ++ "\n---\n" ++ other).toList.length + 2 := by
      simp only [htext, List.length_append, List.length_cons]
      omega
    rw [tokens_eq_of_reads hallowed'' hreads'' hfuel'', tokens_eq_of_reads hallowed' hreads' hfuel']
    simp [Lexer.within]

end StreamPlan.Yaml
