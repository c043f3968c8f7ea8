import Mathlib.Data.List.Forall2
import StreamPlan.Proofs.Yaml.LastLine

/-!
# The state of the lexer between tokens

What holds before every token that is read (`Lexer.Sound`): the tokens are counted, possible keys stand
among them, blocks are nested by their columns, and there is one possible key for each open bracket.

* `Lexer.Sound.start`: it holds at the start of a text.
* `Lexer.Sound.fetch?`: it holds after a token, unless the text ends there.
-/

namespace StreamPlan.Yaml

/-! ## Brackets -/

/-- The number of open brackets after a token, from that before it. A closing bracket too many does not
count. -/
def Token.Kind.brackets (opened : Nat) : Token.Kind → Nat
  | .flowSequence | .flowMapping => opened + 1
  | .flowSequenceEnd | .flowMappingEnd => opened - 1
  | _ => opened

/-- The number of open brackets after tokens, of which the last comes first. -/
def openBrackets (tokens : List Token) : Nat :=
  tokens.foldr (fun token opened => token.kind.brackets opened) 0

/-- A token that is neither a bracket nor the end of the text. -/
def Token.Kind.Neutral (kind : Token.Kind) : Prop :=
  kind ≠ .streamEnd ∧ ∀ opened, kind.brackets opened = opened

theorem openBrackets_insert {tokens later : List Token} {kind : Token.Kind} {mark : Mark}
    (h : kind.Neutral) :
    openBrackets (later ++ ⟨kind, mark⟩ :: tokens) = openBrackets (later ++ tokens) := by
  simp [openBrackets, List.foldr_append, h.2]

/-! ## Invariants -/

/-- The columns of nested block collections: there is a bottom at -1. -/
def Nested : (indent : Int) → (outer : List Int) → Prop
  | indent, [] => indent = -1
  | indent, next :: outer => 0 ≤ indent ∧ Nested next outer

theorem neutral_of_directive? {source after : Source} {kind : Token.Kind}
    (h : directive? source = some (kind, after)) : kind.Neutral := by
  simp only [directive?] at h
  split at h
  · cases h
  · obtain ⟨⟨stated, later⟩, hstated, h⟩ := Option.bind_eq_some_iff.1 h
    obtain ⟨next, -, h⟩ := Option.map_eq_some_iff.1 h
    obtain ⟨rfl, -⟩ := Prod.mk.inj h
    unfold directiveText? at hstated
    split_ifs at hstated
    · simp only [versionLine?, Option.bind_eq_some_iff, Option.ite_none_right_eq_some,
        Option.map_eq_some_iff] at hstated
      obtain ⟨_, _, _, _, _, h⟩ := hstated
      obtain ⟨rfl, -⟩ := Prod.mk.inj h
      exact ⟨by simp, fun _ => rfl⟩
    · simp only [tagLine?, Option.bind_eq_some_iff, Option.ite_none_left_eq_some,
        Option.ite_none_right_eq_some, Option.some.injEq] at hstated
      obtain ⟨_, _, _, _, _, _, h⟩ := hstated
      obtain ⟨rfl, -⟩ := Prod.mk.inj h
      exact ⟨by simp, fun _ => rfl⟩

theorem neutral_of_tagToken? {flow : Bool} {source after : Source} {kind : Token.Kind}
    (h : tagToken? flow source = some (kind, after)) : kind.Neutral := by
  simp only [tagToken?, Option.bind_eq_some_iff, Option.ite_none_right_eq_some, Option.some.injEq] at h
  obtain ⟨⟨kind, later⟩, hread, -, h⟩ := h
  obtain ⟨rfl, -⟩ := Prod.mk.inj h
  split at hread
  · simp only [verbatimTag?, Option.bind_eq_some_iff, Option.ite_none_right_eq_some,
      Option.some.injEq] at hread
    obtain ⟨_, _, _, h⟩ := hread
    obtain ⟨rfl, -⟩ := Prod.mk.inj h
    exact ⟨by simp, fun _ => rfl⟩
  · simp only [shortTag?, Option.bind_eq_some_iff] at hread
    obtain ⟨_, _, h⟩ := hread
    split at h
    · obtain ⟨_, _, h⟩ := Option.map_eq_some_iff.1 h
      obtain ⟨rfl, -⟩ := Prod.mk.inj h
      exact ⟨by simp, fun _ => rfl⟩
    · obtain ⟨_, _, h⟩ := Option.map_eq_some_iff.1 h
      split at h <;>
      · obtain ⟨rfl, -⟩ := Prod.mk.inj h
        exact ⟨by simp, fun _ => rfl⟩

namespace Lexer

variable {l next : Lexer} {kind : Token.Kind} {mark : Mark}

/-- What holds of the lexer between two tokens. -/
structure Sound (l : Lexer) : Prop where
  /-- The tokens are counted. -/
  count : l.count = l.tokens.length
  /-- Possible keys are among the tokens. -/
  keys : ∀ key, some key ∈ l.current :: l.enclosing → key.position ≤ l.count
  /-- Block collections are nested. -/
  blocks : Nested l.indent l.outer
  /-- Levels of brackets are those of the tokens. -/
  brackets : openBrackets l.tokens = l.enclosing.length
  /-- The text goes on. -/
  going : l.ended = false ∧ ∀ token ∈ l.tokens, token.kind ≠ .streamEnd

theorem eq_of_refresh? {key? : Option PossibleKey} {key : PossibleKey}
    (h : refresh? mark key? = some (some key)) : key? = some key := by
  unfold refresh? at h
  split at h
  · cases h
  · split_ifs at h
    · cases h
    · exact Option.some.inj h

theorem mapM_refresh? {keys fresh : List (Option PossibleKey)}
    (h : keys.mapM (refresh? mark) = some fresh) :
    fresh.length = keys.length ∧ ∀ key, some key ∈ fresh → some key ∈ keys := by
  induction keys generalizing fresh with
  | nil =>
    obtain rfl := Option.some.inj h
    simp
  | cons key? keys ih =>
    rw [List.mapM_cons] at h
    obtain ⟨first, hfirst, h⟩ := Option.bind_eq_some_iff.1 h
    obtain ⟨later, hlater, h⟩ := Option.bind_eq_some_iff.1 h
    obtain rfl := Option.some.inj h
    obtain ⟨hlength, hkeys⟩ := ih hlater
    refine ⟨by simp [hlength], fun key hkey => ?_⟩
    obtain rfl | hkey := List.mem_cons.1 hkey
    · rw [eq_of_refresh? hfirst]
      exact List.mem_cons_self
    · exact List.mem_cons_of_mem _ (hkeys key hkey)

/-- Closing block collections leaves everything else as it is. -/
theorem closeBlocks_eq (column : Int) (outer : List Int) (l : Lexer) : ∃ tokens count indent outer',
    closeBlocks column outer l = { l with tokens, count, indent, outer := outer' } := by
  induction outer generalizing l with
  | nil => exact ⟨l.tokens, l.count, l.indent, l.outer, rfl⟩
  | cons next outer ih =>
    rw [closeBlocks]
    split
    · exact ih ({ l with indent := next, outer }.push .blockEnd l.source.mark)
    · exact ⟨l.tokens, l.count, l.indent, l.outer, rfl⟩

@[simp]
theorem source_closeTo {column : Int} : (l.closeTo column).source = l.source := by
  unfold closeTo
  split
  · rfl
  · obtain ⟨tokens, count, indent, outer, h⟩ := closeBlocks_eq column l.outer l
    rw [h]

theorem source_refreshKeys? (h : l.refreshKeys? = some next) : next.source = l.source := by
  obtain ⟨current, -, h⟩ := Option.bind_eq_some_iff.1 h
  obtain ⟨enclosing, -, h⟩ := Option.bind_eq_some_iff.1 h
  obtain rfl := Option.some.inj h
  rfl

namespace Sound

theorem start {source : Source} : (Lexer.start source).Sound :=
  ⟨rfl, by simp [Lexer.start], rfl, rfl, rfl, by simp [Lexer.start]⟩

/-- The place in the text and whether a key is allowed do not matter. -/
theorem move (h : l.Sound) (source : Source) (keyAllowed : Bool) :
    { l with source, keyAllowed }.Sound :=
  ⟨h.count, h.keys, h.blocks, h.brackets, h.going⟩

theorem pushAt (h : l.Sound) (hkind : kind.Neutral) (position : Nat) (mark : Mark) :
    (l.pushAt position kind mark).Sound where
  count := by
    simp only [Lexer.pushAt, List.length_append, List.length_take, List.length_cons, List.length_drop,
      ← h.count]
    omega
  keys key hkey := Nat.le_succ_of_le (h.keys key hkey)
  blocks := h.blocks
  brackets := by
    simp only [Lexer.pushAt, openBrackets_insert hkind, List.take_append_drop]
    exact h.brackets
  going := by
    refine ⟨h.going.1, fun token htoken => ?_⟩
    simp only [Lexer.pushAt, List.mem_append, List.mem_cons] at htoken
    obtain htoken | rfl | htoken := htoken
    · exact h.going.2 token (List.mem_of_mem_take htoken)
    · exact hkind.1
    · exact h.going.2 token (List.mem_of_mem_drop htoken)

theorem push (h : l.Sound) (hkind : kind.Neutral) : (l.push kind mark).Sound := by
  simpa [Lexer.pushAt, Lexer.push] using h.pushAt hkind l.count mark

theorem closeBlocks {column : Int} {outer : List Int} (h : l.Sound) (houter : l.outer = outer) :
    (Lexer.closeBlocks column outer l).Sound := by
  induction outer generalizing l with
  | nil => exact h
  | cons next outer ih =>
    rw [Lexer.closeBlocks]
    split
    · have hblocks := h.blocks
      rw [houter] at hblocks
      refine ih (push ⟨h.count, h.keys, hblocks.2, h.brackets, h.going⟩ ?_) rfl
      exact ⟨by simp, fun _ => rfl⟩
    · exact h

theorem closeTo {column : Int} (h : l.Sound) : (l.closeTo column).Sound := by
  unfold Lexer.closeTo
  split
  · exact h
  · exact h.closeBlocks rfl

theorem openBlock {column position : Nat} (h : l.Sound) (hkind : kind.Neutral) :
    (l.openBlock column position kind mark).Sound := by
  unfold Lexer.openBlock
  split
  · have hblocks : Nested column (l.indent :: l.outer) := ⟨Int.natCast_nonneg column, h.blocks⟩
    have hsound : { l with indent := column, outer := l.indent :: l.outer }.Sound :=
      ⟨h.count, h.keys, hblocks, h.brackets, h.going⟩
    exact hsound.pushAt hkind position mark
  · exact h

/-- The possible key of the current level may be forgotten or another one be noted. -/
theorem setCurrent (h : l.Sound) {current : Option PossibleKey}
    (hcurrent : ∀ key ∈ current, key.position ≤ l.count) : { l with current }.Sound := by
  refine ⟨h.count, fun key hkey => ?_, h.blocks, h.brackets, h.going⟩
  obtain hkey | hkey := List.mem_cons.1 hkey
  · exact hcurrent key hkey.symm
  · exact h.keys key (List.mem_cons_of_mem _ hkey)

theorem dropKey? (h : l.Sound) (hnext : l.dropKey? = some next) : next.Sound := by
  unfold Lexer.dropKey? at hnext
  split at hnext
  · split at hnext
    · cases hnext
    · obtain rfl := Option.some.inj hnext
      exact h.setCurrent (by simp)
  · obtain rfl := Option.some.inj hnext
    exact h

theorem noteKey? (h : l.Sound) (hnext : l.noteKey? = some next) : next.Sound := by
  unfold Lexer.noteKey? at hnext
  split at hnext
  · obtain ⟨dropped, hdrop, rfl⟩ := Option.map_eq_some_iff.1 hnext
    exact (h.dropKey? hdrop).setCurrent (by rintro _ ⟨⟩; exact Nat.le_refl _)
  · obtain rfl := Option.some.inj hnext
    exact h

theorem refreshKeys? (h : l.Sound) (hnext : l.refreshKeys? = some next) : next.Sound := by
  obtain ⟨current, hcurrent, hnext⟩ := Option.bind_eq_some_iff.1 hnext
  obtain ⟨enclosing, henclosing, hnext⟩ := Option.bind_eq_some_iff.1 hnext
  obtain rfl := Option.some.inj hnext
  obtain ⟨hlength, hkeys⟩ := mapM_refresh? henclosing
  refine ⟨h.count, fun key hkey => ?_, h.blocks, h.brackets.trans hlength.symm, h.going⟩
  refine h.keys key ?_
  obtain hkey | hkey := List.mem_cons.1 hkey
  · obtain rfl : current = some key := hkey.symm
    rw [eq_of_refresh? hcurrent]
    exact List.mem_cons_self
  · exact List.mem_cons_of_mem _ (hkeys key hkey)

theorem advance (h : l.Sound) : l.advance.Sound :=
  h.move _ _

theorem fetchMarker? (h : l.Sound) (hkind : kind.Neutral) (hnext : l.fetchMarker? kind = some next) :
    next.Sound := by
  obtain ⟨closed, hclosed, rfl⟩ := Option.map_eq_some_iff.1 hnext
  exact ((h.closeTo.dropKey? hclosed).push hkind).move _ _

theorem fetchDirective? (h : l.Sound) (hnext : l.fetchDirective? = some next) : next.Sound := by
  obtain ⟨closed, hclosed, hnext⟩ := Option.bind_eq_some_iff.1 hnext
  obtain ⟨⟨kind, after⟩, hkind, hnext⟩ := Option.bind_eq_some_iff.1 hnext
  obtain rfl := Option.some.inj hnext
  exact ((h.closeTo.dropKey? hclosed).push (neutral_of_directive? hkind)).move _ _

theorem fetchOpening? (h : l.Sound) (hkind : ∀ opened, kind.brackets opened = opened + 1)
    (hend : kind ≠ .streamEnd) (hnext : l.fetchOpening? kind = some next) : next.Sound := by
  obtain ⟨noted, hnoted, rfl⟩ := Option.map_eq_some_iff.1 hnext
  have hsound := h.noteKey? hnoted
  refine ⟨by simp [take, Lexer.push, hsound.count], fun key hkey => ?_, hsound.blocks, ?_, ?_⟩
  · exact Nat.le_succ_of_le (hsound.keys key (by simpa using hkey))
  · simpa [openBrackets, take, Lexer.push, hkind] using hsound.brackets
  · exact ⟨hsound.going.1, by simpa [take, Lexer.push] using ⟨hend, hsound.going.2⟩⟩

theorem fetchClosing? (h : l.Sound) (hkind : ∀ opened, kind.brackets opened = opened - 1)
    (hend : kind ≠ .streamEnd) (hnext : l.fetchClosing? kind = some next) : next.Sound := by
  obtain ⟨dropped, hdropped, rfl⟩ := Option.map_eq_some_iff.1 hnext
  have hsound := h.dropKey? hdropped
  have hbrackets : openBrackets (⟨kind, dropped.source.mark⟩ :: dropped.tokens) =
      dropped.enclosing.length - 1 := by
    rw [← hsound.brackets, ← hkind]
    rfl
  have hgoing : dropped.ended = false ∧
      ∀ token ∈ (⟨kind, dropped.source.mark⟩ :: dropped.tokens : List Token), token.kind ≠ .streamEnd :=
    ⟨hsound.going.1, by simpa using ⟨hend, hsound.going.2⟩⟩
  dsimp only [take, Lexer.push]
  rcases henclosing : dropped.enclosing with _ | ⟨key?, enclosing⟩
  · refine ⟨by simp [hsound.count], fun key hkey => ?_, hsound.blocks, ?_, hgoing⟩
    · exact Nat.le_succ_of_le (hsound.keys key (by simpa [henclosing] using hkey))
    · simpa [henclosing] using hbrackets
  · refine ⟨by simp [hsound.count], fun key hkey => ?_, hsound.blocks, ?_, hgoing⟩
    · exact Nat.le_succ_of_le (hsound.keys key (by simp_all))
    · simpa [henclosing] using hbrackets

theorem fetchComma? (h : l.Sound) (hnext : l.fetchComma? = some next) : next.Sound := by
  obtain ⟨dropped, hdropped, rfl⟩ := Option.map_eq_some_iff.1 hnext
  exact ((h.dropKey? hdropped).push ⟨by simp, fun _ => rfl⟩).move _ _

theorem fetchDash? (h : l.Sound) (hnext : l.fetchDash? = some next) : next.Sound := by
  unfold Lexer.fetchDash? at hnext
  split at hnext
  · cases hnext
  · obtain ⟨dropped, hdropped, rfl⟩ := Option.map_eq_some_iff.1 hnext
    have hopened := (h.openBlock ⟨by simp, fun _ => rfl⟩).dropKey? hdropped
    exact (hopened.push ⟨by simp, fun _ => rfl⟩).move _ _

theorem fetchKey? (h : l.Sound) (hnext : l.fetchKey? = some next) : next.Sound := by
  unfold Lexer.fetchKey? at hnext
  split at hnext
  · cases hnext
  · obtain ⟨dropped, hdropped, rfl⟩ := Option.map_eq_some_iff.1 hnext
    have hopened := (h.openBlock ⟨by simp, fun _ => rfl⟩).dropKey? hdropped
    exact (hopened.push ⟨by simp, fun _ => rfl⟩).move _ _

theorem fetchValue? (h : l.Sound) (hnext : l.fetchValue? = some next) : next.Sound := by
  unfold Lexer.fetchValue? at hnext
  dsimp only at hnext
  split at hnext
  · rename_i key hkey
    obtain rfl := Option.some.inj hnext
    have hkeyed : (l.pushAt key.position .key key.mark).Sound :=
      h.pushAt ⟨by simp, fun _ => rfl⟩ key.position key.mark
    have hopened : ((l.pushAt key.position .key key.mark).openBlock key.mark.column key.position
        .blockMapping key.mark).Sound := hkeyed.openBlock ⟨by simp, fun _ => rfl⟩
    have hdropped := hopened.setCurrent (by simp : ∀ key ∈ (none : Option PossibleKey), _)
    exact (hdropped.push ⟨by simp, fun _ => rfl⟩).move _ _
  · split at hnext
    · cases hnext
    · obtain rfl := Option.some.inj hnext
      have hopened : (l.openBlock l.column l.count .blockMapping l.source.mark).Sound :=
        h.openBlock ⟨by simp, fun _ => rfl⟩
      exact (hopened.push ⟨by simp, fun _ => rfl⟩).move _ _

theorem fetchNode? {read : Source → Option (Token.Kind × Source)} (h : l.Sound)
    (hread : ∀ source kind after, read source = some (kind, after) → kind.Neutral)
    (hnext : l.fetchNode? read = some next) : next.Sound := by
  obtain ⟨noted, hnoted, hnext⟩ := Option.bind_eq_some_iff.1 hnext
  obtain ⟨⟨kind, after⟩, hkind, hnext⟩ := Option.bind_eq_some_iff.1 hnext
  obtain rfl := Option.some.inj hnext
  exact ((h.noteKey? hnoted).push (hread _ _ _ hkind)).move _ _

theorem fetchName? {kind : String → Token.Kind} (h : l.Sound) (hkind : ∀ name, (kind name).Neutral)
    (hnext : l.fetchName? kind = some next) : next.Sound := by
  refine h.fetchNode? (fun source kind after hread => ?_) hnext
  obtain ⟨⟨name, later⟩, -, hread⟩ := Option.map_eq_some_iff.1 hread
  obtain ⟨rfl, -⟩ := Prod.mk.inj hread
  exact hkind name

theorem fetchQuoted? {read : Folding → Mark → List Char → Option (Folding × Source)} (h : l.Sound)
    (hnext : l.fetchQuoted? read = some next) : next.Sound := by
  refine h.fetchNode? (fun source kind after hread => ?_) hnext
  obtain ⟨⟨f, later⟩, -, hread⟩ := Option.map_eq_some_iff.1 hread
  obtain ⟨rfl, -⟩ := Prod.mk.inj hread
  exact ⟨by simp, fun _ => rfl⟩

theorem fetchPlain? (h : l.Sound) (hnext : l.fetchPlain? = some next) : next.Sound := by
  obtain ⟨noted, hnoted, hnext⟩ := Option.bind_eq_some_iff.1 hnext
  obtain ⟨⟨f, after⟩, hf, hnext⟩ := Option.bind_eq_some_iff.1 hnext
  obtain rfl := Option.some.inj hnext
  exact ((h.noteKey? hnoted).push ⟨by simp, fun _ => rfl⟩).move _ _

theorem fetchBlock? {literal : Bool} (h : l.Sound) (hnext : l.fetchBlock? literal = some next) :
    next.Sound := by
  obtain ⟨dropped, hdropped, hnext⟩ := Option.bind_eq_some_iff.1 hnext
  obtain ⟨⟨text, after⟩, htext, hnext⟩ := Option.bind_eq_some_iff.1 hnext
  obtain rfl := Option.some.inj hnext
  exact ((h.dropKey? hdropped).push ⟨by simp, fun _ => rfl⟩).move _ _

theorem fetchLead? {lead : Lead} (h : l.Sound) (hnext : l.fetchLead? lead = some next) :
    next.Sound := by
  cases lead with
  | directive => exact h.fetchDirective? hnext
  | marker start => exact h.fetchMarker? (by cases start <;> exact ⟨by simp, fun _ => rfl⟩) hnext
  | opening brace =>
    exact h.fetchOpening? (by cases brace <;> exact fun _ => rfl) (by cases brace <;> simp) hnext
  | closing brace =>
    exact h.fetchClosing? (by cases brace <;> exact fun _ => rfl) (by cases brace <;> simp) hnext
  | comma => exact h.fetchComma? hnext
  | entry => exact h.fetchDash? hnext
  | key => exact h.fetchKey? hnext
  | value => exact h.fetchValue? hnext
  | name anchor => exact h.fetchName? (fun _ => by cases anchor <;> exact ⟨by simp, fun _ => rfl⟩) hnext
  | tag =>
    have hread (source : Source) (kind : Token.Kind) (after : Source) :
      tagToken? l.flow source = some (kind, after) → kind.Neutral := neutral_of_tagToken?
    exact h.fetchNode? hread hnext
  | block literal => exact h.fetchBlock? hnext
  | quoted double => exact h.fetchQuoted? hnext
  | plain => exact h.fetchPlain? hnext

theorem ready? (h : l.Sound) (hnext : l.ready? = some next) : next.Sound := by
  obtain ⟨fresh, hfresh, rfl⟩ := Option.map_eq_some_iff.1 hnext
  exact (h.advance.refreshKeys? hfresh).closeTo

/-- Unless it ends the text, a step starts at a token and leaves the lexer in order. -/
theorem fetch? (h : l.Sound) (hnext : l.fetch? = some next) (hended : next.ended = false) :
    next.Sound := by
  obtain ⟨here, hhere, hnext⟩ := Option.bind_eq_some_iff.1 hnext
  unfold Lexer.fetchHere? at hnext
  split_ifs at hnext
  · obtain ⟨dropped, -, rfl⟩ := Option.map_eq_some_iff.1 hnext
    cases hended
  · obtain ⟨lead, -, hnext⟩ := Option.bind_eq_some_iff.1 hnext
    exact (h.ready? hhere).fetchLead? hnext

end Sound

theorem source_ready? (h : l.ready? = some next) : next.source = l.advance.source := by
  obtain ⟨fresh, hfresh, rfl⟩ := Option.map_eq_some_iff.1 h
  rw [source_closeTo, source_refreshKeys? hfresh]

end Lexer

end StreamPlan.Yaml
