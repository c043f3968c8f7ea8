import StreamPlan.Proofs.Yaml.Lexer.Invariant

/-!
# The lexer inside a longer text

The lexer that reads a text inside a longer one has the tokens of what stands before it, and its places
are those of the longer text. Every step does the same there, unless the step reaches the end of the text
and more follows.
-/

namespace StreamPlan.Yaml

/-- A token, inside the longer text. -/
def Token.within (frame : Frame) (token : Token) : Token :=
  { token with mark := token.mark.within frame }

/-- A possible key, after a number of tokens of the longer text. -/
def PossibleKey.within (frame : Frame) (before : Nat) (key : PossibleKey) : PossibleKey :=
  { key with position := key.position + before, mark := key.mark.within frame }

namespace Lexer

/-- The lexer inside the longer text, after the tokens `before`, of which the last comes first. -/
def within (frame : Frame) (before : List Token) (l : Lexer) : Lexer :=
  { l with
      source := l.source.within frame
      tokens := l.tokens.map (Token.within frame) ++ before
      count := l.count + before.length
      current := l.current.map (PossibleKey.within frame before.length)
      enclosing := l.enclosing.map (Option.map (PossibleKey.within frame before.length)) }

variable {frame : Frame} {before : List Token} {l next : Lexer} {kind : Token.Kind} {mark : Mark}

@[simp]
theorem source_within : (l.within frame before).source = l.source.within frame := rfl

@[simp]
theorem count_within : (l.within frame before).count = l.count + before.length := rfl

@[simp]
theorem keyAllowed_within : (l.within frame before).keyAllowed = l.keyAllowed := rfl

@[simp]
theorem current_within :
    (l.within frame before).current = l.current.map (PossibleKey.within frame before.length) := rfl

@[simp]
theorem enclosing_within : (l.within frame before).enclosing =
    l.enclosing.map (Option.map (PossibleKey.within frame before.length)) := rfl

@[simp]
theorem flow_within : (l.within frame before).flow = l.flow := by
  simp [flow, within]

@[simp]
theorem column_within : (l.within frame before).column = l.column := by
  simp [column]

/-! ## Tokens -/

theorem push_within :
    (l.within frame before).push kind (mark.within frame) = (l.push kind mark).within frame before := by
  simp [push, within, Token.within, Nat.add_right_comm]

theorem take_within {width : Nat} (h : width ≤ l.source.rest.length) :
    (l.within frame before).take kind width = (l.take kind width).within frame before := by
  rw [take, source_within, Source.mark_within, push_within, Source.forward_within h]
  rfl

theorem pushAt_within {position : Nat} (h : l.count = l.tokens.length) :
    (l.within frame before).pushAt (position + before.length) kind (mark.within frame) =
      (l.pushAt position kind mark).within frame before := by
  have hlater : l.count - position ≤ (l.tokens.map (Token.within frame)).length := by
    rw [List.length_map, ← h]
    exact Nat.sub_le _ _
  simp only [pushAt, within, Nat.add_sub_add_right, List.take_append_of_le_length hlater,
    List.drop_append_of_le_length hlater, List.map_append, List.map_cons, List.map_take, List.map_drop,
    List.append_assoc, List.cons_append, Nat.add_right_comm]
  rfl

/-! ## Block collections -/

theorem openBlock_within {column position : Nat} (h : l.count = l.tokens.length) :
    (l.within frame before).openBlock column (position + before.length) kind (mark.within frame) =
      (l.openBlock column position kind mark).within frame before := by
  unfold openBlock
  rw [flow_within]
  split_ifs with hopens hopens' hopens'
  · exact pushAt_within (l := { l with indent := column, outer := l.indent :: l.outer }) h
  · exact absurd hopens hopens'
  · exact absurd hopens' hopens
  · rfl

theorem closeBlocks_within {column : Int} {outer : List Int} :
    closeBlocks column outer (l.within frame before) =
      (closeBlocks column outer l).within frame before := by
  induction outer generalizing l with
  | nil => rfl
  | cons next outer ih =>
    rw [closeBlocks, closeBlocks]
    show (if column < l.indent then _ else _) = _
    split
    · rw [← ih, ← push_within]
      rfl
    · rfl

theorem closeTo_within {column : Int} :
    (l.within frame before).closeTo column = (l.closeTo column).within frame before := by
  unfold closeTo
  rw [flow_within]
  split
  · rfl
  · exact closeBlocks_within

/-! ## Possible keys -/

theorem isStale_within {count : Nat} {key : PossibleKey} :
    isStale (mark.within frame) (key.within frame count) = isStale mark key := by
  simp [isStale, PossibleKey.within, Mark.within, Nat.add_right_comm _ frame.bytes]

theorem refresh?_within {count : Nat} {key? : Option PossibleKey} :
    refresh? (mark.within frame) (key?.map (PossibleKey.within frame count)) =
      (refresh? mark key?).map (Option.map (PossibleKey.within frame count)) := by
  cases key? with
  | none => rfl
  | some key =>
    rw [Option.map_some, refresh?, refresh?, isStale_within]
    show (if isStale mark key = true then if key.required = true then _ else _ else _) = _
    split_ifs <;> rfl

theorem mapM_refresh?_within {count : Nat} {keys fresh : List (Option PossibleKey)}
    (h : keys.mapM (refresh? mark) = some fresh) :
    (keys.map (Option.map (PossibleKey.within frame count))).mapM (refresh? (mark.within frame)) =
      some (fresh.map (Option.map (PossibleKey.within frame count))) := by
  induction keys generalizing fresh with
  | nil =>
    obtain rfl := Option.some.inj h
    rfl
  | cons key? keys ih =>
    rw [List.mapM_cons] at h
    obtain ⟨first, hfirst, h⟩ := Option.bind_eq_some_iff.1 h
    obtain ⟨later, hlater, h⟩ := Option.bind_eq_some_iff.1 h
    obtain rfl := Option.some.inj h
    rw [List.map_cons, List.mapM_cons, refresh?_within, hfirst, ih hlater]
    rfl

theorem refreshKeys?_within (hnext : l.refreshKeys? = some next) :
    (l.within frame before).refreshKeys? = some (next.within frame before) := by
  obtain ⟨current, hcurrent, hnext⟩ := Option.bind_eq_some_iff.1 hnext
  obtain ⟨enclosing, henclosing, hnext⟩ := Option.bind_eq_some_iff.1 hnext
  obtain rfl := Option.some.inj hnext
  rw [refreshKeys?, source_within, Source.mark_within, current_within, refresh?_within, hcurrent,
    enclosing_within, mapM_refresh?_within henclosing]
  rfl

theorem dropKey?_within (hnext : l.dropKey? = some next) :
    (l.within frame before).dropKey? = some (next.within frame before) := by
  unfold dropKey? at hnext ⊢
  rw [current_within]
  cases hcurrent : l.current with
  | none =>
    rw [hcurrent] at hnext
    obtain rfl := Option.some.inj hnext
    rfl
  | some key =>
    rw [hcurrent] at hnext
    show (if key.required = true then none else _) = _
    dsimp only at hnext
    split_ifs at hnext ⊢
    obtain rfl := Option.some.inj hnext
    rfl

theorem noteKey?_within (hnext : l.noteKey? = some next) :
    (l.within frame before).noteKey? = some (next.within frame before) := by
  unfold noteKey? at hnext ⊢
  rw [keyAllowed_within]
  split_ifs at hnext ⊢
  · obtain ⟨dropped, hdropped, rfl⟩ := Option.map_eq_some_iff.1 hnext
    rw [dropKey?_within hdropped, Option.map_some, flow_within, column_within]
    rfl
  · obtain rfl := Option.some.inj hnext
    rfl

theorem source_dropKey? (h : l.dropKey? = some next) : next.source = l.source := by
  unfold dropKey? at h
  split at h
  · split_ifs at h
    obtain rfl := Option.some.inj h
    rfl
  · obtain rfl := Option.some.inj h
    rfl

theorem source_noteKey? (h : l.noteKey? = some next) : next.source = l.source := by
  unfold noteKey? at h
  split_ifs at h
  · obtain ⟨dropped, hdropped, rfl⟩ := Option.map_eq_some_iff.1 h
    exact (source_dropKey? hdropped : dropped.source = l.source)
  · obtain rfl := Option.some.inj h
    rfl

theorem source_openBlock {column position : Nat} :
    (l.openBlock column position kind mark).source = l.source := by
  unfold openBlock
  split <;> rfl

/-! ## Tokens that stay on their line, and quoted scalars -/

theorem fetchMarker?_within (hrest : 3 ≤ l.source.rest.length)
    (hnext : l.fetchMarker? kind = some next) :
    (l.within frame before).fetchMarker? kind = some (next.within frame before) := by
  obtain ⟨dropped, hdropped, rfl⟩ := Option.map_eq_some_iff.1 hnext
  have hsource : dropped.source = l.source := (source_dropKey? hdropped).trans source_closeTo
  rw [fetchMarker?, closeTo_within, dropKey?_within hdropped, Option.map_some,
    take_within (hsource ▸ hrest)]
  rfl

theorem fetchOpening?_within (hrest : 1 ≤ l.source.rest.length)
    (hnext : l.fetchOpening? kind = some next) :
    (l.within frame before).fetchOpening? kind = some (next.within frame before) := by
  obtain ⟨noted, hnoted, rfl⟩ := Option.map_eq_some_iff.1 hnext
  have hsource : noted.source = l.source := source_noteKey? hnoted
  rw [fetchOpening?, noteKey?_within hnoted, Option.map_some,
    take_within (hsource ▸ hrest)]
  rfl

theorem fetchClosing?_within (hrest : 1 ≤ l.source.rest.length)
    (hnext : l.fetchClosing? kind = some next) :
    (l.within frame before).fetchClosing? kind = some (next.within frame before) := by
  obtain ⟨dropped, hdropped, rfl⟩ := Option.map_eq_some_iff.1 hnext
  have hsource : dropped.source = l.source := source_dropKey? hdropped
  rw [fetchClosing?, dropKey?_within hdropped, Option.map_some,
    take_within (hsource ▸ hrest)]
  dsimp only [take, push, within]
  cases dropped.enclosing <;> rfl

theorem fetchComma?_within (hrest : 1 ≤ l.source.rest.length) (hnext : l.fetchComma? = some next) :
    (l.within frame before).fetchComma? = some (next.within frame before) := by
  obtain ⟨dropped, hdropped, rfl⟩ := Option.map_eq_some_iff.1 hnext
  have hsource : dropped.source = l.source := source_dropKey? hdropped
  rw [fetchComma?, dropKey?_within hdropped, Option.map_some,
    take_within (hsource ▸ hrest)]
  rfl

theorem fetchDash?_within (h : l.Sound) (hrest : 1 ≤ l.source.rest.length)
    (hnext : l.fetchDash? = some next) :
    (l.within frame before).fetchDash? = some (next.within frame before) := by
  unfold fetchDash? at hnext ⊢
  rw [flow_within, keyAllowed_within]
  split_ifs at hnext ⊢
  obtain ⟨dropped, hdropped, rfl⟩ := Option.map_eq_some_iff.1 hnext
  have hsource : dropped.source = l.source := (source_dropKey? hdropped).trans source_openBlock
  rw [count_within, column_within, source_within, Source.mark_within, openBlock_within h.count,
    dropKey?_within hdropped, Option.map_some, take_within (hsource ▸ hrest)]
  rfl

theorem fetchKey?_within (h : l.Sound) (hrest : 1 ≤ l.source.rest.length)
    (hnext : l.fetchKey? = some next) :
    (l.within frame before).fetchKey? = some (next.within frame before) := by
  unfold fetchKey? at hnext ⊢
  rw [flow_within, keyAllowed_within]
  split_ifs at hnext ⊢
  obtain ⟨dropped, hdropped, rfl⟩ := Option.map_eq_some_iff.1 hnext
  have hsource : dropped.source = l.source := (source_dropKey? hdropped).trans source_openBlock
  rw [count_within, column_within, source_within, Source.mark_within, openBlock_within h.count,
    dropKey?_within hdropped, Option.map_some, take_within (hsource ▸ hrest), flow_within]
  rfl

theorem fetchValue?_within (h : l.Sound) (hrest : 1 ≤ l.source.rest.length)
    (hnext : l.fetchValue? = some next) :
    (l.within frame before).fetchValue? = some (next.within frame before) := by
  unfold fetchValue? at hnext ⊢
  rw [current_within]
  cases hcurrent : l.current with
  | none =>
    rw [hcurrent] at hnext
    dsimp only [Option.map_none] at hnext ⊢
    rw [flow_within, keyAllowed_within]
    split_ifs at hnext ⊢
    obtain rfl := Option.some.inj hnext
    have hopened : 1 ≤ (l.openBlock l.column l.count .blockMapping l.source.mark).source.rest.length := by
      rwa [source_openBlock]
    rw [count_within, column_within, source_within, Source.mark_within, openBlock_within h.count,
      take_within hopened, flow_within]
    rfl
  | some key =>
    rw [hcurrent] at hnext
    obtain rfl := Option.some.inj hnext
    have hkeyed : (l.pushAt key.position .key key.mark).count =
        (l.pushAt key.position .key key.mark).tokens.length :=
      (h.pushAt ⟨by simp, fun _ => rfl⟩ key.position key.mark).count
    have hopened : 1 ≤ ((l.pushAt key.position .key key.mark).openBlock key.mark.column key.position
        .blockMapping key.mark).source.rest.length := by
      rwa [source_openBlock]
    dsimp only [Option.map_some, PossibleKey.within]
    rw [pushAt_within h.count, Mark.column_within, openBlock_within hkeyed, take_within hopened]
    rfl

theorem fetchNode?_within {read : Source → Option (Token.Kind × Source)}
    (hread : ∀ kind after, read l.source = some (kind, after) →
      read (l.source.within frame) = some (kind, after.within frame))
    (hnext : l.fetchNode? read = some next) :
    (l.within frame before).fetchNode? read = some (next.within frame before) := by
  obtain ⟨noted, hnoted, hnext⟩ := Option.bind_eq_some_iff.1 hnext
  obtain ⟨⟨kind, after⟩, hkind, hnext⟩ := Option.bind_eq_some_iff.1 hnext
  obtain rfl := Option.some.inj hnext
  rw [← source_noteKey? hnoted] at hread
  rw [fetchNode?, noteKey?_within hnoted, Option.bind_eq_bind, Option.bind_some, source_within,
    hread kind after hkind, Option.bind_eq_bind, Option.bind_some]
  show some { (noted.within frame before).push kind (noted.source.mark.within frame) with
    source := after.within frame, keyAllowed := false } = _
  rw [push_within]
  rfl

theorem fetchName?_within {kind : String → Token.Kind} (hrest : 1 ≤ l.source.rest.length)
    (hnext : l.fetchName? kind = some next) :
    (l.within frame before).fetchName? kind = some (next.within frame before) := by
  refine fetchNode?_within (fun kind after hread => ?_) hnext
  obtain ⟨⟨name, later⟩, hname, hread⟩ := Option.map_eq_some_iff.1 hread
  obtain ⟨rfl, rfl⟩ := Prod.mk.inj hread
  rw [Source.forward_within hrest, anchorName?_within, hname]
  rfl

theorem fetchQuoted?_within {read : Folding → Mark → List Char → Option (Folding × Source)}
    (hread : ∀ f g mark cs after, read f mark cs = some (g, after) →
      read f (mark.within frame) (cs ++ frame.tail) = some (g, after.within frame))
    (hrest : 1 ≤ l.source.rest.length) (hnext : l.fetchQuoted? read = some next) :
    (l.within frame before).fetchQuoted? read = some (next.within frame before) := by
  refine fetchNode?_within (fun kind after hfolded => ?_) hnext
  obtain ⟨⟨f, later⟩, hf, hfolded⟩ := Option.map_eq_some_iff.1 hfolded
  obtain ⟨rfl, rfl⟩ := Prod.mk.inj hfolded
  rw [Source.forward_within hrest]
  exact (congrArg (Option.map _) (hread _ _ _ _ _ hf)).trans rfl

/-! ## Tokens that may run over several lines -/

theorem fetchDirective?_within (hrest : 1 ≤ l.source.rest.length)
    (hnext : l.fetchDirective? = some next)
    (hend : frame.tail = [] ∨ next.source.rest ≠ []) :
    (l.within frame before).fetchDirective? = some (next.within frame before) := by
  obtain ⟨dropped, hdropped, hnext⟩ := Option.bind_eq_some_iff.1 hnext
  obtain ⟨⟨kind, after⟩, hkind, hnext⟩ := Option.bind_eq_some_iff.1 hnext
  obtain rfl := Option.some.inj hnext
  have hsource : dropped.source = l.source := (source_dropKey? hdropped).trans source_closeTo
  rw [fetchDirective?, closeTo_within, dropKey?_within hdropped, Option.bind_eq_bind, Option.bind_some,
    source_within, Source.forward_within (hsource ▸ hrest), directive?_within hkind hend,
    Option.bind_eq_bind, Option.bind_some]
  show some { (dropped.within frame before).push kind (dropped.source.mark.within frame) with
    source := after.within frame, keyAllowed := false } = _
  rw [push_within]
  rfl

theorem fetchPlain?_within (hnext : l.fetchPlain? = some next)
    (hend : frame.tail = [] ∨ next.source.rest ≠ []) :
    (l.within frame before).fetchPlain? = some (next.within frame before) := by
  obtain ⟨noted, hnoted, hnext⟩ := Option.bind_eq_some_iff.1 hnext
  obtain ⟨⟨f, after⟩, hf, hnext⟩ := Option.bind_eq_some_iff.1 hnext
  obtain rfl := Option.some.inj hnext
  have hindent : (noted.within frame before).indent = noted.indent := rfl
  rw [fetchPlain?, noteKey?_within hnoted, Option.bind_eq_bind, Option.bind_some, source_within,
    flow_within, hindent, Source.mark_within, Source.rest_within, plainText?_within hf hend,
    Option.bind_eq_bind, Option.bind_some]
  show some { (noted.within frame before).push (.scalar f.result true)
    (noted.source.mark.within frame) with
    source := after.within frame, keyAllowed := f.broken } = _
  rw [push_within]
  rfl

theorem fetchBlock?_within {literal : Bool} (hrest : 1 ≤ l.source.rest.length)
    (hnext : l.fetchBlock? literal = some next) (hend : frame.tail = [] ∨ next.source.rest ≠ []) :
    (l.within frame before).fetchBlock? literal = some (next.within frame before) := by
  obtain ⟨dropped, hdropped, hnext⟩ := Option.bind_eq_some_iff.1 hnext
  obtain ⟨⟨text, after⟩, htext, hnext⟩ := Option.bind_eq_some_iff.1 hnext
  obtain rfl := Option.some.inj hnext
  have hsource : dropped.source = l.source := source_dropKey? hdropped
  have hindent : (dropped.within frame before).indent = dropped.indent := rfl
  rw [fetchBlock?, dropKey?_within hdropped, Option.bind_eq_bind, Option.bind_some, source_within,
    hindent, Source.forward_within (hsource ▸ hrest), blockText?_within htext hend,
    Option.bind_eq_bind, Option.bind_some]
  show some { (dropped.within frame before).push (.scalar text false)
    (dropped.source.mark.within frame) with
    source := after.within frame, keyAllowed := true } = _
  rw [push_within]
  rfl

/-! ## Any token -/

/-- Whether a token may run over several lines without a mark at its end. -/
def Lead.spans : Lead → Bool
  | .directive | .block _ | .plain => true
  | _ => false

theorem startsPlain_tail {flow : Bool} {c : Char} {cs : List Char} :
    startsPlain flow (c :: (cs ++ frame.tail)) = startsPlain flow (c :: cs) := by
  simp only [startsPlain, Frame.atGap_tail, Frame.atWordEnd_tail]

theorem lead?_tail {flow lineStart : Bool} {c : Char} {cs : List Char} :
    lead? flow lineStart (c :: (cs ++ frame.tail)) = lead? flow lineStart (c :: cs) := by
  simp only [lead?, startsPlain_tail, Frame.atWordEnd_tail, Frame.atDocumentMarker_cons_tail]

theorem length_of_lead? {flow lineStart : Bool} {cs : List Char} {lead : Lead}
    (h : lead? flow lineStart cs = some lead) : 1 ≤ cs.length := by
  cases cs with
  | nil => cases h
  | cons c cs => exact Nat.le_add_left 1 cs.length

theorem length_of_marker {flow lineStart start : Bool} {cs : List Char}
    (h : lead? flow lineStart cs = some (.marker start)) : 3 ≤ cs.length := by
  cases cs with
  | nil => cases h
  | cons c cs =>
    by_cases hmarker : (lineStart && atDocumentMarker (c :: cs)) = true
    · obtain ⟨c, rest, -, hrest, -⟩ := Frame.atDocumentMarker_iff.1 (Bool.and_eq_true_iff.1 hmarker).2
      rw [hrest]
      exact Nat.le_add_left 3 rest.length
    · -- Every other branch gives a lead of another sort.
      rw [lead?.eq_2, if_neg hmarker] at h
      simp only [ite_eq_iff, Option.some.injEq, reduceCtorEq, and_false, false_or] at h

theorem fetchLead?_within_of_not_spans {lead : Lead} (h : l.Sound)
    (hlead : lead? l.flow (l.column = 0) l.source.rest = some lead) (hspans : lead.spans = false)
    (hnext : l.fetchLead? lead = some next) :
    (l.within frame before).fetchLead? lead = some (next.within frame before) := by
  have hrest := length_of_lead? hlead
  cases lead with
  | directive => cases hspans
  | marker start => exact fetchMarker?_within (length_of_marker hlead) hnext
  | opening brace => exact fetchOpening?_within hrest hnext
  | closing brace => exact fetchClosing?_within hrest hnext
  | comma => exact fetchComma?_within hrest hnext
  | entry => exact fetchDash?_within h hrest hnext
  | key => exact fetchKey?_within h hrest hnext
  | value => exact fetchValue?_within h hrest hnext
  | name anchor => exact fetchName?_within hrest hnext
  | tag =>
    rw [fetchLead?, flow_within]
    refine fetchNode?_within (fun kind after htag => ?_) hnext
    rw [tagToken?_within, htag]
    rfl
  | block literal => cases hspans
  | quoted double =>
    refine fetchQuoted?_within (fun f g mark cs after hread => ?_) hrest hnext
    cases double
    · exact singleQuoted?_within hread
    · exact doubleQuoted?_within hread
  | plain => cases hspans

theorem fetchLead?_within {lead : Lead} (h : l.Sound)
    (hlead : lead? l.flow (l.column = 0) l.source.rest = some lead)
    (hnext : l.fetchLead? lead = some next) (hend : frame.tail = [] ∨ next.source.rest ≠ []) :
    (l.within frame before).fetchLead? lead = some (next.within frame before) := by
  have hrest := length_of_lead? hlead
  cases hspans : lead.spans with
  | false => exact fetchLead?_within_of_not_spans h hlead hspans hnext
  | true =>
    cases lead with
    | directive => exact fetchDirective?_within hrest hnext hend
    | block literal => exact fetchBlock?_within hrest hnext hend
    | plain => exact fetchPlain?_within hnext hend
    | _ => cases hspans

theorem finish?_within (hnext : l.finish? = some next) :
    (l.within frame before).finish? = some (next.within frame before) := by
  obtain ⟨dropped, hdropped, rfl⟩ := Option.map_eq_some_iff.1 hnext
  rw [finish?, closeTo_within, dropKey?_within hdropped, Option.map_some, source_within,
    Source.mark_within, push_within]
  rfl

theorem advance_within (hend : frame.tail = [] ∨ l.advance.source.rest ≠ []) :
    (l.within frame before).advance = l.advance.within frame before := by
  have hgaps : passGaps l.flow false l.keyAllowed (l.source.mark.within frame)
      (l.source.rest ++ frame.tail) =
      (l.advance.keyAllowed, l.advance.source.within frame) := passGaps_within rfl hend
  rw [advance, flow_within, keyAllowed_within, source_within, Source.mark_within, Source.rest_within,
    hgaps]
  rfl

theorem ready?_within (hnext : l.ready? = some next) (hend : frame.tail = [] ∨ next.source.rest ≠ []) :
    (l.within frame before).ready? = some (next.within frame before) := by
  rw [source_ready? hnext] at hend
  obtain ⟨fresh, hfresh, rfl⟩ := Option.map_eq_some_iff.1 hnext
  rw [ready?, advance_within hend, refreshKeys?_within hfresh, Option.map_some, column_within,
    closeTo_within]

/-- At a token, what follows the text does not decide of which sort the token is. -/
theorem fetchHere?_within (hrest : l.source.rest ≠ []) :
    (l.within frame before).fetchHere? =
      (lead? l.flow (l.column = 0) l.source.rest).bind (l.within frame before).fetchLead? := by
  obtain ⟨c, rest, hcs⟩ := List.exists_cons_of_ne_nil hrest
  rw [fetchHere?, source_within, Source.rest_within, hcs, List.cons_append, if_neg (by simp),
    flow_within, column_within, lead?_tail]

/-- Where nothing follows the text, every step does the same. -/
theorem fetch?_within (htail : frame.tail = []) (h : l.Sound) (hnext : l.fetch? = some next) :
    (l.within frame before).fetch? = some (next.within frame before) := by
  obtain ⟨here, hhere, hnext⟩ := Option.bind_eq_some_iff.1 hnext
  rw [fetch?, ready?_within hhere (.inl htail), Option.bind_some]
  unfold fetchHere? at hnext
  split_ifs at hnext with hrest
  · rw [List.isEmpty_iff] at hrest
    rw [fetchHere?, source_within, Source.rest_within, hrest, htail]
    exact finish?_within hnext
  · obtain ⟨lead, hlead, hnext⟩ := Option.bind_eq_some_iff.1 hnext
    rw [fetchHere?_within (by simpa using hrest), hlead, Option.bind_some]
    exact fetchLead?_within (h.ready? hhere) hlead hnext (.inl htail)

end Lexer

end StreamPlan.Yaml
