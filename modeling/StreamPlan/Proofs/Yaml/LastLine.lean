import Mathlib.Tactic.Tauto
import StreamPlan.Proofs.Yaml.Frame

/-!
# The end of a text inside a longer one

A reader that comes to the end of its text passes, in a longer text, the line break there and stops before
what follows, if that is a document marker or nothing. What it has read is the same, except that a line
break may belong to the text of a block scalar.
-/

namespace StreamPlan.Yaml

/-- What stops every reader at the start of a line. -/
def Closes (cs : List Char) : Prop := cs = [] ∨ atDocumentMarker cs = true

/-- A text that a line break and more follow. -/
def Frame.line (rest : List Char) : Frame := ⟨0, 0, '\n' :: rest, .inr ⟨rest, rfl⟩⟩

variable {mark : Mark} {cs rest : List Char} {after : Source}

@[simp]
theorem Mark.within_line : mark.within (.line rest) = mark := by
  simp [Mark.within, Frame.line]

@[simp]
theorem Frame.tail_line : (Frame.line rest).tail = '\n' :: rest := rfl

theorem Closes.eq_nil_or (h : Closes cs) :
    cs = [] ∨ ∃ c later, cs = c :: later ∧ (c = '-' ∨ c = '.') ∧
      atDocumentMarker (c :: later) = true := by
  refine h.imp_right fun hmarker => ?_
  obtain ⟨c, later, hc, rfl, -⟩ := Frame.atDocumentMarker_iff.1 hmarker
  exact ⟨c, c :: c :: later, rfl, hc, hmarker⟩

/-! ## Readers stop -/

theorem plainText?_of_closes {flow : Bool} {indent : Int} {f : Folding} (hcs : Closes cs)
    (hf : f.pending = true) (hmark : mark.column = 0) :
    plainText? flow indent f mark cs = some (f, ⟨cs, mark⟩) := by
  obtain rfl | ⟨c, later, rfl, hc, hmarker⟩ := hcs.eq_nil_or
  · rfl
  · have hbreak : ¬isBreak c = true := by obtain rfl | rfl := hc <;> decide
    have hgap : ¬isGap c = true := by obtain rfl | rfl := hc <;> decide
    rw [plainText?_cons hbreak, if_neg hgap, if_pos]
    simp [hf, hmark, hmarker]

theorem passGaps_of_closes {flow keyAllowed : Bool} (hcs : Closes cs) :
    Lexer.passGaps flow false keyAllowed mark cs = (keyAllowed, ⟨cs, mark⟩) := by
  obtain rfl | ⟨c, later, rfl, hc, hmarker⟩ := hcs.eq_nil_or
  · rfl
  · obtain rfl | rfl := hc <;> rw [passGaps_cons (by decide)] <;> simp

theorem blockGap?_of_closes {indent deepest : Nat} {breaks : List Char} (hcs : Closes cs) :
    blockGap? indent breaks deepest mark cs = some ⟨breaks, max deepest mark.column, ⟨cs, mark⟩⟩ := by
  obtain rfl | ⟨c, later, rfl, hc, hmarker⟩ := hcs.eq_nil_or
  · rfl
  · obtain rfl | rfl := hc <;>
      rw [blockGap?.eq_3 _ _ _ _ _ _ (Frame.not_crlf_of_not_isBreak (by decide))] <;>
      simp [isBreak]

theorem blockLines?_of_column {literal : Bool} {indent fuel : Nat} {lines : BlockLines}
    {source : Source}
    (hmark : source.mark.column = 0) (hindent : 0 < indent) :
    blockLines? literal indent fuel lines source = some (lines, source) := by
  cases fuel <;> simp [blockLines?, hmark, Nat.ne_of_lt hindent]

/-! ## Readers pass the last line break -/

@[simp]
theorem Folding.text_lineBreak {f : Folding} {c : Char} : (f.lineBreak c).text = f.text := by
  unfold Folding.lineBreak
  split <;> rfl

@[simp]
theorem Folding.pending_lineBreak {f : Folding} {c : Char} : (f.lineBreak c).pending = true := by
  unfold Folding.lineBreak
  split <;> simp_all [Folding.pending]

/-- A plain scalar ends before the line break. -/
theorem plainText?_line {flow : Bool} {indent : Int} {f g : Folding}
    (h : plainText? flow indent f mark cs = some (g, after)) (hafter : after.rest = []) :
    ∃ g' mark', g'.text = g.text ∧ mark'.column = 0 ∧ ∀ rest, Closes rest →
      plainText? flow indent f mark (cs ++ (Frame.line rest).tail) = some (g', ⟨rest, mark'⟩) := by
  fun_induction plainText? flow indent f mark cs
  -- The scalar reaches the end, where the line break now follows.
  case case1 f mark =>
    obtain ⟨rfl, rfl⟩ := Prod.mk.inj (Option.some.inj h)
    refine ⟨f.lineBreak '\n', mark.newline 1, by simp, rfl, fun rest hrest => ?_⟩
    exact plainText?_of_closes hrest (by simp) rfl
  case case2 f mark cs ih => exact ih h
  case case3 f mark c cs hcr hbreak ih =>
    by_cases hend : c = '\r' ∧ cs = []
    · -- The carriage return and the line break are one.
      obtain ⟨rfl, rfl⟩ := hend
      obtain ⟨rfl, rfl⟩ := Prod.mk.inj (Option.some.inj h)
      refine ⟨f.lineBreak '\n', mark.newline 2, by simp, rfl, fun rest hrest => ?_⟩
      exact plainText?_of_closes hrest (by simp) rfl
    · obtain ⟨g', mark', htext, hmark, hline⟩ := ih h
      refine ⟨g', mark', htext, hmark, fun rest hrest => ?_⟩
      have hne : cs ≠ [] ∨ c ≠ '\r' := by tauto
      rw [List.cons_append, plainText?.eq_3 _ _ _ _ _ _ (Frame.not_crlf hcr (.inr hne)), if_pos hbreak,
        hline rest hrest]
  case case4 | case7 => cases h
  case case5 f mark c cs hcr hbreak hgap htab ih =>
    obtain ⟨g', mark', htext, hmark, hline⟩ := ih h
    refine ⟨g', mark', htext, hmark, fun rest hrest => ?_⟩
    rw [List.cons_append, plainText?_cons hbreak, if_pos hgap, if_neg htab, hline rest hrest]
  -- The scalar ends earlier than the source, against the assumption.
  case case6 | case8 =>
    obtain ⟨rfl, rfl⟩ := Prod.mk.inj (Option.some.inj h)
    cases hafter
  case case9 f mark c cs hcr hbreak hgap hgo hcolon hchar ih =>
    obtain ⟨g', mark', htext, hmark, hline⟩ := ih h
    refine ⟨g', mark', htext, hmark, fun rest hrest => ?_⟩
    rw [List.cons_append, plainText?_cons hbreak, if_neg hgap, Frame.atDocumentMarker_cons_tail,
      if_neg hgo, Frame.atValueEnd_tail, if_neg hcolon, Frame.atWordEnd_tail, if_neg hchar,
      hline rest hrest]

theorem passGaps_line {flow comment keyAllowed keyAllowed' : Bool}
    (h : Lexer.passGaps flow comment keyAllowed mark cs = (keyAllowed', after))
    (hafter : after.rest = []) :
    ∃ allowed mark', mark'.column = 0 ∧ ∀ rest, Closes rest →
      Lexer.passGaps flow comment keyAllowed mark (cs ++ (Frame.line rest).tail) =
        (allowed, ⟨rest, mark'⟩) := by
  fun_induction Lexer.passGaps flow comment keyAllowed mark cs
  case case1 comment keyAllowed mark =>
    refine ⟨keyAllowed || !flow, mark.newline 1, rfl, fun rest hrest => ?_⟩
    exact passGaps_of_closes hrest
  case case2 ih => exact ih h
  case case3 comment keyAllowed mark c cs hcr hbreak ih =>
    by_cases hend : c = '\r' ∧ cs = []
    -- The carriage return and the line break are one.
    · obtain ⟨rfl, rfl⟩ := hend
      refine ⟨keyAllowed || !flow, mark.newline 2, rfl, fun rest hrest => ?_⟩
      exact passGaps_of_closes hrest
    · obtain ⟨allowed, mark', hmark, hline⟩ := ih h
      refine ⟨allowed, mark', hmark, fun rest hrest => ?_⟩
      have hne : cs ≠ [] ∨ c ≠ '\r' := by tauto
      rw [List.cons_append, Lexer.passGaps.eq_3 _ _ _ _ _ _ (Frame.not_crlf hcr (.inr hne)),
        if_pos hbreak, hline rest hrest]
  case case4 hbreak ih =>
    obtain ⟨allowed, mark', hmark, hline⟩ := ih h
    refine ⟨allowed, mark', hmark, fun rest hrest => ?_⟩
    rw [List.cons_append, passGaps_cons hbreak, if_pos rfl, hline rest hrest]
  case case5 hcomment _ hbreak ih =>
    obtain ⟨allowed, mark', hmark, hline⟩ := ih h
    refine ⟨allowed, mark', hmark, fun rest hrest => ?_⟩
    rw [List.cons_append, passGaps_cons hbreak, if_neg hcomment, if_pos rfl, hline rest hrest]
  case case6 hbreak hcomment hsharp hgap ih =>
    obtain ⟨allowed, mark', hmark, hline⟩ := ih h
    refine ⟨allowed, mark', hmark, fun rest hrest => ?_⟩
    rw [List.cons_append, passGaps_cons hbreak, if_neg hcomment, if_neg hsharp, if_pos hgap,
      hline rest hrest]
  case case7 =>
    obtain ⟨rfl, rfl⟩ := Prod.mk.inj h
    cases hafter

theorem blockGap?_line {indent deepest : Nat} {breaks : List Char} {gap : BlockGap}
    (h : blockGap? indent breaks deepest mark cs = some gap) (hgap : gap.source.rest = []) :
    ∃ breaks' mark', mark'.column = 0 ∧ ∀ rest, Closes rest →
      blockGap? indent breaks deepest mark (cs ++ (Frame.line rest).tail) =
        some ⟨breaks', gap.deepest, ⟨rest, mark'⟩⟩ := by
  fun_induction blockGap? indent breaks deepest mark cs
  case case1 breaks deepest mark =>
    obtain rfl := Option.some.inj h
    refine ⟨'\n' :: breaks, mark.newline 1, rfl, fun rest hrest => ?_⟩
    rw [List.nil_append, Frame.tail_line, blockGap?.eq_3 _ _ _ _ _ _ (by simp)]
    simp [isBreak, breakChar, Char.utf8Size, blockGap?_of_closes hrest, Mark.newline]
  case case2 ih => exact ih h
  case case3 breaks deepest mark c cs hcr _ hspace ih =>
    obtain ⟨breaks', mark', hmark, hline⟩ := ih h
    refine ⟨breaks', mark', hmark, fun rest hrest => ?_⟩
    have hc : c = ' ' := by simpa using (Bool.and_eq_true_iff.1 hspace).2
    rw [List.cons_append, blockGap?.eq_3 _ _ _ _ _ _ (Frame.not_crlf hcr (by simp [hc])), if_pos hspace,
      hline rest hrest]
  case case4 => cases h
  case case5 breaks deepest mark c cs hcr _ hspace htab hbreak ih =>
    by_cases hend : c = '\r' ∧ cs = []
    -- Here too the carriage return and the line break are one.
    · obtain ⟨rfl, rfl⟩ := hend
      obtain rfl := Option.some.inj h
      refine ⟨'\n' :: breaks, mark.newline 2, rfl, fun rest hrest => ?_⟩
      rw [List.cons_append, List.nil_append, Frame.tail_line, blockGap?, blockGap?_of_closes hrest]
      rfl
    · obtain ⟨breaks', mark', hmark, hline⟩ := ih h
      refine ⟨breaks', mark', hmark, fun rest hrest => ?_⟩
      have hne : cs ≠ [] ∨ c ≠ '\r' := by tauto
      rw [List.cons_append, blockGap?.eq_3 _ _ _ _ _ _ (Frame.not_crlf hcr (.inr hne)), if_neg hspace,
        if_neg htab, if_pos hbreak, hline rest hrest]
  case case6 =>
    obtain rfl := Option.some.inj h
    cases hgap

/-- The last line has no break, or its break ends the text. -/
theorem Source.skipBreak_line {source : Source} (hbreak : atLineEnd source.rest = true)
    (h : source.skipBreak.rest = []) :
    (∀ frame, (source.within frame).skipBreak = source.skipBreak.within frame) ∨
      ∃ mark', mark'.column = 0 ∧ ∀ rest, (source.within (.line rest)).skipBreak = ⟨rest, mark'⟩ := by
  obtain ⟨cs, mark⟩ := source
  rcases cs with _ | ⟨c, cs⟩
  · exact .inr ⟨mark.newline 1, rfl, fun rest => by rw [within, Mark.within_line]; rfl⟩
  · by_cases hcr : ∃ later, c = '\r' ∧ cs = '\n' :: later
    · obtain ⟨later, rfl, rfl⟩ := hcr
      exact .inl fun frame => congrArg (Source.mk _) Mark.newline_within
    · have hcr' : ∀ later, c = '\r' → cs = '\n' :: later → False := by
        intro later hc hcs
        exact hcr ⟨later, hc, hcs⟩
      have hc : isBreak c = true := hbreak
      rw [skipBreak_cons hcr', if_pos hc] at h
      obtain rfl : cs = [] := h
      by_cases hreturn : c = '\r'
      · subst hreturn
        exact .inr ⟨mark.newline 2, rfl, fun rest => by rw [within, Mark.within_line]; rfl⟩
      · refine .inl fun frame => ?_
        rw [within, List.cons_append, skipBreak_cons (Frame.not_crlf hcr' (by simp [hreturn])),
          skipBreak_cons hcr', if_pos hc, if_pos hc, Mark.newline_within]
        rfl

theorem Source.nextLine?_line {source : Source} (h : source.nextLine? = some after)
    (hafter : after.rest = []) :
    (∀ frame, (source.within frame).nextLine? = some (after.within frame)) ∨
      ∃ mark', mark'.column = 0 ∧
        ∀ rest, (source.within (.line rest)).nextLine? = some ⟨rest, mark'⟩ := by
  simp only [nextLine?, skipComment_within, rest_within, Frame.atLineEnd_tail] at h ⊢
  split at h
  · rename_i hend
    obtain rfl := Option.some.inj h
    simp only [hend, if_true, Option.some.injEq]
    exact skipBreak_line hend hafter
  · cases h

theorem directive?_line {source : Source} {kind : Token.Kind}
    (h : directive? source = some (kind, after)) (hafter : after.rest = []) :
    (∀ frame, directive? (source.within frame) = some (kind, after.within frame)) ∨
      ∃ mark', mark'.column = 0 ∧
        ∀ rest, directive? (source.within (.line rest)) = some (kind, ⟨rest, mark'⟩) := by
  simp only [directive?, Source.rest_within, Frame.takeWhile_tail (p := isWordChar) rfl,
    Source.forward_takeWhile_within, Frame.atWordEnd_tail] at h ⊢
  split at h
  · cases h
  · rename_i hname
    obtain ⟨⟨stated, later⟩, hstated, h⟩ := Option.bind_eq_some_iff.1 h
    obtain ⟨next, hnext, h⟩ := Option.map_eq_some_iff.1 h
    obtain ⟨rfl, rfl⟩ := Prod.mk.inj h
    simp only [hname, if_false, directiveText?_within, hstated, Option.map_some, Option.bind_some,
      resultWithin_mk, Bool.false_eq_true]
    refine (Source.nextLine?_line hnext hafter).imp (fun hline frame => ?_) ?_
    · rw [hline, Option.map_some]
    · rintro ⟨mark', hmark, hline⟩
      exact ⟨mark', hmark, fun rest => by rw [hline, Option.map_some]⟩

/-! ## Block scalars -/

theorem atLineEnd_forward_line (source : Source) :
    atLineEnd (source.forward (source.rest.takeWhile fun c => !isBreak c).length).rest = true := by
  obtain ⟨cs, mark⟩ := source
  induction cs generalizing mark with
  | nil => rfl
  | cons c cs ih =>
    by_cases hc : isBreak c = true
    · simp [Source.forward, hc, atLineEnd]
    · simpa [Source.forward, hc] using ih mark

theorem blockLine?_line {literal : Bool} {indent : Nat} {source : Source} {lines result : BlockLines}
    (h : blockLine? literal indent lines source = some (result, after)) (hafter : after.rest = []) :
    ∃ result' mark', mark'.column = 0 ∧ ∀ rest, Closes rest →
      blockLine? literal indent lines (source.within (.line rest)) = some (result', ⟨rest, mark'⟩) := by
  obtain ⟨gap, hgap, h⟩ := Option.map_eq_some_iff.1 h
  obtain ⟨rfl, rfl⟩ := Prod.mk.inj h
  have hline : ∀ rest, ((source.rest ++ (Frame.line rest).tail).takeWhile fun c => !isBreak c) =
      source.rest.takeWhile fun c => !isBreak c := fun rest => Frame.takeWhile_tail rfl
  have hforward := fun rest => source.forward_takeWhile_within (.line rest) fun c => !isBreak c
  have hend := atLineEnd_forward_line source
  simp only [blockLine?, Source.rest_within, hline, hforward, Frame.atGap_tail]
  generalize source.forward (source.rest.takeWhile fun c => !isBreak c).length = atBreak at hgap hend ⊢
  generalize (source.rest.takeWhile fun c => !isBreak c).reverse ++ _ = text
  -- Whether the line has a break of its own does not depend on what follows the text.
  have hbreak : ∀ rest, (atBreak.rest ++ (Frame.line rest).tail).head? =
      (atBreak.rest ++ ['\n']).head? := by
    intro rest
    rw [Frame.tail_line]
    cases atBreak.rest <;> rfl
  have hnext : (∀ rest, (atBreak.within (.line rest)).skipBreak =
      atBreak.skipBreak.within (.line rest)) ∨
      ∃ mark', mark'.column = 0 ∧ ∀ rest, (atBreak.within (.line rest)).skipBreak = ⟨rest, mark'⟩ := by
    by_cases hrest : atBreak.skipBreak.rest = []
    · exact (Source.skipBreak_line hend hrest).imp_left fun hskip rest => hskip (.line rest)
    · exact .inl fun rest => Source.skipBreak_within (.inr hrest)
  obtain hnext | ⟨mark', hmark, hnext⟩ := hnext
  · obtain ⟨breaks', mark', hmark, hgap'⟩ := blockGap?_line hgap hafter
    refine ⟨⟨text, ((atBreak.rest ++ ['\n']).head?.map breakChar).toList, atGap source.rest, breaks'⟩,
      mark', hmark, fun rest hrest => ?_⟩
    rw [hbreak, hnext, Source.rest_within, Source.mark_within, Mark.within_line, hgap' rest hrest,
      Option.map_some]
  · refine ⟨⟨text, ((atBreak.rest ++ ['\n']).head?.map breakChar).toList, atGap source.rest, []⟩, mark',
      hmark, fun rest hrest => ?_⟩
    rw [hbreak, hnext, blockGap?_of_closes hrest, Option.map_some]

theorem blockLines?_line {literal : Bool} {indent fuel : Nat} {source : Source}
    {lines result : BlockLines} (hindent : 0 < indent) (hfuel : source.rest.length < fuel)
    (hsource : source.rest ≠ [])
    (h : blockLines? literal indent fuel lines source = some (result, after))
    (hafter : after.rest = []) :
    ∃ result' mark', mark'.column = 0 ∧ ∀ rest fuel', Closes rest → source.rest.length < fuel' →
      blockLines? literal indent fuel' lines (source.within (.line rest)) =
        some (result', ⟨rest, mark'⟩) := by
  induction fuel generalizing source lines with
  | zero => exact absurd hfuel (Nat.not_lt_zero _)
  | succ fuel ih =>
    rw [blockLines?] at h
    split at h
    · rename_i hgo
      obtain ⟨⟨next, later⟩, hline, h⟩ := Option.bind_eq_some_iff.1 h
      have hlt := length_rest_blockLine?_lt hsource hline
      have hcolumn : source.mark.column = indent := by simp_all
      by_cases hlater : later.rest = []
      · obtain ⟨next', mark', hmark, hline'⟩ := blockLine?_line hline hlater
        refine ⟨next', mark', hmark, fun rest fuel' hrest hfuel' => ?_⟩
        obtain ⟨fuel', rfl⟩ : ∃ n, fuel' = n + 1 := ⟨fuel' - 1, by omega⟩
        rw [blockLines?, if_pos, hline' rest hrest]
        · exact blockLines?_of_column hmark hindent
        · simp [hcolumn]
      · obtain ⟨result', mark', hmark, hlines⟩ := ih (by omega) hlater h
        refine ⟨result', mark', hmark, fun rest fuel' hrest hfuel' => ?_⟩
        obtain ⟨fuel', rfl⟩ : ∃ n, fuel' = n + 1 := ⟨fuel' - 1, by omega⟩
        rw [blockLines?, if_pos, blockLine?_within hline (.inr hlater)]
        · exact hlines rest fuel' hrest (by omega)
        · simp [hcolumn]
    · obtain ⟨rfl, rfl⟩ := Prod.mk.inj (Option.some.inj h)
      exact absurd hafter hsource

theorem blockHeader?_line {source : Source} {header : BlockHeader}
    (h : blockHeader? source = some (header, after)) :
    (∀ rest, blockHeader? (source.within (.line rest)) = some (header, after.within (.line rest))) ∨
      ∃ mark', mark'.column = 0 ∧
        ∀ rest, blockHeader? (source.within (.line rest)) = some (header, ⟨rest, mark'⟩) := by
  by_cases hafter : after.rest = []
  · obtain ⟨⟨marks, later⟩, hmarks, h⟩ := Option.bind_eq_some_iff.1 h
    obtain ⟨next, hnext, h⟩ := Option.map_eq_some_iff.1 h
    obtain ⟨rfl, rfl⟩ := Prod.mk.inj h
    simp only [blockHeader?, blockMarks?_within, hmarks, Option.map_some, Option.bind_some,
      resultWithin_mk]
    refine (Source.nextLine?_line hnext hafter).imp (fun hline rest => ?_) ?_
    · rw [hline, Option.map_some]
    · rintro ⟨mark', hmark, hline⟩
      exact ⟨mark', hmark, fun rest => by rw [hline, Option.map_some]⟩
  · exact .inl fun rest => blockHeader?_within h (.inr hafter)

theorem blockText?_line {literal : Bool} {outer : Int} {source : Source} {text : String}
    (h : blockText? literal outer source = some (text, after)) (hafter : after.rest = []) :
    ∃ text' mark', mark'.column = 0 ∧ ∀ rest, Closes rest →
      blockText? literal outer (source.within (.line rest)) = some (text', ⟨rest, mark'⟩) := by
  obtain ⟨⟨header, body⟩, hheader, h⟩ := Option.bind_eq_some_iff.1 h
  obtain ⟨gap, hgap, h⟩ := Option.bind_eq_some_iff.1 h
  obtain ⟨⟨lines, later⟩, hlines, h⟩ := Option.map_eq_some_iff.1 h
  obtain ⟨rfl, rfl⟩ := Prod.mk.inj h
  have hindent : ∀ given deepest,
      0 < if given = 0 then max deepest (max (outer + 1).toNat 1) else given := by
    intro given deepest
    split <;> omega
  obtain hbody | ⟨mark', hmark, hbody⟩ := blockHeader?_line hheader
  · by_cases hrest : gap.source.rest = []
    · obtain ⟨breaks', mark', hmark, hgap'⟩ := blockGap?_line hgap hrest
      refine ⟨BlockLines.chomp ⟨[], [], false, breaks'⟩ header.chomping, mark', hmark,
        fun rest hcloses => ?_⟩
      rw [blockText?, hbody, Option.bind_some]
      dsimp only
      rw [Source.rest_within, Source.mark_within, Mark.within_line, hgap' rest hcloses,
        Option.bind_some, blockLines?_of_column hmark (hindent _ _), Option.map_some]
    · obtain ⟨lines', mark', hmark, hlines'⟩ :=
        blockLines?_line (hindent _ _) (Nat.lt_succ_self _) hrest hlines hafter
      refine ⟨lines'.chomp header.chomping, mark', hmark, fun rest hcloses => ?_⟩
      rw [blockText?, hbody, Option.bind_some]
      dsimp only
      rw [Source.rest_within, Source.mark_within, blockGap?_within hgap (.inr hrest), Option.bind_some]
      dsimp only [BlockGap.within]
      rw [hlines' rest _ hcloses (Nat.lt_succ_of_le (by simp))]
      rfl
  · refine ⟨BlockLines.chomp ⟨[], [], false, []⟩ header.chomping, mark', hmark, fun rest hcloses => ?_⟩
    rw [blockText?, hbody, Option.bind_some]
    dsimp only
    rw [blockGap?_of_closes hcloses, Option.bind_some,
      blockLines?_of_column hmark (hindent _ _), Option.map_some]

end StreamPlan.Yaml
