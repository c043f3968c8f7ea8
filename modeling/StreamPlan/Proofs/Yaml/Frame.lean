import Mathlib.Tactic.SplitIfs
import StreamPlan.Yaml.Token.Lexer

/-!
# Texts inside longer texts

A text that stands in a longer one starts at another place, and more text follows it: either nothing or
a line break. A line break is as good as the end of the text for everything that stays on its line, and
of the place where the text starts only the column matters, so the readers read the same.
-/

namespace StreamPlan.Yaml

/-- The surroundings of a text: how much stands before it, and what follows it. -/
structure Frame where
  /-- The number of bytes before the text. -/
  bytes : Nat
  /-- The number of line breaks before the text. -/
  lines : Nat
  /-- What follows the text. -/
  tail : List Char
  /-- If anything follows, then a line break. -/
  ends : tail = [] ∨ ∃ rest, tail = '\n' :: rest

/-- A place of a text, as a place of the longer text. -/
def Mark.within (frame : Frame) (mark : Mark) : Mark :=
  { mark with offset := mark.offset + frame.bytes, line := mark.line + frame.lines }

/-- What is left of a text, inside the longer text. -/
def Source.within (frame : Frame) (source : Source) : Source :=
  ⟨source.rest ++ frame.tail, source.mark.within frame⟩

variable {frame : Frame}

/-! ## Places -/

namespace Mark

variable {mark : Mark}

@[simp]
theorem column_within : (mark.within frame).column = mark.column := by
  simp only [within]

@[simp]
theorem step_within {c : Char} : (mark.within frame).step c = (mark.step c).within frame := by
  simp [within, step, Nat.add_right_comm]

@[simp]
theorem forward_within {count : Nat} :
    (mark.within frame).forward count = (mark.forward count).within frame := by
  simp [within, forward, Nat.add_right_comm]

@[simp]
theorem newline_within {width : Nat} :
    (mark.within frame).newline width = (mark.newline width).within frame := by
  simp [within, newline, Nat.add_right_comm]

theorem foldl_step_within {cs : List Char} :
    cs.foldl step (mark.within frame) = (cs.foldl step mark).within frame := by
  induction cs generalizing mark with
  | nil => rfl
  | cons c cs ih => rw [List.foldl_cons, List.foldl_cons, step_within, ih]

end Mark

/-! ## Looking ahead

Whoever looks ahead on the line sees no difference between the end of the text and a line break. -/

namespace Frame

variable {cs : List Char}

theorem takeWhile_tail {p : Char → Bool} (hp : p '\n' = false) :
    (cs ++ frame.tail).takeWhile p = cs.takeWhile p := by
  induction cs with
  | nil => obtain h | ⟨rest, h⟩ := frame.ends <;> simp [h, hp]
  | cons c cs ih => simp [List.takeWhile_cons, ih]

theorem eq_of_head {α : Type} {f : List Char → α} (hnil : ∀ rest, f ('\n' :: rest) = f [])
    (hcons : ∀ c rest rest', f (c :: rest) = f (c :: rest')) : f (cs ++ frame.tail) = f cs := by
  cases cs with
  | nil =>
    obtain h | ⟨rest, h⟩ := frame.ends
    · rw [h, List.append_nil]
    · rw [h, List.nil_append, hnil]
  | cons c cs => exact hcons c (cs ++ frame.tail) cs

theorem head?_tail {c : Char} (hc : c ≠ '\n') :
    (cs ++ frame.tail).head? = some c ↔ cs.head? = some c :=
  iff_of_eq (eq_of_head (f := fun cs => cs.head? = some c) (by simp [hc.symm]) (by simp))

@[simp]
theorem atWordEnd_tail : atWordEnd (cs ++ frame.tail) = atWordEnd cs :=
  eq_of_head (fun _ => rfl) fun _ _ _ => rfl

@[simp]
theorem atLineEnd_tail : atLineEnd (cs ++ frame.tail) = atLineEnd cs :=
  eq_of_head (fun _ => rfl) fun _ _ _ => rfl

@[simp]
theorem atGap_tail : atGap (cs ++ frame.tail) = atGap cs :=
  eq_of_head (fun _ => rfl) fun _ _ _ => rfl

@[simp]
theorem atTagEnd_tail {flow : Bool} : atTagEnd flow (cs ++ frame.tail) = atTagEnd flow cs :=
  eq_of_head (fun _ => by cases flow <;> rfl) fun _ _ _ => rfl

@[simp]
theorem atAnchorEnd_tail : atAnchorEnd (cs ++ frame.tail) = atAnchorEnd cs :=
  eq_of_head (fun _ => rfl) fun _ _ _ => rfl

@[simp]
theorem atValueEnd_tail : atValueEnd (cs ++ frame.tail) = atValueEnd cs :=
  eq_of_head (fun _ => rfl) fun _ _ _ => rfl

theorem atDocumentMarker_iff : atDocumentMarker cs = true ↔
    ∃ c rest, (c = '-' ∨ c = '.') ∧ cs = c :: c :: c :: rest ∧ atWordEnd rest = true := by
  unfold atDocumentMarker
  split <;> simp_all

@[simp]
theorem atDocumentMarker_tail : atDocumentMarker (cs ++ frame.tail) = atDocumentMarker cs := by
  rcases cs with _ | ⟨a, _ | ⟨b, _ | ⟨c, rest⟩⟩⟩
  · obtain h | ⟨rest, h⟩ := frame.ends <;> simp [h, atDocumentMarker]
  · obtain h | ⟨rest, h⟩ := frame.ends <;> simp [h, atDocumentMarker]
  · obtain h | ⟨rest, h⟩ := frame.ends <;> simp [h, atDocumentMarker]
  · rw [Bool.eq_iff_iff, atDocumentMarker_iff, atDocumentMarker_iff]
    simp [and_assoc]

theorem atDocumentMarker_cons_tail {c : Char} :
    atDocumentMarker (c :: (cs ++ frame.tail)) = atDocumentMarker (c :: cs) :=
  show atDocumentMarker ((c :: cs) ++ frame.tail) = _ from atDocumentMarker_tail

end Frame

/-! ## Sources -/

namespace Source

variable {source : Source} {p : Char → Bool} {count : Nat}

@[simp]
theorem rest_within : (source.within frame).rest = source.rest ++ frame.tail := rfl

@[simp]
theorem mark_within : (source.within frame).mark = source.mark.within frame := rfl

theorem forward_within (h : count ≤ source.rest.length) :
    (source.within frame).forward count = (source.forward count).within frame := by
  simp only [forward, within, List.drop_append_of_le_length h, List.take_append_of_le_length h,
    Mark.foldl_step_within]

theorem forward_within_of_rest {c : Char} {rest : List Char} (h : source.rest = c :: rest) :
    (source.within frame).forward 1 = (source.forward 1).within frame :=
  forward_within (by simp [h])

theorem forward_within_of_head {c : Char} (h : source.rest.head? = some c) :
    (source.within frame).forward 1 = (source.forward 1).within frame := by
  refine forward_within ?_
  cases hrest : source.rest <;> simp_all

theorem forward_takeWhile_within (source : Source) (frame : Frame) (p : Char → Bool) :
    (source.within frame).forward (source.rest.takeWhile p).length =
      (source.forward (source.rest.takeWhile p).length).within frame :=
  forward_within (List.takeWhile_prefix p).length_le

theorem skipWhile_within (hp : p '\n' = false) :
    (source.within frame).skipWhile p = (source.skipWhile p).within frame := by
  rw [skipWhile, rest_within, Frame.takeWhile_tail hp, forward_takeWhile_within, skipWhile]

@[simp]
theorem skipComment_within : (source.within frame).skipComment = source.skipComment.within frame := by
  have hgaps : (source.within frame).skipWhile isGap = (source.skipWhile isGap).within frame :=
    skipWhile_within rfl
  simp only [skipComment, hgaps, rest_within, Frame.head?_tail (c := '#') (by decide)]
  split
  · exact skipWhile_within rfl
  · rfl

end Source

/-- What a reader gives, inside the longer text. -/
def resultWithin {α : Type} (frame : Frame) (result : α × Source) : α × Source :=
  (result.1, result.2.within frame)

@[simp]
theorem resultWithin_mk {α : Type} {value : α} {source : Source} :
    resultWithin frame (value, source) = (value, source.within frame) := rfl

/-! ## Readers that stay on their line -/

section Inline

variable {source : Source} {verbatim flow : Bool}

theorem anchorName?_within :
    anchorName? (source.within frame) = (anchorName? source).map (resultWithin frame) := by
  simp only [anchorName?, Source.rest_within, Frame.takeWhile_tail (p := isWordChar) rfl,
    Source.forward_takeWhile_within, Frame.atAnchorEnd_tail]
  split <;> simp

theorem hexNumber?_newline_left {c : Char} : hexNumber? ['\n', c] = none := rfl

theorem hexNumber?_newline_right {c : Char} : hexNumber? [c, '\n'] = none := by
  cases h : hexValue? c <;> simp [hexNumber?, h, show hexValue? '\n' = none from rfl]

theorem escapedBytes_tail {cs : List Char} : escapedBytes (cs ++ frame.tail) = escapedBytes cs := by
  fun_induction escapedBytes cs with
  | case1 a b rest byte h ih => simp [escapedBytes, h, ih]
  | case2 a b rest h => simp [escapedBytes, h]
  | case3 cs h =>
    -- A line break is no hexadecimal digit, so it cannot complete an escape.
    obtain htail | ⟨rest, htail⟩ := frame.ends
    · rw [htail, List.append_nil, escapedBytes.eq_2 _ h]
    · rcases cs with _ | ⟨a, _ | ⟨b, _ | ⟨c, cs⟩⟩⟩
      · simp [htail, escapedBytes]
      · rw [htail]
        rcases rest with _ | ⟨c, rest⟩
        · simp [escapedBytes]
        · by_cases ha : a = '%'
          · simp [ha, escapedBytes, hexNumber?_newline_left]
          · simp [ha, escapedBytes]
      · rw [htail]
        by_cases ha : a = '%'
        · simp [ha, escapedBytes, hexNumber?_newline_right]
        · simp [ha, escapedBytes]
      · refine escapedBytes.eq_2 _ fun a b rest heq => ?_
        simp only [List.cons_append, List.cons.injEq] at heq
        exact h _ _ _ (by rw [heq.1])

theorem length_escapedBytes_le (cs : List Char) : 3 * (escapedBytes cs).length ≤ cs.length := by
  fun_induction escapedBytes cs with
  | case1 a b rest byte _ ih =>
    simp only [List.length_cons]
    omega
  | case2 => simp
  | case3 => simp

theorem length_le_of_escapedTagChar? {cs : List Char} {decoded : Option Char} {count : Nat}
    (h : escapedTagChar? cs = some (decoded, count)) : 1 ≤ count ∧ 3 * count ≤ cs.length := by
  have hlength := length_escapedBytes_le cs
  unfold escapedTagChar? at h
  split at h
  · cases h
  · rename_i first more hbytes
    -- The first byte tells how many there are, and that many were found.
    obtain ⟨bytes, hcount, h⟩ := Option.bind_eq_some_iff.1 h
    have hpos : 1 ≤ bytes := by
      unfold byteCount? at hcount
      split_ifs at hcount <;> simp_all <;> omega
    dsimp only at h
    split at h
    · rename_i htrailing
      obtain ⟨-, rfl⟩ := Prod.mk.inj (Option.some.inj h)
      simp only [hbytes, List.length_cons, Bool.and_eq_true, decide_eq_true_eq, List.length_take] at *
      omega
    · cases h

theorem tagChars?_tail {fuel : Nat} {mark : Mark} :
    tagChars? verbatim fuel ⟨frame.tail, mark⟩ = some ([], ⟨frame.tail, mark⟩) := by
  cases fuel with
  | zero => rfl
  | succ fuel =>
    obtain htail | ⟨rest, htail⟩ := frame.ends <;> rw [htail]
    · rfl
    · cases verbatim <;> rfl

theorem tagChars?_within {fuel fuel' : Nat} (hfuel : source.rest.length ≤ fuel)
    (hfuel' : source.rest.length ≤ fuel') :
    tagChars? verbatim fuel' (source.within frame) =
      (tagChars? verbatim fuel source).map (resultWithin frame) := by
  induction fuel generalizing fuel' source with
  | zero =>
    have hrest : source.rest = [] := List.eq_nil_of_length_eq_zero (Nat.le_zero.1 hfuel)
    simp [tagChars?, Source.within, hrest, tagChars?_tail]
  | succ fuel ih =>
    rcases hrest : source.rest with _ | ⟨c, rest⟩
    · simp [tagChars?, Source.within, hrest, tagChars?_tail]
    · obtain ⟨fuel', rfl⟩ : ∃ n, fuel' = n + 1 :=
        ⟨fuel' - 1, by rw [hrest] at hfuel'; simp at hfuel'; omega⟩
      -- An escape is read from the bytes at hand, and a tail does not begin with one.
      have hescaped : escapedTagChar? ((c :: rest) ++ frame.tail) = escapedTagChar? (c :: rest) := by
        rw [escapedTagChar?, escapedBytes_tail, escapedTagChar?]
      rw [hrest, List.length_cons] at hfuel hfuel'
      simp only [tagChars?, Source.rest_within, hrest, List.cons_append]
      rw [← List.cons_append, hescaped]
      split
      · cases hchar : escapedTagChar? (c :: rest) with
        | none => rfl
        | some result =>
          -- Each escape is three characters, so the fuel that is left is enough for what is left.
          obtain ⟨hpos, hle⟩ := length_le_of_escapedTagChar? hchar
          rw [← hrest] at hle
          have hlength : (source.forward (3 * result.2)).rest.length =
              rest.length + 1 - 3 * result.2 := by
            simp [Source.forward, hrest]
          rw [Option.bind_some, Option.bind_some, Source.forward_within hle,
            ih (by omega) (by omega)]
          cases tagChars? verbatim fuel (source.forward (3 * result.2)) <;> rfl
      · split
        · have hlength : (source.forward 1).rest.length = rest.length := by simp [Source.forward, hrest]
          rw [Source.forward_within_of_rest hrest, ih (by omega) (by omega)]
          cases tagChars? verbatim fuel (source.forward 1) <;> rfl
        · rfl

theorem tagSuffix?_within :
    tagSuffix? verbatim (source.within frame) =
      (tagSuffix? verbatim source).map (resultWithin frame) := by
  simp only [tagSuffix?]
  rw [tagChars?_within (Nat.le_refl _) (by simp)]
  cases tagChars? verbatim source.rest.length source with
  | none => rfl
  | some result =>
    simp only [Option.map_some, Option.bind_some, resultWithin]
    split <;> rfl

theorem tagHandle?_within :
    tagHandle? (source.within frame) = (tagHandle? source).map (resultWithin frame) := by
  unfold tagHandle?
  rcases hrest : source.rest with _ | ⟨c, rest⟩
  · obtain htail | ⟨rest, htail⟩ := frame.ends <;> simp [hrest, htail]
  · by_cases hc : c = '!'
    -- The word after the mark ends where the tail begins, if not before.
    · have hforward : (source.within frame).forward ((rest.takeWhile isWordChar).length + 1) =
          (source.forward ((rest.takeWhile isWordChar).length + 1)).within frame := by
        refine Source.forward_within ?_
        have := (List.takeWhile_prefix isWordChar (l := rest)).length_le
        simp [hrest, this]
      simp only [Source.rest_within, hrest, hc, List.cons_append,
        Frame.takeWhile_tail (p := isWordChar) rfl, hforward, Frame.head?_tail (c := '!') (by decide)]
      split
      · rename_i hhead
        rw [Source.forward_within_of_head hhead]
        rfl
      · rfl
    · simp [hrest, hc]

theorem verbatimTag?_within (h : 2 ≤ source.rest.length) :
    verbatimTag? (source.within frame) = (verbatimTag? source).map (resultWithin frame) := by
  unfold verbatimTag?
  rw [Source.forward_within h, tagSuffix?_within]
  rcases tagSuffix? true (source.forward 2) with _ | ⟨suffix, after⟩
  · rfl
  · simp only [Option.map_some, Option.bind_some, resultWithin, Source.rest_within,
      Frame.head?_tail (c := '>') (by decide)]
    split
    · rename_i hhead
      rw [Source.forward_within_of_head hhead]
      rfl
    · rfl

theorem shortTag?_within :
    shortTag? (source.within frame) = (shortTag? source).map (resultWithin frame) := by
  unfold shortTag?
  rw [tagHandle?_within]
  rcases tagHandle? source with _ | ⟨handle, after⟩
  · rfl
  · simp only [Option.map_some, Option.bind_some, resultWithin]
    split
    · rw [tagSuffix?_within]
      cases tagSuffix? false after <;> rfl
    · rw [tagChars?_within (Nat.le_refl _) (by simp)]
      rcases tagChars? false after.rest.length after with _ | ⟨text, after⟩
      · rfl
      · simp only [Option.map_some, resultWithin]
        split <;> rfl

theorem tagToken?_within :
    tagToken? flow (source.within frame) = (tagToken? flow source).map (resultWithin frame) := by
  -- Whether the tag is verbatim is seen in its first two characters, and no tail begins with them.
  have hverbatim : "!<".toList.isPrefixOf (source.rest ++ frame.tail) =
      "!<".toList.isPrefixOf source.rest := by
    rcases source.rest with _ | ⟨c, _ | ⟨d, rest⟩⟩ <;>
      obtain htail | ⟨rest, htail⟩ := frame.ends <;> simp [htail, List.isPrefixOf]
  have hread : (if "!<".toList.isPrefixOf (source.within frame).rest then
        verbatimTag? (source.within frame) else shortTag? (source.within frame)) =
      (if "!<".toList.isPrefixOf source.rest then verbatimTag? source else shortTag? source).map
        (resultWithin frame) := by
    rw [Source.rest_within, hverbatim]
    split
    · rename_i hlead
      exact verbatimTag?_within (List.isPrefixOf_iff_prefix.1 hlead).length_le
    · exact shortTag?_within
  unfold tagToken?
  rw [hread]
  rcases (if "!<".toList.isPrefixOf source.rest then verbatimTag? source else shortTag? source) with
    _ | ⟨kind, after⟩
  · rfl
  · simp only [Option.map_some, Option.bind_some, resultWithin, Source.rest_within, Frame.atTagEnd_tail]
    split <;> rfl

theorem versionNumber?_within :
    versionNumber? (source.within frame) = (versionNumber? source).map (resultWithin frame) := by
  simp only [versionNumber?, Source.rest_within, Frame.takeWhile_tail (p := Char.isDigit) rfl,
    Source.forward_takeWhile_within]
  split <;> rfl

theorem versionLine?_within :
    versionLine? (source.within frame) = (versionLine? source).map (resultWithin frame) := by
  unfold versionLine?
  rw [Source.skipWhile_within rfl, versionNumber?_within]
  rcases versionNumber? (source.skipWhile isGap) with _ | ⟨major, after⟩
  · rfl
  · simp only [Option.map_some, Option.bind_some, resultWithin, Source.rest_within,
      Frame.head?_tail (c := '.') (by decide)]
    split
    · rename_i hhead
      rw [Source.forward_within_of_head hhead, versionNumber?_within]
      cases versionNumber? (after.forward 1) <;> rfl
    · rfl

theorem tagLine?_within :
    tagLine? (source.within frame) = (tagLine? source).map (resultWithin frame) := by
  unfold tagLine?
  rw [Source.skipWhile_within rfl, tagHandle?_within]
  rcases tagHandle? (source.skipWhile isGap) with _ | ⟨handle, after⟩
  · rfl
  · simp only [Option.map_some, Option.bind_some, resultWithin, Source.rest_within, Frame.atGap_tail]
    split
    · rfl
    · rw [Source.skipWhile_within rfl, tagSuffix?_within]
      rcases tagSuffix? true (after.skipWhile isGap) with _ | ⟨lead, after⟩
      · rfl
      · simp only [Option.map_some, Option.bind_some, resultWithin, Source.rest_within,
          Frame.atWordEnd_tail]
        split <;> rfl

theorem directiveText?_within {name : List Char} :
    directiveText? name (source.within frame) =
      (directiveText? name source).map (resultWithin frame) := by
  unfold directiveText?
  rw [versionLine?_within, tagLine?_within]
  split_ifs <;> rfl

theorem blockMarks?_within :
    blockMarks? (source.within frame) = (blockMarks? source).map (resultWithin frame) := by
  unfold blockMarks?
  rcases hrest : source.rest with _ | ⟨c, rest⟩
  · obtain htail | ⟨rest, htail⟩ := frame.ends <;> rw [Source.rest_within, hrest, htail] <;> rfl
  · have hdigit : (rest ++ frame.tail).head?.filter Char.isDigit = rest.head?.filter Char.isDigit :=
      Frame.eq_of_head (f := fun cs => cs.head?.filter Char.isDigit) (fun _ => rfl) fun _ _ _ => rfl
    have hmark : (rest ++ frame.tail).head?.bind Chomping.ofMark? = rest.head?.bind Chomping.ofMark? :=
      Frame.eq_of_head (f := fun cs => cs.head?.bind Chomping.ofMark?) (fun _ => rfl) fun _ _ _ => rfl
    -- A second mark is passed only if there is one, and then it is not in the tail.
    have hforward : ∀ d, rest.head? = some d →
        (source.within frame).forward 2 = (source.forward 2).within frame := by
      intro d hd
      refine Source.forward_within ?_
      rcases rest with _ | ⟨d, rest⟩ <;> simp_all
    simp only [Source.rest_within, hrest, List.cons_append, hdigit, hmark,
      Source.forward_within_of_rest hrest]
    split
    · split
      · rename_i d hd
        rw [hforward d (Option.filter_eq_some_iff.1 hd).1]
        cases incrementOf? d <;> rfl
      · rfl
    · split
      · cases incrementOf? c with
        | none => rfl
        | some increment =>
          simp only [Option.map_some]
          split
          · rename_i chomping hchomping
            obtain ⟨d, hd, -⟩ := Option.bind_eq_some_iff.1 hchomping
            rw [hforward d hd]
            rfl
          · rfl
      · rfl

end Inline

/-! ## Readers that pass line breaks

Where such a reader stops before the end of its text, it stops there inside a longer text, too. -/

section Multiline

variable {mark : Mark} {cs : List Char} {f g : Folding} {after : Source}

/-- A carriage return before the end of the text would be one break with the line break after it. -/
theorem Frame.not_crlf {c : Char} {rest : List Char}
    (h : ∀ later, c = '\r' → rest = '\n' :: later → False)
    (htail : frame.tail = [] ∨ rest ≠ [] ∨ c ≠ '\r') :
    ∀ later, c = '\r' → rest ++ frame.tail = '\n' :: later → False := by
  rintro later rfl heq
  cases rest with
  | nil => simp_all
  | cons d rest =>
    obtain ⟨rfl, -⟩ := List.cons.inj heq
    exact h rest rfl rfl

theorem Frame.not_crlf_of_not_isBreak {c : Char} {rest : List Char} (hc : ¬isBreak c = true) :
    ∀ later, c = '\r' → rest = '\n' :: later → False := by
  rintro _ rfl
  exact absurd rfl hc

theorem plainText?_cons {flow : Bool} {indent : Int} {c : Char} (hc : ¬isBreak c = true) :
    plainText? flow indent f mark (c :: cs) =
      if isGap c then
        if f.broken && (mark.column : Int) < indent && c = '\t' then none
        else plainText? flow indent (f.gap c) (mark.step c) cs
      else if f.pending && ((!flow && (mark.column : Int) < indent) || c = '#' ||
          (mark.column = 0 && atDocumentMarker (c :: cs))) then
        some (f, ⟨c :: cs, mark⟩)
      else if flow && c = ':' && atValueEnd cs then none
      else if (c = ':' && atWordEnd cs) || (flow && isFlowMark c) then some (f, ⟨c :: cs, mark⟩)
      else plainText? flow indent (f.char c) (mark.step c) cs := by
  rw [plainText?.eq_3 _ _ _ _ _ _ (Frame.not_crlf_of_not_isBreak hc), if_neg hc]

theorem plainText?_within {flow : Bool} {indent : Int}
    (h : plainText? flow indent f mark cs = some (g, after))
    (hafter : frame.tail = [] ∨ after.rest ≠ []) :
    plainText? flow indent f (mark.within frame) (cs ++ frame.tail) = some (g, after.within frame) := by
  fun_induction plainText? flow indent f mark cs
  -- Nothing is left, so there is no tail either: otherwise the scalar would go on into it.
  case case1 f mark =>
    obtain ⟨rfl, rfl⟩ := Prod.mk.inj (Option.some.inj h)
    have htail : frame.tail = [] := by simpa using hafter
    simp [htail, plainText?, Source.within]
  case case2 f mark rest ih =>
    simpa [plainText?] using ih h
  case case3 f mark c rest hcr hbreak ih =>
    -- A carriage return at the very end could be taken for one break with a line feed of the tail.
    have hne : frame.tail = [] ∨ rest ≠ [] ∨ c ≠ '\r' := by
      refine hafter.imp_right fun hafter => .inl ?_
      rintro rfl
      obtain ⟨-, rfl⟩ := Prod.mk.inj (Option.some.inj h)
      exact hafter rfl
    rw [List.cons_append, plainText?.eq_3 _ _ _ _ _ _ (Frame.not_crlf hcr hne), if_pos hbreak]
    simpa using ih h
  case case4 | case7 => cases h
  case case5 c rest hcr hbreak hgap htab ih =>
    rw [List.cons_append, plainText?_cons hbreak, if_pos hgap, Mark.column_within, if_neg htab,
      Mark.step_within, ih h]
  case case6 c rest hcr hbreak hgap hstop =>
    obtain ⟨rfl, rfl⟩ := Prod.mk.inj (Option.some.inj h)
    rw [List.cons_append, plainText?_cons hbreak, if_neg hgap, Mark.column_within,
      Frame.atDocumentMarker_cons_tail, if_pos hstop]
    rfl
  case case8 c rest hcr hbreak hgap hgo hcolon hstop =>
    obtain ⟨rfl, rfl⟩ := Prod.mk.inj (Option.some.inj h)
    rw [List.cons_append, plainText?_cons hbreak, if_neg hgap, Mark.column_within,
      Frame.atDocumentMarker_cons_tail, if_neg hgo, Frame.atValueEnd_tail, if_neg hcolon,
      Frame.atWordEnd_tail, if_pos hstop]
    rfl
  case case9 c rest hcr hbreak hgap hgo hcolon hchar ih =>
    rw [List.cons_append, plainText?_cons hbreak, if_neg hgap, Mark.column_within,
      Frame.atDocumentMarker_cons_tail, if_neg hgo, Frame.atValueEnd_tail, if_neg hcolon,
      Frame.atWordEnd_tail, if_neg hchar, Mark.step_within, ih h]

theorem singleQuoted?_cons {c : Char} (hquote : c ≠ '\'')
    (hcr : ∀ later, c = '\r' → cs = '\n' :: later → False) :
    singleQuoted? f mark (c :: cs) =
      if isBreak c then singleQuoted? (f.lineBreak c) (mark.newline c.utf8Size) cs
      else if isGap c then singleQuoted? (f.gap c) (mark.step c) cs
      else if mark.column = 0 && atDocumentMarker (c :: cs) then none
      else singleQuoted? (f.char c) (mark.step c) cs :=
  singleQuoted?.eq_5 _ _ _ _ (fun _ hc _ => hquote hc) hquote hcr

theorem singleQuoted?_within (h : singleQuoted? f mark cs = some (g, after)) :
    singleQuoted? f (mark.within frame) (cs ++ frame.tail) = some (g, after.within frame) := by
  fun_induction singleQuoted? f mark cs
  case case1 => cases h
  case case2 f mark rest ih => simpa [singleQuoted?] using ih h
  case case3 f mark rest hquote =>
    obtain ⟨rfl, rfl⟩ := Prod.mk.inj (Option.some.inj h)
    -- A tail has no quote that could make an escaped one of this.
    have hquote' : ∀ later, rest ++ frame.tail = '\'' :: later → False := by
      intro later heq
      rcases rest with _ | ⟨c, rest⟩
      · obtain htail | ⟨rest, htail⟩ := frame.ends <;> simp [htail] at heq
      · obtain ⟨rfl, -⟩ := List.cons.inj heq
        exact hquote rest rfl
    rw [List.cons_append, singleQuoted?.eq_3 _ _ _ hquote', Mark.forward_within]
    rfl
  case case4 f mark rest ih => simpa [singleQuoted?] using ih h
  case case5 c rest hquotes hquote hcr hbreak ih =>
    -- A text that ends here is not closed, so that the break is not the last character.
    have hne : rest ≠ [] := by rintro rfl; cases h
    rw [List.cons_append, singleQuoted?_cons hquote (Frame.not_crlf hcr (.inr (.inl hne))),
      if_pos hbreak, Mark.newline_within, ih h]
  case case6 c rest hquotes hquote hcr hbreak hgap ih =>
    rw [List.cons_append, singleQuoted?_cons hquote (Frame.not_crlf_of_not_isBreak hbreak),
      if_neg hbreak, if_pos hgap, Mark.step_within, ih h]
  case case7 => cases h
  case case8 c rest hquotes hquote hcr hbreak hgap hmarker ih =>
    rw [List.cons_append, singleQuoted?_cons hquote (Frame.not_crlf_of_not_isBreak hbreak),
      if_neg hbreak, if_neg hgap, Mark.column_within, Frame.atDocumentMarker_cons_tail, if_neg hmarker,
      Mark.step_within, ih h]

theorem doubleQuoted?_escape {c : Char} (hx : c ≠ 'x') (hu : c ≠ 'u') (hU : c ≠ 'U')
    (hcr : ∀ later, c = '\r' → cs = '\n' :: later → False) :
    doubleQuoted? f mark ('\\' :: c :: cs) =
      if isBreak c then doubleQuoted? f.settle.escapedBreak (mark.newline (1 + c.utf8Size)) cs
      else
        match escapedChar? c with
        | some c => doubleQuoted? (f.char c) (mark.forward 2) cs
        | none => none :=
  doubleQuoted?.eq_7 _ _ _ _ (fun _ _ _ hc => absurd hc hx) (fun _ _ _ _ _ hc => absurd hc hu)
    (fun _ _ _ _ _ _ _ _ _ hc => absurd hc hU) hcr

theorem doubleQuoted?_cons {c : Char} (hquote : c ≠ '"') (hslash : c ≠ '\\')
    (hcr : ∀ later, c = '\r' → cs = '\n' :: later → False) :
    doubleQuoted? f mark (c :: cs) =
      if isBreak c then doubleQuoted? (f.lineBreak c) (mark.newline c.utf8Size) cs
      else if isGap c then doubleQuoted? (f.gap c) (mark.step c) cs
      else if mark.column = 0 && atDocumentMarker (c :: cs) then none
      else doubleQuoted? (f.char c) (mark.step c) cs := by
  rw [doubleQuoted?.eq_9 _ _ _ _ hquote (fun _ _ _ hc => absurd hc hslash)
    (fun _ _ _ _ _ hc => absurd hc hslash) (fun _ _ _ _ _ _ _ _ _ hc => absurd hc hslash)
    (fun _ hc => absurd hc hslash) (fun _ _ hc => absurd hc hslash) hcr]
  simp [hslash]

theorem doubleQuoted?_within (h : doubleQuoted? f mark cs = some (g, after)) :
    doubleQuoted? f (mark.within frame) (cs ++ frame.tail) = some (g, after.within frame) := by
  fun_induction doubleQuoted? f mark cs
  case case1 | case4 | case6 | case8 | case12 | case16 => cases h
  case case2 f mark rest =>
    obtain ⟨rfl, rfl⟩ := Prod.mk.inj (Option.some.inj h)
    rw [List.cons_append, doubleQuoted?, Mark.forward_within]
    rfl
  case case3 hpoint ih => simpa [doubleQuoted?, hpoint] using ih h
  case case5 hpoint ih => simpa [doubleQuoted?, hpoint] using ih h
  case case7 hpoint ih => simpa [doubleQuoted?, hpoint] using ih h
  case case9 ih => simpa [doubleQuoted?] using ih h
  case case10 c rest hx hu hU hcr hbreak ih =>
    have hne : rest ≠ [] := by rintro rfl; cases h
    rw [List.cons_append, List.cons_append, doubleQuoted?_escape _ _ _
      (Frame.not_crlf hcr (.inr (.inl hne))), if_pos hbreak, Mark.newline_within, ih h]
    all_goals
      rintro rfl
      cases hbreak
  case case11 c rest hx hu hU hcr hbreak d hescaped ih =>
    rw [List.cons_append, List.cons_append, doubleQuoted?_escape _ _ _
      (Frame.not_crlf_of_not_isBreak hbreak), if_neg hbreak, hescaped, Mark.forward_within]
    · exact ih h
    all_goals
      rintro rfl
      cases hescaped
  case case13 ih => simpa [doubleQuoted?] using ih h
  case case14 c rest hquote _ _ _ _ _ hcr hbreak ih =>
    have hne : rest ≠ [] := by rintro rfl; cases h
    have hslash : c ≠ '\\' := by rintro rfl; cases hbreak
    rw [List.cons_append, doubleQuoted?_cons hquote hslash (Frame.not_crlf hcr (.inr (.inl hne))),
      if_pos hbreak, Mark.newline_within, ih h]
  case case15 c rest hquote _ _ _ _ _ hcr hbreak hgap ih =>
    have hslash : c ≠ '\\' := by rintro rfl; cases hgap
    rw [List.cons_append, doubleQuoted?_cons hquote hslash (Frame.not_crlf_of_not_isBreak hbreak),
      if_neg hbreak, if_pos hgap, Mark.step_within, ih h]
  case case17 c rest hquote _ _ _ _ _ hcr hbreak hgap hmarker ih =>
    obtain ⟨hmarker, hslash⟩ : ¬(decide (_ = 0) && atDocumentMarker (c :: rest)) = true ∧ c ≠ '\\' := by
      simpa using hmarker
    rw [List.cons_append, doubleQuoted?_cons hquote hslash (Frame.not_crlf_of_not_isBreak hbreak),
      if_neg hbreak, if_neg hgap, Mark.column_within, Frame.atDocumentMarker_cons_tail, if_neg hmarker,
      Mark.step_within, ih h]

theorem passGaps_cons {flow comment keyAllowed : Bool} {c : Char} (hc : ¬isBreak c = true) :
    Lexer.passGaps flow comment keyAllowed mark (c :: cs) =
      if comment then Lexer.passGaps flow true keyAllowed (mark.step c) cs
      else if c = '#' then Lexer.passGaps flow true keyAllowed (mark.step c) cs
      else if c = ' ' || (c = '\t' && (flow || !keyAllowed)) ||
          (c.toNat = 0xfeff && mark.column = 0) then
        Lexer.passGaps flow false keyAllowed (mark.step c) cs
      else (keyAllowed, ⟨c :: cs, mark⟩) := by
  rw [Lexer.passGaps.eq_3 _ _ _ _ _ _ (Frame.not_crlf_of_not_isBreak hc), if_neg hc]

theorem passGaps_within {flow comment keyAllowed keyAllowed' : Bool}
    (h : Lexer.passGaps flow comment keyAllowed mark cs = (keyAllowed', after))
    (hafter : frame.tail = [] ∨ after.rest ≠ []) :
    Lexer.passGaps flow comment keyAllowed (mark.within frame) (cs ++ frame.tail) =
      (keyAllowed', after.within frame) := by
  fun_induction Lexer.passGaps flow comment keyAllowed mark cs
  case case1 =>
    obtain ⟨rfl, rfl⟩ := Prod.mk.inj h
    have htail : frame.tail = [] := by simpa using hafter
    simp [htail, Lexer.passGaps, Source.within]
  case case2 ih => simpa [Lexer.passGaps] using ih h
  case case3 c rest hcr hbreak ih =>
    have hne : frame.tail = [] ∨ rest ≠ [] ∨ c ≠ '\r' := by
      refine hafter.imp_right fun hafter => .inl ?_
      rintro rfl
      obtain ⟨-, rfl⟩ := Prod.mk.inj h
      exact hafter rfl
    rw [List.cons_append, Lexer.passGaps.eq_3 _ _ _ _ _ _ (Frame.not_crlf hcr hne), if_pos hbreak,
      Mark.newline_within, ih h]
  case case4 hbreak ih =>
    rw [List.cons_append, passGaps_cons hbreak, if_pos rfl, Mark.step_within, ih h]
  case case5 hcomment _ hbreak ih =>
    rw [List.cons_append, passGaps_cons hbreak, if_neg hcomment, if_pos rfl, Mark.step_within, ih h]
  case case6 hbreak hcomment hsharp hgap ih =>
    rw [List.cons_append, passGaps_cons hbreak, if_neg hcomment, if_neg hsharp, Mark.column_within,
      if_pos hgap, Mark.step_within, ih h]
  case case7 hbreak hcomment hsharp hgap =>
    obtain ⟨rfl, rfl⟩ := Prod.mk.inj h
    rw [List.cons_append, passGaps_cons hbreak, if_neg hcomment, if_neg hsharp, Mark.column_within,
      if_neg hgap]
    rfl

theorem Source.skipBreak_cons {c : Char} (hcr : ∀ later, c = '\r' → cs = '\n' :: later → False) :
    (⟨c :: cs, mark⟩ : Source).skipBreak =
      if isBreak c then ⟨cs, mark.newline c.utf8Size⟩ else ⟨c :: cs, mark⟩ := by
  unfold Source.skipBreak
  split
  · rename_i later heq
    obtain ⟨rfl, rfl⟩ := List.cons.inj heq
    exact absurd rfl (hcr later rfl)
  · rename_i heq
    obtain ⟨rfl, rfl⟩ := List.cons.inj heq
    rfl
  · rename_i heq
    cases heq

theorem Source.skipBreak_within {source : Source} (h : frame.tail = [] ∨ source.skipBreak.rest ≠ []) :
    (source.within frame).skipBreak = source.skipBreak.within frame := by
  obtain ⟨rest, mark⟩ := source
  rcases rest with _ | ⟨c, rest⟩
  · have htail : frame.tail = [] := by simpa [skipBreak] using h
    simp [within, htail, skipBreak]
  · by_cases hcr : ∃ later, c = '\r' ∧ rest = '\n' :: later
    · obtain ⟨later, rfl, rfl⟩ := hcr
      exact congrArg (Source.mk _) Mark.newline_within
    -- The break is of one character, and by `h` it stays so when the tail follows.
    · have hcr' : ∀ later, c = '\r' → rest = '\n' :: later → False := by
        intro later hc hrest
        exact hcr ⟨later, hc, hrest⟩
      rw [skipBreak_cons hcr'] at h ⊢
      by_cases hbreak : isBreak c = true
      · rw [if_pos hbreak] at h ⊢
        rw [within, List.cons_append, skipBreak_cons (Frame.not_crlf hcr' (h.imp_right .inl)),
          if_pos hbreak, Mark.newline_within]
        rfl
      · rw [if_neg hbreak] at h ⊢
        rw [within, List.cons_append, skipBreak_cons (Frame.not_crlf_of_not_isBreak hbreak),
          if_neg hbreak]

theorem Source.nextLine?_within {source : Source} (h : source.nextLine? = some after)
    (hafter : frame.tail = [] ∨ after.rest ≠ []) :
    (source.within frame).nextLine? = some (after.within frame) := by
  simp only [nextLine?, skipComment_within, rest_within, Frame.atLineEnd_tail] at h ⊢
  split at h
  · obtain rfl := Option.some.inj h
    rw [if_pos ‹_›, skipBreak_within hafter]
  · cases h

theorem blockHeader?_within {source : Source} {header : BlockHeader}
    (h : blockHeader? source = some (header, after)) (hafter : frame.tail = [] ∨ after.rest ≠ []) :
    blockHeader? (source.within frame) = some (header, after.within frame) := by
  obtain ⟨⟨marks, later⟩, hmarks, h⟩ := Option.bind_eq_some_iff.1 h
  obtain ⟨next, hnext, h⟩ := Option.map_eq_some_iff.1 h
  obtain ⟨rfl, rfl⟩ := Prod.mk.inj h
  rw [blockHeader?, blockMarks?_within, hmarks, Option.map_some, Option.bind_some, resultWithin_mk]
  simp only [Source.nextLine?_within hnext hafter, Option.map_some]

theorem directive?_within {source : Source} {kind : Token.Kind}
    (h : directive? source = some (kind, after)) (hafter : frame.tail = [] ∨ after.rest ≠ []) :
    directive? (source.within frame) = some (kind, after.within frame) := by
  simp only [directive?, Source.rest_within, Frame.takeWhile_tail (p := isWordChar) rfl,
    Source.forward_takeWhile_within, Frame.atWordEnd_tail] at h ⊢
  split at h
  · cases h
  · obtain ⟨⟨stated, later⟩, hstated, h⟩ := Option.bind_eq_some_iff.1 h
    obtain ⟨next, hnext, h⟩ := Option.map_eq_some_iff.1 h
    obtain ⟨rfl, rfl⟩ := Prod.mk.inj h
    rw [if_neg ‹_›, directiveText?_within, hstated, Option.map_some, Option.bind_some, resultWithin_mk]
    simp only [Source.nextLine?_within hnext hafter, Option.map_some]

/-- A gap, inside the longer text. -/
def BlockGap.within (frame : Frame) (gap : BlockGap) : BlockGap :=
  { gap with source := gap.source.within frame }

theorem blockGap?_within {indent deepest : Nat} {breaks : List Char} {gap : BlockGap}
    (h : blockGap? indent breaks deepest mark cs = some gap)
    (hgap : frame.tail = [] ∨ gap.source.rest ≠ []) :
    blockGap? indent breaks deepest (mark.within frame) (cs ++ frame.tail) =
      some (gap.within frame) := by
  fun_induction blockGap? indent breaks deepest mark cs
  case case1 =>
    obtain rfl := Option.some.inj h
    have htail : frame.tail = [] := by simpa using hgap
    simp [htail, blockGap?, BlockGap.within, Source.within]
  case case2 ih => simpa [blockGap?] using ih h
  case case3 c rest hcr _ hspace ih =>
    have hc : c = ' ' := by simpa using (Bool.and_eq_true_iff.1 hspace).2
    rw [List.cons_append, blockGap?.eq_3 _ _ _ _ _ _ (Frame.not_crlf hcr (by simp [hc])),
      Mark.column_within, if_pos hspace, Mark.forward_within, ih h]
  case case4 => cases h
  case case5 c rest hcr _ hspace htab hbreak ih =>
    have hne : frame.tail = [] ∨ rest ≠ [] ∨ c ≠ '\r' := by
      refine hgap.imp_right fun hgap => .inl ?_
      rintro rfl
      obtain rfl := Option.some.inj h
      exact hgap rfl
    rw [List.cons_append, blockGap?.eq_3 _ _ _ _ _ _ (Frame.not_crlf hcr hne), Mark.column_within,
      if_neg hspace, if_neg htab, if_pos hbreak, Mark.newline_within, ih h]
  case case6 c rest hcr _ hspace htab hbreak =>
    obtain rfl := Option.some.inj h
    rw [List.cons_append, blockGap?.eq_3 _ _ _ _ _ _ (Frame.not_crlf_of_not_isBreak hbreak),
      Mark.column_within, if_neg hspace, if_neg htab, if_neg hbreak]
    rfl

theorem length_rest_blockGap?_le {indent deepest : Nat} {breaks : List Char} {gap : BlockGap}
    (h : blockGap? indent breaks deepest mark cs = some gap) : gap.source.rest.length ≤ cs.length := by
  fun_induction blockGap? indent breaks deepest mark cs
  case case1 | case6 =>
    obtain rfl := Option.some.inj h
    exact Nat.le_refl _
  case case4 => cases h
  all_goals
    rename_i ih
    refine Nat.le_trans (ih h) ?_
    simp only [List.length_cons]
    omega

theorem Source.length_rest_skipBreak_le {source : Source} :
    source.skipBreak.rest.length ≤ source.rest.length := by
  unfold skipBreak
  split
  · rename_i rest hrest
    show rest.length ≤ source.rest.length
    rw [hrest, List.length_cons, List.length_cons]
    omega
  · split <;> simp_all
  · exact Nat.le_refl _

theorem Source.length_rest_skipBreak_lt {source : Source} {c : Char}
    (h : source.rest.head? = some c) (hc : isBreak c = true) :
    source.skipBreak.rest.length < source.rest.length := by
  unfold skipBreak
  split
  · rename_i rest hrest
    show rest.length < source.rest.length
    rw [hrest, List.length_cons, List.length_cons]
    omega
  · simp_all
  · simp_all

/-- A line and its break are passed. -/
theorem length_rest_blockLine?_lt {literal : Bool} {indent : Nat} {source : Source}
    {lines result : BlockLines} (hrest : source.rest ≠ [])
    (h : blockLine? literal indent lines source = some (result, after)) :
    after.rest.length < source.rest.length := by
  obtain ⟨gap, hgap, h⟩ := Option.map_eq_some_iff.1 h
  obtain ⟨-, rfl⟩ := Prod.mk.inj h
  refine Nat.lt_of_le_of_lt (length_rest_blockGap?_le hgap) ?_
  obtain ⟨c, rest, hcons⟩ := List.exists_cons_of_ne_nil hrest
  by_cases hbreak : isBreak c = true
  -- An empty line: its break is what is passed.
  · have hline : source.rest.takeWhile (fun c => !isBreak c) = [] := by simp [hcons, hbreak]
    rw [hline]
    exact Source.length_rest_skipBreak_lt (c := c) (by simp [Source.forward, hcons]) hbreak
  -- A line with text: its first character is passed.
  · refine Nat.lt_of_le_of_lt Source.length_rest_skipBreak_le ?_
    have hline : source.rest.takeWhile (fun c => !isBreak c) =
        c :: rest.takeWhile fun c => !isBreak c := by simp [hcons, hbreak]
    show (source.rest.drop _).length < source.rest.length
    rw [hline, List.length_drop, hcons, List.length_cons, List.length_cons]
    omega

theorem rest_ne_nil_of_blockGap? {indent deepest : Nat} {breaks : List Char} {gap : BlockGap}
    (h : blockGap? indent breaks deepest mark cs = some gap) (hgap : gap.source.rest ≠ []) :
    cs ≠ [] := by
  have hle := length_rest_blockGap?_le h
  rintro rfl
  exact hgap (List.eq_nil_of_length_eq_zero (Nat.le_zero.1 hle))

theorem Source.rest_ne_nil_of_skipBreak {source : Source} (h : source.skipBreak.rest ≠ []) :
    source.rest ≠ [] := by
  have hle := source.length_rest_skipBreak_le
  intro hnil
  rw [hnil] at hle
  exact h (List.eq_nil_of_length_eq_zero (Nat.le_zero.1 hle))

theorem blockLine?_within {literal : Bool} {indent : Nat} {source : Source} {lines result : BlockLines}
    (h : blockLine? literal indent lines source = some (result, after))
    (hafter : frame.tail = [] ∨ after.rest ≠ []) :
    blockLine? literal indent lines (source.within frame) = some (result, after.within frame) := by
  obtain ⟨gap, hgap, h⟩ := Option.map_eq_some_iff.1 h
  obtain ⟨rfl, rfl⟩ := Prod.mk.inj h
  have hline : ((source.rest ++ frame.tail).takeWhile fun c => !isBreak c) =
      source.rest.takeWhile fun c => !isBreak c := Frame.takeWhile_tail rfl
  have hforward := source.forward_takeWhile_within frame fun c => !isBreak c
  simp only [blockLine?, Source.rest_within, hline, hforward, Frame.atGap_tail]
  generalize source.forward (source.rest.takeWhile fun c => !isBreak c).length = atBreak at hgap ⊢
  -- As the gap after the line ends before the tail, so does the break.
  have hnext := hafter.imp_right (rest_ne_nil_of_blockGap? hgap)
  have hbreak : (atBreak.rest ++ frame.tail).head? = atBreak.rest.head? := by
    obtain htail | hne := hnext
    · rw [htail, List.append_nil]
    · obtain ⟨c, rest, hcons⟩ := List.exists_cons_of_ne_nil (Source.rest_ne_nil_of_skipBreak hne)
      rw [hcons]
      rfl
  rw [hbreak, Source.skipBreak_within hnext, Source.rest_within, Source.mark_within,
    blockGap?_within hgap hafter]
  rfl

theorem rest_ne_nil_of_blockLines? {literal : Bool} {indent fuel : Nat} {source : Source}
    {lines result : BlockLines}
    (h : blockLines? literal indent fuel lines source = some (result, after))
    (hafter : after.rest ≠ []) : source.rest ≠ [] := by
  intro hrest
  cases fuel with
  | zero =>
    obtain ⟨-, rfl⟩ := Prod.mk.inj (Option.some.inj h)
    exact hafter hrest
  | succ fuel =>
    simp only [blockLines?, hrest, List.isEmpty_nil, Bool.not_true, Bool.and_false] at h
    obtain ⟨-, rfl⟩ := Prod.mk.inj (Option.some.inj h)
    exact hafter hrest

theorem blockLines?_within {literal : Bool} {indent fuel fuel' : Nat} {source : Source}
    {lines result : BlockLines} (hfuel : source.rest.length < fuel)
    (hfuel' : source.rest.length < fuel')
    (h : blockLines? literal indent fuel lines source = some (result, after))
    (hafter : frame.tail = [] ∨ after.rest ≠ []) :
    blockLines? literal indent fuel' lines (source.within frame) =
      some (result, after.within frame) := by
  induction fuel generalizing fuel' source lines with
  | zero => exact absurd hfuel (Nat.not_lt_zero _)
  | succ fuel ih =>
    obtain ⟨fuel', rfl⟩ : ∃ n, fuel' = n + 1 := ⟨fuel' - 1, by omega⟩
    -- The lines end with the source only if there is no tail.
    have hempty : (source.rest ++ frame.tail).isEmpty = source.rest.isEmpty := by
      rcases hrest : source.rest with _ | ⟨c, rest⟩
      · have htail : frame.tail = [] := by
          refine hafter.resolve_right fun hne => ?_
          exact rest_ne_nil_of_blockLines? h hne hrest
        rw [htail]
        rfl
      · rfl
    rw [blockLines?] at h ⊢
    rw [Source.mark_within, Mark.column_within, Source.rest_within, hempty]
    split at h
    · rename_i hgo
      obtain ⟨⟨next, later⟩, hline, h⟩ := Option.bind_eq_some_iff.1 h
      -- Each line takes a character at least, so the fuel lasts for the lines that are left.
      have hlt := length_rest_blockLine?_lt (by simp_all) hline
      have hlater : frame.tail = [] ∨ later.rest ≠ [] :=
        hafter.imp_right (rest_ne_nil_of_blockLines? h)
      rw [if_pos hgo, blockLine?_within hline hlater]
      exact ih (by omega) (by omega) h
    · rename_i hstop
      obtain ⟨rfl, rfl⟩ := Prod.mk.inj (Option.some.inj h)
      rw [if_neg hstop]

theorem blockText?_within {literal : Bool} {outer : Int} {source : Source} {text : String}
    (h : blockText? literal outer source = some (text, after))
    (hafter : frame.tail = [] ∨ after.rest ≠ []) :
    blockText? literal outer (source.within frame) = some (text, after.within frame) := by
  obtain ⟨⟨header, body⟩, hheader, h⟩ := Option.bind_eq_some_iff.1 h
  obtain ⟨gap, hgap, h⟩ := Option.bind_eq_some_iff.1 h
  obtain ⟨⟨lines, later⟩, hlines, h⟩ := Option.map_eq_some_iff.1 h
  obtain ⟨rfl, rfl⟩ := Prod.mk.inj h
  -- Each part ends before the tail because the parts after it do.
  have hrest : frame.tail = [] ∨ gap.source.rest ≠ [] :=
    hafter.imp_right (rest_ne_nil_of_blockLines? hlines)
  have hbody : frame.tail = [] ∨ body.rest ≠ [] :=
    hrest.imp_right (rest_ne_nil_of_blockGap? hgap)
  rw [blockText?, blockHeader?_within hheader hbody, Option.bind_some]
  dsimp only
  rw [Source.rest_within, Source.mark_within, blockGap?_within hgap hrest, Option.bind_some]
  dsimp only [BlockGap.within]
  rw [blockLines?_within (Nat.lt_succ_self _) (Nat.lt_succ_of_le (by simp)) hlines hafter]
  rfl

end Multiline

end StreamPlan.Yaml
