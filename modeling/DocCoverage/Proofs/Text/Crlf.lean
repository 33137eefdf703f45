import DocCoverage.Proofs.Text.FrontTrivia
import DocCoverage.Text.LineIndex

/-!
# Line feeds and carriage returns

A text is written with a carriage return before each of its line feeds. Words on one line stand
where they stood, the comments that lead a statement are the same comments at offsets that count
the carriage returns, and every offset lies on the line on which it lay.
-/

namespace DocCoverage.Text

/-- A text with a carriage return before each line feed. -/
def toCrlf (text : List Char) : List Char :=
  text.flatMap fun c => if c = '\n' then ['\r', '\n'] else [c]

/-- The offset in a text with carriage returns of an offset in a text: each line feed before it
counts once more. -/
def crlfOffset (text : List Char) (offset : Nat) : Nat :=
  offset + (prefixAt text offset).count '\n'

/-- The range in a text with carriage returns of a range in a text. -/
def ByteRange.toCrlf (text : List Char) (range : ByteRange) : ByteRange :=
  ⟨crlfOffset text range.start, crlfOffset text range.stop⟩

/-- An empty text has no line feeds. -/
@[simp]
theorem toCrlf_nil : toCrlf [] = [] := rfl

/-- Two texts get their carriage returns one after the other. -/
@[simp]
theorem toCrlf_append (first second : List Char) :
    toCrlf (first ++ second) = toCrlf first ++ toCrlf second := List.flatMap_append

/-- A line feed gets a carriage return before it. -/
@[simp]
theorem toCrlf_cons_lineFeed (rest : List Char) :
    toCrlf ('\n' :: rest) = '\r' :: '\n' :: toCrlf rest := rfl

/-- Any other character stays as it is. -/
theorem toCrlf_cons_of_ne {c : Char} (hc : c ≠ '\n') (rest : List Char) :
    toCrlf (c :: rest) = c :: toCrlf rest := by
  rw [toCrlf, List.flatMap_cons, if_neg hc]
  rfl

/-- A text of one line stays as it is. -/
theorem toCrlf_of_not_mem {text : List Char} (hfree : '\n' ∉ text) : toCrlf text = text := by
  induction text with
  | nil => rfl
  | cons c rest ih =>
    obtain ⟨hc, hrest⟩ := not_or.mp (mt List.mem_cons.mpr hfree)
    rw [toCrlf_cons_of_ne (Ne.symm hc), ih hrest]

/-- A text that has a line feed keeps it. -/
theorem lineFeed_mem_toCrlf_iff (text : List Char) : '\n' ∈ toCrlf text ↔ '\n' ∈ text := by
  constructor
  · intro hmem
    by_contra hfree
    rw [toCrlf_of_not_mem hfree] at hmem
    exact hfree hmem
  · intro hmem
    exact List.mem_flatMap.mpr ⟨'\n', hmem, by decide⟩

/-! ## Words on one line -/

/-- A word is free of carriage returns and line feeds. -/
def OnOneLine (word : List Char) : Prop := '\r' ∉ word ∧ '\n' ∉ word

instance (word : List Char) : Decidable (OnOneLine word) :=
  inferInstanceAs (Decidable ('\r' ∉ word ∧ '\n' ∉ word))

/-- A word stands in front of a text with carriage returns as in front of the text. -/
theorem prefix_toCrlf_iff {word : List Char} (hword : OnOneLine word) (text : List Char) :
    word <+: toCrlf text ↔ word <+: text := by
  induction text generalizing word with
  | nil => rfl
  | cons c rest ih =>
    cases word with
    | nil => simp
    | cons d word =>
      obtain ⟨hreturn, hreturns⟩ := not_or.mp (mt List.mem_cons.mpr hword.1)
      obtain ⟨hfeed, hfeeds⟩ := not_or.mp (mt List.mem_cons.mpr hword.2)
      by_cases hc : c = '\n'
      · subst hc
        rw [toCrlf_cons_lineFeed, List.cons_prefix_cons, List.cons_prefix_cons]
        exact iff_of_false (fun h => hreturn h.1.symm) fun h => hfeed h.1.symm
      · rw [toCrlf_cons_of_ne hc, List.cons_prefix_cons, List.cons_prefix_cons,
          ih ⟨hreturns, hfeeds⟩]

/-- A word stands at the end of a text with carriage returns as at the end of the text. -/
theorem suffix_toCrlf_iff {word : List Char} (hword : OnOneLine word) (text : List Char) :
    word <:+ toCrlf text ↔ word <:+ text := by
  induction text with
  | nil => rfl
  | cons c rest ih =>
    by_cases hc : c = '\n'
    · subst hc
      have hreturn : word ≠ '\r' :: '\n' :: toCrlf rest := fun h => hword.1 (h ▸ List.mem_cons_self)
      have hfeed (after : List Char) : word ≠ '\n' :: after := fun h =>
        hword.2 (h ▸ List.mem_cons_self)
      rw [toCrlf_cons_lineFeed, List.suffix_cons_iff, List.suffix_cons_iff, List.suffix_cons_iff,
        ih, or_iff_right hreturn, or_iff_right (hfeed _), or_iff_right (hfeed _)]
    · rw [toCrlf_cons_of_ne hc, List.suffix_cons_iff, List.suffix_cons_iff, ih]
      have hwhole : word = c :: toCrlf rest ↔ word = c :: rest := by
        by_cases hrest : '\n' ∈ rest
        · have hmem := (lineFeed_mem_toCrlf_iff rest).mpr hrest
          exact iff_of_false (fun h => hword.2 (h ▸ List.mem_cons_of_mem c hmem))
            fun h => hword.2 (h ▸ List.mem_cons_of_mem c hrest)
        · rw [toCrlf_of_not_mem hrest]
      rw [hwhole]

/-- A word stands inside of a text with carriage returns as inside of the text. -/
theorem infix_toCrlf_iff {word : List Char} (hword : OnOneLine word) (text : List Char) :
    word <:+: toCrlf text ↔ word <:+: text := by
  induction text with
  | nil => rfl
  | cons c rest ih =>
    rw [List.infix_cons_iff, ← ih, ← prefix_toCrlf_iff hword]
    by_cases hc : c = '\n'
    · subst hc
      have hfeed : word <+: '\n' :: toCrlf rest → word <:+: toCrlf rest := by
        intro h
        cases word with
        | nil => exact List.nil_infix
        | cons d word =>
          obtain ⟨rfl, -⟩ := List.cons_prefix_cons.mp h
          exact absurd List.mem_cons_self hword.2
      rw [toCrlf_cons_lineFeed, List.infix_cons_iff, List.infix_cons_iff, or_iff_right_of_imp hfeed]
    · rw [toCrlf_cons_of_ne hc, List.infix_cons_iff]

/-! ## Offsets -/

/-- Each line feed takes one byte more. -/
theorem byteLength_toCrlf (text : List Char) :
    byteLength (toCrlf text) = byteLength text + text.count '\n' := by
  induction text with
  | nil => rfl
  | cons c rest ih =>
    by_cases hc : c = '\n'
    · subst hc
      have hreturn : '\r'.utf8Size = 1 := rfl
      rw [toCrlf_cons_lineFeed, byteLength_cons, byteLength_cons, byteLength_cons, ih,
        List.count_cons_self, hreturn]
      omega
    · rw [toCrlf_cons_of_ne hc, byteLength_cons, byteLength_cons, ih, List.count_cons_of_ne hc]
      omega

/-- The offset after some characters is that after the same characters with carriage returns. -/
theorem crlfOffset_append (before after : List Char) :
    crlfOffset (before ++ after) (byteLength before) = byteLength (toCrlf before) := by
  rw [crlfOffset, prefixAt_append, byteLength_toCrlf]

/-- The offset after two stretches is that after both with carriage returns. -/
theorem crlfOffset_append_append (before middle after : List Char) :
    crlfOffset (before ++ (middle ++ after)) (byteLength before + byteLength middle) =
      byteLength (toCrlf before) + byteLength (toCrlf middle) := by
  rw [← byteLength_append, ← List.append_assoc, crlfOffset_append, toCrlf_append, byteLength_append]

/-- The slice of a text with carriage returns between the offsets of a slice of the text. -/
theorem slice_toCrlf (before middle after : List Char) :
    slice (toCrlf (before ++ (middle ++ after)))
        (crlfOffset (before ++ (middle ++ after)) (byteLength before))
        (crlfOffset (before ++ (middle ++ after)) (byteLength before + byteLength middle)) =
      toCrlf middle := by
  rw [crlfOffset_append, crlfOffset_append_append, toCrlf_append, toCrlf_append, slice_append]

/-! ## Leading comments -/

/-- What closes a comment is not changed. -/
theorem closes_toCrlf_iff (text : List Char) : Closes (toCrlf text) ↔ Closes text :=
  infix_toCrlf_iff (by decide) text

/-- A line ends in front of its carriage return where it ended in front of its line feed. -/
theorem cut_toCrlf {body rest : List Char} (hcut : Cut (fun c => !endsLine c) body rest) :
    Cut (fun c => !endsLine c) body (toCrlf rest) := by
  refine ⟨hcut.passes, fun c hc => ?_⟩
  cases rest with
  | nil => exact absurd hc (by simp)
  | cons d rest =>
    by_cases hd : d = '\n'
    · subst hd
      obtain rfl := Option.some.inj hc
      rfl
    · rw [toCrlf_cons_of_ne hd] at hc
      exact hcut.stops c hc

/-- A comment in front of a text is a comment in front of it with carriage returns. -/
theorem FrontComment.toCrlf {comment rest : List Char} (hcomment : FrontComment comment rest) :
    FrontComment (toCrlf comment) (toCrlf rest) := by
  have hopen (c : Char) (hc : c ≠ '\n') (body : List Char) :
      Text.toCrlf ('/' :: c :: body) = '/' :: c :: Text.toCrlf body := by
    rw [toCrlf_cons_of_ne (by decide), toCrlf_cons_of_ne hc]
  cases hcomment with
  | @line body rest hcut =>
    have hbody : '\n' ∉ body := fun h => absurd (hcut.passes '\n' h) (by decide)
    rw [hopen '/' (by decide), toCrlf_of_not_mem hbody]
    exact .line (cut_toCrlf hcut)
  | @closed body rest hbody =>
    rw [hopen '*' (by decide), toCrlf_append]
    exact .closed _ (mt (closes_toCrlf_iff body).mp hbody)
  | @unclosed body hbody =>
    rw [hopen '*' (by decide)]
    exact .unclosed (mt (closes_toCrlf_iff body).mp hbody)

/-- A text that starts with no comment and no separating character does not with carriage
returns. -/
theorem startsTrivia_of_toCrlf {text : List Char} (hstarts : StartsTrivia (toCrlf text)) :
    StartsTrivia text := by
  rcases hstarts with hline | hblock | hseparator
  · exact Or.inl ((prefix_toCrlf_iff (by decide) text).mp hline)
  · exact Or.inr (Or.inl ((prefix_toCrlf_iff (by decide) text).mp hblock))
  · refine Or.inr (Or.inr ?_)
    cases text with
    | nil => exact hseparator
    | cons c rest =>
      by_cases hc : c = '\n'
      · subst hc
        rfl
      · rw [toCrlf_cons_of_ne hc] at hseparator
        exact hseparator

/-- The finder keeps the same comments of a text with carriage returns. -/
theorem commentsFrom_toCrlf (leads : Bool) (before rest : List Char) :
    commentsFrom leads (byteLength (toCrlf before)) (toCrlf rest) =
      (commentsFrom leads (byteLength before) rest).map (ByteRange.toCrlf (before ++ rest)) := by
  -- what is passed goes over to the characters before, so that every offset is their size
  induction rest using frontTrivia_induction generalizing leads before with
  | hcomment comment rest hcomment ih =>
    have hlater := ih leads (before ++ comment)
    rw [toCrlf_append, byteLength_append, byteLength_append, List.append_assoc] at hlater
    rw [toCrlf_append, commentsFrom_comment hcomment.toCrlf, commentsFrom_comment hcomment,
      List.map_append, hlater]
    congr 1
    cases leads with
    | false => rfl
    | true =>
      simp only [if_true, List.map_cons, List.map_nil, ByteRange.toCrlf, crlfOffset_append,
        crlfOffset_append_append]
  | hseparator c rest hc ih =>
    have hlater := ih (leads || breaksLine c) (before ++ [c])
    rw [toCrlf_append, byteLength_append, byteLength_append, List.append_assoc, byteLength_cons c,
      byteLength_nil, Nat.add_zero] at hlater
    rw [commentsFrom_separator hc]
    by_cases hfeed : c = '\n'
    · subst hfeed
      rw [toCrlf_cons_lineFeed, commentsFrom_separator (by decide), commentsFrom_separator hc,
        Bool.or_assoc]
      exact hlater
    · rw [toCrlf_cons_of_ne hfeed, commentsFrom_separator hc]
      rw [toCrlf_cons_of_ne hfeed, toCrlf_nil, byteLength_cons, byteLength_nil] at hlater
      exact hlater
  | hstop text htext =>
    rw [commentsFrom_stop htext, commentsFrom_stop (mt startsTrivia_of_toCrlf htext), List.map_nil]

/-- An interpreter line in front of a text is one in front of it with carriage returns. -/
theorem InterpreterLine.toCrlf {front rest : List Char} (hline : InterpreterLine front rest) :
    InterpreterLine (toCrlf front) (toCrlf rest) := by
  cases hline with
  | @present body rest hcut =>
    have hbody : '\n' ∉ body := fun h => absurd (hcut.passes '\n' h) (by decide)
    rw [toCrlf_cons_of_ne (by decide), toCrlf_cons_of_ne (by decide), toCrlf_of_not_mem hbody]
    exact .present (cut_toCrlf hcut)
  | absent hother => exact .absent (mt (prefix_toCrlf_iff (by decide) rest).mp hother)

/-- The leading comments of a text with carriage returns are those of the text. -/
theorem leadingComments?_toCrlf {text : List Char} {offset : Nat}
    (hoffset : IsBoundary text offset) :
    leadingComments? (toCrlf text) (crlfOffset text offset) =
      (leadingComments? text offset).map (List.map (ByteRange.toCrlf text)) := by
  obtain ⟨before, after, rfl, rfl⟩ := hoffset
  rw [crlfOffset_append, toCrlf_append]
  by_cases hbefore : before = []
  · subst hbefore
    obtain ⟨front, rest, rfl, hline⟩ := exists_interpreterLine after
    rw [List.nil_append, toCrlf_append, toCrlf_nil, List.nil_append, byteLength_nil,
      leadingComments?_zero hline.toCrlf, leadingComments?_zero hline, commentsFrom_toCrlf,
      Option.map_some]
  · have hcrlf : toCrlf before ≠ [] := by
      intro h
      have hsize := byteLength_toCrlf before
      rw [h, byteLength_nil] at hsize
      exact hbefore (eq_nil_of_byteLength_eq_zero (by omega))
    rw [leadingComments?_append hcrlf, leadingComments?_append hbefore, commentsFrom_toCrlf,
      Option.map_some]

/-- The leading comment nearest to a statement is the same one with carriage returns. -/
theorem nearestComment_toCrlf {text : List Char} {offset : Nat} (hoffset : IsBoundary text offset)
    {ranges : List ByteRange} (hranges : leadingComments? text offset = some ranges) :
    nearestComment (toCrlf text) (ranges.map (ByteRange.toCrlf text)) =
      (nearestComment text ranges).map toCrlf := by
  rw [nearestComment, nearestComment, List.getLast?_map, Option.map_map, Option.map_map]
  cases hlast : ranges.getLast? with
  | none => rfl
  | some range =>
    obtain ⟨before, comment, after, rfl, -, rfl⟩ :=
      exists_comment_of_mem_leadingComments hoffset hranges (List.mem_of_getLast? hlast)
    rw [Option.map_some, Option.map_some, Function.comp_apply, Function.comp_apply, slice_append]
    exact congrArg some (slice_toCrlf before comment after)

/-! ## Lines -/

/-- The characters before an offset stand before every later one. -/
theorem prefixAt_mono (text : List Char) {offset later : Nat} (hle : offset ≤ later) :
    prefixAt text offset <+: prefixAt text later := by
  induction text generalizing offset later with
  | nil => exact List.nil_prefix
  | cons c rest ih =>
    rw [prefixAt, prefixAt]
    split
    · rw [if_pos (by omega), List.cons_prefix_cons]
      exact ⟨rfl, ih (by omega)⟩
    · exact List.nil_prefix

/-- Offsets keep their order when carriage returns are counted. -/
theorem crlfOffset_le_iff (text : List Char) (offset later : Nat) :
    crlfOffset text offset ≤ crlfOffset text later ↔ offset ≤ later := by
  have hcount {first second : Nat} (hle : first ≤ second) :
      (prefixAt text first).count '\n' ≤ (prefixAt text second).count '\n' :=
    (prefixAt_mono text hle).sublist.count_le '\n'
  rw [crlfOffset, crlfOffset]
  constructor
  · intro h
    by_contra hlt
    have := hcount (Nat.le_of_not_le hlt)
    omega
  · intro hle
    exact Nat.add_le_add hle (hcount hle)

/-- The lines of a text with carriage returns start where those of the text do. -/
theorem laterStarts_toCrlf (before : List Char) {rest : List Char} (hfree : '\r' ∉ rest) :
    LineIndex.laterStarts (byteLength (toCrlf before)) (toCrlf rest) =
      (LineIndex.laterStarts (byteLength before) rest).map (crlfOffset (before ++ rest)) := by
  induction rest generalizing before with
  | nil => rfl
  | cons c rest ih =>
    obtain ⟨hne, hrest⟩ := not_or.mp (mt List.mem_cons.mpr hfree)
    have hreturn (after : List Char) (h : c = '\r') : rest = '\n' :: after → False :=
      absurd h (Ne.symm hne)
    have hlater := ih (before ++ [c]) hrest
    rw [toCrlf_append, byteLength_append, byteLength_append, List.append_assoc, byteLength_cons c,
      byteLength_nil, Nat.add_zero] at hlater
    by_cases hfeed : c = '\n'
    · subst hfeed
      have hstart := crlfOffset_append_append before ['\n'] rest
      rw [toCrlf_cons_lineFeed, LineIndex.laterStarts, LineIndex.laterStarts, if_pos (Or.inr rfl),
        List.map_cons]
      · exact List.cons_eq_cons.mpr ⟨hstart.symm, hlater⟩
      · exact hreturn
    · have hother : ¬ (c = '\r' ∨ c = '\n') := not_or.mpr ⟨Ne.symm hne, hfeed⟩
      rw [toCrlf_cons_of_ne hfeed, toCrlf_nil, byteLength_cons, byteLength_nil] at hlater
      rw [toCrlf_cons_of_ne hfeed, LineIndex.laterStarts, LineIndex.laterStarts, if_neg hother,
        if_neg hother]
      · exact hlater
      · exact hreturn
      · intro after h
        exact absurd h (Ne.symm hne)

/-- An offset lies on the same line of a text with carriage returns. -/
theorem lineOf_toCrlf {text : List Char} (hfree : '\r' ∉ text) (offset : Nat) :
    (LineIndex.ofText (toCrlf text)).lineOf (crlfOffset text offset) =
      (LineIndex.ofText text).lineOf offset := by
  have hstarts : (LineIndex.ofText (toCrlf text)).starts =
      (LineIndex.ofText text).starts.map (crlfOffset text) := by
    have hlater := laterStarts_toCrlf [] hfree
    have hzero := crlfOffset_append [] text
    exact List.cons_eq_cons.mpr ⟨hzero.symm, hlater⟩
  have htest : (fun start => decide (start ≤ crlfOffset text offset)) ∘ crlfOffset text =
      fun start => decide (start ≤ offset) := by
    funext start
    rw [Function.comp_apply, decide_eq_decide, crlfOffset_le_iff]
  rw [LineIndex.lineOf, LineIndex.lineOf, hstarts, List.takeWhile_map, List.length_map, htest]

end DocCoverage.Text
