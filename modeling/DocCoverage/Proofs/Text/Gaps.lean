import DocCoverage.Proofs.Text.FrontTrivia

/-!
# Gaps between statements

Between two statements stand blanks, line breaks and comments, and at the start of a text an
interpreter line may stand before them. Every comment in such a gap is ended inside of it. The
finder of leading comments goes over a gap and stops at the statement after it, so the ranges that
it keeps lie in the gap.

An interpreter line ends at any of the four line breaks, and the finder takes it to go on to the next
carriage return or line feed. Where a line separator or a paragraph separator ends the line, the finder
may come past the gap.
-/

namespace DocCoverage.Text

/-- A gap: separating characters, line comments with the line end after them, and block comments
that are closed where they first can be. -/
inductive Gap : List Char → Prop where
  | nil : Gap []
  | separator {c : Char} {gap : List Char} (separator : separates c = true) (later : Gap gap) :
      Gap (c :: gap)
  | line (body : List Char) {c : Char} {gap : List Char} (onLine : ∀ d ∈ body, endsLine d = false)
      (ended : endsLine c = true) (later : Gap gap) : Gap ('/' :: '/' :: (body ++ c :: gap))
  | block (body : List Char) {gap : List Char} (opened : ¬ Closes body) (later : Gap gap) :
      Gap ('/' :: '*' :: (body ++ '*' :: '/' :: gap))

/-- A gap at the start of a text: an interpreter line with the line break after it may stand before it.
The line does not go on past a carriage return or a line feed. -/
inductive FirstGap : List Char → Prop where
  | plain {gap : List Char} (only : Gap gap) : FirstGap gap
  | interpreter (body : List Char) {c : Char} {gap : List Char}
      (onLine : ∀ d ∈ body, endsLine d = false) (ended : breaksLine c = true) (later : Gap gap) :
      FirstGap ('#' :: '!' :: (body ++ c :: gap))

/-- The finder reads more than an interpreter line at the start of a text, whose first statement starts
at an offset: either the statement itself starts like such a line, or the first line break of the text is
neither a carriage return nor a line feed. -/
def ReadsPastLine (text : List Char) (start : Nat) : Prop :=
  ['#', '!'] <+: text ∧ (start = 0 ∨ (text.find? breaksLine).any (fun c => !endsLine c) = true)

instance (text : List Char) (start : Nat) : Decidable (ReadsPastLine text start) :=
  inferInstanceAs (Decidable (_ ∧ _))

/-- A range that is not empty lies between two offsets. -/
structure ByteRange.Within (start stop : Nat) (range : ByteRange) : Prop where
  start_le : start ≤ range.start
  start_lt_stop : range.start < range.stop
  stop_le : range.stop ≤ stop

/-- The characters of a line up to its end. -/
theorem cut_of_endsLine {body : List Char} (honLine : ∀ d ∈ body, endsLine d = false) {c : Char}
    (hended : endsLine c = true) (rest : List Char) :
    Cut (fun c => !endsLine c) body (c :: rest) := by
  refine ⟨fun d hd => by rw [honLine d hd]; rfl, fun d hd => ?_⟩
  obtain rfl := Option.some.inj hd
  rw [hended]
  rfl

/-- The end of a line separates comments. -/
theorem separates_of_endsLine {c : Char} (hc : endsLine c = true) : separates c = true := by
  rw [← endsLine_or_isGap, hc, Bool.true_or]

/-- A range in front of some offset lies in every larger stretch. -/
theorem ByteRange.Within.mono {start stop start' stop' : Nat} {range : ByteRange}
    (hwithin : range.Within start stop) (hstart : start' ≤ start) (hstop : stop ≤ stop') :
    range.Within start' stop' :=
  ⟨hstart.trans hwithin.start_le, hwithin.start_lt_stop, hwithin.stop_le.trans hstop⟩

/-- A range that the finder keeps lies in the comment in front or where the later ones lie. -/
theorem within_of_mem_commentsFrom_comment {comment rest : List Char}
    (hcomment : FrontComment comment rest) {leads : Bool} {offset stop : Nat} {range : ByteRange}
    (hstop : offset + byteLength comment ≤ stop)
    (hlater : range ∈ commentsFrom leads (offset + byteLength comment) rest →
      range.Within (offset + byteLength comment) stop)
    (hmem : range ∈ commentsFrom leads offset (comment ++ rest)) : range.Within offset stop := by
  have hsize : byteLength comment ≠ 0 := mt eq_nil_of_byteLength_eq_zero hcomment.ne_nil
  rcases mem_commentsFrom_comment hcomment hmem with rfl | hmem
  · exact ⟨Nat.le_refl _, Nat.lt_add_of_pos_right (Nat.pos_of_ne_zero hsize), hstop⟩
  · exact (hlater hmem).mono (Nat.le_add_right _ _) (Nat.le_refl _)

/-- The ranges that the finder keeps where a gap stands before a statement lie in the gap. -/
theorem within_of_mem_commentsFrom_gap {gap after : List Char} (hgap : Gap gap)
    (hafter : ¬ StartsTrivia after) {leads : Bool} {offset : Nat} {range : ByteRange}
    (hmem : range ∈ commentsFrom leads offset (gap ++ after)) :
    range.Within offset (offset + byteLength gap) := by
  induction hgap generalizing leads offset with
  | nil =>
    rw [List.nil_append, commentsFrom_stop hafter] at hmem
    exact absurd hmem List.not_mem_nil
  | @separator c gap hc hgap ih =>
    rw [List.cons_append, commentsFrom_separator hc] at hmem
    rw [byteLength_cons, ← Nat.add_assoc]
    exact (ih hmem).mono (Nat.le_add_right _ _) (Nat.le_refl _)
  | @line body c gap honLine hended hgap ih =>
    have hcomment : FrontComment ('/' :: '/' :: body) (c :: (gap ++ after)) :=
      .line (cut_of_endsLine honLine hended (gap ++ after))
    have hgaps : '/' :: '/' :: (body ++ c :: gap) = ('/' :: '/' :: body) ++ c :: gap := rfl
    rw [hgaps, byteLength_append, byteLength_cons c, ← Nat.add_assoc, ← Nat.add_assoc]
    rw [hgaps, List.append_assoc] at hmem
    refine within_of_mem_commentsFrom_comment hcomment (by omega) (fun hlater => ?_) hmem
    -- the comment ends before the end of its line, which the finder goes over next
    rw [commentsFrom_separator (separates_of_endsLine hended)] at hlater
    exact (ih hlater).mono (Nat.le_add_right _ _) (Nat.le_refl _)
  | @block body gap hopened hgap ih =>
    have hcomment : FrontComment ('/' :: '*' :: (body ++ ['*', '/'])) (gap ++ after) :=
      .closed (gap ++ after) hopened
    have hgaps : '/' :: '*' :: (body ++ '*' :: '/' :: gap) =
        ('/' :: '*' :: (body ++ ['*', '/'])) ++ gap := by simp
    rw [hgaps, byteLength_append, ← Nat.add_assoc]
    rw [hgaps, List.append_assoc] at hmem
    exact within_of_mem_commentsFrom_comment hcomment (Nat.le_add_right _ _) ih hmem

/-- A gap that is not empty does not start with an interpreter line. -/
theorem Gap.not_interpreter {gap : List Char} (hgap : Gap gap) (hne : gap ≠ [])
    (after : List Char) : ¬ ['#', '!'] <+: gap ++ after := by
  intro hprefix
  cases hgap with
  | nil => exact hne rfl
  | separator hc _ =>
    obtain ⟨rfl, -⟩ := List.cons_prefix_cons.mp hprefix
    exact absurd hc (by decide)
  | line body _ _ _ => exact absurd (List.cons_prefix_cons.mp hprefix).1 (by decide)
  | block body _ _ => exact absurd (List.cons_prefix_cons.mp hprefix).1 (by decide)

/-- Where neither a carriage return nor a line feed ends an interpreter line, the first line break of the
text is neither. -/
theorem find?_breaksLine_interpreter {body : List Char} (honLine : ∀ d ∈ body, endsLine d = false)
    {c : Char} (hbreaks : breaksLine c = true) (hother : endsLine c = false) (rest : List Char) :
    (('#' :: '!' :: (body ++ c :: rest)).find? breaksLine).any (fun d => !endsLine d) = true := by
  have hmarks : breaksLine '#' = false ∧ breaksLine '!' = false := by decide
  rw [List.find?_cons, hmarks.1, List.find?_cons, hmarks.2, List.find?_append, List.find?_cons, hbreaks]
  cases hfirst : body.find? breaksLine with
  | none => simp [hother]
  | some d => simp [honLine d (List.mem_of_find?_eq_some hfirst)]

/-- The comments that lead a statement after a gap at the start of a text lie in the gap, unless the
finder reads more than the interpreter line. -/
theorem exists_leadingComments_firstGap {gap after : List Char} (hgap : FirstGap gap)
    (hafter : ¬ StartsTrivia after) (hline : ¬ ReadsPastLine (gap ++ after) (byteLength gap)) :
    ∃ ranges, leadingComments? (gap ++ after) 0 = some ranges ∧
      ∀ range ∈ ranges, range.Within 0 (byteLength gap) := by
  cases hgap with
  | plain hgap =>
    have hnone : ¬ ['#', '!'] <+: gap ++ after := by
      by_cases hne : gap = []
      · subst hne
        exact fun hmarks => hline ⟨hmarks, .inl rfl⟩
      · exact hgap.not_interpreter hne after
    have hfound := leadingComments?_zero (.absent hnone)
    rw [List.nil_append] at hfound
    refine ⟨_, hfound, fun range hmem => ?_⟩
    have hwithin := within_of_mem_commentsFrom_gap hgap hafter hmem
    rwa [byteLength_nil, Nat.zero_add] at hwithin
  | @interpreter body c gap honLine hbreaks hgap =>
    have hgaps : '#' :: '!' :: (body ++ c :: gap) ++ after =
        '#' :: '!' :: (body ++ c :: (gap ++ after)) := by simp
    have hended : endsLine c = true := by
      by_contra hother
      rw [hgaps] at hline
      refine hline ⟨⟨_, rfl⟩, .inr ?_⟩
      exact find?_breaksLine_interpreter honLine hbreaks (eq_false_of_ne_true hother) (gap ++ after)
    have hfront : InterpreterLine ('#' :: '!' :: body) (c :: (gap ++ after)) :=
      .present (cut_of_endsLine honLine hended (gap ++ after))
    have hwhole : '#' :: '!' :: (body ++ c :: gap) = ('#' :: '!' :: body) ++ c :: gap := rfl
    rw [hwhole, List.append_assoc, byteLength_append]
    refine ⟨_, leadingComments?_zero hfront, fun range hmem => ?_⟩
    have hends : Gap (c :: gap) := .separator (separates_of_endsLine hended) hgap
    exact (within_of_mem_commentsFrom_gap hends hafter hmem).mono (Nat.zero_le _) (Nat.le_refl _)

/-- The comments that lead a statement after some characters and a gap lie in the gap. -/
theorem exists_leadingComments_gap {before gap after : List Char} (hbefore : before ≠ [])
    (hgap : Gap gap) (hafter : ¬ StartsTrivia after) :
    ∃ ranges, leadingComments? (before ++ (gap ++ after)) (byteLength before) = some ranges ∧
      ∀ range ∈ ranges, range.Within (byteLength before) (byteLength before + byteLength gap) :=
  ⟨_, leadingComments?_append hbefore (gap ++ after),
    fun _ hmem => within_of_mem_commentsFrom_gap hgap hafter hmem⟩

end DocCoverage.Text
