import DocCoverage.Proofs.Coverage.CollectedDeclarations
import DocCoverage.Proofs.Coverage.Collection
import DocCoverage.Proofs.Text.CommentRanges
import DocCoverage.Proofs.Text.TriviaTokens
import Mathlib.Data.List.Basic

/-!
# Which item a comment belongs to

The items of a module stand in its text one after the other, with gaps between them. The comments of
the declarations of an item are sought from the end of the item before it on. Where the finder stops at
the start of the item, the comments of the item lie in the gap before it, no two items share a comment,
and no comment inside of an item leads anything.

The finder comes past the start of an item in two cases. An interpreter line that is ended by a line
separator or a paragraph separator is read on to the next carriage return or line feed, and comments
from there on are found for the first item. And an item that is nothing but a slash makes a comment
together with the text after it; no statement is one.
-/

namespace DocCoverage.Coverage

open Text TypeScript

/-- Items that stand in a text one after the other, with gaps between them. No item starts with what
a gap may hold. -/
structure Spaced (text : List Char) (items : List Item) : Prop where
  nonempty : ∀ item ∈ items, item.span.start < item.span.stop
  ordered : items.Pairwise fun first second => first.span.stop ≤ second.span.start
  boundaries : ∀ item ∈ items, IsBoundary text item.span.start ∧ IsBoundary text item.span.stop
  firstGap : ∀ item after, items = item :: after → FirstGap (slice text 0 item.span.start)
  gaps : ∀ before previous item after, items = before ++ previous :: item :: after →
    Gap (slice text previous.span.stop item.span.start)
  starts : ∀ item ∈ items, ¬ StartsTrivia (slice text item.span.start item.span.stop)

/-- A declaration that the collector returns from the item after some others. -/
def CollectedFrom (index : LineIndex) (items before : List Item) (item : Item)
    (declaration : Declaration) : Prop :=
  (∃ after, items = before ++ item :: after) ∧
    declaration ∈ declarationsOfItem index (endAfter 0 before) item

/-- A range among those of the comments that lead a declaration. -/
def IsLeadingComment (text : List Char) (declaration : Declaration) (range : ByteRange) : Prop :=
  ∃ ranges, leadingComments? text declaration.commentOffset = some ranges ∧ range ∈ ranges

/-- Two ranges without a byte in common. -/
def Apart (first second : ByteRange) : Prop :=
  first.stop ≤ second.start ∨ second.stop ≤ first.start

/-- Each comment is credited to one item at most: the comments of an item lie between the item before
it and its start, those of two items lie apart, and all of them lie apart from every item. -/
structure CreditedOnce (index : LineIndex) (text : List Char) (items : List Item) : Prop where
  found : ∀ before item declaration, CollectedFrom index items before item declaration →
    (leadingComments? text declaration.commentOffset).isSome = true
  between : ∀ before item declaration, CollectedFrom index items before item declaration →
    ∀ range, IsLeadingComment text declaration range →
      range.Within (endAfter 0 before) item.span.start
  apart : ∀ before item declaration before' item' declaration',
    CollectedFrom index items before item declaration →
      CollectedFrom index items before' item' declaration' → before.length ≠ before'.length →
      ∀ range range', IsLeadingComment text declaration range →
        IsLeadingComment text declaration' range' → Apart range range'
  outside : ∀ declaration ∈ declarationsOf index items, ∀ range,
    IsLeadingComment text declaration range →
      ∀ item ∈ items, Apart range ⟨item.span.start, item.span.stop⟩

/-- Among the tokens from an offset on, a comment that leads ends after the start of an item. -/
def Overruns (text : List Char) (offset start : Nat) : Prop :=
  ∃ front tokens rest place, TriviaFrom text offset front tokens rest ∧
    place ∈ leadingPlaces (offset == 0) tokens ∧
    start < (rangeAt (byteLength front) tokens place).stop

/-- An item that is nothing but a slash, with which a comment starts in the text. -/
def SplitsComment (text : List Char) (span : Span) : Prop :=
  slice text span.start span.stop = ['/'] ∧ ∃ rest ∈ suffixAt? text span.start, StartsTrivia rest

instance (text : List Char) (span : Span) : Decidable (SplitsComment text span) :=
  inferInstanceAs (Decidable (_ ∧ _))

/-- An overrun is one of the ranges of the comments that lead. -/
theorem overruns_iff {text : List Char} {offset start : Nat} {ranges : List ByteRange}
    (hoffset : IsBoundary text offset) (hranges : leadingComments? text offset = some ranges) :
    Overruns text offset start ↔ ∃ range ∈ ranges, start < range.stop := by
  constructor
  · intro h
    obtain ⟨front, tokens, rest, place, htrivia, hplace, hlt⟩ := h
    have hfound := htrivia.leadingComments?_eq
    obtain rfl := Option.some.inj (hranges.symm.trans hfound)
    exact ⟨_, List.mem_map_of_mem hplace, hlt⟩
  · intro h
    obtain ⟨range, hmem, hlt⟩ := h
    obtain ⟨front, tokens, rest, htrivia⟩ := exists_triviaFrom (.inl hoffset)
    obtain rfl := Option.some.inj (hranges.symm.trans htrivia.leadingComments?_eq)
    obtain ⟨place, hplace, rfl⟩ := List.mem_map.mp hmem
    exact ⟨front, tokens, rest, place, htrivia, hplace, hlt⟩

/-- Items end where the last of them does. -/
theorem endAfter_concat (offset : Nat) (before : List Item) (item : Item) :
    endAfter offset (before ++ [item]) = item.span.stop := by
  rw [endAfter, List.getLast?_concat, Option.map_some, Option.getD_some]

/-- No item ends after the last of items in order. -/
theorem stop_le_endAfter {items : List Item}
    (hnonempty : ∀ item ∈ items, item.span.start < item.span.stop)
    (hordered : items.Pairwise fun first second => first.span.stop ≤ second.span.start)
    {item : Item} (hitem : item ∈ items) : item.span.stop ≤ endAfter 0 items := by
  rcases List.eq_nil_or_concat' items with rfl | ⟨before, last, rfl⟩
  · exact absurd hitem List.not_mem_nil
  · rw [endAfter_concat]
    rcases List.mem_append.mp hitem with hbefore | hlast
    · have hle := (List.pairwise_append.mp hordered).2.2 item hbefore last List.mem_cons_self
      have hlt := hnonempty last (List.mem_append_right before List.mem_cons_self)
      omega
    · rw [List.mem_singleton.mp hlast]

/-- The declarations of a module are those that are collected from its items. -/
theorem mem_declarationsOf_iff_collectedFrom (index : LineIndex) (items : List Item)
    (declaration : Declaration) :
    declaration ∈ declarationsOf index items ↔
      ∃ before item, CollectedFrom index items before item declaration := by
  rw [mem_declarationsOf_iff]
  constructor
  · intro h
    obtain ⟨before, item, after, hitems, hmem⟩ := h
    exact ⟨before, item, ⟨after, hitems⟩, hmem⟩
  · intro h
    obtain ⟨before, item, ⟨after, hitems⟩, hmem⟩ := h
    exact ⟨before, item, after, hitems, hmem⟩

/-- Two items with gaps before them. -/
theorem Spaced.pair {text : List Char} {first second : Item}
    (hordered : first.span.start < first.span.stop ∧ first.span.stop ≤ second.span.start ∧
      second.span.start < second.span.stop)
    (hboundaries : ∀ item ∈ [first, second],
      IsBoundary text item.span.start ∧ IsBoundary text item.span.stop)
    (hstarts : ∀ item ∈ [first, second],
      ¬ StartsTrivia (slice text item.span.start item.span.stop))
    (hfirst : FirstGap (slice text 0 first.span.start))
    (hsecond : Gap (slice text first.span.stop second.span.start)) : Spaced text [first, second] where
  nonempty := by simp [hordered]
  ordered := by simp [hordered]
  boundaries := hboundaries
  firstGap := by
    intro item after hitems
    obtain ⟨rfl, -⟩ := List.cons.inj hitems
    exact hfirst
  gaps := by
    intro before previous item after hitems
    cases before with
    | nil =>
      obtain ⟨rfl, hlater⟩ := List.cons.inj hitems
      obtain ⟨rfl, -⟩ := List.cons.inj hlater
      exact hsecond
    | cons other before =>
      have hlength := congrArg List.length hitems
      simp at hlength
      omega
  starts := hstarts

namespace Spaced

variable {text : List Char} {items before after : List Item} {item : Item}

/-- An item of a module starts at or after the end of the items before it. -/
theorem endAfter_le_start (hspaced : Spaced text items) (hitems : items = before ++ item :: after) :
    endAfter 0 before ≤ item.span.start := by
  rcases List.eq_nil_or_concat' before with rfl | ⟨front, last, rfl⟩
  · exact Nat.zero_le _
  · rw [endAfter_concat]
    have hordered := hitems ▸ hspaced.ordered
    exact (List.pairwise_append.mp hordered).2.2 last
      (List.mem_append_right front List.mem_cons_self) item List.mem_cons_self

/-- Each of the items before another ends before the comments of that one are sought. -/
theorem stop_le_endAfter_of_mem (hspaced : Spaced text items)
    (hitems : items = before ++ item :: after) {other : Item} (hother : other ∈ before) :
    other.span.stop ≤ endAfter 0 before := by
  refine stop_le_endAfter (fun each heach => hspaced.nonempty each ?_) ?_ hother
  · rw [hitems]
    exact List.mem_append_left _ heach
  · exact (List.pairwise_append.mp (hitems ▸ hspaced.ordered)).1

/-- The comments of an item are sought from a boundary on. -/
theorem isBoundary_endAfter_before (hspaced : Spaced text items)
    (hitems : items = before ++ item :: after) : IsBoundary text (endAfter 0 before) := by
  rcases List.eq_nil_or_concat' before with rfl | ⟨front, previous, rfl⟩
  · exact isBoundary_zero text
  · rw [endAfter_concat]
    refine (hspaced.boundaries previous ?_).2
    rw [hitems]
    exact List.mem_append_left _ (List.mem_append_right front List.mem_cons_self)

/-- The text from the start of an item on starts with neither a comment nor a character that separates
comments, unless the item is a slash. -/
theorem not_startsTrivia (hspaced : Spaced text items) (hitem : item ∈ items)
    (hsplits : ¬ SplitsComment text item.span) {rest : List Char}
    (hrest : suffixAt? text item.span.start = some rest) : ¬ StartsTrivia rest := by
  intro hstarts
  obtain ⟨hstart, hstop⟩ := hspaced.boundaries item hitem
  have hlt := hspaced.nonempty item hitem
  obtain ⟨earlier, own, later, htext, hearlier, hsize, hslice, -⟩ :=
    exists_slice hstart hstop (Nat.le_of_lt hlt)
  have hown : own ≠ [] := by
    rintro rfl
    rw [byteLength_nil] at hsize
    omega
  have hsuffix := suffixAt?_append earlier (own ++ later)
  rw [← htext, hearlier, hrest, Option.some.injEq] at hsuffix
  have hfree := hspaced.starts item hitem
  rw [hslice] at hfree
  have hslash : own = ['/'] := eq_slash_of_startsTrivia_append hown hfree (hsuffix ▸ hstarts)
  exact hsplits ⟨hslice.trans hslash, rest, hrest, hstarts⟩

/-- The comments of an item are found, and lie between the item before it and its start, unless the
finder reads more than an interpreter line or the item is a slash. -/
theorem exists_leadingComments_item (hspaced : Spaced text items)
    (hitems : items = before ++ item :: after)
    (hline : before = [] → ¬ ReadsPastLine text item.span.start)
    (hsplits : ¬ SplitsComment text item.span) :
    ∃ ranges, leadingComments? text (endAfter 0 before) = some ranges ∧
      ∀ range ∈ ranges, range.Within (endAfter 0 before) item.span.start := by
  have hmem : item ∈ items := by
    rw [hitems]
    exact List.mem_append_right before List.mem_cons_self
  have hstart := (hspaced.boundaries item hmem).1
  have hle := hspaced.endAfter_le_start hitems
  rcases List.eq_nil_or_concat' before with rfl | ⟨front, previous, rfl⟩
  · obtain ⟨none, gap, rest, htext, hnone, hsize, hslice, hsuffix⟩ :=
      exists_slice (isBoundary_zero text) hstart hle
    obtain rfl := eq_nil_of_byteLength_eq_zero hnone
    rw [Nat.zero_add] at hsize
    rw [List.nil_append] at htext
    have hgap : FirstGap gap := hslice ▸ hspaced.firstGap item after hitems
    have hstarts := hspaced.not_startsTrivia hmem hsplits hsuffix
    have hread := hline rfl
    rw [htext, ← hsize] at hread
    rw [htext, ← hsize]
    exact exists_leadingComments_firstGap hgap hstarts hread
  · have hprevious : previous ∈ items := by
      rw [hitems]
      exact List.mem_append_left _ (List.mem_append_right front List.mem_cons_self)
    rw [endAfter_concat] at hle ⊢
    obtain ⟨earlier, gap, rest, htext, hearlier, hsize, hslice, hsuffix⟩ :=
      exists_slice (hspaced.boundaries previous hprevious).2 hstart hle
    have hgap : Gap gap :=
      hslice ▸ hspaced.gaps front previous item after (by rw [hitems, List.append_assoc]; rfl)
    have hstarts := hspaced.not_startsTrivia hmem hsplits hsuffix
    have hne : earlier ≠ [] := by
      rintro rfl
      have hlt := hspaced.nonempty previous hprevious
      rw [byteLength_nil] at hearlier
      omega
    rw [htext, ← hsize, ← hearlier]
    exact exists_leadingComments_gap hne hgap hstarts

/-- The finder comes past the start of an item only where it reads more than an interpreter line, or
where the item is a slash. -/
theorem readsPastLine_or_splitsComment (hspaced : Spaced text items)
    (hitems : items = before ++ item :: after)
    (hoverruns : Overruns text (endAfter 0 before) item.span.start) :
    before = [] ∧ ReadsPastLine text item.span.start ∨ SplitsComment text item.span := by
  by_contra hnone
  rw [not_or, not_and] at hnone
  obtain ⟨ranges, hranges, hwithin⟩ := hspaced.exists_leadingComments_item hitems hnone.1 hnone.2
  obtain ⟨range, hmem, hlt⟩ :=
    (overruns_iff (hspaced.isBoundary_endAfter_before hitems) hranges).mp hoverruns
  exact Nat.not_le_of_lt hlt (hwithin range hmem).stop_le

/-- A comment that leads a declaration of an item lies between the item before it and its start, where
the finder does not come past that. -/
theorem within_of_not_overruns (hspaced : Spaced text items) {index : LineIndex}
    {declaration : Declaration} (hcollected : CollectedFrom index items before item declaration)
    (hstays : ¬ Overruns text (endAfter 0 before) item.span.start) {range : ByteRange}
    (hrange : IsLeadingComment text declaration range) :
    range.Within (endAfter 0 before) item.span.start := by
  obtain ⟨⟨after, hitems⟩, hmem⟩ := hcollected
  obtain ⟨ranges, hranges, hmemRanges⟩ := hrange
  rw [commentOffset_of_mem_declarationsOfItem hmem] at hranges
  have hcuts := (cutsComments_of_leadingComments? hranges).2 range hmemRanges
  rw [overruns_iff (hspaced.isBoundary_endAfter_before hitems) hranges] at hstays
  refine ⟨hcuts.within.start_le, hcuts.within.start_lt_stop, ?_⟩
  exact Nat.le_of_not_lt fun hlt => hstays ⟨range, hmemRanges, hlt⟩

/-- Where the comments of an item lie before it, the finder does not come past its start. -/
theorem not_overruns_of_within (hspaced : Spaced text items) {index : LineIndex}
    {declaration : Declaration} (hcollected : CollectedFrom index items before item declaration)
    (hwithin : ∀ range, IsLeadingComment text declaration range →
      range.Within (endAfter 0 before) item.span.start) :
    ¬ Overruns text (endAfter 0 before) item.span.start := by
  intro hoverruns
  obtain ⟨⟨after, hitems⟩, hmem⟩ := hcollected
  have hboundary := hspaced.isBoundary_endAfter_before hitems
  have hsome := (leadingComments?_isSome_iff text (endAfter 0 before)).mpr (.inl hboundary)
  obtain ⟨ranges, hranges⟩ := Option.isSome_iff_exists.mp hsome
  obtain ⟨range, hrange, hlt⟩ := (overruns_iff hboundary hranges).mp hoverruns
  have hoffset := commentOffset_of_mem_declarationsOfItem hmem
  exact Nat.not_le_of_lt hlt (hwithin range ⟨ranges, by rw [hoffset, hranges], hrange⟩).stop_le

/-- What lies before an item ends before that which lies before a later item starts. -/
theorem stop_le_start_of_length_lt (hspaced : Spaced text items)
    (hitems : items = before ++ item :: after) {before' after' : List Item} {item' : Item}
    (hitems' : items = before' ++ item' :: after') (hlength : before.length < before'.length)
    {range range' : ByteRange} (hwithin : range.Within (endAfter 0 before) item.span.start)
    (hwithin' : range'.Within (endAfter 0 before') item'.span.start) : range.stop ≤ range'.start := by
  -- the earlier item is one of those before the later one
  have hitem : item ∈ before' := by
    rcases List.append_eq_append_iff.mp (hitems.symm.trans hitems') with
      ⟨between, rfl, hbetween⟩ | ⟨between, rfl, -⟩
    · cases between with
      | nil => simp at hlength
      | cons first between =>
        obtain ⟨rfl, -⟩ := List.cons.inj hbetween
        exact List.mem_append_right before List.mem_cons_self
    · rw [List.length_append] at hlength
      omega
  have hmem : item ∈ items := by
    rw [hitems']
    exact List.mem_append_left _ hitem
  have hstop := hspaced.stop_le_endAfter_of_mem hitems' hitem
  have hlt := hspaced.nonempty item hmem
  have hstart := hwithin.stop_le
  have hstart' := hwithin'.start_le
  omega

/-- What lies before an item and after the one before it lies apart from every item. -/
theorem apart_of_within (hspaced : Spaced text items) (hitems : items = before ++ item :: after)
    {range : ByteRange} (hwithin : range.Within (endAfter 0 before) item.span.start) {other : Item}
    (hother : other ∈ items) : Apart range ⟨other.span.start, other.span.stop⟩ := by
  have hmem : item ∈ items := by
    rw [hitems]
    exact List.mem_append_right before List.mem_cons_self
  rw [hitems, List.mem_append, List.mem_cons] at hother
  rcases hother with hbefore | rfl | hafter
  · have hstop := hspaced.stop_le_endAfter_of_mem hitems hbefore
    exact Or.inr (hstop.trans hwithin.start_le)
  · exact Or.inl hwithin.stop_le
  · have hordered := (List.pairwise_append.mp (hitems ▸ hspaced.ordered)).2.1
    have hstart := (List.pairwise_cons.mp hordered).1 other hafter
    have hlt := hspaced.nonempty item hmem
    have hstop := hwithin.stop_le
    exact Or.inl (by change range.stop ≤ other.span.start; omega)

/-- Where the finder never comes past the start of an item that declares something, each comment is
credited to one item at most. -/
theorem creditedOnce_of_not_overruns (hspaced : Spaced text items) {index : LineIndex}
    (hstays : ∀ before item declaration, CollectedFrom index items before item declaration →
      ¬ Overruns text (endAfter 0 before) item.span.start) : CreditedOnce index text items := by
  have hwithin {before : List Item} {item : Item} {declaration : Declaration}
      (hcollected : CollectedFrom index items before item declaration) {range : ByteRange}
      (hrange : IsLeadingComment text declaration range) :
      range.Within (endAfter 0 before) item.span.start :=
    hspaced.within_of_not_overruns hcollected (hstays before item declaration hcollected) hrange
  refine ⟨?_, fun _ _ _ hcollected _ => hwithin hcollected, ?_, ?_⟩
  · intro before item declaration hcollected
    obtain ⟨⟨after, hitems⟩, hmem⟩ := hcollected
    rw [commentOffset_of_mem_declarationsOfItem hmem, leadingComments?_isSome_iff]
    exact .inl (hspaced.isBoundary_endAfter_before hitems)
  · intro before item declaration before' item' declaration' hcollected hcollected' hne range range'
      hrange hrange'
    have hfirst := hwithin hcollected hrange
    have hsecond := hwithin hcollected' hrange'
    obtain ⟨⟨after, hitems⟩, -⟩ := hcollected
    obtain ⟨⟨after', hitems'⟩, -⟩ := hcollected'
    rcases Nat.lt_or_gt_of_ne hne with hlt | hgt
    · exact .inl (hspaced.stop_le_start_of_length_lt hitems hitems' hlt hfirst hsecond)
    · exact .inr (hspaced.stop_le_start_of_length_lt hitems' hitems hgt hsecond hfirst)
  · intro declaration hmem range hrange other hother
    obtain ⟨before, item, hcollected⟩ :=
      (mem_declarationsOf_iff_collectedFrom index items declaration).mp hmem
    have hbefore := hwithin hcollected hrange
    obtain ⟨⟨after, hitems⟩, -⟩ := hcollected
    exact hspaced.apart_of_within hitems hbefore hother

end Spaced

/-- Each comment of a module is credited to one item at most, exactly where the finder does not come past
the start of an item that declares something. It comes past the start of an item only where an
interpreter line is not ended by a carriage return or a line feed, or where the item is a slash. -/
theorem creditedOnce_iff_not_overruns {text : List Char} {items : List Item}
    (hspaced : Spaced text items) (index : LineIndex) :
    (∀ declaration, declaration ∈ declarationsOf index items ↔
      ∃ before item, CollectedFrom index items before item declaration) ∧
    (CreditedOnce index text items ↔ ∀ before item declaration,
      CollectedFrom index items before item declaration →
        ¬ Overruns text (endAfter 0 before) item.span.start) ∧
    ∀ before item after, items = before ++ item :: after →
      Overruns text (endAfter 0 before) item.span.start →
        before = [] ∧ ReadsPastLine text item.span.start ∨ SplitsComment text item.span := by
  refine ⟨mem_declarationsOf_iff_collectedFrom index items, ⟨?_, ?_⟩, ?_⟩
  · intro hcredited before item declaration hcollected
    have hwithin := hcredited.between before item declaration hcollected
    exact hspaced.not_overruns_of_within hcollected hwithin
  · intro hstays
    exact hspaced.creditedOnce_of_not_overruns hstays
  · intro before item after hitems hoverruns
    exact hspaced.readsPastLine_or_splitsComment hitems hoverruns

/-- A module with an interpreter line and two functions, each after its comment; the first is
followed by a comment of its own line. -/
def twoFunctions : List Char :=
  "#!n\n/** D. */ function f(){}// t\n/** E. */function g(){}".toList

/-- The items of the module with two functions. -/
def twoFunctionItems : List Item := [⟨.function "f", ⟨14, 28⟩⟩, ⟨.function "g", ⟨42, 56⟩⟩]

/-- The two functions stand in their module with gaps between them. -/
theorem spaced_twoFunctions : Spaced twoFunctions twoFunctionItems := by
  refine .pair (by decide) (by decide) (by decide) ?_ ?_
  · exact .interpreter ['n'] (by simp [endsLine]) (by decide)
      (.block ['*', ' ', 'D', '.', ' '] (by simp [Closes, List.infix_cons_iff])
        (.separator (by decide) .nil))
  · exact .line [' ', 't'] (by simp [endsLine]) (by decide)
      (.block ['*', ' ', 'E', '.', ' '] (by simp [Closes, List.infix_cons_iff]) .nil)

/-- The comment of the second function lies between the two functions, and each comment of the module is
credited once. -/
theorem twoFunctions_creditedOnce :
    (readModule (.ofPath "m.ts") twoFunctions).toOption = some twoFunctionItems ∧
      CreditedOnce (.ofText twoFunctions) twoFunctions twoFunctionItems ∧
      IsLeadingComment twoFunctions ⟨"g", .function, 28, ⟨3, 3⟩⟩ ⟨33, 42⟩ ∧
      ByteRange.Within 28 42 ⟨33, 42⟩ := by
  obtain ⟨-, hcredited, honly⟩ :=
    creditedOnce_iff_not_overruns spaced_twoFunctions (.ofText twoFunctions)
  have hfree : ∀ item ∈ twoFunctionItems, ¬ ReadsPastLine twoFunctions item.span.start ∧
      ¬ SplitsComment twoFunctions item.span := by decide
  have honce : CreditedOnce (.ofText twoFunctions) twoFunctions twoFunctionItems := by
    refine hcredited.mpr fun before item declaration hcollected hoverruns => ?_
    obtain ⟨⟨after, hitems⟩, -⟩ := hcollected
    have hitem : item ∈ twoFunctionItems := by
      rw [hitems]
      exact List.mem_append_right before List.mem_cons_self
    obtain ⟨hline, hsplits⟩ := hfree item hitem
    rcases honly before item after hitems hoverruns with ⟨-, hreads⟩ | hslash
    · exact hline hreads
    · exact hsplits hslash
  have hcollected : CollectedFrom (.ofText twoFunctions) twoFunctionItems
      [⟨.function "f", ⟨14, 28⟩⟩] ⟨.function "g", ⟨42, 56⟩⟩ ⟨"g", .function, 28, ⟨3, 3⟩⟩ :=
    ⟨⟨[], rfl⟩, by decide⟩
  have hcomment : IsLeadingComment twoFunctions ⟨"g", .function, 28, ⟨3, 3⟩⟩ ⟨33, 42⟩ :=
    ⟨[⟨33, 42⟩], by decide +kernel, List.mem_cons_self⟩
  exact ⟨by decide +kernel, honce, hcomment, honce.between _ _ _ hcollected _ hcomment⟩

/-- A module whose interpreter line is ended by a line separator, with a function on the next line and
another one after a comment. -/
def separatedLine : List Char := "#!n\u2028function f() {}\n/** G. */\nfunction g() {}\n".toList

/-- The items of the module. -/
def separatedLineItems : List Item := [⟨.function "f", ⟨6, 21⟩⟩, ⟨.function "g", ⟨32, 47⟩⟩]

/-- The comment of the second function is also credited to the first one, which stands before it and has
none. -/
theorem separatedLine_not_creditedOnce :
    (readModule (.ofPath "m.ts") separatedLine).toOption = some separatedLineItems ∧
      Spaced separatedLine separatedLineItems ∧
      declarationsOf (.ofText separatedLine) separatedLineItems =
        [⟨"f", .function, 0, ⟨1, 1⟩⟩, ⟨"g", .function, 21, ⟨3, 3⟩⟩] ∧
      IsLeadingComment separatedLine ⟨"f", .function, 0, ⟨1, 1⟩⟩ ⟨22, 31⟩ ∧
      IsLeadingComment separatedLine ⟨"g", .function, 21, ⟨3, 3⟩⟩ ⟨22, 31⟩ ∧
      ¬ CreditedOnce (.ofText separatedLine) separatedLine separatedLineItems := by
  have hcollected : CollectedFrom (.ofText separatedLine) separatedLineItems []
      ⟨.function "f", ⟨6, 21⟩⟩ ⟨"f", .function, 0, ⟨1, 1⟩⟩ := ⟨⟨_, rfl⟩, by decide⟩
  have hcomment : IsLeadingComment separatedLine ⟨"f", .function, 0, ⟨1, 1⟩⟩ ⟨22, 31⟩ :=
    ⟨[⟨22, 31⟩], by decide +kernel, List.mem_cons_self⟩
  refine ⟨by decide +kernel, .pair (by decide) (by decide) (by decide) ?_ ?_, ?_, hcomment,
    ⟨[⟨22, 31⟩], by decide +kernel, List.mem_cons_self⟩, fun honce => ?_⟩
  · exact .interpreter ['n'] (by simp [endsLine]) (by decide) .nil
  · exact .separator (by decide) (.block ['*', ' ', 'G', '.', ' ']
      (by simp [Closes, List.infix_cons_iff]) (.separator (by decide) .nil))
  · rw [← filter_append_filter_declarationsOf, filter_declarationsOf, filter_declarationsOf]
    decide +kernel
  · exact absurd (honce.between _ _ _ hcollected _ hcomment).stop_le (by decide)

end DocCoverage.Coverage
