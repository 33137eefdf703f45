import DocCoverage.Proofs.Text.FrontTrivia
import Mathlib.Data.List.Basic

/-!
# Leading comments as tokens

What stands in front of a statement can also be read in two steps. First it is cut into tokens, as many
as there are: line breaks, other spaces and comments. Then the comments are kept that stand after a
line break, or all of them at the start of a text. A line break inside of a block comment is part of
that token and does not count. The finder of leading comments does both in one pass and finds the same
ranges.

No text starts with two tokens, so its tokens are known, and a sequence of them is the longest when no
token stands in front of what is left.
-/

namespace DocCoverage.Text

/-- A token of what stands between statements. -/
inductive TriviaToken where
  | lineBreak (c : Char)
  | space (c : Char)
  | comment (text : List Char)
  deriving DecidableEq, Repr

namespace TriviaToken

/-- The characters of a token. -/
def text : TriviaToken → List Char
  | lineBreak c => [c]
  | space c => [c]
  | comment text => text

/-- Whether a token breaks the line. -/
def isLineBreak : TriviaToken → Bool
  | lineBreak _ => true
  | _ => false

/-- Whether a token is a comment. -/
def isComment : TriviaToken → Bool
  | comment _ => true
  | _ => false

end TriviaToken

/-- The characters that break a line between comments. -/
def lineBreaks : List Char := ['\n', '\r', '\u2028', '\u2029']

/-- A character that stands between comments and breaks no line: an ASCII blank, any other character
with the property White_Space, or a byte order mark. -/
def IsOtherSpace (c : Char) : Prop :=
  (c ∈ [' ', '\t', '\x0b', '\x0c', '\ufeff'] ∨ 0x80 ≤ c.toNat ∧ isBlank c = true) ∧ c ∉ lineBreaks

instance (c : Char) : Decidable (IsOtherSpace c) := inferInstanceAs (Decidable (_ ∧ _))

/-- A token in front of the rest of a text. -/
inductive FrontToken : TriviaToken → List Char → Prop where
  | lineBreak {c : Char} (breaks : c ∈ lineBreaks) (rest : List Char) : FrontToken (.lineBreak c) rest
  | space {c : Char} (other : IsOtherSpace c) (rest : List Char) : FrontToken (.space c) rest
  | comment {text rest : List Char} (front : FrontComment text rest) : FrontToken (.comment text) rest

/-- The characters of tokens. -/
def textOf (tokens : List TriviaToken) : List Char := tokens.flatMap TriviaToken.text

/-- Tokens that stand one after the other in front of the rest of a text. -/
inductive Trivia : List TriviaToken → List Char → Prop where
  | nil (rest : List Char) : Trivia [] rest
  | cons {token : TriviaToken} {tokens : List TriviaToken} {rest : List Char}
      (first : FrontToken token (textOf tokens ++ rest)) (later : Trivia tokens rest) :
      Trivia (token :: tokens) rest

/-- Tokens in front of the rest of a text, as many as there are. -/
structure LongestTrivia (tokens : List TriviaToken) (rest : List Char) : Prop where
  trivia : Trivia tokens rest
  longest : ∀ others rest', Trivia others rest' → textOf others ++ rest' = textOf tokens ++ rest →
    others.length ≤ tokens.length

/-- The tokens of a text from an offset on. They follow the characters before the offset, which is
taken back to the end of the text, and at the start of the text its interpreter line. -/
structure TriviaFrom (text : List Char) (offset : Nat) (front : List Char)
    (tokens : List TriviaToken) (rest : List Char) : Prop where
  text_eq : text = front ++ (textOf tokens ++ rest)
  start : if offset = 0 then InterpreterLine front (textOf tokens ++ rest)
    else byteLength front = min offset (byteLength text)
  longest : LongestTrivia tokens rest

/-- Whether the token at a place is a comment that leads: all comments do, or a line break is among
the tokens before it. -/
def leadsAt (all : Bool) (tokens : List TriviaToken) (place : Nat) : Bool :=
  tokens[place]?.any TriviaToken.isComment &&
    (all || (tokens.take place).any TriviaToken.isLineBreak)

/-- The places of the comments that lead. -/
def leadingPlaces (all : Bool) (tokens : List TriviaToken) : List Nat :=
  (List.range tokens.length).filter (leadsAt all tokens)

/-- The range of the token at a place, where the first token starts at an offset. -/
def rangeAt (start : Nat) (tokens : List TriviaToken) (place : Nat) : ByteRange :=
  ⟨start + byteLength (textOf (tokens.take place)),
    start + byteLength (textOf (tokens.take (place + 1)))⟩

/-! ## The tokens of a text -/

/-- Without tokens there are no characters. -/
@[simp]
theorem textOf_nil : textOf [] = [] := rfl

/-- The characters of tokens start with those of the first token. -/
@[simp]
theorem textOf_cons (token : TriviaToken) (tokens : List TriviaToken) :
    textOf (token :: tokens) = token.text ++ textOf tokens := rfl

/-- The characters of tokens follow each other as the tokens do. -/
@[simp]
theorem textOf_append (tokens others : List TriviaToken) :
    textOf (tokens ++ others) = textOf tokens ++ textOf others := List.flatMap_append

/-- The finder breaks lines where tokens do. -/
theorem breaksLine_iff (c : Char) : breaksLine c = true ↔ c ∈ lineBreaks := by
  simp only [breaksLine, endsLine, lineBreaks, Bool.or_eq_true, beq_iff_eq, List.mem_cons,
    List.not_mem_nil, or_false]
  tauto

/-- A character that separates comments is a token by itself. -/
theorem separates_iff (c : Char) : separates c = true ↔ c ∈ lineBreaks ∨ IsOtherSpace c := by
  have hchar (d : Char) : c = d ↔ c.toNat = d.toNat := Char.toNat_inj.symm
  simp only [separates, IsOtherSpace, lineBreaks, Bool.or_eq_true, beq_iff_eq, List.mem_cons,
    List.not_mem_nil, or_false, isBlank_iff, hchar]
  simp only [Char.reduceToNat]
  omega

/-- A text has one comment in front of it at most. -/
theorem FrontComment.unique {comment rest comment' rest' : List Char}
    (hcomment : FrontComment comment rest) (hcomment' : FrontComment comment' rest')
    (heq : comment ++ rest = comment' ++ rest') : comment = comment' := by
  -- the finder keeps the range of the one and of the other, so they have the same size
  have hfound := commentsFrom_comment hcomment true 0
  rw [heq, commentsFrom_comment hcomment' true 0] at hfound
  have hsize : 0 + byteLength comment' = 0 + byteLength comment :=
    congrArg ByteRange.stop (List.cons.inj hfound).1
  rw [Nat.zero_add, Nat.zero_add] at hsize
  rw [← prefixAt_append comment rest, heq, ← hsize, prefixAt_append]

/-- A text with a token in front starts with a comment or with a character that separates them. -/
theorem FrontToken.startsTrivia {token : TriviaToken} {rest : List Char}
    (htoken : FrontToken token rest) : StartsTrivia (token.text ++ rest) := by
  cases htoken with
  | lineBreak hbreaks => exact .inr (.inr ((separates_iff _).mpr (.inl hbreaks)))
  | space hother => exact .inr (.inr ((separates_iff _).mpr (.inr hother)))
  | comment hcomment =>
    cases hcomment with
    | line => exact .inl ⟨_, rfl⟩
    | closed => exact .inr (.inl ⟨_, rfl⟩)
    | unclosed => exact .inr (.inl ⟨_, rfl⟩)

/-- A character that separates comments is a token in front of what follows it. -/
theorem exists_frontToken_of_separates {c : Char} (hc : separates c = true) (rest : List Char) :
    ∃ token, token.text = [c] ∧ token.isComment = false ∧ token.isLineBreak = breaksLine c ∧
      FrontToken token rest := by
  by_cases hbreaks : c ∈ lineBreaks
  · exact ⟨.lineBreak c, rfl, rfl, ((breaksLine_iff c).mpr hbreaks).symm, .lineBreak hbreaks rest⟩
  · have hother := ((separates_iff c).mp hc).resolve_left hbreaks
    have hline : breaksLine c = false := by
      rw [← Bool.not_eq_true, breaksLine_iff]
      exact hbreaks
    exact ⟨.space c, rfl, rfl, hline.symm, .space hother rest⟩

/-- A text has one token in front of it at most. -/
theorem FrontToken.unique {token token' : TriviaToken} {rest rest' : List Char}
    (htoken : FrontToken token rest) (htoken' : FrontToken token' rest')
    (heq : token.text ++ rest = token'.text ++ rest') : token = token' := by
  have hslash : separates '/' = false := by decide
  -- a character that separates comments does not start one
  have hapart {c : Char} {comment after after' : List Char} (hc : c ∈ lineBreaks ∨ IsOtherSpace c)
      (hcomment : FrontComment comment after) (hfront : [c] ++ after' = comment ++ after) : False := by
    obtain ⟨more, rfl⟩ := hcomment.exists_cons
    rw [← separates_iff, (List.cons.inj hfront).1, hslash] at hc
    cases hc
  cases htoken with
  | @lineBreak c hbreaks =>
    cases htoken' with
    | lineBreak => rw [(List.cons.inj heq).1]
    | space hother =>
      rw [(List.cons.inj heq).1] at hbreaks
      exact absurd hbreaks hother.2
    | comment hcomment => exact (hapart (.inl hbreaks) hcomment heq).elim
  | @space c hother =>
    cases htoken' with
    | lineBreak hbreaks =>
      rw [(List.cons.inj heq).1] at hother
      exact absurd hbreaks hother.2
    | space => rw [(List.cons.inj heq).1]
    | comment hcomment => exact (hapart (.inr hother) hcomment heq).elim
  | comment hcomment =>
    cases htoken' with
    | lineBreak hbreaks => exact (hapart (.inl hbreaks) hcomment heq.symm).elim
    | space hother => exact (hapart (.inr hother) hcomment heq.symm).elim
    | comment hcomment' => rw [hcomment.unique hcomment' heq]

/-- Where no token stands in front of the rest, all tokens in front of a text are among those that were
found. -/
theorem Trivia.prefix_of_stop {others tokens : List TriviaToken} {rest rest' : List Char}
    (hothers : Trivia others rest') (htokens : Trivia tokens rest) (hstop : ¬ StartsTrivia rest)
    (heq : textOf others ++ rest' = textOf tokens ++ rest) : others <+: tokens := by
  induction hothers generalizing tokens with
  | nil => exact List.nil_prefix
  | @cons other others rest' hother hlater ih =>
    rw [textOf_cons, List.append_assoc] at heq
    cases htokens with
    | nil =>
      rw [textOf_nil, List.nil_append] at heq
      exact absurd (heq ▸ hother.startsTrivia) hstop
    | @cons token tokens rest hfirst htokens =>
      rw [textOf_cons, List.append_assoc] at heq
      obtain rfl := hother.unique hfirst heq
      apply List.cons_prefix_cons.mpr
      exact ⟨rfl, ih htokens (List.append_cancel_left heq)⟩

/-- A token in front of the rest can be put to the tokens before it. -/
theorem Trivia.concat {tokens : List TriviaToken} {token : TriviaToken} {rest : List Char}
    (htokens : Trivia tokens (token.text ++ rest)) (htoken : FrontToken token rest) :
    Trivia (tokens ++ [token]) rest := by
  have htext (others : List TriviaToken) :
      textOf (others ++ [token]) ++ rest = textOf others ++ (token.text ++ rest) := by
    simp
  induction tokens with
  | nil => exact .cons htoken (.nil rest)
  | cons first others ih =>
    cases htokens with
    | cons hfirst hothers => exact .cons (htext others ▸ hfirst) (ih hothers)

/-- Tokens are the longest sequence exactly where no token stands in front of the rest. -/
theorem longestTrivia_iff {tokens : List TriviaToken} {rest : List Char}
    (htokens : Trivia tokens rest) : LongestTrivia tokens rest ↔ ¬ StartsTrivia rest := by
  constructor
  · intro hlongest hstarts
    obtain ⟨token, after, rfl, htoken⟩ :
        ∃ token after, rest = token.text ++ after ∧ FrontToken token after := by
      rw [StartsTrivia, ← or_assoc, Option.any_eq_true] at hstarts
      rcases hstarts with hfront | ⟨c, hhead, hc⟩
      · obtain ⟨comment, after, rfl, hcomment⟩ := exists_frontComment hfront
        exact ⟨.comment comment, after, rfl, .comment hcomment⟩
      · obtain ⟨after, rfl⟩ := List.head?_eq_some_iff.mp hhead
        obtain ⟨token, htext, -, -, htoken⟩ := exists_frontToken_of_separates hc after
        exact ⟨token, after, by rw [htext]; rfl, htoken⟩
    have hle := hlongest.longest _ _ (htokens.concat htoken) (by simp)
    rw [List.length_append, List.length_singleton] at hle
    omega
  · intro hstop
    refine ⟨htokens, fun others rest' hothers heq => ?_⟩
    exact (hothers.prefix_of_stop htokens hstop heq).length_le

/-- Every text has tokens in front, up to where none follows. -/
theorem exists_trivia (text : List Char) :
    ∃ tokens rest, text = textOf tokens ++ rest ∧ Trivia tokens rest ∧ ¬ StartsTrivia rest := by
  induction text using frontTrivia_induction with
  | hcomment comment after hcomment ih =>
    obtain ⟨tokens, rest, rfl, htokens, hstop⟩ := ih
    refine ⟨.comment comment :: tokens, rest, ?_, .cons (.comment hcomment) htokens, hstop⟩
    rw [textOf_cons, TriviaToken.text, List.append_assoc]
  | hseparator c after hc ih =>
    obtain ⟨tokens, rest, rfl, htokens, hstop⟩ := ih
    obtain ⟨token, htext, -, -, htoken⟩ :=
      exists_frontToken_of_separates hc (textOf tokens ++ rest)
    refine ⟨token :: tokens, rest, ?_, .cons htoken htokens, hstop⟩
    rw [textOf_cons, htext, List.append_assoc]
    rfl
  | hstop text hstop => exact ⟨[], text, rfl, .nil text, hstop⟩

/-! ## The comments that lead -/

/-- The first token leads where all comments do and it is one. The others lead as they do by
themselves, where a line break in front makes all of them lead. -/
theorem leadingPlaces_cons (all : Bool) (token : TriviaToken) (tokens : List TriviaToken) :
    leadingPlaces all (token :: tokens) =
      (if token.isComment && all then [0] else []) ++
        (leadingPlaces (all || token.isLineBreak) tokens).map (· + 1) := by
  have hfirst : leadsAt all (token :: tokens) 0 = (token.isComment && all) := by
    simp [leadsAt]
  have hlater : leadsAt all (token :: tokens) ∘ Nat.succ = leadsAt (all || token.isLineBreak) tokens := by
    funext place
    simp [leadsAt, Bool.or_assoc]
  rw [leadingPlaces, List.length_cons, List.range_succ_eq_map, List.filter_cons, hfirst,
    List.filter_map, hlater]
  split <;> rfl

/-- The range of a token is that among the tokens after the first. -/
theorem rangeAt_succ (start : Nat) (token : TriviaToken) (tokens : List TriviaToken) (place : Nat) :
    rangeAt start (token :: tokens) (place + 1) =
      rangeAt (start + byteLength token.text) tokens place := by
  simp only [rangeAt, List.take_succ_cons, textOf_cons, byteLength_append, Nat.add_assoc]

/-- The ranges of the comments that lead are that of the first token, where it is one of them, and
those among the tokens after it. -/
theorem map_rangeAt_cons (all : Bool) (start : Nat) (token : TriviaToken)
    (tokens : List TriviaToken) :
    (leadingPlaces all (token :: tokens)).map (rangeAt start (token :: tokens)) =
      (if token.isComment && all then [⟨start, start + byteLength token.text⟩] else []) ++
        (leadingPlaces (all || token.isLineBreak) tokens).map
          (rangeAt (start + byteLength token.text) tokens) := by
  have hfirst : rangeAt start (token :: tokens) 0 = ⟨start, start + byteLength token.text⟩ := by
    simp [rangeAt]
  have hlater : rangeAt start (token :: tokens) ∘ (· + 1) =
      rangeAt (start + byteLength token.text) tokens := by
    funext place
    exact rangeAt_succ start token tokens place
  rw [leadingPlaces_cons, List.map_append, List.map_map, hlater, apply_ite (List.map _),
    List.map_singleton, List.map_nil, hfirst]

/-- The finder goes over tokens and keeps the ranges of the comments among them that lead. -/
theorem commentsFrom_trivia {tokens : List TriviaToken} {rest : List Char}
    (htokens : Trivia tokens rest) (hstop : ¬ StartsTrivia rest) (all : Bool) (start : Nat) :
    commentsFrom all start (textOf tokens ++ rest) =
      (leadingPlaces all tokens).map (rangeAt start tokens) := by
  induction htokens generalizing all start with
  | nil => exact commentsFrom_stop hstop all start
  | @cons token tokens rest htoken _ ih =>
    rw [map_rangeAt_cons, textOf_cons, List.append_assoc, ← ih hstop]
    have hsingle (c : Char) : byteLength [c] = c.utf8Size := by
      rw [byteLength_cons, byteLength_nil, Nat.add_zero]
    cases htoken with
    | @lineBreak c hbreaks =>
      have hc := (separates_iff c).mpr (.inl hbreaks)
      change commentsFrom all start (c :: (textOf tokens ++ rest)) = _
      rw [commentsFrom_separator hc, (breaksLine_iff c).mpr hbreaks, TriviaToken.text, hsingle]
      rfl
    | @space c hother =>
      have hc := (separates_iff c).mpr (.inr hother)
      have hline : breaksLine c = false := by
        rw [← Bool.not_eq_true, breaksLine_iff]
        exact hother.2
      change commentsFrom all start (c :: (textOf tokens ++ rest)) = _
      rw [commentsFrom_separator hc, hline, TriviaToken.text, hsingle]
      rfl
    | comment hcomment =>
      rw [TriviaToken.text, commentsFrom_comment hcomment]
      change _ = (if (true && all) = true then _ else _) ++ commentsFrom (all || false) _ _
      rw [Bool.true_and, Bool.or_false]

/-- The text at the range of a token is that of the token. -/
theorem slice_rangeAt {tokens : List TriviaToken} {token : TriviaToken} {place : Nat}
    (hplace : tokens[place]? = some token) (front rest : List Char) :
    slice (front ++ (textOf tokens ++ rest)) (rangeAt (byteLength front) tokens place).start
      (rangeAt (byteLength front) tokens place).stop = token.text := by
  obtain ⟨hlt, rfl⟩ := List.getElem?_eq_some_iff.mp hplace
  have hsplit : textOf tokens = textOf (tokens.take place) ++
      (tokens[place].text ++ textOf (tokens.drop (place + 1))) := by
    rw [← textOf_cons, ← List.drop_eq_getElem_cons hlt, ← textOf_append, List.take_append_drop]
  have hstop : textOf (tokens.take (place + 1)) = textOf (tokens.take place) ++ tokens[place].text := by
    rw [List.take_succ_eq_append_getElem hlt, textOf_append, textOf_cons, textOf_nil, List.append_nil]
  have htext : front ++ (textOf tokens ++ rest) = (front ++ textOf (tokens.take place)) ++
      (tokens[place].text ++ (textOf (tokens.drop (place + 1)) ++ rest)) := by
    rw [hsplit]
    simp
  rw [rangeAt, hstop, htext, byteLength_append, ← Nat.add_assoc, ← byteLength_append, slice_append]

/-- The text of the last comment that leads is that of its token. -/
theorem nearestComment_map_rangeAt (all : Bool) (front : List Char) (tokens : List TriviaToken)
    (rest : List Char) :
    nearestComment (front ++ (textOf tokens ++ rest))
        ((leadingPlaces all tokens).map (rangeAt (byteLength front) tokens)) =
      (leadingPlaces all tokens).getLast?.bind fun place => tokens[place]?.map TriviaToken.text := by
  rw [nearestComment, List.getLast?_map, Option.map_map]
  cases hlast : (leadingPlaces all tokens).getLast? with
  | none => rfl
  | some place =>
    have hmem : place ∈ leadingPlaces all tokens := List.mem_of_getLast? hlast
    have hlt : place < tokens.length := List.mem_range.mp (List.mem_filter.mp hmem).1
    have hplace : tokens[place]? = some tokens[place] := List.getElem?_eq_getElem hlt
    rw [Option.map_some, Option.bind_some, hplace, Option.map_some, Function.comp_apply,
      slice_rangeAt hplace]

/-- The finder keeps the ranges of the comments that lead among the tokens of a text. -/
theorem TriviaFrom.leadingComments?_eq {text front rest : List Char} {offset : Nat}
    {tokens : List TriviaToken} (htrivia : TriviaFrom text offset front tokens rest) :
    leadingComments? text offset =
      some ((leadingPlaces (offset == 0) tokens).map (rangeAt (byteLength front) tokens)) := by
  obtain ⟨rfl, hstart, hlongest⟩ := htrivia
  have hstop := (longestTrivia_iff hlongest.trivia).mp hlongest
  by_cases hzero : offset = 0
  · subst hzero
    rw [if_pos rfl] at hstart
    rw [leadingComments?_zero hstart, commentsFrom_trivia hlongest.trivia hstop]
    rfl
  · rw [if_neg hzero] at hstart
    have hall : (offset == 0) = false := by simp [hzero]
    rw [hall, ← commentsFrom_trivia hlongest.trivia hstop]
    by_cases hpast : byteLength (front ++ (textOf tokens ++ rest)) ≤ offset
    · -- the offset is taken back to the end, where no character is left
      have hempty : textOf tokens ++ rest = [] := by
        rw [byteLength_append] at hstart hpast
        apply eq_nil_of_byteLength_eq_zero
        omega
      rw [leadingComments?, if_neg hzero, if_pos hpast, hempty, commentsFrom]
    · have hsize : byteLength front = offset := by omega
      have hfront : front ≠ [] := by
        rintro rfl
        exact hzero hsize.symm
      rw [← hsize, leadingComments?_append hfront]

/-- Every text has tokens from a boundary on, and past its end. -/
theorem exists_triviaFrom {text : List Char} {offset : Nat}
    (hoffset : IsBoundary text offset ∨ byteLength text ≤ offset) :
    ∃ front tokens rest, TriviaFrom text offset front tokens rest := by
  -- the characters that the tokens follow
  obtain ⟨front, after, rfl, hstart⟩ : ∃ front after, text = front ++ after ∧
      if offset = 0 then InterpreterLine front after
      else byteLength front = min offset (byteLength text) := by
    by_cases hzero : offset = 0
    · obtain ⟨front, after, htext, hline⟩ := exists_interpreterLine text
      exact ⟨front, after, htext, by rwa [if_pos hzero]⟩
    · simp only [if_neg hzero]
      rcases hoffset with ⟨before, after, rfl, rfl⟩ | hpast
      · refine ⟨before, after, rfl, ?_⟩
        rw [byteLength_append]
        omega
      · exact ⟨text, [], (List.append_nil text).symm, by omega⟩
  obtain ⟨tokens, rest, rfl, htokens, hstop⟩ := exists_trivia after
  exact ⟨front, tokens, rest, rfl, hstart, (longestTrivia_iff htokens).mpr hstop⟩

/-- The comments that lead a statement are those among its tokens that stand after a line break, or
all of them at the start of the text. The nearest is the last of these. -/
theorem leadingComments?_eq_leadingPlaces {text : List Char} {offset : Nat}
    (hoffset : IsBoundary text offset ∨ byteLength text ≤ offset) :
    (∃ front tokens rest, TriviaFrom text offset front tokens rest) ∧
      ∀ front tokens rest, TriviaFrom text offset front tokens rest →
        leadingComments? text offset =
          some ((leadingPlaces (offset == 0) tokens).map (rangeAt (byteLength front) tokens)) ∧
        (leadingComments? text offset).map (nearestComment text) =
          some ((leadingPlaces (offset == 0) tokens).getLast?.bind fun place =>
            tokens[place]?.map TriviaToken.text) := by
  refine ⟨exists_triviaFrom hoffset, fun front tokens rest htrivia => ?_⟩
  have hfound := htrivia.leadingComments?_eq
  refine ⟨hfound, ?_⟩
  rw [hfound, Option.map_some, htrivia.text_eq, nearestComment_map_rangeAt]

/-- A statement with comments of its line after it, one of which holds a line break, and two comments
after line breaks. -/
def mixedTrivia : List Char := "f();/* a\n */ // b\n/*/ c */\u2028// d".toList

/-- The tokens after the statement. -/
def mixedTokens : List TriviaToken :=
  [.comment "/* a\n */".toList, .space ' ', .comment "// b".toList, .lineBreak '\n',
    .comment "/*/ c */".toList, .lineBreak '\u2028', .comment "// d".toList]

/-- The tokens stand after the statement up to the end of the text. -/
theorem trivia_mixedTokens : Trivia mixedTokens [] := by
  have hfirst : ¬ Closes " a\n ".toList := by simp [Closes, List.infix_cons_iff]
  have hsecond : ¬ Closes "/ c ".toList := by simp [Closes, List.infix_cons_iff]
  have hline (stop : List Char) (hstop : stop.head?.all endsLine = true) {body : List Char}
      (hbody : body.all (fun c => !endsLine c) = true) : Cut (fun c => !endsLine c) body stop := by
    refine ⟨List.all_eq_true.mp hbody, fun c hc => ?_⟩
    rw [Option.all_eq_true] at hstop
    rw [hstop c hc, Bool.not_true]
  exact .cons (.comment (.closed _ hfirst)) (.cons (.space (by decide) _)
    (.cons (.comment (.line (hline _ (by decide) (by decide)))) (.cons (.lineBreak (by decide) _)
    (.cons (.comment (.closed _ hsecond)) (.cons (.lineBreak (by decide) _)
    (.cons (.comment (.line (hline _ (by decide) (by decide)))) (.nil [])))))))

/-- The comments that lead after the statement are the last two. -/
theorem mixedTrivia_leadingPlaces :
    IsBoundary mixedTrivia 4 ∧ TriviaFrom mixedTrivia 4 "f();".toList mixedTokens [] ∧
      leadingComments? mixedTrivia 4 = some [⟨18, 26⟩, ⟨29, 33⟩] ∧
      (leadingComments? mixedTrivia 4).map (nearestComment mixedTrivia) =
        some (some "// d".toList) := by
  have hboundary : IsBoundary mixedTrivia 4 := by decide
  have htrivia : TriviaFrom mixedTrivia 4 "f();".toList mixedTokens [] :=
    ⟨rfl, rfl, (longestTrivia_iff trivia_mixedTokens).mpr (by decide)⟩
  obtain ⟨hranges, hnearest⟩ :=
    (leadingComments?_eq_leadingPlaces (.inl hboundary)).2 _ _ _ htrivia
  exact ⟨hboundary, htrivia, hranges.trans (by decide), hnearest.trans (by decide)⟩

end DocCoverage.Text
