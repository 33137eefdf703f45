import DocCoverage.Proofs.DocComment.Recognition
import Mathlib.Data.List.TakeWhile

/-!
# Constructs on their line

A construct reads the cells after its first one up to the next line feed, and it ends before that. It
is therefore the same before all cells that begin with the same line. There are two exceptions: an
inline tag may go on over several lines, and the message of a deprecation may stand on any of them.
-/

namespace DocCoverage.DocComment

open Text

/-- The problems of a construct. -/
def Construct.problems (construct : Construct) : List Problem :=
  construct.diagnostics.map Diagnostic.problem

/-- A construct without the lines of its diagnostics. -/
def Construct.wording (construct : Construct) : List Problem × Nat :=
  (construct.problems, construct.length)

/-- Cells that begin with the same characters up to the first line feed. -/
def SameFront (cells others : List Cell) : Prop :=
  leading (· != '\n') cells = leading (· != '\n') others

/-- Cells after which the same messages of deprecations are found, wherever on the first line these
start. -/
def SameMessages (cells others : List Cell) : Prop :=
  ∀ n ≤ (leading (· != '\n') cells).length,
    hasMessage false (cells.drop n) = hasMessage false (others.drop n)

/-! ## The front of cells -/

/-- The leading characters that pass a test which a line feed fails stand on the first line. -/
theorem takeWhile_leading {test : Char → Bool} (htest : test '\n' = false) (cells : List Cell) :
    (leading (· != '\n') cells).takeWhile test = leading test cells := by
  rw [leading, leading, List.takeWhile_takeWhile]
  congr 1
  funext c
  by_cases hc : c = '\n'
  · simp [hc, htest]
  · simp [hc]

/-- After some of the leading characters the others lead. -/
theorem leading_drop {test : Char → Bool} {cells : List Cell} {n : Nat}
    (hn : n ≤ (leading test cells).length) :
    leading test (cells.drop n) = (leading test cells).drop n := by
  obtain ⟨run, stop, hcut, htext, hlead, -⟩ := exists_leading test cells
  rw [hlead] at hn ⊢
  have hdrop : (cells.drop n).map Cell.char = run.drop n ++ stop := by
    rw [List.map_drop, htext, List.drop_append_of_le_length hn]
  exact leading_of_cut ⟨fun c hc => hcut.passes c (List.mem_of_mem_drop hc), hcut.stops⟩ hdrop

/-- The first of the leading characters. -/
theorem map_char_take {test : Char → Bool} {cells : List Cell} {n : Nat}
    (hn : n ≤ (leading test cells).length) :
    (cells.take n).map Cell.char = (leading test cells).take n := by
  obtain ⟨run, stop, -, htext, hlead, -⟩ := exists_leading test cells
  rw [hlead] at hn ⊢
  rw [List.map_take, htext, List.take_append_of_le_length hn]

/-- The first character passes a test exactly when some characters lead. -/
theorem any_firstChar (test : Char → Bool) (cells : List Cell) :
    (firstChar cells).any test = !(leading test cells).isEmpty := by
  cases cells with
  | nil => rfl
  | cons cell rest => cases htest : test cell.char <;> simp [firstChar, leading, htest]

/-- Where the first character passes a test some characters lead. -/
theorem length_leading_pos {test : Char → Bool} {cells : List Cell} {c : Char}
    (hfirst : firstChar cells = some c) (hc : test c = true) :
    0 < (leading test cells).length := by
  have hany := any_firstChar test cells
  rw [hfirst, Option.any_some, hc] at hany
  exact List.length_pos_iff.mpr fun hnil => by simp [hnil] at hany

/-- The cells of the first line begin with it. -/
theorem sameFront_take (cells : List Cell) :
    SameFront cells (cells.take (leading (· != '\n') cells).length) := by
  obtain ⟨run, stop, hcut, htext, hlead, -⟩ := exists_leading (· != '\n') cells
  have htake : (cells.take run.length).map Cell.char = run ++ [] := by
    rw [List.map_take, htext, List.take_left, List.append_nil]
  rw [SameFront, hlead]
  exact (leading_of_cut ⟨hcut.passes, by simp⟩ htake).symm

namespace SameFront

variable {cells others : List Cell} (hfront : SameFront cells others)

include hfront

/-- The same characters lead where a line feed stops them. -/
theorem leading_eq (test : Char → Bool) (htest : test '\n' = false) :
    leading test cells = leading test others := by
  rw [← takeWhile_leading htest, ← takeWhile_leading htest, hfront]

/-- The first characters pass the same tests, of those that a line feed fails. -/
theorem any_firstChar_eq (test : Char → Bool) (htest : test '\n' = false) :
    (firstChar cells).any test = (firstChar others).any test := by
  rw [any_firstChar, any_firstChar, hfront.leading_eq test htest]

/-- The same character stands first, unless it is a line feed. -/
theorem firstChar_eq_some_iff (c : Char) (hc : c ≠ '\n') :
    firstChar cells = some c ↔ firstChar others = some c := by
  have heq {cells : List Cell} : firstChar cells = some c ↔ (firstChar cells).any (· == c) = true := by
    cases firstChar cells <;> simp
  rw [heq, heq, hfront.any_firstChar_eq (· == c) (by simpa using hc.symm)]

/-- The fronts go on in the same way. -/
theorem drop {n : Nat} (hn : n ≤ (leading (· != '\n') cells).length) :
    SameFront (cells.drop n) (others.drop n) := by
  rw [SameFront, leading_drop hn, leading_drop (hfront ▸ hn), hfront]

/-- Behind leading characters the fronts go on in the same way. -/
theorem drop_leading (test : Char → Bool) (htest : test '\n' = false) :
    SameFront (cells.drop (leading test others).length)
      (others.drop (leading test others).length) := by
  apply hfront.drop
  rw [← hfront.leading_eq test htest, ← takeWhile_leading htest]
  exact (List.takeWhile_prefix test).length_le

end SameFront

/-- Cells with the same front as others that do not begin with a line feed begin with the same
character. -/
theorem SameFront.exists_cons {first : Cell} {rest others : List Cell}
    (hfront : SameFront (first :: rest) others) (hfirst : first.char ≠ '\n') :
    ∃ other later, others = other :: later ∧ first.char = other.char ∧ SameFront rest later := by
  have hcons {cell : Cell} (hcell : cell.char ≠ '\n') (cells : List Cell) :
      leading (· != '\n') (cell :: cells) = cell.char :: leading (· != '\n') cells :=
    List.takeWhile_cons_of_pos (by simpa using hcell)
  rw [SameFront, hcons hfirst] at hfront
  cases others with
  | nil => cases hfront
  | cons other later =>
    by_cases hother : other.char = '\n'
    · simp [leading, hother] at hfront
    · rw [hcons hother] at hfront
      exact ⟨other, later, rfl, List.cons.inj hfront⟩

/-! ## Constructs -/

/-- Attributes end with their line. -/
theorem attributes_of_leading_eq_nil (quote : Option Char) {cells : List Cell}
    (hend : leading (· != '\n') cells = []) : attributes quote cells = (0, false) := by
  cases cells with
  | nil => rfl
  | cons cell rest =>
    have hfeed : cell.char = '\n' := by
      simpa [leading, List.takeWhile_cons] using hend
    simp [attributes, hfeed]

section Constructs

variable (start other : Cell) {rest others : List Cell} (hfront : SameFront rest others)

include hfront

/-- A backslash is judged by the front alone. -/
theorem SameFront.backslash_wording :
    (backslash start rest).wording = (backslash other others).wording := by
  simp only [backslash, hfront.any_firstChar_eq isPunctuation rfl]
  split <;> rfl

/-- A code span is judged by the front alone. -/
theorem SameFront.codeSpan_wording :
    (codeSpan start rest).wording = (codeSpan other others).wording := by
  have hbody := hfront.drop_leading (fun c => c != '\x60' && c != '\n') rfl
  simp only [codeSpan, hfront.leading_eq (fun c => c != '\x60' && c != '\n') rfl,
    hbody.firstChar_eq_some_iff '\x60' (by decide)]
  split
  · split <;> rfl
  · rfl

/-- The length up to a closing character is that on the first line. -/
theorem SameFront.lengthPast_eq {close : Char} (hclose : close ≠ '\n') :
    lengthPast close rest = lengthPast close others := by
  have hbefore := hfront.drop_leading (fun c => c != close && c != '\n') (by simp)
  simp only [lengthPast, hfront.leading_eq (fun c => c != close && c != '\n') (by simp),
    hbefore.firstChar_eq_some_iff close hclose]

/-- What follows a parameter tag is judged by the front alone. -/
theorem SameFront.paramBlock_wording (tag : String) :
    (paramBlock tag start rest).wording = (paramBlock tag other others).wording := by
  have hspaces := hfront.leading_eq isSpace rfl
  have hbody := hfront.drop_leading isSpace rfl
  have hbrace := hbody.firstChar_eq_some_iff '{' (by decide)
  have hbracket := hbody.firstChar_eq_some_iff '[' (by decide)
  -- the brackets are taken apart first: the routine matches on them before any test is made
  by_cases hopen : firstChar (others.drop (leading isSpace others).length) = some '{'
  · simp only [paramBlock, hspaces, hopen, hbrace.mpr hopen, hbody.lengthPast_eq (by decide : '}' ≠ '\n')]
    rfl
  · by_cases hoptional : firstChar (others.drop (leading isSpace others).length) = some '['
    · simp only [paramBlock, hspaces, hoptional, hbracket.mpr hoptional,
        hbody.lengthPast_eq (by decide : ']' ≠ '\n')]
      rfl
    · have hname := hbody.leading_eq (fun c => !isBlank c) rfl
      have hnamed := hbody.drop_leading (fun c => !isBlank c) rfl
      have hafter := hnamed.drop_leading isSpace rfl
      rw [paramBlock_of_ne tag start (hspaces ▸ rfl) (mt hbrace.mp hopen) (mt hbracket.mp hoptional),
        paramBlock_of_ne tag other rfl hopen hoptional]
      simp only [← List.drop_drop, hspaces, hname, hnamed.leading_eq isSpace rfl,
        hafter.firstChar_eq_some_iff '-' (by decide)]
      split
      · rfl
      · split
        · split <;> rfl
        · rfl

/-- What a tag requires after it is judged by the front, and by the message that follows a deprecation.
-/
theorem SameFront.tagBlock_agrees (tag : String) :
    (tagBlock tag start rest).length = (tagBlock tag other others).length ∧
      (hasMessage false rest = hasMessage false others →
        (tagBlock tag start rest).problems = (tagBlock tag other others).problems) := by
  rw [tagBlock, tagBlock]
  split
  · have hblock := Prod.mk.inj (hfront.paramBlock_wording start other tag)
    exact ⟨hblock.2, fun _ => hblock.1⟩
  · constructor
    · split <;> split <;> rfl
    · intro hmessage
      rw [hmessage]
      split <;> rfl

/-- A block tag is judged by the front, and by the message that follows a deprecation. -/
theorem SameFront.blockTag_agrees (previous : Option Char) :
    (blockTag previous start rest).length = (blockTag previous other others).length ∧
      (SameMessages rest others →
        (blockTag previous start rest).problems = (blockTag previous other others).problems) := by
  have hname := hfront.leading_eq Char.isAlphanum rfl
  have hafter := hfront.drop_leading Char.isAlphanum rfl
  simp only [blockTag, hname, hafter.any_firstChar_eq (fun c => !isBlank c) rfl,
    hfront.leading_eq (fun c => !isBlank c) rfl]
  split
  · exact ⟨rfl, fun _ => rfl⟩
  · split
    · exact ⟨rfl, fun _ => rfl⟩
    · split
      · exact ⟨rfl, fun _ => rfl⟩
      · cases Tag.find? (leading Char.isAlphanum others) with
        | none => exact ⟨rfl, fun _ => rfl⟩
        | some tag =>
          dsimp only
          split
          · exact ⟨rfl, fun _ => rfl⟩
          · obtain ⟨hlength, hproblems⟩ := hafter.tagBlock_agrees start other tag.name
            refine ⟨congrArg (_ + ·) hlength, fun hmessages => hproblems (hmessages _ ?_)⟩
            rw [← hname, ← takeWhile_leading rfl]
            exact (List.takeWhile_prefix _).length_le

/-- The attributes of an element tag stand on the first line. -/
theorem SameFront.attributes_eq (quote : Option Char) :
    attributes quote rest = attributes quote others := by
  induction rest generalizing others quote with
  | nil => rw [attributes_of_leading_eq_nil quote hfront.symm, attributes]
  | cons cell rest ih =>
    by_cases hfeed : cell.char = '\n'
    · have hend : leading (· != '\n') (cell :: rest) = [] := by simp [leading, hfeed]
      rw [attributes_of_leading_eq_nil quote hend,
        attributes_of_leading_eq_nil quote (hfront.symm.trans hend)]
    · obtain ⟨first, later, rfl, hchar, hlater⟩ := hfront.exists_cons hfeed
      simp only [attributes, hchar, ih hlater]

/-- An element tag is judged by the front alone. -/
theorem SameFront.htmlTag_wording :
    (htmlTag start rest).wording = (htmlTag other others).wording := by
  have hslash := hfront.firstChar_eq_some_iff '/' (by decide)
  have hle : (if firstChar others = some '/' then 1 else 0) ≤
      (leading (· != '\n') rest).length := by
    split
    · next hfirst => exact length_leading_pos (hslash.mpr hfirst) rfl
    · exact Nat.zero_le _
  simp only [htmlTag, hslash]
  generalize (if firstChar others = some '/' then 1 else 0) = slash at hle
  have hnamed := hfront.drop hle
  have hname := hnamed.leading_eq (fun c => c.isAlphanum || c == '-') rfl
  have hafter := hnamed.drop_leading (fun c => c.isAlphanum || c == '-') rfl
  simp only [hnamed.any_firstChar_eq Char.isAlpha rfl, hname, hafter.attributes_eq none]
  split
  · simp only [Construct.wording, Construct.problems]
    split <;> rfl
  · rfl

/-- A construct other than an inline tag is the same before cells that begin with the same line, except
for the message of a deprecation. -/
theorem SameFront.construct_agrees (previous : Option Char) (hchar : start.char = other.char)
    (hbrace : start.char ≠ '{') :
    (construct previous start rest).length = (construct previous other others).length ∧
      (SameMessages rest others →
        (construct previous start rest).problems = (construct previous other others).problems) := by
  have hagrees {found found' : Construct} (hwording : found.wording = found'.wording) :
      found.length = found'.length ∧
        (SameMessages rest others → found.problems = found'.problems) :=
    ⟨(Prod.mk.inj hwording).2, fun _ => (Prod.mk.inj hwording).1⟩
  rw [construct, construct, ← hchar]
  split
  · exact hagrees (hfront.backslash_wording start other)
  · exact hagrees (hfront.codeSpan_wording start other)
  · next hopen => exact absurd hopen hbrace
  · exact hagrees rfl
  · exact hfront.blockTag_agrees start other previous
  · exact hagrees (hfront.htmlTag_wording start other)
  · exact hagrees rfl
  · exact hagrees rfl

end Constructs

/-- A construct other than an inline tag ends before the next line feed. -/
theorem construct_length_le_leading (previous : Option Char) {start : Cell} (rest : List Cell)
    (hbrace : start.char ≠ '{') :
    (construct previous start rest).length ≤ (leading (· != '\n') rest).length := by
  -- it is as long as before the cells of its line alone
  rw [((sameFront_take rest).construct_agrees start start previous rfl hbrace).1]
  exact (construct_length_le previous start _).trans (List.length_take_le _ _)

end DocCoverage.DocComment
