import DocCoverage.Check
import DocCoverage.Proofs.Coverage.Collection
import DocCoverage.Proofs.Coverage.Findings

/-!
# The offsets of a loaded unit

The text of a unit is that of its file without a byte order mark in front. The reader of modules
drops a mark of its own and counts the bytes after it, so the offsets of a unit are offsets of its
text as long as no second mark stands there. A file that starts with two marks is loaded, and the
comments of every declaration but those of the first item are sought three bytes too early.
-/

namespace DocCoverage

open Text TypeScript Coverage FileTree

/-- The bytes of the byte order mark with which a text starts. -/
def markLength (text : List Char) : Nat := byteLength text - byteLength (dropByteOrderMark text)

/-- Where some items of the module with a text end in that text; its start where there are none.
The spans of items count the bytes after a byte order mark. -/
def endInText (text : List Char) (items : List Item) : Nat :=
  match items.getLast? with
  | none => 0
  | some item => markLength text + item.span.stop

/-- The comment offsets of a module are offsets of its text: that of each declaration of an item is
where the item before it ends in the text, and a character boundary of the text. -/
def OffsetsInText (text : List Char) (items : List Item) : Prop :=
  ∀ before item after, items = before ++ item :: after →
    ∀ declaration ∈ declarationsOfItem (.ofText text) (endAfter 0 before) item,
      declaration.commentOffset = endInText text before ∧
        declaration.commentOffset ≤ byteLength text ∧ IsBoundary text declaration.commentOffset

/-- A text without a mark is not changed. -/
theorem dropByteOrderMark_of_head?_ne {text : List Char} (hmark : text.head? ≠ some '\ufeff') :
    dropByteOrderMark text = text := by
  unfold dropByteOrderMark
  split
  · exact absurd rfl hmark
  · rfl

/-- A text without a mark has no bytes of a mark. -/
theorem markLength_of_head?_ne {text : List Char} (hmark : text.head? ≠ some '\ufeff') :
    markLength text = 0 := by
  rw [markLength, dropByteOrderMark_of_head?_ne hmark, Nat.sub_self]

/-- A mark takes three bytes. -/
theorem markLength_of_head?_eq {text : List Char} (hmark : text.head? = some '\ufeff') :
    markLength text = 3 := by
  obtain ⟨rest, rfl⟩ := List.head?_eq_some_iff.mp hmark
  rw [markLength, dropByteOrderMark, byteLength_cons, Nat.add_sub_cancel]
  decide

/-- The items of a module end at character boundaries of the text after a mark. -/
theorem isBoundary_stop_of_mem {dialect : Dialect} {text : List Char} {items : List Item}
    (hread : readModule dialect text = .ok items) {item : Item} (hitem : item ∈ items) :
    IsBoundary (dropByteOrderMark text) item.span.stop := by
  simp only [readModule] at hread
  split at hread
  · obtain ⟨read, -, rfl⟩ := List.mem_map.mp (Except.ok.inj hread ▸ hitem)
    exact isBoundary_byteOffset (dropByteOrderMark text) read.span.stop
  · simp at hread

/-- Where items end in a text without a mark is where the collector takes them to end. -/
theorem endAfter_eq_endInText {text : List Char} (hmark : text.head? ≠ some '\ufeff')
    (items : List Item) : endAfter 0 items = endInText text items := by
  rw [endAfter, endInText, markLength_of_head?_ne hmark]
  cases items.getLast? with
  | none => rfl
  | some item => exact (Nat.zero_add _).symm

/-- Items end at a character boundary of a text without a mark. -/
theorem isBoundary_endAfter {dialect : Dialect} {text : List Char} {items : List Item}
    (hread : readModule dialect text = .ok items) (hmark : text.head? ≠ some '\ufeff')
    {before : List Item} (hbefore : before ⊆ items) : IsBoundary text (endAfter 0 before) := by
  rw [endAfter]
  cases hlast : before.getLast? with
  | none => exact isBoundary_zero text
  | some item =>
    have hmem : item ∈ items := hbefore (List.mem_of_getLast? hlast)
    have hstop := isBoundary_stop_of_mem hread hmem
    rwa [dropByteOrderMark_of_head?_ne hmark] at hstop

/-- The comment offsets of a module are offsets of its text exactly when the text starts with no
mark, or nothing is declared after the first item. -/
theorem offsetsInText_iff {dialect : Dialect} {text : List Char} {items : List Item}
    (hread : readModule dialect text = .ok items) :
    OffsetsInText text items ↔
      text.head? ≠ some '\ufeff' ∨
        ∀ item ∈ items.tail, declarationsOfItem (.ofText text) 0 item = [] := by
  constructor
  · intro hoffsets
    by_cases hmark : text.head? = some '\ufeff'
    · refine Or.inr fun item hitem => ?_
      obtain ⟨first, rest, rfl⟩ := List.exists_cons_of_ne_nil
        (List.ne_nil_of_mem (List.mem_of_mem_tail hitem))
      obtain ⟨before, after, rfl⟩ := List.append_of_mem hitem
      rw [declarationsOfItem_eq_nil_iff _ 0 (endAfter 0 (first :: before)),
        List.eq_nil_iff_forall_not_mem]
      intro declaration hmem
      -- the collector does not count the bytes of the mark
      have hoffset := (hoffsets (first :: before) item after rfl declaration hmem).1
      rw [commentOffset_of_mem_declarationsOfItem hmem, endAfter, endInText, List.getLast?_cons,
        markLength_of_head?_eq hmark, Option.map_some, Option.getD_some] at hoffset
      change _ = 3 + _ at hoffset
      omega
    · exact Or.inl hmark
  · intro hcondition before item after hitems declaration hmem
    rw [commentOffset_of_mem_declarationsOfItem hmem]
    rcases hcondition with hmark | hrest
    · have hbefore : before ⊆ items := hitems ▸ List.subset_append_left before (item :: after)
      have hboundary := isBoundary_endAfter hread hmark hbefore
      exact ⟨endAfter_eq_endInText hmark before, hboundary.le_byteLength, hboundary⟩
    · cases before with
      | nil => exact ⟨rfl, Nat.zero_le _, isBoundary_zero text⟩
      | cons first before =>
        have hitem : item ∈ items.tail := by
          rw [hitems]
          exact List.mem_append_right before List.mem_cons_self
        have hnone := hrest item hitem
        rw [declarationsOfItem_eq_nil_iff _ 0 (endAfter 0 (first :: before))] at hnone
        rw [hnone] at hmem
        exact absurd hmem List.not_mem_nil

/-- A loaded unit has the text of its file without a mark and the declarations of its module. -/
theorem loadUnit_eq_ok {path : String} {content : Except FileError (List UInt8)} {unit : SourceUnit}
    (hload : loadUnit path content = .ok unit) :
    ∃ text items, content.bind decodeText = .ok text ∧ unit.text = dropByteOrderMark text ∧
      readModule (.ofPath path) unit.text = .ok items ∧
      unit.declarations = declarationsOf (.ofText unit.text) items := by
  rw [loadUnit] at hload
  split at hload
  · simp at hload
  · next text htext =>
    split at hload
    · simp at hload
    · next read hread =>
      obtain rfl := Except.ok.inj hload
      rw [SourceUnit.read] at hread
      split at hread
      · next items hitems =>
        obtain rfl := Except.ok.inj hread
        exact ⟨text, items, htext, rfl, hitems, rfl⟩
      · simp at hread

/-- A text still starts with a mark after one is dropped exactly when it starts with two. -/
theorem head?_dropByteOrderMark_eq_iff (text : List Char) :
    (dropByteOrderMark text).head? = some '\ufeff' ↔ ['\ufeff', '\ufeff'] <+: text := by
  unfold dropByteOrderMark
  split
  · next rest =>
    rw [List.cons_prefix_cons, List.head?_eq_some_iff]
    constructor
    · intro h
      obtain ⟨rest, rfl⟩ := h
      exact ⟨rfl, rest, rfl⟩
    · intro h
      obtain ⟨-, rest, rfl⟩ := h
      exact ⟨rest, rfl⟩
  · next hmark =>
    refine iff_of_false (fun h => ?_) fun h => ?_
    · obtain ⟨rest, rfl⟩ := List.head?_eq_some_iff.mp h
      exact hmark rest rfl
    · obtain ⟨rest, rfl⟩ := h
      exact hmark _ rfl

/-- A unit whose comment offsets are offsets of its text has a tally under every validator. -/
theorem exists_tally_of_offsetsInText {unit : SourceUnit} {items : List Item}
    (hdeclarations : unit.declarations = declarationsOf (.ofText unit.text) items)
    (hoffsets : OffsetsInText unit.text items)
    (validate : List Char → List DocComment.Diagnostic) :
    ∃ record, tally? validate unit = some record := by
  rw [← Option.isSome_iff_exists, tally?_isSome_iff]
  intro declaration hmem
  rw [hdeclarations, mem_declarationsOf_iff] at hmem
  obtain ⟨before, item, after, hitems, hmem⟩ := hmem
  have hboundary := (hoffsets before item after hitems declaration hmem).2.2
  exact (leadingComments?_isSome_iff _ _).mpr (Or.inl hboundary)

/-- The comment offsets of every loaded unit are offsets of its text, and its tally has an answer,
except where the file starts with two marks and something is declared after the first item. -/
theorem loadUnit_offsetsInText_iff {path : String} {content : Except FileError (List UInt8)}
    {unit : SourceUnit} (hload : loadUnit path content = .ok unit) :
    ∃ text items, content.bind decodeText = .ok text ∧ unit.text = dropByteOrderMark text ∧
      readModule (.ofPath path) unit.text = .ok items ∧
      (∀ declaration, declaration ∈ unit.declarations ↔
        ∃ before item after, items = before ++ item :: after ∧
          declaration ∈ declarationsOfItem (.ofText unit.text) (endAfter 0 before) item) ∧
      (OffsetsInText unit.text items ↔
        ¬ ['\ufeff', '\ufeff'] <+: text ∨
          ∀ item ∈ items.tail, declarationsOfItem (.ofText unit.text) 0 item = []) ∧
      (OffsetsInText unit.text items →
        ∀ validate, ∃ record, tally? validate unit = some record) := by
  obtain ⟨text, items, htext, hunit, hread, hdeclarations⟩ := loadUnit_eq_ok hload
  refine ⟨text, items, htext, hunit, hread, ?_, ?_, ?_⟩
  · intro declaration
    rw [hdeclarations, mem_declarationsOf_iff]
  · rw [offsetsInText_iff hread, hunit, Ne, head?_dropByteOrderMark_eq_iff]
  · exact exists_tally_of_offsetsInText hdeclarations

/-- A result that is no error is the value it holds. -/
theorem eq_ok_of_toOption_eq_some {ε α : Type} {result : Except ε α} {value : α}
    (h : result.toOption = some value) : result = .ok value := by
  cases result with
  | error error => cases h
  | ok found => rw [Option.some.inj h]

/-- A file with one mark and a character of three bytes: `a('€')`, and after it a documented
function. -/
def oneMarkFile : List UInt8 :=
  [239, 187, 191, 97, 40, 39, 226, 130, 172, 39, 41, 10, 47, 42, 42, 32, 68, 46, 32, 42, 47, 10,
    102, 117, 110, 99, 116, 105, 111, 110, 32, 103, 40, 41, 123, 125]

/-- The comment offsets of a file with one mark, and its tally. -/
theorem oneMarkFile_offsetsInText :
    ∃ unit items, loadUnit "m.ts" (.ok oneMarkFile) = .ok unit ∧
      readModule (.ofPath "m.ts") unit.text = .ok items ∧ OffsetsInText unit.text items ∧
      ∃ record, tally? DocComment.validate unit = some record := by
  have hload : loadUnit "m.ts" (.ok oneMarkFile) =
      .ok ⟨"m.ts", "a('€')\n/** D. */\nfunction g(){}".toList, [⟨"g", .function, 8, ⟨3, 3⟩⟩]⟩ :=
    eq_ok_of_toOption_eq_some (by decide +kernel)
  have hdecode : decodeText oneMarkFile =
      .ok ('\ufeff' :: "a('€')\n/** D. */\nfunction g(){}".toList) :=
    eq_ok_of_toOption_eq_some (by decide +kernel)
  obtain ⟨text, items, htext, -, hread, -, hiff, htally⟩ := loadUnit_offsetsInText_iff hload
  obtain rfl := Except.ok.inj (hdecode.symm.trans htext)
  have hoffsets := hiff.mpr (Or.inl (by decide))
  exact ⟨_, items, hload, hread, hoffsets, htally hoffsets DocComment.validate⟩

/-- A file with two marks: `a()`, and after it a documented function. -/
def twoMarksFile : List UInt8 :=
  [239, 187, 191, 239, 187, 191, 97, 40, 41, 10, 47, 42, 42, 32, 68, 46, 32, 42, 47, 10, 102, 117,
    110, 99, 116, 105, 111, 110, 32, 103, 40, 41, 123, 125]

/-- The comments of a function after two marks are sought three bytes before the end of the item in
front of it. -/
theorem twoMarksFile_not_offsetsInText :
    ∃ unit items, loadUnit "m.ts" (.ok twoMarksFile) = .ok unit ∧
      readModule (.ofPath "m.ts") unit.text = .ok items ∧ ¬ OffsetsInText unit.text items := by
  have hload : loadUnit "m.ts" (.ok twoMarksFile) =
      .ok ⟨"m.ts", '\ufeff' :: "a()\n/** D. */\nfunction g(){}".toList,
        [⟨"g", .function, 3, ⟨2, 3⟩⟩]⟩ :=
    eq_ok_of_toOption_eq_some (by decide +kernel)
  have hread : readModule (.ofPath "m.ts") ('\ufeff' :: "a()\n/** D. */\nfunction g(){}".toList) =
      .ok [⟨.other, ⟨0, 3⟩⟩, ⟨.function "g", ⟨14, 28⟩⟩] :=
    eq_ok_of_toOption_eq_some (by decide +kernel)
  refine ⟨_, _, hload, hread, fun hoffsets => ?_⟩
  have hoffset := (hoffsets [⟨.other, ⟨0, 3⟩⟩] _ [] rfl _ List.mem_cons_self).1
  revert hoffset
  decide

end DocCoverage
