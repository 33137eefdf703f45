import DocCoverage.Proofs.DocComment.Spans

/-!
# Block and modifier tags

The routine for an at sign passes over a construct without a problem exactly when the characters
passed are a block or modifier tag between its neighbours. A parameter tag is continued by a
parameter name and a hyphen, a deprecation is followed by a message, and all other tags stand
alone.
-/

namespace DocCoverage.DocComment

open Text

/-- The spaces of a parameter tag are blanks. -/
theorem isBlank_of_isSpace {c : Char} (hc : isSpace c = true) : isBlank c = true := by
  simp only [isSpace, Bool.or_eq_true, beq_iff_eq] at hc
  rcases hc with rfl | rfl <;> decide

/-- The characters of a parameter name are no blanks. -/
theorem isBlank_eq_false_of_isNamePart {c : Char} (hc : isNamePart c = true) :
    isBlank c = false := by
  simp only [isNamePart, Bool.or_eq_true, beq_iff_eq] at hc
  rcases hc with (hc | rfl) | rfl
  · rw [← Bool.not_eq_true]
    intro hblank
    simp [isAlphanum_eq_false_of_isBlank hblank] at hc
  · decide
  · decide

/-- The first character of an identifier may also continue one. -/
theorem isNamePart_of_isNameStart {c : Char} (hc : isNameStart c = true) : isNamePart c = true := by
  simp only [isNameStart, isNamePart, Char.isAlphanum, Bool.or_eq_true] at hc ⊢
  rcases hc with (hc | hc) | hc
  · exact Or.inl (Or.inl (Or.inl hc))
  · exact Or.inl (Or.inr hc)
  · exact Or.inr hc

/-- The test for identifiers accepts exactly the identifiers. -/
theorem isNameWord_iff (word : List Char) : isNameWord word = true ↔ IsIdentifier word := by
  cases word with
  | nil => simp [isNameWord, IsIdentifier]
  | cons c rest =>
    rw [isNameWord, Bool.and_eq_true, List.all_eq_true]
    constructor
    · intro h
      obtain ⟨hc, hrest⟩ := h
      exact ⟨c, rest, rfl, hc, hrest⟩
    · intro h
      obtain ⟨c, rest, heq, hc, hrest⟩ := h
      obtain ⟨rfl, rfl⟩ := List.cons.inj heq
      exact ⟨hc, hrest⟩

/-- The characters of an identifier may continue one. -/
theorem IsIdentifier.isNamePart {word : List Char} (hword : IsIdentifier word) :
    ∀ c ∈ word, isNamePart c = true := by
  obtain ⟨c, rest, rfl, hc, hrest⟩ := hword
  intro d hd
  rcases List.mem_cons.mp hd with rfl | hd
  · exact isNamePart_of_isNameStart hc
  · exact hrest d hd

/-- The test for parameter names accepts exactly the identifiers joined by dots. -/
theorem isParamName_iff (name : List Char) : isParamName name = true ↔ IsDottedName name := by
  rw [isParamName, List.all_eq_true]
  simp only [isNameWord_iff]
  constructor
  · intro h
    exact ⟨pieces '.' name, pieces_ne_nil '.' name, h, (intercalate_pieces '.' name).symm⟩
  · intro h
    obtain ⟨words, hne, hwords, rfl⟩ := h
    have hfree : ∀ word ∈ words, '.' ∉ word := fun word hword hdot => by
      simpa [DocComment.isNamePart] using (hwords word hword).isNamePart '.' hdot
    rwa [pieces_intercalate hne hfree]

/-- A parameter name holds no blank. -/
theorem IsDottedName.isBlank_eq_false {name : List Char} (hname : IsDottedName name) :
    ∀ c ∈ name, isBlank c = false := by
  obtain ⟨words, -, hwords, rfl⟩ := hname
  intro c hc
  rcases mem_intercalate hc with rfl | ⟨word, hword, hc⟩
  · decide
  · exact isBlank_eq_false_of_isNamePart ((hwords word hword).isNamePart c hc)

/-- A parameter name starts with the first character of an identifier. -/
theorem IsDottedName.exists_head {name : List Char} (hname : IsDottedName name) :
    ∃ c rest, name = c :: rest ∧ isNameStart c = true := by
  obtain ⟨words, hne, hwords, rfl⟩ := hname
  obtain ⟨word, more, rfl⟩ := List.exists_cons_of_ne_nil hne
  obtain ⟨c, rest, rfl, hc, -⟩ := hwords word List.mem_cons_self
  cases more with
  | nil => exact ⟨c, rest, List.intercalate_singleton, hc⟩
  | cons next more => exact ⟨c, _, by rw [List.intercalate_cons_cons]; rfl, hc⟩

/-- What follows a parameter tag where no bracket does. -/
theorem paramBlock_of_ne (tag : String) (start : Cell) {rest body : List Cell}
    (hbody : body = rest.drop (leading isSpace rest).length)
    (hbrace : firstChar body ≠ some '{') (hbracket : firstChar body ≠ some '[') :
    paramBlock tag start rest =
      let spaces := (leading isSpace rest).length
      let name := leading (fun c => !isBlank c) body
      if name.isEmpty then ⟨[⟨.paramMissingName tag, lineAt start body⟩], spaces⟩
      else if isParamName name then
        let gap := (leading isSpace (body.drop name.length)).length
        let after := body.drop (name.length + gap)
        if firstChar after = some '-' then ⟨[], spaces + name.length + gap + 1⟩
        else ⟨[⟨.paramMissingHyphen tag, lineAt start after⟩], spaces + name.length + gap⟩
      else
        ⟨[⟨.paramInvalidName tag (String.ofList name), lineAt start body⟩], spaces + name.length⟩ := by
  subst hbody
  rw [paramBlock]
  split
  · next hfirst => exact absurd hfirst hbrace
  · next hfirst => exact absurd hfirst hbracket
  · rfl

/-- What follows a parameter tag has no problem exactly when a parameter name and a hyphen stand
there, by the cuts of its text around the name. -/
theorem paramBlock_of_cut (tag : String) (start : Cell) {cells : List Cell}
    {spaces name gap rest : List Char} (hspaces : Cut isSpace spaces (name ++ (gap ++ rest)))
    (hname : Cut (fun c => !isBlank c) name (gap ++ rest)) (hgap : Cut isSpace gap rest)
    (htext : cells.map Cell.char = spaces ++ (name ++ (gap ++ rest))) (n : Nat) :
    paramBlock tag start cells = ⟨[], n⟩ ↔
      IsDottedName name ∧ rest.head? = some '-' ∧
        n = spaces.length + name.length + gap.length + 1 := by
  have hbody := map_char_drop htext rfl
  have hafter := map_char_drop hbody rfl
  have hrest :
      ((cells.drop spaces.length).drop (name.length + gap.length)).map Cell.char = rest := by
    rw [← List.append_assoc] at hbody
    exact map_char_drop hbody List.length_append.symm
  simp only [paramBlock, leading_of_cut hspaces htext, leading_of_cut hname hbody,
    leading_of_cut hgap hafter, firstChar_of_map hbody, firstChar_of_map hrest]
  by_cases hdotted : IsDottedName name
  · obtain ⟨c, more, rfl, hc⟩ := hdotted.exists_head
    have hbrace : c ≠ '{' := by
      intro h
      subst h
      simp [isNameStart] at hc
    have hbracket : c ≠ '[' := by
      intro h
      subst h
      simp [isNameStart] at hc
    simp only [List.cons_append, List.head?_cons, hdotted, true_and]
    split
    · next heq => exact absurd (Option.some.inj heq) hbrace
    · next heq => exact absurd (Option.some.inj heq) hbracket
    · rw [if_neg (by simp), if_pos ((isParamName_iff _).mpr hdotted)]
      by_cases hhyphen : rest.head? = some '-'
      · simp [hhyphen, eq_comm]
      · simp [hhyphen]
  · simp only [hdotted, false_and, iff_false]
    split
    · simp
    · simp
    · split
      · simp
      · rw [if_neg (mt (isParamName_iff name).mp hdotted)]
        simp

/-- What follows a parameter tag without a problem is a parameter block. -/
theorem isParamBlock_of_paramBlock_eq {tag : String} {start : Cell} {cells : List Cell}
    {block after : List Char} (hchars : cells.map Cell.char = block ++ after)
    (hblank : StartsBlank (block ++ after))
    (h : paramBlock tag start cells = ⟨[], block.length⟩) : IsParamBlock block := by
  obtain ⟨spaces, body, hspaces, hbody⟩ := exists_cut isSpace (block ++ after)
  obtain ⟨name, stop, hname, rfl⟩ := exists_cut (fun c => !isBlank c) body
  obtain ⟨gap, rest, hgap, rfl⟩ := exists_cut isSpace stop
  rw [paramBlock_of_cut tag start hspaces hname hgap (hchars.trans hbody)] at h
  obtain ⟨hdotted, hhyphen, hlength⟩ := h
  obtain ⟨rest, rfl⟩ := List.head?_eq_some_iff.mp hhyphen
  have hpassed : block ++ after = (spaces ++ (name ++ (gap ++ ['-']))) ++ rest := by
    rw [hbody]
    simp
  obtain ⟨rfl, -⟩ := List.append_inj hpassed (by rw [hlength]; simp; omega)
  refine ⟨spaces, name, gap, rfl, ⟨?_, ?_⟩, hdotted, ⟨?_, ?_⟩⟩
  · -- the text starts with a blank, and a name does not
    intro h
    subst h
    obtain ⟨c, more, rfl, -⟩ := hdotted.exists_head
    have hc := hdotted.isBlank_eq_false c List.mem_cons_self
    rw [hblank c rfl] at hc
    exact Bool.noConfusion hc
  · intro c hc
    simpa [isSpace] using hspaces.passes c hc
  · -- a hyphen next to the name would belong to it
    intro h
    subst h
    exact absurd (hname.stops '-' rfl) (by decide)
  · intro c hc
    simpa [isSpace] using hgap.passes c hc

/-- A parameter block has no problem. -/
theorem paramBlock_eq_of_isParamBlock (tag : String) (start : Cell) {cells : List Cell}
    {block after : List Char} (hchars : cells.map Cell.char = block ++ after)
    (h : IsParamBlock block) : paramBlock tag start cells = ⟨[], block.length⟩ := by
  obtain ⟨spaces, name, gap, rfl, ⟨-, hspaces⟩, hdotted, hgapNe, hgap⟩ := h
  have hspacesCut : Cut isSpace spaces (name ++ (gap ++ '-' :: after)) := by
    refine ⟨fun c hc => by simpa [isSpace] using hspaces c hc, ?_⟩
    obtain ⟨c, more, rfl, -⟩ := hdotted.exists_head
    intro d hd
    obtain rfl : c = d := Option.some.inj hd
    rw [← Bool.not_eq_true]
    intro hspace
    have hc := hdotted.isBlank_eq_false c List.mem_cons_self
    rw [isBlank_of_isSpace hspace] at hc
    exact Bool.noConfusion hc
  have hnameCut : Cut (fun c => !isBlank c) name (gap ++ '-' :: after) := by
    refine ⟨fun c hc => by simpa using hdotted.isBlank_eq_false c hc, ?_⟩
    obtain ⟨c, more, rfl⟩ := List.exists_cons_of_ne_nil hgapNe
    intro d hd
    obtain rfl : c = d := Option.some.inj hd
    have hspace : isSpace c = true := by simpa [isSpace] using hgap c List.mem_cons_self
    simp [isBlank_of_isSpace hspace]
  have hgapCut : Cut isSpace gap ('-' :: after) :=
    ⟨fun c hc => by simpa [isSpace] using hgap c hc, by simp [isSpace]⟩
  rw [paramBlock_of_cut tag start hspacesCut hnameCut hgapCut (by rw [hchars]; simp)]
  refine ⟨hdotted, rfl, ?_⟩
  simp
  omega

/-- What follows a parameter tag has no problem exactly when it is a parameter block. -/
theorem paramBlock_eq_iff (tag : String) (start : Cell) {cells : List Cell}
    {block after : List Char} (hchars : cells.map Cell.char = block ++ after)
    (hblank : StartsBlank (block ++ after)) :
    paramBlock tag start cells = ⟨[], block.length⟩ ↔ IsParamBlock block :=
  ⟨isParamBlock_of_paramBlock_eq hchars hblank, paramBlock_eq_of_isParamBlock tag start hchars⟩

/-- A blank in front of a text does not matter for whether it has text. -/
theorem hasText_cons_of_isBlank {c : Char} (hblank : isBlank c = true) (text : List Char) :
    HasText (c :: text) ↔ HasText text := by
  constructor
  · intro h
    obtain ⟨blanks, d, rest, htext, hblanks, hd, hstart⟩ := h
    cases blanks with
    | nil =>
      obtain ⟨rfl, -⟩ := List.cons.inj htext
      rw [hblank] at hd
      exact Bool.noConfusion hd
    | cons b blanks =>
      exact ⟨blanks, d, rest, (List.cons.inj htext).2,
        fun b hb => hblanks b (List.mem_cons_of_mem _ hb), hd, hstart⟩
  · intro h
    obtain ⟨blanks, d, rest, rfl, hblanks, hd⟩ := h
    refine ⟨c :: blanks, d, rest, rfl, ?_, hd⟩
    intro b hb
    rcases List.mem_cons.mp hb with rfl | hb
    · exact hblank
    · exact hblanks b hb

/-- A text that starts with no blank has text exactly when it starts no tag. -/
theorem hasText_cons_of_not_isBlank {c : Char} (hc : isBlank c = false) (text : List Char) :
    HasText (c :: text) ↔ ¬(c = '@' ∧ ∃ d ∈ text.head?, d.isAlpha = true) := by
  constructor
  · intro h
    obtain ⟨blanks, d, rest, htext, hblanks, -, hstart⟩ := h
    cases blanks with
    | nil =>
      obtain ⟨rfl, rfl⟩ := List.cons.inj htext
      exact hstart
    | cons b blanks =>
      obtain ⟨rfl, -⟩ := List.cons.inj htext
      rw [hblanks c List.mem_cons_self] at hc
      exact Bool.noConfusion hc
  · intro hstart
    exact ⟨[], c, text, rfl, by simp, hc, hstart⟩

/-- Where a tag may start at the front, a message is found exactly in a text that has one. -/
theorem hasMessage_true_iff (cells : List Cell) :
    hasMessage true cells = true ↔ HasText (cells.map Cell.char) := by
  induction cells with
  | nil => simp [hasMessage, HasText]
  | cons cell rest ih =>
    have hfirst : (firstChar rest).any Char.isAlpha = true ↔
        ∃ d ∈ (rest.map Cell.char).head?, d.isAlpha = true := by
      rw [firstChar_of_map rfl, Option.any_eq_true]
      rfl
    cases hblank : isBlank cell.char with
    | true =>
      have hat : cell.char ≠ '@' := by
        intro h
        rw [h] at hblank
        exact absurd hblank (by decide)
      rw [List.map_cons, hasText_cons_of_isBlank hblank, ← ih, hasMessage,
        if_neg (fun h => hat h.1), if_pos hblank]
    | false =>
      rw [List.map_cons, hasText_cons_of_not_isBlank hblank, ← hfirst, hasMessage]
      split
      · next htag => simp [htag.1, htag.2.2]
      · next htag =>
        rw [if_neg (by simp [hblank])]
        simpa using htag

/-- After a tag, which a blank or nothing follows, a message is found exactly in a text that has
one. -/
theorem hasMessage_iff {cells : List Cell} (hstart : StartsBlank (cells.map Cell.char)) :
    hasMessage false cells = true ↔ HasText (cells.map Cell.char) := by
  rw [← hasMessage_true_iff]
  cases cells with
  | nil => rfl
  | cons cell rest =>
    have hat : cell.char ≠ '@' := by
      intro h
      have hblank := hstart cell.char rfl
      rw [h] at hblank
      exact absurd hblank (by decide)
    simp [hasMessage, hat]

/-- A message is found after any characters that no blank separates from a tag. -/
theorem hasMessage_false_iff (cells : List Cell) :
    hasMessage false cells = true ↔
      (StartsBlank (cells.map Cell.char) → HasText (cells.map Cell.char)) := by
  by_cases hstart : StartsBlank (cells.map Cell.char)
  · rw [hasMessage_iff hstart, imp_iff_right hstart]
  · refine iff_of_true ?_ fun h => absurd h hstart
    cases cells with
    | nil => exact absurd (fun _ hc => absurd hc (Option.not_mem_none _)) hstart
    | cons cell rest =>
      have hother : isBlank cell.char = false := by simpa [StartsBlank] using hstart
      simp [hasMessage, hother]

/-- What follows a tag has no problem exactly when it is what the tag requires. -/
theorem tagBlock_eq_iff (tag : String) (start : Cell) {cells : List Cell} {block after : List Char}
    (hchars : cells.map Cell.char = block ++ after) (hstart : StartsBlank (block ++ after)) :
    tagBlock tag start cells = ⟨[], block.length⟩ ↔ IsBlock tag block after := by
  rw [tagBlock, IsBlock]
  split
  · exact paramBlock_eq_iff tag start hchars hstart
  · have hmessage := hasMessage_iff (hchars ▸ hstart)
    rw [hchars] at hmessage
    split
    · next hmissing =>
      simp only [Construct.mk.injEq, List.cons_ne_nil, false_and, false_iff, not_and]
      intro h himp
      subst h
      have hfound := hmessage.mpr (himp hmissing.1)
      simp [hfound] at hmissing
    · next hmissing =>
      simp only [Construct.mk.injEq, true_and]
      constructor
      · intro hlength
        obtain rfl : block = [] := List.length_eq_zero_iff.mp hlength.symm
        refine ⟨rfl, fun htag => hmessage.mp ?_⟩
        simpa [htag] using hmissing
      · intro h
        obtain ⟨rfl, -⟩ := h
        rfl

/-- A text does not start with a blank exactly when its first character is another one. -/
theorem any_not_isBlank_iff (text : List Char) :
    text.head?.any (fun c => !isBlank c) = true ↔ ¬StartsBlank text := by
  cases text with
  | nil => simp [StartsBlank]
  | cons c rest => simp [StartsBlank]

/-- A block tag has no problem exactly when its name resolves and what follows has none, by the cut
of its text after the name. -/
theorem blockTag_of_cut (previous : Option Char) (start : Cell) {cells : List Cell}
    {name rest : List Char} (hname : Cut Char.isAlphanum name rest)
    (htext : cells.map Cell.char = name ++ rest) (n : Nat) :
    blockTag previous start cells = ⟨[], n⟩ ↔
      (∀ c ∈ previous, isBlank c = true) ∧ IsWord name ∧ StartsBlank rest ∧
        ∃ tag, Tag.find? name = some tag ∧ tag.syntaxKind ≠ .inline ∧
          (tagBlock tag.name start (cells.drop name.length)).diagnostics = [] ∧
          n = name.length + (tagBlock tag.name start (cells.drop name.length)).length := by
  have hprevious : previous.any (fun c => !isBlank c) = true ↔
      ¬∀ c ∈ previous, isBlank c = true := by
    cases previous <;> simp
  simp only [blockTag, leading_of_cut hname htext, firstChar_of_map (map_char_drop htext rfl)]
  split
  · next hword => exact iff_of_false (by simp) fun h => hprevious.mp hword h.1
  · next hword =>
    have hblank := not_not.mp (mt hprevious.mpr hword)
    split
    · next hletter =>
      have hnot : ¬IsWord name := by
        rw [← isTagName_iff hname.passes]
        simpa using hletter
      simp [hnot]
    · next hletter =>
      have his : IsWord name := by
        rw [← isTagName_iff hname.passes]
        simpa using hletter
      split
      · next hafter => simp [(any_not_isBlank_iff rest).mp hafter]
      · next hafter =>
        have hstart := not_not.mp (mt (any_not_isBlank_iff rest).mpr hafter)
        cases hfind : Tag.find? name with
        | none => simp
        | some tag =>
          by_cases hinline : tag.syntaxKind = .inline
          · simp [hinline]
          · simp only [hinline, if_false, Construct.mk.injEq, Option.some.injEq, ne_eq,
              exists_eq_left', not_false_eq_true, true_and, his, hstart]
            exact ⟨fun h => ⟨hblank, h.1, h.2.symm⟩, fun h => ⟨h.2.1, h.2.2.symm⟩⟩

/-- An at sign is passed without a problem exactly in a block or modifier tag. -/
theorem blockTag_eq_iff (previous : Option Char) (start : Cell) {cells : List Cell}
    {unit after : List Char} (hchars : cells.map Cell.char = unit ++ after) :
    blockTag previous start cells = ⟨[], unit.length⟩ ↔
      IsBlockTag previous ('@' :: unit) after := by
  constructor
  · obtain ⟨name, rest, hname, htext⟩ := exists_cut Char.isAlphanum (unit ++ after)
    rw [blockTag_of_cut previous start hname (hchars.trans htext)]
    intro h
    obtain ⟨hprevious, hword, hstart, tag, hfind, hinline, hnone, hlength⟩ := h
    -- the unit is at least as long as its name
    obtain ⟨block, rfl, rfl⟩ := exists_between_of_append_eq htext (by omega)
    refine ⟨name, block, tag, rfl, hprevious, hword, hfind, hinline, hstart, ?_⟩
    rw [← tagBlock_eq_iff tag.name start (map_char_drop (hchars.trans htext) rfl) hstart]
    rw [List.length_append, Nat.add_left_cancel_iff] at hlength
    rw [hlength, ← hnone]
  · intro h
    obtain ⟨name, block, tag, hunit, hprevious, hword, hfind, hinline, hstart, hblock⟩ := h
    obtain rfl : unit = name ++ block := (List.cons.inj hunit).2
    rw [List.append_assoc] at hchars
    have hname : Cut Char.isAlphanum name (block ++ after) :=
      ⟨hword.isAlphanum, fun c hc => isAlphanum_eq_false_of_isBlank (hstart c hc)⟩
    have htag := (tagBlock_eq_iff tag.name start (map_char_drop hchars rfl) hstart).mpr hblock
    rw [blockTag_of_cut previous start hname hchars]
    refine ⟨hprevious, hword, hstart, tag, hfind, hinline, ?_, ?_⟩
    · rw [htag]
    · rw [htag, List.length_append]

end DocCoverage.DocComment
