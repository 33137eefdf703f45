import DocCoverage.Proofs.DocComment.Spans

/-!
# Element tags

The routine for a left angle bracket passes over a construct without a problem exactly when the
characters passed are an element tag. The name runs as far as its characters do; since these may
also stand in attributes, the tag may be read with a shorter name too.
-/

namespace DocCoverage.DocComment

open Text

/-- Attributes that begin inside of a quotation mark, if one is open. -/
def ContinuesAttributes (text : List Char) : Option Char → Prop
  | none => IsAttributes text
  | some quote => ∃ body rest, text = body ++ quote :: rest ∧
      (∀ c ∈ body, c ≠ quote ∧ c ≠ '\n') ∧ IsAttributes rest

/-- The first character of attributes opens a quotation or stands for itself. -/
theorem isAttributes_cons_iff (c : Char) (text : List Char) :
    IsAttributes (c :: text) ↔
      (IsQuote c ∧ ContinuesAttributes text (some c)) ∨
        (¬IsQuote c ∧ c ∉ ['<', '>', '\n'] ∧ IsAttributes text) := by
  constructor
  · intro h
    cases h with
    | plain hquote hc hrest => exact Or.inr ⟨hquote, hc, hrest⟩
    | quoted hquote hbody hrest => exact Or.inl ⟨hquote, _, _, rfl, hbody, hrest⟩
  · intro h
    rcases h with ⟨hquote, body, rest, rfl, hbody, hrest⟩ | ⟨hquote, hc, hrest⟩
    · exact .quoted hquote hbody hrest
    · exact .plain hquote hc hrest

/-- The first character inside of a quotation closes it or belongs to it. -/
theorem continuesAttributes_some_cons_iff (quote c : Char) (text : List Char) :
    ContinuesAttributes (c :: text) (some quote) ↔
      (c = quote ∧ IsAttributes text) ∨
        (c ≠ quote ∧ c ≠ '\n' ∧ ContinuesAttributes text (some quote)) := by
  constructor
  · intro h
    obtain ⟨body, rest, htext, hbody, hrest⟩ := h
    cases body with
    | nil =>
      obtain ⟨rfl, rfl⟩ := List.cons.inj htext
      exact Or.inl ⟨rfl, hrest⟩
    | cons d body =>
      obtain ⟨rfl, rfl⟩ := List.cons.inj htext
      obtain ⟨hquote, hline⟩ := hbody c List.mem_cons_self
      exact Or.inr ⟨hquote, hline, body, rest, rfl,
        fun e he => hbody e (List.mem_cons_of_mem _ he), hrest⟩
  · intro h
    rcases h with ⟨rfl, hrest⟩ | ⟨hquote, hline, body, rest, rfl, hbody, hrest⟩
    · exact ⟨[], text, rfl, by simp, hrest⟩
    · refine ⟨c :: body, rest, rfl, ?_, hrest⟩
      intro d hd
      rcases List.mem_cons.mp hd with rfl | hd
      · exact ⟨hquote, hline⟩
      · exact hbody d hd

/-- One character of attributes: a quotation mark opens or closes a quotation or stands inside of
one of the other kind; any other character may not end the line, and brackets need quotation. -/
theorem continuesAttributes_cons_iff {quote : Option Char} (hquote : ∀ q ∈ quote, IsQuote q)
    {c : Char} (hclose : ¬(c = '>' ∧ quote = none)) (text : List Char) :
    ContinuesAttributes (c :: text) quote ↔
      if c = '\x22' ∨ c = '\x27' then
        ContinuesAttributes text
          (if quote = some c then none else if quote = none then some c else quote)
      else ¬(c = '\n' ∨ (c = '<' ∧ quote = none)) ∧ ContinuesAttributes text quote := by
  cases quote with
  | none =>
    have hc : c ≠ '>' := fun h => hclose ⟨h, rfl⟩
    rw [ContinuesAttributes, isAttributes_cons_iff]
    split
    · next hmark =>
      have his : IsQuote c := hmark
      simp [his]
    · next hmark =>
      have hnot : ¬IsQuote c := hmark
      simp only [hnot, hc, ContinuesAttributes, false_and, not_false_eq_true, List.mem_cons,
        List.not_mem_nil, or_false, false_or, not_or, and_true, true_and]
      exact ⟨fun h => ⟨⟨h.1.2, h.1.1⟩, h.2⟩, fun h => ⟨⟨h.1.2, h.1.1⟩, h.2⟩⟩
  | some quote =>
    have hmark : IsQuote quote := hquote quote rfl
    rw [continuesAttributes_some_cons_iff]
    by_cases heq : c = quote
    · subst heq
      have hmark' : c = '\x22' ∨ c = '\x27' := hmark
      simp [hmark', ContinuesAttributes]
    · simp only [heq, false_and, false_or, Option.some.injEq, reduceCtorEq, and_false, or_false,
        if_false, ne_eq, not_false_eq_true, true_and, Ne.symm heq]
      split
      · next hmark' =>
        have hline : c ≠ '\n' := by rcases hmark' with rfl | rfl <;> decide
        simp [hline]
      · rfl

/-- Attributes that begin with another character than the closing bracket go on after it. -/
theorem exists_attributes_cons_iff {quote : Option Char} {c : Char}
    (hclose : ¬(c = '>' ∧ quote = none)) (unit : List Char) :
    (∃ text, c :: unit = text ++ ['>'] ∧ ContinuesAttributes text quote) ↔
      ∃ text, unit = text ++ ['>'] ∧ ContinuesAttributes (c :: text) quote := by
  constructor
  · intro h
    obtain ⟨text, htext, hcontinues⟩ := h
    cases text with
    | nil =>
      obtain ⟨rfl, -⟩ := List.cons.inj htext
      cases quote with
      | none => exact absurd ⟨rfl, rfl⟩ hclose
      | some quote =>
        obtain ⟨body, rest, hnil, -⟩ := hcontinues
        simp at hnil
    | cons d text =>
      obtain ⟨rfl, rfl⟩ := List.cons.inj htext
      exact ⟨text, rfl, hcontinues⟩
  · intro h
    obtain ⟨text, rfl, hcontinues⟩ := h
    exact ⟨c :: text, rfl, hcontinues⟩

/-- The attributes of an element tag are closed exactly by a bracket outside of quotation. -/
theorem attributes_eq_iff {quote : Option Char} (hquote : ∀ q ∈ quote, IsQuote q)
    {cells : List Cell} {unit after : List Char} (hchars : cells.map Cell.char = unit ++ after) :
    attributes quote cells = (unit.length, true) ↔
      ∃ text, unit = text ++ ['>'] ∧ ContinuesAttributes text quote := by
  induction cells generalizing quote unit with
  | nil =>
    obtain ⟨rfl, -⟩ := List.append_eq_nil_iff.mp hchars.symm
    simp [attributes]
  | cons cell rest ih =>
    rw [attributes]
    cases unit with
    | nil =>
      refine iff_of_false ?_ (by simp)
      split
      · simp
      · split
        · simp
        · split <;> simp
    | cons c unit =>
      obtain ⟨rfl, hrest⟩ := List.cons.inj hchars
      by_cases hclose : cell.char = '>' ∧ quote = none
      · obtain ⟨hc, rfl⟩ := hclose
        simp only [hc, and_self, if_true, Prod.mk.injEq, and_true, List.length_cons]
        constructor
        · intro hlength
          obtain rfl : unit = [] := List.length_eq_zero_iff.mp (by omega)
          exact ⟨[], rfl, .nil⟩
        · intro h
          obtain ⟨text, htext, hcontinues⟩ := h
          cases text with
          | nil => simp [(List.cons.inj htext).2]
          | cons d text =>
            obtain ⟨rfl, -⟩ := List.cons.inj htext
            rcases (isAttributes_cons_iff _ text).mp hcontinues with ⟨hmark, -⟩ | ⟨-, hmem, -⟩
            · simp [IsQuote] at hmark
            · simp at hmem
      · rw [exists_attributes_cons_iff hclose]
        simp only [continuesAttributes_cons_iff hquote hclose, if_neg hclose]
        split
        · next hmark =>
          rw [← ih ?_ hrest]
          · simp [Prod.ext_iff]
          · intro q hq
            split at hq
            · simp at hq
            · split at hq
              · obtain rfl := Option.some.inj hq
                exact hmark
              · exact hquote q hq
        · split
          · next hend => simp [hend]
          · next hend =>
            simp only [hend, not_false_eq_true, true_and]
            rw [← ih hquote hrest]
            simp [Prod.ext_iff]

/-- A character of an element name. -/
def isElementNamePart (c : Char) : Bool := c.isAlphanum || c == '-'

/-- The characters of an element name. -/
theorem IsElementName.passes {name : List Char} (hname : IsElementName name) :
    ∀ c ∈ name, isElementNamePart c = true := by
  obtain ⟨c, rest, rfl, hc, hrest⟩ := hname
  intro d hd
  rcases List.mem_cons.mp hd with rfl | hd
  · simp [isElementNamePart, Char.isAlphanum, hc]
  · simpa [isElementNamePart] using hrest d hd

/-- A run of characters of element names is one exactly when it starts with a letter. -/
theorem isElementName_iff {name rest : List Char} (hname : Cut isElementNamePart name rest) :
    IsElementName name ↔ (name ++ rest).head?.any Char.isAlpha = true := by
  constructor
  · intro h
    obtain ⟨c, more, rfl, hc, -⟩ := h
    exact hc
  · intro h
    cases name with
    | nil =>
      obtain ⟨c, hc, halpha⟩ := Option.any_eq_true _ _ |>.mp h
      have hstop := hname.stops c hc
      simp [isElementNamePart, Char.isAlphanum, halpha] at hstop
    | cons c more =>
      refine ⟨c, more, rfl, h, fun d hd => ?_⟩
      simpa [isElementNamePart] using hname.passes d (List.mem_cons_of_mem _ hd)

/-- Characters of element names in front of attributes belong to them. -/
theorem isAttributes_append_iff {name : List Char} (hname : ∀ c ∈ name, isElementNamePart c = true)
    (text : List Char) : IsAttributes (name ++ text) ↔ IsAttributes text := by
  induction name with
  | nil => rfl
  | cons c rest ih =>
    have hc := hname c List.mem_cons_self
    have hquote : ¬IsQuote c := by
      intro h
      rcases h with rfl | rfl
      · simp [isElementNamePart] at hc
      · simp [isElementNamePart] at hc
    have hmem : c ∉ ['<', '>', '\n'] := by
      intro hmem
      simp only [List.mem_cons, List.not_mem_nil, or_false] at hmem
      rcases hmem with rfl | rfl | rfl <;> simp [isElementNamePart] at hc
    rw [List.cons_append, isAttributes_cons_iff, ih fun d hd => hname d (List.mem_cons_of_mem _ hd)]
    simp [hquote, hmem]

/-- An element tag has no problem exactly when it has a name and its attributes are closed, by the
cuts of its text around the name. -/
theorem htmlTag_of_cut (start : Cell) {cells : List Cell} {slash name rest : List Char}
    (hslash : slash = ['/'] ∨ slash = [] ∧ (name ++ rest).head? ≠ some '/')
    (hname : Cut isElementNamePart name rest)
    (htext : cells.map Cell.char = slash ++ (name ++ rest)) (n : Nat) :
    htmlTag start cells = ⟨[], n⟩ ↔
      IsElementName name ∧ ∃ m, n = slash.length + name.length + m ∧
        attributes none ((cells.drop slash.length).drop name.length) = (m, true) := by
  have hlength : (if firstChar cells = some '/' then 1 else 0) = slash.length := by
    rw [firstChar_of_map htext]
    rcases hslash with rfl | ⟨rfl, hfirst⟩
    · rfl
    · exact if_neg hfirst
  have hnamed := map_char_drop htext rfl
  simp only [htmlTag, hlength, firstChar_of_map hnamed]
  rw [isElementName_iff hname]
  split
  · next halpha =>
    rw [show leading (fun c => c.isAlphanum || c == '-') (cells.drop slash.length) = name from
      leading_of_cut hname hnamed]
    constructor
    · intro h
      obtain ⟨hnone, hlength⟩ := Construct.mk.inj h
      split at hnone
      · next hclosed => exact ⟨halpha, _, hlength.symm, Prod.ext rfl hclosed⟩
      · simp at hnone
    · intro h
      obtain ⟨-, m, rfl, hclosed⟩ := h
      rw [hclosed]
      rfl
  · next halpha => exact iff_of_false (by simp) fun h => halpha h.1

/-- A left angle bracket that is passed without a problem opens an element tag. -/
theorem isElementTag_of_htmlTag_eq {start : Cell} {cells : List Cell} {unit after : List Char}
    (hchars : cells.map Cell.char = unit ++ after)
    (h : htmlTag start cells = ⟨[], unit.length⟩) : IsElementTag ('<' :: unit) := by
  obtain ⟨slash, text, htext, hslash⟩ : ∃ slash text, unit ++ after = slash ++ text ∧
      (slash = ['/'] ∨ slash = [] ∧ text.head? ≠ some '/') := by
    by_cases hfirst : (unit ++ after).head? = some '/'
    · obtain ⟨text, htext⟩ := List.head?_eq_some_iff.mp hfirst
      exact ⟨['/'], text, htext, Or.inl rfl⟩
    · exact ⟨[], unit ++ after, rfl, Or.inr ⟨rfl, hfirst⟩⟩
  obtain ⟨name, rest, hname, rfl⟩ := exists_cut isElementNamePart text
  rw [htmlTag_of_cut start hslash hname (hchars.trans htext)] at h
  obtain ⟨helement, m, hlength, hclosed⟩ := h
  obtain ⟨between, rfl, hbetween⟩ := exists_between_of_append_eq htext (by omega)
  rw [List.length_append, Nat.add_assoc, Nat.add_left_cancel_iff] at hlength
  obtain ⟨unit, rfl, rfl⟩ := exists_between_of_append_eq hbetween.symm (by omega)
  have hrest := map_char_drop (map_char_drop (hchars.trans htext) rfl) rfl
  rw [List.length_append, Nat.add_left_cancel_iff] at hlength
  rw [← hlength, attributes_eq_iff (by simp) hrest] at hclosed
  obtain ⟨text, rfl, hattributes⟩ := hclosed
  exact ⟨slash, name, text, rfl, hslash.symm.imp And.left id, helement, hattributes⟩

/-- An element tag is passed without a problem. -/
theorem htmlTag_eq_of_isElementTag (start : Cell) {cells : List Cell} {unit after : List Char}
    (hchars : cells.map Cell.char = unit ++ after) (h : IsElementTag ('<' :: unit)) :
    htmlTag start cells = ⟨[], unit.length⟩ := by
  obtain ⟨slash, name, text, hunit, hslash, helement, hattributes⟩ := h
  obtain rfl : unit = slash ++ (name ++ (text ++ ['>'])) := (List.cons.inj hunit).2
  -- the run of name characters may go on into the attributes
  obtain ⟨more, text, hmore, rfl⟩ := exists_cut isElementNamePart text
  have hname : Cut isElementNamePart (name ++ more) (text ++ '>' :: after) := by
    refine ⟨fun c hc => ?_, ?_⟩
    · rcases List.mem_append.mp hc with hc | hc
      · exact helement.passes c hc
      · exact hmore.passes c hc
    · cases text with
      | nil => simp [isElementNamePart]
      | cons c text => exact hmore.stops
  have hall : IsElementName (name ++ more) := by
    obtain ⟨c, rest, rfl, hc, -⟩ := helement
    exact (isElementName_iff hname).mpr hc
  have htext : cells.map Cell.char = slash ++ ((name ++ more) ++ (text ++ '>' :: after)) := by
    rw [hchars]
    simp
  have hfirst : slash = ['/'] ∨ slash = [] ∧
      ((name ++ more) ++ (text ++ '>' :: after)).head? ≠ some '/' := by
    rcases hslash with rfl | rfl
    · refine Or.inr ⟨rfl, ?_⟩
      obtain ⟨c, rest, rfl, hc, -⟩ := helement
      intro hslash
      obtain rfl : c = '/' := Option.some.inj hslash
      exact absurd hc (by decide)
    · exact Or.inl rfl
  have hclosed : attributes none ((cells.drop slash.length).drop (name ++ more).length) =
      ((text ++ ['>']).length, true) := by
    rw [attributes_eq_iff (by simp)
      ((map_char_drop (map_char_drop htext rfl) rfl).trans (List.append_cons ..))]
    exact ⟨text, rfl, (isAttributes_append_iff hmore.passes text).mp hattributes⟩
  rw [htmlTag_of_cut start hfirst hname htext]
  refine ⟨hall, _, ?_, hclosed⟩
  simp
  omega

/-- A left angle bracket is passed without a problem exactly in an element tag. -/
theorem htmlTag_eq_iff (start : Cell) {cells : List Cell} {unit after : List Char}
    (hchars : cells.map Cell.char = unit ++ after) :
    htmlTag start cells = ⟨[], unit.length⟩ ↔ IsElementTag ('<' :: unit) :=
  ⟨isElementTag_of_htmlTag_eq hchars, htmlTag_eq_of_isElementTag start hchars⟩

end DocCoverage.DocComment
