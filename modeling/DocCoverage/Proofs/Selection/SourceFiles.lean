import DocCoverage.Proofs.Glob.Wildcards
import DocCoverage.Proofs.Selection.SelectedFiles

/-!
# Which paths are those of sources

The standard patterns match the paths of sources that are not hidden: those that end with the suffix of
a source and have no component that starts with a dot, except for a last one that is nothing but the
suffix.
-/

namespace DocCoverage.Selection

open FileTree Text

/-- A name that starts with a dot is hidden. -/
def IsHidden (name : String) : Prop := name.toList.head? = some '.'

instance (name : String) : Decidable (IsHidden name) := inferInstanceAs (Decidable (_ = _))

/-- The pattern of the paths with a suffix, in any directory. -/
def suffixPattern (suffix : String) : Glob.Pattern :=
  ⟨[.anyComponents, .anySequence] ++ suffix.toList.map .literal⟩

section Suffix

variable {path above : List String} {last suffix : String} {front : List Char}

/-- Before a suffix without slashes stand the names of a path, the last one without this suffix. -/
theorem exists_stem_of_displayPath_eq (hnames : ∀ name ∈ above ++ [last], '/' ∉ name.toList)
    (hsuffix : '/' ∉ suffix.toList)
    (htext : (displayPath (above ++ [last])).toList = front ++ suffix.toList) :
    ∃ stem, last.toList = stem ++ suffix.toList ∧
      pieces '/' front = above.map String.toList ++ [stem] := by
  have hfree : ∀ word ∈ (above ++ [last]).map String.toList, '/' ∉ word := by
    intro word hword
    obtain ⟨name, hname, rfl⟩ := List.mem_map.mp hword
    exact hnames name hname
  have hwords := pieces_intercalate (by simp) hfree
  obtain ⟨others, stem, hfront, hwhole⟩ := exists_pieces_append_right hsuffix front
  rw [← htext, toList_displayPath, hwords, List.map_append, List.map_singleton] at hwhole
  obtain ⟨rfl, hlast⟩ := List.append_inj' hwhole rfl
  exact ⟨stem, List.singleton_inj.mp hlast, hfront⟩

/-- A suffix of a path without slashes is one of its last name. -/
theorem suffix_last_of_suffix (hnames : ∀ name ∈ path, '/' ∉ name.toList)
    (hsuffix : '/' ∉ suffix.toList) (hpath : suffix.toList <:+ (displayPath path).toList)
    (hlast : last ∈ path.getLast?) : suffix.toList <:+ last.toList := by
  obtain ⟨above, rfl⟩ := List.getLast?_eq_some_iff.mp hlast
  obtain ⟨front, htext⟩ := hpath
  obtain ⟨stem, hstem, -⟩ := exists_stem_of_displayPath_eq hnames hsuffix htext.symm
  exact ⟨stem, hstem.symm⟩

/-- What stands before the suffix of a name starts with a dot exactly when the name is hidden and more
than the suffix. -/
theorem head?_stem_ne_iff {stem : List Char} (hlast : last.toList = stem ++ suffix.toList) :
    stem.head? ≠ some '.' ↔ (IsHidden last → last = suffix) := by
  rw [← String.toList_inj]
  cases stem with
  | nil => exact iff_of_true (by simp) fun _ => hlast
  | cons c rest =>
    have hlonger : last.toList ≠ suffix.toList := by
      rw [hlast]
      exact fun heq => absurd (congrArg List.length heq) (by simp; omega)
    have hfirst : IsHidden last ↔ c = '.' := by simp [IsHidden, hlast]
    simp [hfirst, hlonger]

/-- The pattern of a suffix without slashes matches the paths with this suffix of which only the last
name may be hidden, and only if it is the suffix. -/
theorem suffixPattern_accepts_iff (hnames : ∀ name ∈ path, '/' ∉ name.toList)
    (hsuffix : '/' ∉ suffix.toList) :
    (suffixPattern suffix).accepts (displayPath path) = true ↔
      suffix.toList <:+ (displayPath path).toList ∧ (∀ name ∈ path.dropLast, ¬ IsHidden name) ∧
        ∀ last ∈ path.getLast?, IsHidden last → last = suffix := by
  rw [Glob.Pattern.accepts, suffixPattern, Glob.matchPieces_anywhere_iff]
  rcases List.eq_nil_or_concat' path with rfl | ⟨above, last, rfl⟩
  · have hempty : (displayPath []).toList = [] := rfl
    rw [hempty, List.suffix_nil]
    constructor
    · intro h
      obtain ⟨front, htext, -⟩ := h
      exact ⟨(List.append_eq_nil_iff.mp htext.symm).2, by simp, by simp⟩
    · intro h
      exact ⟨[], h.1.symm, trivial⟩
  · have hvisible {front : List Char}
        (htext : (displayPath (above ++ [last])).toList = front ++ suffix.toList) :
        Glob.Visible true front ↔
          (∀ name ∈ above, ¬ IsHidden name) ∧ (IsHidden last → last = suffix) := by
      obtain ⟨stem, hlast, hpieces⟩ := exists_stem_of_displayPath_eq hnames hsuffix htext
      rw [Glob.visible_true_iff, hpieces, ← head?_stem_ne_iff hlast]
      simp [or_imp, forall_and, IsHidden]
    rw [List.dropLast_concat, List.getLast?_concat]
    simp only [Option.mem_some, forall_eq']
    constructor
    · intro h
      obtain ⟨front, htext, hfront⟩ := h
      exact ⟨⟨front, htext.symm⟩, (hvisible htext).mp hfront⟩
    · intro h
      obtain ⟨⟨front, htext⟩, hall⟩ := h
      exact ⟨front, htext.symm, (hvisible htext.symm).mpr hall⟩

end Suffix

/-- The standard patterns are those of the two suffixes of sources. -/
theorem standardPatterns_eq : standardPatterns = [suffixPattern ".ts", suffixPattern ".tsx"] := by
  decide

/-- The standard patterns match a path exactly when it ends with a suffix of sources, no name above the
last one is hidden, and the last one is hidden only where it is nothing but the suffix. -/
theorem standard_accepts_iff {path : List String} (hnames : ∀ name ∈ path, '/' ∉ name.toList) :
    ∃ patterns, compilePatterns Settings.standard.patterns = .ok patterns ∧
      ((∃ pattern ∈ patterns, pattern.accepts (displayPath path) = true) ↔
        (".ts".toList <:+ (displayPath path).toList ∨
            ".tsx".toList <:+ (displayPath path).toList) ∧
          (∀ name ∈ path.dropLast, ¬ IsHidden name) ∧
          ∀ last ∈ path.getLast?, IsHidden last → last = ".ts" ∨ last = ".tsx") := by
  refine ⟨standardPatterns, compilePatterns_standard, ?_⟩
  have hts : '/' ∉ ".ts".toList := by decide
  have htsx : '/' ∉ ".tsx".toList := by decide
  simp only [standardPatterns_eq, List.mem_cons, List.not_mem_nil, or_false, exists_eq_or_imp,
    exists_eq_left, suffixPattern_accepts_iff hnames hts, suffixPattern_accepts_iff hnames htsx]
  constructor
  · intro h
    rcases h with ⟨hsuffix, habove, hlast⟩ | ⟨hsuffix, habove, hlast⟩
    · exact ⟨.inl hsuffix, habove, fun last hmem hhidden => .inl (hlast last hmem hhidden)⟩
    · exact ⟨.inr hsuffix, habove, fun last hmem hhidden => .inr (hlast last hmem hhidden)⟩
  · intro h
    -- neither of the suffixes ends with the other one
    obtain ⟨hsuffix | hsuffix, habove, hlast⟩ := h
    · refine .inl ⟨hsuffix, habove, fun last hmem hhidden => ?_⟩
      refine (hlast last hmem hhidden).resolve_right ?_
      rintro rfl
      exact absurd (suffix_last_of_suffix hnames hts hsuffix hmem) (by decide)
    · refine .inr ⟨hsuffix, habove, fun last hmem hhidden => ?_⟩
      refine (hlast last hmem hhidden).resolve_left ?_
      rintro rfl
      exact absurd (suffix_last_of_suffix hnames htsx hsuffix hmem) (by decide)

/-- What every check selects and what not: a file that is nothing but a suffix, in a directory with the
name of a source, and neither a source in a hidden directory nor a hidden source. -/
theorem oddNames_standard_accepts_iff :
    ∃ patterns, compilePatterns Settings.standard.patterns = .ok patterns ∧
      (∃ pattern ∈ patterns, pattern.accepts (displayPath ["a.ts", ".tsx"]) = true) ∧
      (¬ ∃ pattern ∈ patterns, pattern.accepts (displayPath [".storybook", "main.ts"]) = true) ∧
      ¬ ∃ pattern ∈ patterns, pattern.accepts (displayPath ["lib", ".eslintrc.ts"]) = true := by
  have hbare : ∀ name ∈ ["a.ts", ".tsx"], '/' ∉ name.toList := by decide
  have hdirectory : ∀ name ∈ [".storybook", "main.ts"], '/' ∉ name.toList := by decide
  have hfile : ∀ name ∈ ["lib", ".eslintrc.ts"], '/' ∉ name.toList := by decide
  obtain ⟨patterns, hpatterns, haccepts⟩ := standard_accepts_iff hbare
  obtain ⟨patterns', hpatterns', haccepts'⟩ := standard_accepts_iff hdirectory
  obtain ⟨patterns'', hpatterns'', haccepts''⟩ := standard_accepts_iff hfile
  obtain rfl : patterns = patterns' := Except.ok.inj (hpatterns.symm.trans hpatterns')
  obtain rfl : patterns = patterns'' := Except.ok.inj (hpatterns.symm.trans hpatterns'')
  exact ⟨patterns, hpatterns, haccepts.mpr (by decide), mt haccepts'.mp (by decide),
    mt haccepts''.mp (by decide)⟩

end DocCoverage.Selection
