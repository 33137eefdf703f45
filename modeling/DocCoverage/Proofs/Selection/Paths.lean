import DocCoverage.Proofs.FileTree.View
import DocCoverage.Proofs.Text.Cuts
import DocCoverage.Selection.Scan
import Mathlib.Data.List.Nodup

/-!
# The texts of paths

A path is shown as its names with slashes between them. Names hold no slash, so the text of a path
gives its names back, and sorted paths are in a strict order of their texts: a list of paths is known
by its members once it is sorted. The text that a path is excluded by is sought in all of it, so what
is excluded for a directory is excluded for all that it holds.
-/

namespace DocCoverage.Text

/-- A text occurs in another where it is a part of it. -/
theorem occursIn_iff (part text : List Char) : occursIn part text = true ↔ part <:+: text := by
  induction text with
  | nil => rw [occursIn, List.isEmpty_iff, List.infix_nil]
  | cons c rest ih =>
    rw [occursIn, Bool.or_eq_true, ih, List.isPrefixOf_iff_prefix, List.infix_cons_iff]

/-- Each of some words is a part of their join. -/
theorem infix_intercalate_of_mem {separator word : List Char} {words : List (List Char)}
    (hword : word ∈ words) : word <:+: separator.intercalate words := by
  induction words with
  | nil => exact absurd hword List.not_mem_nil
  | cons first rest ih =>
    by_cases hrest : rest = []
    · subst hrest
      simp [List.mem_singleton.mp hword]
    · rw [List.intercalate_cons_of_ne_nil hrest]
      rcases List.mem_cons.mp hword with rfl | hmem
      · exact ⟨[], separator ++ separator.intercalate rest, by simp⟩
      · exact (ih hmem).trans (List.suffix_append _ _).isInfix

end DocCoverage.Text

namespace DocCoverage.Selection

open FileTree Text

/-- A text holds the excluded one where that is a part of it. -/
theorem holdsExcluded_iff (excluded text : String) :
    holdsExcluded excluded text = true ↔ excluded.toList <:+: text.toList :=
  occursIn_iff _ _

/-- The text of a path is the join of its names. -/
theorem toList_displayPath (path : List String) :
    (displayPath path).toList = ['/'].intercalate (path.map String.toList) := by
  rw [displayPath, String.toList_intercalate]
  rfl

/-- The components of a shown path are its names. -/
theorem components_displayPath {path : List String} (hpath : path ≠ [])
    (hnames : ∀ name ∈ path, IsFileName name) : components (displayPath path) = path := by
  have hfree : ∀ word ∈ path.map String.toList, '/' ∉ word := by
    intro word hword
    obtain ⟨name, hname, rfl⟩ := List.mem_map.mp hword
    exact (hnames name hname).noSlash
  have hpieces := pieces_intercalate (by simpa using hpath) hfree
  rw [components, toList_displayPath, hpieces, List.map_map]
  simp

/-- A path is known by its text. -/
theorem displayPath_injective {path other : List String} (hnames : ∀ name ∈ path, IsFileName name)
    (hnames' : ∀ name ∈ other, IsFileName name) (heq : displayPath path = displayPath other) :
    path = other := by
  -- an empty path has the text of an empty name
  have hempty {names : List String} (hvalid : ∀ name ∈ names, IsFileName name)
      (htext : displayPath [] = displayPath names) : [] = names := by
    by_contra hne
    have hcomponents := components_displayPath (Ne.symm hne) hvalid
    rw [← htext] at hcomponents
    have hname : IsFileName "" := hvalid "" (by rw [← hcomponents]; decide)
    exact hname.nonempty rfl
  by_cases hpath : path = []
  · subst hpath
    exact hempty hnames' heq
  · by_cases hother : other = []
    · subst hother
      exact (hempty hnames heq.symm).symm
    · rw [← components_displayPath hpath hnames, heq, components_displayPath hother hnames']

/-- Paths in the strict order of their texts. -/
def Increasing (paths : List (List String)) : Prop :=
  paths.Pairwise fun a b => displayPath a < displayPath b

/-- Paths in strict order are different. -/
theorem Increasing.nodup {paths : List (List String)} (hpaths : Increasing paths) : paths.Nodup := by
  refine List.Pairwise.imp (fun {a b} hlt heq => ?_) hpaths
  exact String.lt_irrefl _ (heq ▸ hlt)

/-- Paths in strict order are known by which they are. -/
theorem Increasing.eq_of_mem_iff {paths others : List (List String)} (hpaths : Increasing paths)
    (hothers : Increasing others) (hmem : ∀ path, path ∈ paths ↔ path ∈ others) :
    paths = others := by
  have hperm := (List.perm_ext_iff_of_nodup hpaths.nodup hothers.nodup).mpr hmem
  exact hperm.eq_of_pairwise (fun a b _ _ hlt hgt => absurd hgt (String.lt_asymm hlt)) hpaths hothers

/-- Of two lists in strict order, one has all paths of the other and one more: it is inserted. -/
theorem Increasing.exists_insert {paths larger : List (List String)} {path : List String}
    (hpaths : Increasing paths) (hlarger : Increasing larger) (hmem : path ∈ larger)
    (hothers : ∀ other, other ∈ paths ↔ other ∈ larger ∧ other ≠ path) :
    ∃ before after, paths = before ++ after ∧ larger = before ++ path :: after := by
  obtain ⟨before, after, rfl⟩ := List.append_of_mem hmem
  have hsub : (before ++ after).Sublist (before ++ path :: after) :=
    (List.Sublist.refl before).append (List.sublist_cons_self path after)
  refine ⟨before, after, hpaths.eq_of_mem_iff (hlarger.sublist hsub) fun other => ?_, rfl⟩
  have hnew : path ∉ before ++ after := by
    have hnodup := hlarger.nodup
    rw [List.nodup_middle] at hnodup
    exact (List.nodup_cons.mp hnodup).1
  rw [hothers]
  constructor
  · rintro ⟨hin, hne⟩
    simpa [hne] using hin
  · intro hin
    exact ⟨hsub.subset hin, fun heq => hnew (heq ▸ hin)⟩

/-- Sorting does not change which paths there are. -/
theorem mem_sortPaths_iff (paths : List (List String)) (path : List String) :
    path ∈ sortPaths paths ↔ path ∈ paths :=
  (List.mergeSort_perm _ _).mem_iff

/-- Sorted paths are in the order of their texts. -/
theorem pairwise_sortPaths (paths : List (List String)) :
    (sortPaths paths).Pairwise fun a b => displayPath a ≤ displayPath b := by
  have htrans : ∀ a b c : List String, decide (displayPath a ≤ displayPath b) = true →
      decide (displayPath b ≤ displayPath c) = true →
      decide (displayPath a ≤ displayPath c) = true := by
    intro a b c hab hbc
    rw [decide_eq_true_iff] at hab hbc ⊢
    exact String.le_trans hab hbc
  have htotal : ∀ a b : List String, (decide (displayPath a ≤ displayPath b) ||
      decide (displayPath b ≤ displayPath a)) = true := by
    intro a b
    rw [Bool.or_eq_true, decide_eq_true_iff, decide_eq_true_iff]
    exact String.le_total _ _
  exact (List.pairwise_mergeSort htrans htotal paths).imp fun h => of_decide_eq_true h

/-- Different paths are sorted strictly. -/
theorem increasing_sortPaths {paths : List (List String)} (hnodup : paths.Nodup)
    (hnames : ∀ path ∈ paths, ∀ name ∈ path, IsFileName name) : Increasing (sortPaths paths) := by
  have hdistinct : (sortPaths paths).Nodup := (List.mergeSort_perm _ _).nodup_iff.mpr hnodup
  refine ((pairwise_sortPaths paths).and hdistinct).imp_of_mem fun {a b} ha hb hab => ?_
  obtain ⟨hle, hne⟩ := hab
  rw [mem_sortPaths_iff] at ha hb
  rw [← String.not_le]
  intro hge
  exact hne (displayPath_injective (hnames a ha) (hnames b hb) (String.le_antisymm hle hge))

/-- A path below a root holds what the root holds. -/
theorem absolutePath_infix_resolvedPath (root path : List String) :
    (absolutePath root).toList <:+: (resolvedPath root path).toList := by
  have hslash : (absolutePath root).toList <+: (withSlash (absolutePath root)).toList := by
    rw [withSlash]
    split
    · exact List.prefix_rfl
    · rw [String.toList_append]
      exact List.prefix_append _ _
  rw [resolvedPath, String.toList_append]
  exact (hslash.trans (List.prefix_append _ _)).isInfix

/-- A path below a root holds each of its names. -/
theorem infix_resolvedPath_of_mem {name : String} {path : List String} (hname : name ∈ path)
    (root : List String) : name.toList <:+: (resolvedPath root path).toList := by
  rw [resolvedPath, String.toList_append, toList_displayPath]
  exact (infix_intercalate_of_mem (List.mem_map_of_mem hname)).trans
    (List.suffix_append _ _).isInfix

end DocCoverage.Selection
