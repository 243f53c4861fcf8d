import GameShelf.Proofs.Clause.Rejection
import GameShelf.Proofs.Filter.AsciiCase
import GameShelf.Proofs.Text.Pieces
import GameShelf.Proofs.Text.SmallLetter
import Mathlib.Logic.Relation

/-!
# Fields in filters and in sort keys

A filter looks a field up by its name in filters.  A sort key is looked up there first, and then
among six more names.  This file says what both have in common and what a sort key adds.

* `Field.Spells` says that a text is a name with underscores put in and with a form of each letter.
  Both lookups accept the spellings of their names and nothing else.
* `Field.Rescored` says that one text becomes the other by underscores that are put in or taken out.
* `Field.parseSortKey_agrees` is the comparison: a sort key means what the filter means by it, if
  the filter means anything, and underscores do not matter to either of them.
-/

set_option autoImplicit false

namespace GameShelf.Field

variable {t s name : Text} {c d : Char} {field : Field}

/-! ## Spellings -/

/-- The text is the name, with underscores put in and with a form of each of its letters. -/
inductive Spells : Text → Text → Prop where
  | nil : Spells [] []
  | underscore {t name : Text} : Spells t name → Spells ('_' :: t) name
  | letter {c d : Char} {t name : Text} :
      Text.IsFormOf c d → Spells t name → Spells (c :: t) (d :: name)

theorem ne_underscore_of_isFormOf (h : Text.IsFormOf c d) (hd : d.isLower = true) :
    c ≠ '_' := by
  rintro rfl
  rw [← Text.lowerChar_eq_singleton_iff hd] at h
  have hscore : '_' = d := List.singleton_inj.1 h
  rw [← hscore] at hd
  cases hd

theorem spells_iff_forall₂ (hname : name.all Char.isLower = true) :
    Spells t name ↔ List.Forall₂ Text.IsFormOf (t.filter (· ≠ '_')) name := by
  constructor
  · intro h
    induction h with
    | nil => exact List.Forall₂.nil
    | underscore _ ih => exact ih hname
    | @letter c d t name hform _ ih =>
        have hsmall := Bool.and_eq_true_iff.1 hname
        have hscore := ne_underscore_of_isFormOf hform hsmall.1
        rw [List.filter_cons_of_pos (by simpa using hscore)]
        exact List.Forall₂.cons hform (ih hsmall.2)
  · intro h
    induction t generalizing name with
    | nil =>
        cases h
        exact Spells.nil
    | cons c rest ih =>
        by_cases hscore : c = '_'
        · subst hscore
          exact Spells.underscore (ih hname h)
        · rw [List.filter_cons_of_pos (by simpa using hscore)] at h
          cases h with
          | cons hform hrest =>
              exact Spells.letter hform (ih (Bool.and_eq_true_iff.1 hname).2 hrest)

/-- The texts with this normal form are the spellings of it. -/
theorem normalizeName_eq_iff_spells (hname : name.all Char.isLower = true) :
    normalizeName t = name ↔ Spells t name := by
  rw [normalizeName, Text.lowercase_eq_iff hname, spells_iff_forall₂ hname]

/-! ## Names -/

/-- The short forms of names that a sort key may use. -/
def shortNames : Field → List String
  | .minPlayTime => ["mintime"]
  | .maxPlayTime => ["maxtime"]
  | .yearPublished => ["year"]
  | _ => []

/-- All that a sort key may call the field: its name in filters, the name of its column in a table
and its short forms. -/
def sortNames (field : Field) : List String :=
  field.filterName :: field.columnName :: field.shortNames

/-- The text is, but for white space around it, a spelling of one of the field's names. -/
def CalledBy (field : Field) (t : Text) : Prop :=
  ∃ name ∈ field.sortNames, Spells t.trim name.toList

/-- The names that a sort key may use and a filter may not. -/
def sortOnlyNames : List String :=
  ["objectname", "avgweight", "average", "mintime", "maxtime", "year"]

theorem all_isLower_of_mem_sortNames {name : String} (h : name ∈ field.sortNames) :
    name.toList.all Char.isLower = true := by
  have hall : (field.sortNames.all fun name => name.toList.all Char.isLower) = true := by
    cases field <;> decide
  exact List.all_eq_true.1 hall name h

theorem filterName_mem_sortNames (field : Field) : field.filterName ∈ field.sortNames :=
  List.mem_cons_self

/-- The other table holds the titles of columns that differ from the filter names, and the short
forms. -/
theorem mem_sortNames_iff {name : String} :
    name ∈ field.sortNames ↔ name = field.filterName ∨ (name, field) ∈ sortAliases := by
  cases field <;> simp [sortNames, shortNames, columnName, filterName, sortAliases]

theorem mem_sortOnlyNames_iff {name : String} :
    name ∈ sortOnlyNames ↔ ∃ field, (name, field) ∈ sortAliases := by
  simp [sortOnlyNames, sortAliases, exists_or]

/-- None of the other names is the name of a field in filters. -/
theorem ofFilterName?_of_mem_sortOnlyNames {name : String} (h : name ∈ sortOnlyNames) :
    ofFilterName? name.toList = none := by
  have hnone : (sortOnlyNames.all fun name => (ofFilterName? name.toList).isNone) = true := by
    decide
  exact Option.isNone_iff_eq_none.1 (List.all_eq_true.1 hnone name h)

/-! ## Lookups -/

theorem ofFilterText?_eq_some_iff_spells :
    ofFilterText? t = some field ↔ Spells t field.filterName.toList := by
  rw [ofFilterText?_eq_some_iff,
    normalizeName_eq_iff_spells (all_isLower_of_mem_sortNames field.filterName_mem_sortNames)]

/-- No name stands in the table twice, so each entry is found by its name. -/
theorem find?_sortAliases_eq_some_iff {key : Text} {entry : String × Field} :
    (sortAliases.find? fun other => other.1.toList == key) = some entry ↔
      entry ∈ sortAliases ∧ entry.1.toList = key := by
  constructor
  · intro h
    have hname := List.find?_some h
    exact ⟨List.mem_of_find?_eq_some h, beq_iff_eq.1 hname⟩
  · rintro ⟨hmem, rfl⟩
    have hfound : (sortAliases.all fun entry =>
        (sortAliases.find? fun other => other.1.toList == entry.1.toList) == some entry) =
          true := by
      decide
    exact beq_iff_eq.1 (List.all_eq_true.1 hfound entry hmem)

/-- A sort key means a field exactly if its normal form is one of the field's names, in whichever
of the two tables it stands. -/
theorem ofSortKey?_eq_some_iff :
    ofSortKey? t = some field ↔ ∃ name ∈ field.sortNames, normalizeName t.trim = name.toList := by
  rw [ofSortKey?]
  constructor
  · intro h
    cases hfilter : ofFilterName? (normalizeName t.trim) with
    | some found =>
        rw [hfilter] at h
        cases h
        exact ⟨field.filterName, field.filterName_mem_sortNames,
          ofFilterName?_eq_some_iff.1 hfilter⟩
    | none =>
        rw [hfilter] at h
        rcases Option.map_eq_some_iff.1 h with ⟨entry, hfind, rfl⟩
        rcases find?_sortAliases_eq_some_iff.1 hfind with ⟨hmem, hname⟩
        exact ⟨entry.1, mem_sortNames_iff.2 (Or.inr hmem), hname.symm⟩
  · rintro ⟨name, hmem, hname⟩
    rw [hname]
    rcases mem_sortNames_iff.1 hmem with rfl | halias
    · rw [ofFilterName?_filterName]
      rfl
    · rw [ofFilterName?_of_mem_sortOnlyNames (mem_sortOnlyNames_iff.2 ⟨field, halias⟩),
        find?_sortAliases_eq_some_iff.2 ⟨halias, rfl⟩]
      rfl

theorem ofSortKey?_eq_none_iff :
    ofSortKey? t = none ↔ ofFilterText? t.trim = none ∧
      normalizeName t.trim ∉ sortOnlyNames.map String.toList := by
  simp only [Option.eq_none_iff_forall_ne_some, ne_eq, ofSortKey?_eq_some_iff,
    ofFilterText?_eq_some_iff, mem_sortNames_iff, List.mem_map, mem_sortOnlyNames_iff]
  constructor
  · intro h
    refine ⟨?_, ?_⟩
    · intro field hname
      exact h field ⟨field.filterName, Or.inl rfl, hname⟩
    · rintro ⟨name, ⟨field, halias⟩, hname⟩
      exact h field ⟨name, Or.inr halias, hname.symm⟩
  · rintro ⟨hfilter, hother⟩ field ⟨name, rfl | halias, hname⟩
    · exact hfilter field hname
    · exact hother ⟨name, ⟨field, halias⟩, hname.symm⟩

theorem ofSortKey?_eq_some_iff_calledBy : ofSortKey? t = some field ↔ field.CalledBy t := by
  rw [ofSortKey?_eq_some_iff, CalledBy]
  refine exists_congr fun name => and_congr_right fun hmem => ?_
  exact normalizeName_eq_iff_spells (all_isLower_of_mem_sortNames hmem)

theorem parseSortKey_eq_ok_iff : parseSortKey t = .ok field ↔ ofSortKey? t = some field := by
  rw [parseSortKey]
  cases ofSortKey? t with
  | some found => simp
  | none => simp

theorem parseSortKey_eq_error_iff {e : Error} :
    parseSortKey t = .error e ↔ e = .unknownSortKey t ∧ ofSortKey? t = none := by
  rw [parseSortKey]
  cases ofSortKey? t with
  | some found => simp
  | none => simp [eq_comm]

/-! ## Underscores -/

/-- An underscore is put in at one place. -/
def AddsUnderscore (t s : Text) : Prop :=
  ∃ front back, t = front ++ back ∧ s = front ++ '_' :: back

/-- Underscores are put in and taken out, at any places and in any order. -/
def Rescored : Text → Text → Prop :=
  Relation.EqvGen AddsUnderscore

theorem AddsUnderscore.filter_eq (h : AddsUnderscore t s) :
    s.filter (· ≠ '_') = t.filter (· ≠ '_') := by
  rcases h with ⟨front, back, rfl, rfl⟩
  simp

theorem Rescored.filter_eq (h : Rescored t s) : s.filter (· ≠ '_') = t.filter (· ≠ '_') := by
  induction h with
  | rel t s hadds => exact hadds.filter_eq
  | refl t => rfl
  | symm t s _ ih => exact ih.symm
  | trans t s u _ _ ih ih' => exact ih'.trans ih

theorem Rescored.normalizeName_eq (h : Rescored t s) : normalizeName s = normalizeName t :=
  congrArg Text.lowercase h.filter_eq

theorem Rescored.ofFilterText?_eq (h : Rescored t s) : ofFilterText? s = ofFilterText? t :=
  congrArg ofFilterName? h.normalizeName_eq

/-- A sort key is trimmed before its underscores are dropped, so the texts are compared trimmed. -/
theorem Rescored.ofSortKey?_eq (h : Rescored t.trim s.trim) : ofSortKey? s = ofSortKey? t := by
  rw [ofSortKey?, h.normalizeName_eq, ofSortKey?]

/-- Underscores count where they keep white space from the end of a text. -/
example : ofSortKey? " name".toList = some .name ∧ ofSortKey? "_ name".toList = none := by
  decide +kernel

/-! ## Comparison -/

/-- A sort key that a filter would understand means the same field.  A sort key that only a sort
understands has one of six normal forms, and all others are refused.  Neither lookup sees
underscores that are put into the trimmed text or taken out of it.  Each lookup understands the
spellings of its names and nothing else, and no text is a spelling for two fields. -/
theorem parseSortKey_agrees (t : Text) :
    (∀ field, ofFilterText? t.trim = some field → parseSortKey t = .ok field) ∧
    (∀ field, parseSortKey t = .ok field → ofFilterText? t.trim ≠ some field →
      ofFilterText? t.trim = none ∧ normalizeName t.trim ∈ sortOnlyNames.map String.toList) ∧
    (∀ e, parseSortKey t = .error e ↔ e = .unknownSortKey t ∧
      ofFilterText? t.trim = none ∧ normalizeName t.trim ∉ sortOnlyNames.map String.toList) ∧
    (Error.unknownSortKey t).category = .invalidArgument ∧
    (∀ s : Text, Rescored t.trim s.trim →
      ofFilterText? s.trim = ofFilterText? t.trim ∧
      classified (parseSortKey s) = classified (parseSortKey t)) ∧
    (∀ field, ofFilterText? t.trim = some field ↔ Spells t.trim field.filterName.toList) ∧
    (∀ field, parseSortKey t = .ok field ↔ field.CalledBy t) ∧
    ∀ field other : Field, field.CalledBy t → other.CalledBy t → field = other := by
  have hagrees : ∀ field, ofFilterText? t.trim = some field → parseSortKey t = .ok field := by
    intro field h
    exact parseSortKey_eq_ok_iff.2 (ofSortKey?_eq_some_iff.2
      ⟨field.filterName, field.filterName_mem_sortNames, ofFilterText?_eq_some_iff.1 h⟩)
  have hcalled : ∀ field, parseSortKey t = .ok field ↔ field.CalledBy t := by
    intro field
    rw [parseSortKey_eq_ok_iff, ofSortKey?_eq_some_iff_calledBy]
  have herror : ∀ e, parseSortKey t = .error e ↔ e = .unknownSortKey t ∧
      ofFilterText? t.trim = none ∧ normalizeName t.trim ∉ sortOnlyNames.map String.toList := by
    intro e
    rw [parseSortKey_eq_error_iff, ofSortKey?_eq_none_iff]
  refine ⟨hagrees, ?_, herror, rfl, ?_, fun _ => ofFilterText?_eq_some_iff_spells, hcalled, ?_⟩
  · intro field hparse hfilter
    have hnone : ofFilterText? t.trim = none := by
      cases hfound : ofFilterText? t.trim with
      | none => rfl
      | some found =>
          have hsame : field = found := Except.ok.inj (hparse.symm.trans (hagrees found hfound))
          exact absurd (hsame ▸ hfound) hfilter
    refine ⟨hnone, ?_⟩
    by_contra hother
    rw [(herror _).2 ⟨rfl, hnone, hother⟩] at hparse
    cases hparse
  · intro s hscored
    exact ⟨hscored.ofFilterText?_eq, classified_parseSortKey_congr hscored.ofSortKey?_eq⟩
  · intro field other hfield hother
    exact Except.ok.inj (((hcalled field).2 hfield).symm.trans ((hcalled other).2 hother))

/-- A Kelvin sign in the name of a field, the title of a column, and a name of no field. -/
theorem parseSortKey_agrees_kelvin_sign :
    let t : Text := "\tRAN\u212A ".toList
    let s : Text := "R_AN\u212A_\n".toList
    let column : Text := "Avg_Weight".toList
    let unknown : Text := "popularity".toList
    parseSortKey t = .ok .rank ∧ (∀ other : Field, other.CalledBy t → other = .rank) ∧
    Rescored t.trim s.trim ∧ classified (parseSortKey s) = .ok .rank ∧
    parseSortKey column = .ok .difficulty ∧ ofFilterText? column.trim = none ∧
    normalizeName column.trim ∈ sortOnlyNames.map String.toList ∧
    parseSortKey unknown = .error (.unknownSortKey unknown) := by
  intro t s column unknown
  rcases parseSortKey_agrees t with ⟨hagrees, -, -, -, hscored, -, hcalled, hunique⟩
  have hrank : parseSortKey t = .ok .rank := hagrees .rank (by decide +kernel)
  have hscores : Rescored t.trim s.trim := by
    have hfirst : AddsUnderscore t.trim "R_AN\u212A".toList :=
      ⟨"R".toList, "AN\u212A".toList, by decide, by decide⟩
    have hsecond : AddsUnderscore "R_AN\u212A".toList s.trim :=
      ⟨"R_AN\u212A".toList, [], by decide, by decide⟩
    exact .trans _ _ _ (.rel _ _ hfirst) (.rel _ _ hsecond)
  have hcolumn : parseSortKey column = .ok .difficulty := by decide +kernel
  rcases (parseSortKey_agrees column).2.1 .difficulty hcolumn (by decide +kernel) with
    ⟨hnone, hother⟩
  refine ⟨hrank, ?_, hscores, ?_, hcolumn, hnone, hother, ?_⟩
  · intro other hother
    exact hunique other .rank hother ((hcalled .rank).1 hrank)
  · rw [(hscored s hscores).2, hrank]
    rfl
  · exact ((parseSortKey_agrees unknown).2.2.1 _).2 ⟨rfl, by decide +kernel, by decide +kernel⟩

end GameShelf.Field
