import GameShelf.Clause
import GameShelf.Proofs.Outcome
import GameShelf.Proofs.Text.Search

/-!
# The grammar of clauses

A clause is read in stages: an operator is sought anywhere in the text, the text is cut at its
token, the field is looked up and the value is read.  This file says which texts get through all
stages, without mentioning the stages.

* `Reading.Fits` is the grammar: which operator, texts, field and value a text is made of.
* `Clause.parse_eq_ok_iff_fits` says that reading a clause accepts exactly the texts that have a
  reading, that it builds the clause of that reading, and that no text has two readings.

Tokens overlap (`>` in `>=`, `==` in `===`), so the order of detection, the leftmost place and the
rule that the token does not occur again are all part of the grammar.
-/

set_option autoImplicit false

namespace GameShelf

variable {t : Text}

/-! ## Detection -/

/-- The token occurs in the text, and no token that is sought before it does. -/
def Operator.FirstIn (operator : Operator) (t : Text) : Prop :=
  ∃ earlier later, Operator.all = earlier ++ operator :: later ∧
    operator.token.toList <:+: t ∧ ∀ other ∈ earlier, ¬ other.token.toList <:+: t

theorem Operator.detect?_eq_some_iff {operator : Operator} :
    detect? t = some operator ↔ operator.FirstIn t := by
  rw [detect?, List.find?_eq_some_iff_append, Text.includes_iff_isInfix]
  -- Both sides say the same of the list of operators, the one with `includes` and the other with
  -- the infix relation.
  constructor
  · rintro ⟨hin, earlier, later, hall, hnone⟩
    refine ⟨earlier, later, hall, hin, ?_⟩
    intro other hmem hother
    simpa [Text.includes_iff_isInfix.2 hother] using hnone other hmem
  · rintro ⟨earlier, later, hall, hin, hnone⟩
    refine ⟨hin, earlier, later, hall, ?_⟩
    intro other hmem
    have hother := hnone other hmem
    rw [← Text.includes_iff_isInfix] at hother
    simpa using hother

/-- The operators that are sought before this one. -/
def Operator.soughtBefore (operator : Operator) : List Operator :=
  all.takeWhile (· ≠ operator)

theorem Operator.firstIn_iff {operator : Operator} :
    operator.FirstIn t ↔ operator.token.toList <:+: t ∧
      ∀ other ∈ operator.soughtBefore, ¬ other.token.toList <:+: t := by
  constructor
  · rintro ⟨earlier, later, hall, hin, hnone⟩
    have hnodup : (earlier ++ operator :: later).Nodup := by
      rw [← hall]
      decide
    have hother : ∀ other ∈ earlier, other ≠ operator := by
      intro other hmem
      exact (List.nodup_append.1 hnodup).2.2 other hmem operator List.mem_cons_self
    have hearlier : operator.soughtBefore = earlier := by
      rw [soughtBefore, hall, List.takeWhile_append_of_pos]
      · simp
      · intro other hmem
        simpa using hother other hmem
    rw [hearlier]
    exact ⟨hin, hnone⟩
  · rintro ⟨hin, hnone⟩
    refine ⟨operator.soughtBefore, (all.dropWhile (· ≠ operator)).tail, ?_, hin, hnone⟩
    cases operator <;> rfl

/-! ## Fields and values -/

theorem Operator.appliesTo_iff {operator : Operator} {field : Field} :
    operator.appliesTo field.kind = true ↔ (operator = .contains → field = .name) := by
  cases operator <;> cases field <;> decide

namespace Field

theorem ofFilterName?_filterName (field : Field) :
    ofFilterName? field.filterName.toList = some field := by
  cases field <;> decide

theorem ofFilterName?_eq_some_iff {field : Field} :
    ofFilterName? t = some field ↔ t = field.filterName.toList := by
  constructor
  · intro h
    have hname := List.find?_some h
    exact (beq_iff_eq.1 hname).symm
  · rintro rfl
    exact ofFilterName?_filterName field

end Field

namespace Clause

theorem split?_eq_some_iff {token fieldText valueText : Text} :
    split? token t = some (fieldText, valueText) ↔
      ∃ before after, Text.LeftmostCut token t before after ∧ ¬ token <:+: after ∧
        (before.trim ≠ [] ∧ before.trim = fieldText) ∧
        (after.trim ≠ [] ∧ after.trim = valueText) := by
  rw [split?, Option.bind_eq_bind, Option.bind_eq_some_iff]
  constructor
  · rintro ⟨⟨before, after⟩, hcut, hparts⟩
    refine ⟨before, after, Text.cut?_eq_some_iff.1 hcut, ?_⟩
    simpa [Text.includes_iff_isInfix, and_assoc, and_left_comm] using hparts
  · rintro ⟨before, after, hcut, honce, ⟨hbefore, rfl⟩, hafter, rfl⟩
    refine ⟨(before, after), Text.cut?_eq_some_iff.2 hcut, ?_⟩
    simp [Text.includes_iff_isInfix, honce, hbefore, hafter]

/-- A value that was read for a field is of the field's kind. -/
theorem kind_of_readFieldValue {field : Field} {value : Value}
    (h : readFieldValue field t = .ok value) : value.kind = field.kind := by
  rw [readFieldValue, mapError_eq_ok_iff] at h
  cases hkind : field.kind with
  | text =>
      rw [hkind] at h
      cases h
      rfl
  | integer =>
      rw [hkind, readValue, map_eq_ok_iff] at h
      rcases h with ⟨n, -, rfl⟩
      rfl
  | float =>
      rw [hkind, readValue, map_eq_ok_iff] at h
      rcases h with ⟨x, -, rfl⟩
      rfl

theorem build_eq_ok_iff {field : Field} {operator : Operator} {value : Value} {clause : Clause} :
    build field operator value = .ok clause ↔
      operator.appliesTo field.kind = true ∧ field.kind.accepts value.kind = true ∧
        clause.field = field ∧ clause.operator = operator ∧ clause.value = value.lowered := by
  unfold build
  split
  · split
    · cases clause
      simp_all [eq_comm]
    · simp_all
  · simp_all

theorem exists_build {field : Field} {operator : Operator} {value : Value}
    (happlies : operator.appliesTo field.kind = true)
    (haccepted : field.kind.accepts value.kind = true) :
    ∃ clause, build field operator value = .ok clause ∧
      clause.field = field ∧ clause.operator = operator ∧ clause.value = value.lowered := by
  let clause : Clause := {
    field, operator, value := value.lowered, operator_applies := happlies
    value_accepted := by rw [Value.kind_lowered]; exact haccepted }
  exact ⟨clause, build_eq_ok_iff.2 ⟨happlies, haccepted, rfl, rfl, rfl⟩, rfl, rfl, rfl⟩

/-- Reading a clause succeeds when each of its stages does. -/
theorem parse_eq_ok_iff {clause : Clause} :
    parse t = .ok clause ↔
      ∃ operator fieldText valueText field value,
        Operator.detect? t = some operator ∧
        split? operator.token.toList t = some (fieldText, valueText) ∧
        Field.ofFilterText? fieldText = some field ∧
        readFieldValue field valueText = .ok value ∧ build field operator value = .ok clause := by
  unfold parse
  -- A stage that fails settles the matter, one that succeeds hands its result to the next.
  cases hdetect : Operator.detect? t with
  | none =>
      simp [throw, throwThe, MonadExceptOf.throw]
  | some operator =>
      cases hsplit : split? operator.token.toList t with
      | none =>
          simp [hsplit, throw, throwThe, MonadExceptOf.throw]
      | some texts =>
          rcases texts with ⟨fieldText, valueText⟩
          cases hfield : Field.ofFilterText? fieldText with
          | none =>
              simp [hsplit, hfield, throw, throwThe, MonadExceptOf.throw]
          | some field =>
              simp [hsplit, hfield, bind_eq_ok_iff]

end Clause

/-! ## Readings -/

/-- What a text says as a clause: an operator, the texts around its token, a field and a value. -/
structure Reading where
  operator : Operator
  before : Text
  after : Text
  field : Field
  value : Value

namespace Reading

/-- The grammar: the text says this. -/
structure Fits (reading : Reading) (t : Text) : Prop where
  firstIn : reading.operator.FirstIn t
  cut : Text.LeftmostCut reading.operator.token.toList t reading.before reading.after
  once : ¬ reading.operator.token.toList <:+: reading.after
  before_ne_nil : reading.before.trim ≠ []
  after_ne_nil : reading.after.trim ≠ []
  named : Text.lowercase (reading.before.trim.filter (· ≠ '_')) = reading.field.filterName.toList
  valued : Clause.readFieldValue reading.field reading.after.trim = .ok reading.value
  applies : reading.operator = .contains → reading.field = .name

/-- The clause that says the same; a text value is in lower case there. -/
def Makes (reading : Reading) (clause : Clause) : Prop :=
  clause.field = reading.field ∧ clause.operator = reading.operator ∧
    clause.value = reading.value.lowered

variable {reading other : Reading}

/-- No text has two readings. -/
theorem Fits.unique (h : reading.Fits t) (h' : other.Fits t) : reading = other := by
  rcases reading with ⟨operator, before, after, field, value⟩
  rcases other with ⟨operator', before', after', field', value'⟩
  -- Each part is what a function finds, given the parts before it.
  have hoperator : operator = operator' := by
    have hdetect := Operator.detect?_eq_some_iff.2 h.firstIn
    rw [Operator.detect?_eq_some_iff.2 h'.firstIn] at hdetect
    exact (Option.some.inj hdetect).symm
  subst hoperator
  have htexts : before = before' ∧ after = after' := h.cut.unique h'.cut
  rcases htexts with ⟨rfl, rfl⟩
  have hfield : field = field' := by
    have hname := Field.ofFilterName?_filterName field
    rw [← h.named, h'.named, Field.ofFilterName?_filterName] at hname
    exact (Option.some.inj hname).symm
  subst hfield
  have hvalue : value = value' := by
    have hread := h.valued
    rw [h'.valued] at hread
    exact (Except.ok.inj hread).symm
  rw [hvalue]

/-- A text with a reading is read, as the clause that says the same. -/
theorem Fits.parse (h : reading.Fits t) :
    ∃ clause, Clause.parse t = .ok clause ∧ reading.Makes clause := by
  have happlies : reading.operator.appliesTo reading.field.kind = true :=
    Operator.appliesTo_iff.2 h.applies
  have haccepted : reading.field.kind.accepts reading.value.kind = true := by
    rw [Clause.kind_of_readFieldValue h.valued]
    cases reading.field.kind <;> rfl
  have hsplit : Clause.split? reading.operator.token.toList t =
      some (reading.before.trim, reading.after.trim) :=
    Clause.split?_eq_some_iff.2 ⟨reading.before, reading.after, h.cut, h.once,
      ⟨h.before_ne_nil, rfl⟩, h.after_ne_nil, rfl⟩
  have hfield : Field.ofFilterText? reading.before.trim = some reading.field :=
    Field.ofFilterName?_eq_some_iff.2 h.named
  rcases Clause.exists_build happlies haccepted with ⟨clause, hbuild, hmakes⟩
  refine ⟨clause, Clause.parse_eq_ok_iff.2 ⟨_, _, _, _, _,
    Operator.detect?_eq_some_iff.2 h.firstIn, hsplit, hfield, h.valued, hbuild⟩, hmakes⟩

/-- A text that is read has a reading. -/
theorem exists_fits_of_parse {clause : Clause} (h : Clause.parse t = .ok clause) :
    ∃ reading : Reading, reading.Fits t ∧ reading.Makes clause := by
  rcases Clause.parse_eq_ok_iff.1 h with
    ⟨operator, fieldText, valueText, field, value, hdetect, hsplit, hfield, hread, hbuild⟩
  rcases Clause.split?_eq_some_iff.1 hsplit with
    ⟨before, after, hcut, honce, ⟨hbefore, rfl⟩, hafter, rfl⟩
  rcases Clause.build_eq_ok_iff.1 hbuild with ⟨happlies, -, hmakes⟩
  refine ⟨⟨operator, before, after, field, value⟩, ?_, hmakes⟩
  exact {
    firstIn := Operator.detect?_eq_some_iff.1 hdetect
    cut := hcut
    once := honce
    before_ne_nil := hbefore
    after_ne_nil := hafter
    named := Field.ofFilterName?_eq_some_iff.1 hfield
    valued := hread
    applies := Operator.appliesTo_iff.1 happlies }

end Reading

/-- Reading a clause accepts exactly the texts that have a reading, and builds its clause; no text
has two readings. -/
theorem Clause.parse_eq_ok_iff_fits (t : Text) :
    (∀ clause, Clause.parse t = .ok clause ↔
      ∃ reading : Reading, reading.Fits t ∧ reading.Makes clause) ∧
    (∀ reading : Reading, reading.Fits t →
      ∃ clause, Clause.parse t = .ok clause ∧ reading.Makes clause) ∧
    (∀ reading other : Reading, reading.Fits t → other.Fits t → reading = other) := by
  refine ⟨?_, fun _ h => h.parse, fun _ _ h h' => h.unique h'⟩
  intro clause
  constructor
  · exact Reading.exists_fits_of_parse
  · rintro ⟨reading, hfits, hmakes⟩
    rcases hfits.parse with ⟨built, hparse, hbuilt⟩
    -- A clause is its field, operator and value; the rest are proofs.
    have hsame : built = clause := by
      cases built
      cases clause
      simp_all [Reading.Makes]
    rw [hparse, hsame]

/-- `==` is found before `>`, and at its leftmost place, so the value starts with `=>`. -/
theorem Clause.parse_of_fits_overlapping_tokens :
    (∃ reading : Reading, reading.Fits "Na_me ===> X".toList) ∧
      ∃ clause, Clause.parse "Na_me ===> X".toList = .ok clause ∧ clause.operator = .equal ∧
        clause.value = .text "=> x".toList := by
  have hfits : Reading.Fits
      ⟨.equal, "Na_me ".toList, "=> X".toList, .name, .text "=> X".toList⟩
      "Na_me ===> X".toList := {
    firstIn := Operator.detect?_eq_some_iff.1 (by decide)
    cut := Text.cut?_eq_some_iff.1 (by decide)
    once := Text.includes_iff_isInfix.not.1 (by decide)
    before_ne_nil := by decide
    after_ne_nil := by decide
    named := by decide +kernel
    valued := rfl
    applies := fun _ => rfl }
  rcases (parse_eq_ok_iff_fits "Na_me ===> X".toList).2.1 _ hfits with
    ⟨clause, hparse, -, hoperator, hvalue⟩
  refine ⟨⟨_, hfits⟩, clause, hparse, hoperator, ?_⟩
  rw [hvalue]
  decide +kernel

end GameShelf
