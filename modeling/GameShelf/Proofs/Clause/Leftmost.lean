import GameShelf.Proofs.Clause.Rejection
import GameShelf.Proofs.Filter.Written

/-!
# The leftmost operator

The operator of a clause is sought by rank: it is the first of a fixed list whose token occurs
anywhere in the text.  One would rather read from the left, up to where a token begins, and take the
longest that begins there.  The two ways do not agree on every text, but they do on every clause.

* `Operator.Leads` says that a reader from the left comes upon this operator first.
* `Clause.parse_reads_leftmost` says that a text which is read as a clause is read in this way.  So
  the value may hold whatever tokens it likes, and the clause is never cut within it.

The reason is in front of the token.  What stands there is the name of a field, and no character of
a token is left of it when its letters are lowered.
-/

set_option autoImplicit false

namespace GameShelf

variable {t before after : Text} {c : Char} {operator other : Operator} {field : Field}

/-! ## What trimming and lowering keep -/

namespace Text

theorem mem_dropWhile {p : Char → Bool} (hc : c ∈ t) (h : p c = false) : c ∈ t.dropWhile p := by
  rw [← List.takeWhile_append_dropWhile (p := p) (l := t)] at hc
  rcases List.mem_append.1 hc with htaken | hdropped
  · rw [List.mem_takeWhile_imp htaken] at h
    cases h
  · exact hdropped

theorem mem_trim (hc : c ∈ t) (h : isBlank c = false) : c ∈ t.trim := by
  have hstart : c ∈ t.trimStart := mem_dropWhile hc h
  exact List.mem_reverse.2 (mem_dropWhile (List.mem_reverse.2 hstart) h)

/-- A character that lowering never changes is still there. -/
theorem mem_lowercaseAfter (hc : c ≠ 'Σ') (h : lowerChar c = [c]) (hmem : c ∈ t) (before : Text) :
    c ∈ lowercaseAfter before t := by
  induction t generalizing before with
  | nil => cases hmem
  | cons d rest ih =>
      rw [lowercaseAfter, List.mem_append]
      rcases List.mem_cons.1 hmem with rfl | hrest
      · left
        simp [lowerCharWithin, hc, h]
      · exact Or.inr (ih hrest (d :: before))

end Text

/-- Whatever is read as the name of a field has no character of a token in it. -/
theorem Field.unmarked_of_named (hnamed : normalizeName t.trim = field.filterName.toList) :
    t.Unmarked := by
  -- The marks are neither trimmed off nor changed by the normal form of a name.
  have hkept : Operator.marks.all (fun c =>
      !Text.isBlank c && c ≠ '_' && c ≠ 'Σ' && Text.lowerChar c == [c]) = true := by
    decide +kernel
  have hname : Text.Unmarked field.filterName.toList := by
    cases field <;> decide
  intro c hc hmem
  have hmark := List.all_eq_true.1 hkept c hc
  simp only [Bool.and_eq_true, Bool.not_eq_true', decide_eq_true_eq, beq_iff_eq] at hmark
  rcases hmark with ⟨⟨⟨hblank, hscore⟩, hsigma⟩, hlower⟩
  have hfilter : c ∈ t.trim.filter (· ≠ '_') :=
    List.mem_filter.2 ⟨Text.mem_trim hmem hblank, by simpa using hscore⟩
  refine hname c hc ?_
  rw [← hnamed]
  exact Text.mem_lowercaseAfter hsigma hlower hfilter []

/-! ## Ranks -/

namespace Operator

/-- A token that begins with another one is sought before it. -/
theorem mem_soughtBefore_of_isPrefix (hbegins : operator.token.toList <+: other.token.toList)
    (hne : other ≠ operator) : other ∈ operator.soughtBefore := by
  revert hbegins hne
  cases operator <;> cases other <;> decide

theorem token_injective (h : operator.token.toList = other.token.toList) : operator = other := by
  revert h
  cases operator <;> cases other <;> decide

/-! ## Reading from the left -/

/-- The operator's token stands between `before` and `after`.  No token begins further left, and
none that begins there is longer. -/
structure Leads (operator : Operator) (t before after : Text) : Prop where
  eq_append : t = before ++ operator.token.toList ++ after
  leftmost : ∀ (other : Operator) (front back : Text),
    t = front ++ other.token.toList ++ back → before.length ≤ front.length
  longest : ∀ (other : Operator) (back : Text),
    t = before ++ other.token.toList ++ back →
      other.token.toList.length ≤ operator.token.toList.length

theorem Leads.leftmostCut (h : operator.Leads t before after) :
    Text.LeftmostCut operator.token.toList t before after :=
  ⟨h.eq_append, h.leftmost operator⟩

/-- A reader from the left comes upon one operator only, at one place. -/
theorem Leads.unique {front back : Text} (h : operator.Leads t before after)
    (h' : other.Leads t front back) : operator = other ∧ before = front ∧ after = back := by
  have hlength : before.length = front.length :=
    le_antisymm (h.leftmost other front back h'.eq_append)
      (h'.leftmost operator before after h.eq_append)
  have happend : before ++ (operator.token.toList ++ after) =
      front ++ (other.token.toList ++ back) := by
    rw [← List.append_assoc, ← List.append_assoc, ← h.eq_append, ← h'.eq_append]
  rcases List.append_inj happend hlength with ⟨rfl, hrest⟩
  -- At the same place each of the two tokens is as long as the other.
  have htoken : operator.token.toList.length = other.token.toList.length :=
    le_antisymm (h'.longest operator after h.eq_append) (h.longest other back h'.eq_append)
  rcases List.append_inj hrest htoken with ⟨hsame, hafter⟩
  exact ⟨token_injective hsame, rfl, hafter⟩

/-- The operator that divides a text behind the name of a field is the leftmost one. -/
theorem Divides.leads (h : operator.Divides t before after)
    (hnamed : Field.normalizeName before.trim = field.filterName.toList) :
    operator.Leads t before after := by
  refine ⟨h.cut.eq_append, ?_, ?_⟩
  · intro other front back heq
    rw [h.cut.eq_append, List.append_assoc] at heq
    exact (Field.unmarked_of_named hnamed).length_le heq
  · intro other back heq
    by_contra hlonger
    rw [not_le] at hlonger
    have hrest : operator.token.toList ++ after = other.token.toList ++ back := by
      have happend := h.cut.eq_append.symm.trans heq
      rw [List.append_assoc, List.append_assoc] at happend
      exact List.append_cancel_left happend
    have hbegins : operator.token.toList <+: other.token.toList :=
      List.prefix_of_prefix_length_le ⟨after, rfl⟩ ⟨back, hrest.symm⟩ hlonger.le
    have hne : other ≠ operator := by
      rintro rfl
      exact lt_irrefl _ hlonger
    -- The longer token is sought first, and it would have been found.
    exact (firstIn_iff.1 h.firstIn).2 other (mem_soughtBefore_of_isPrefix hbegins hne)
      ⟨before, back, heq.symm⟩

end Operator

/-! ## Clauses -/

theorem Reading.Fits.divides {reading : Reading} (h : reading.Fits t) :
    reading.operator.Divides t reading.before reading.after :=
  ⟨h.firstIn, h.cut, h.once, h.before_ne_nil, h.after_ne_nil⟩

/-- A clause is read at its leftmost operator, which is the longest one there: in front of it stands
the name of the field, with no character of any token, and the whole rest is the value. -/
theorem Clause.parse_reads_leftmost {clause : Clause} (h : parse t = .ok clause) :
    ∃ before after, clause.operator.Leads t before after ∧
      (∀ (other : Operator) (front back : Text), other.Leads t front back →
        other = clause.operator ∧ front = before ∧ back = after) ∧
      before.Unmarked ∧
      Field.normalizeName before.trim = clause.field.filterName.toList ∧
      ∃ value, readFieldValue clause.field after.trim = .ok value ∧
        clause.value = value.lowered := by
  rcases Reading.exists_fits_of_parse h with ⟨reading, hfits, hfield, hoperator, hvalue⟩
  have hnamed : Field.normalizeName reading.before.trim = clause.field.filterName.toList := by
    rw [hfield]
    exact hfits.named
  have hleads : clause.operator.Leads t reading.before reading.after := by
    rw [hoperator]
    exact hfits.divides.leads hnamed
  refine ⟨reading.before, reading.after, hleads, ?_,
    Field.unmarked_of_named hnamed, hnamed, reading.value, ?_, hvalue⟩
  · intro other front back hother
    exact hother.unique hleads
  · rw [hfield]
    exact hfits.valued

/-- Tokens behind the first one stay in the value. -/
theorem Clause.parse_reads_leftmost_marked_value :
    let t : Text := "Na_me == Go > Azul !=< Ra".toList
    ∃ clause, parse t = .ok clause ∧ clause.value = .text "go > azul !=< ra".toList ∧
      clause.operator.Leads t "Na_me ".toList " Go > Azul !=< Ra".toList := by
  intro t
  let clause : Clause := ⟨.name, .equal, .text "go > azul !=< ra".toList, rfl, rfl⟩
  have hparse : parse t = .ok clause := by decide +kernel
  have hcut : Text.LeftmostCut Operator.equal.token.toList t "Na_me ".toList
      " Go > Azul !=< Ra".toList :=
    Text.cut?_eq_some_iff.1 (by decide)
  rcases parse_reads_leftmost hparse with ⟨before, after, hleads, -⟩
  rcases hleads.leftmostCut.unique hcut with ⟨rfl, rfl⟩
  exact ⟨clause, hparse, rfl, hleads⟩

end GameShelf
