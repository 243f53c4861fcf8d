import GameShelf.Text.Lowercase

/-!
# The final sigma in comparisons

`foldCase` and `lowercase` differ in one thing: a capital sigma that ends a word becomes `σ` for
the one and `ς` for the other.  Both are small sigmas, next to each other in code point order, so a
comparison of two texts can only tell the two forms apart where such a sigma meets one of these
two letters.

* `casePairs` lists the characters of both forms side by side.
* `SigmaClash` says that the first place where two texts differ in either form is of that kind.
* `clash_or_compare_foldCase_eq` says that without a clash the two comparisons agree, and
  `SigmaClash.compare_outcomes` what they give when there is one.
-/

set_option autoImplicit false

namespace GameShelf.Text

/-! ## Both forms side by side -/

/-- The lowercase characters of the text, each as `foldCase` and as `lowercase` has it, when
`before`, nearest character first, stands in front of the text. -/
def casePairsAfter (before : Text) : Text → List (Char × Char)
  | [] => []
  | c :: rest =>
    (lowerChar c).zip (lowerCharWithin before c rest) ++ casePairsAfter (c :: before) rest

/-- The lowercase characters of the text in both forms. -/
def casePairs (t : Text) : List (Char × Char) :=
  casePairsAfter [] t

/-- A capital sigma ends a word of the text. -/
def HasFinalSigma (t : Text) : Prop :=
  ∃ before after, t = before ++ 'Σ' :: after ∧
    startsCased before.reverse = true ∧ startsCased after = false

variable {before t : Text} {c : Char}

theorem lowerChar_sigma : lowerChar 'Σ' = ['σ'] := by
  decide

/-- The neighbours of a character matter only for a capital sigma at the end of a word. -/
theorem lowerCharWithin_cases (before : Text) (c : Char) (after : Text) :
    lowerCharWithin before c after = lowerChar c ∨
      c = 'Σ' ∧ startsCased before = true ∧ startsCased after = false ∧
        lowerCharWithin before c after = ['ς'] := by
  by_cases hc : c = 'Σ'
  · subst hc
    by_cases hfinal : startsCased before = true ∧ startsCased after = false
    · rcases hfinal with ⟨hbefore, hafter⟩
      exact Or.inr ⟨rfl, hbefore, hafter, by simp [lowerCharWithin, hbefore, hafter]⟩
    · left
      simpa [lowerCharWithin, lowerChar_sigma] using hfinal
  · left
    simp [lowerCharWithin, hc]

theorem length_lowerCharWithin (before : Text) (c : Char) (after : Text) :
    (lowerCharWithin before c after).length = (lowerChar c).length := by
  rcases lowerCharWithin_cases before c after with h | ⟨rfl, -, -, h⟩
  · rw [h]
  · rw [h, lowerChar_sigma]
    rfl

theorem map_fst_casePairsAfter (before t : Text) :
    (casePairsAfter before t).map Prod.fst = foldCase t := by
  induction t generalizing before with
  | nil => rfl
  | cons c rest ih =>
      have hlength := length_lowerCharWithin before c rest
      simp [casePairsAfter, foldCase, ih, List.map_fst_zip, hlength]

theorem map_snd_casePairsAfter (before t : Text) :
    (casePairsAfter before t).map Prod.snd = lowercaseAfter before t := by
  induction t generalizing before with
  | nil => rfl
  | cons c rest ih =>
      have hlength := length_lowerCharWithin before c rest
      simp [casePairsAfter, lowercaseAfter, ih, List.map_snd_zip, hlength]

theorem map_fst_casePairs (t : Text) : t.casePairs.map Prod.fst = t.foldCase :=
  map_fst_casePairsAfter [] t

theorem map_snd_casePairs (t : Text) : t.casePairs.map Prod.snd = t.lowercase :=
  map_snd_casePairsAfter [] t

theorem eq_of_mem_zip_self {p : Char × Char} (h : p ∈ t.zip t) : p.1 = p.2 := by
  induction t with
  | nil => cases h
  | cons c rest ih =>
      rcases List.mem_cons.1 h with rfl | hrest
      · rfl
      · exact ih hrest

/-- The two forms of a character are the same, or those of a capital sigma at the end of a word. -/
theorem casePairsAfter_cases {p : Char × Char} (h : p ∈ casePairsAfter before t) :
    p.1 = p.2 ∨ p = ('σ', 'ς') := by
  induction t generalizing before with
  | nil => cases h
  | cons c rest ih =>
      rcases List.mem_append.1 h with hfirst | hrest
      · rcases lowerCharWithin_cases before c rest with hsame | ⟨rfl, -, -, hfinal⟩
        · left
          rw [hsame] at hfirst
          exact eq_of_mem_zip_self hfirst
        · right
          simpa [hfinal, lowerChar_sigma] using hfirst
      · exact ih hrest

/-- The two forms part exactly at the capital sigmas that end a word. -/
theorem mem_casePairsAfter_iff :
    ('σ', 'ς') ∈ casePairsAfter before t ↔
      ∃ front back, t = front ++ 'Σ' :: back ∧
        startsCased (front.reverse ++ before) = true ∧ startsCased back = false := by
  induction t generalizing before with
  | nil => simp [casePairsAfter]
  | cons c rest ih =>
      rw [casePairsAfter, List.mem_append, ih]
      -- The sigma is the first character, with `before` in front of it, or a later one.
      constructor
      · rintro (hfirst | ⟨front, back, rfl, hfront, hback⟩)
        · rcases lowerCharWithin_cases before c rest with hsame | ⟨rfl, hbefore, hrest, -⟩
          · rw [hsame] at hfirst
            exact absurd (eq_of_mem_zip_self hfirst) (by decide)
          · exact ⟨[], rest, rfl, hbefore, hrest⟩
        · exact ⟨c :: front, back, rfl, by simpa using hfront, hback⟩
      · rintro ⟨front, back, heq, hfront, hback⟩
        cases front with
        | nil =>
            left
            cases heq
            have hbefore : startsCased before = true := hfront
            simp [lowerCharWithin, lowerChar_sigma, hbefore, hback]
        | cons d front =>
            right
            cases heq
            exact ⟨front, back, rfl, by simpa using hfront, hback⟩

theorem mem_casePairs_iff : ('σ', 'ς') ∈ t.casePairs ↔ t.HasFinalSigma := by
  simp [casePairs, mem_casePairsAfter_iff, HasFinalSigma]

/-! ## Clashes -/

/-- Up to a first difference both forms of the two texts agree, and there a sigma at the end of a
word meets a small sigma.  One form tells the two apart, and compares the texts as `decided`; to
the other they are the same letter, and what follows compares the texts as `rest`. -/
inductive SigmaClash : List (Char × Char) → List (Char × Char) → Ordering → Ordering → Prop where
  | small (common ps qs : List (Char × Char)) :
      SigmaClash (common ++ ('σ', 'ς') :: ps) (common ++ ('σ', 'σ') :: qs)
        .lt (compare (ps.map Prod.fst) (qs.map Prod.fst))
  | final (common ps qs : List (Char × Char)) :
      SigmaClash (common ++ ('σ', 'ς') :: ps) (common ++ ('ς', 'ς') :: qs)
        .gt (compare (ps.map Prod.snd) (qs.map Prod.snd))
  | symm {ps qs : List (Char × Char)} {decided rest : Ordering} :
      SigmaClash ps qs decided rest → SigmaClash qs ps decided.swap rest.swap

variable {ps qs : List (Char × Char)} {decided rest : Ordering}

theorem SigmaClash.cons (p : Char × Char) (h : SigmaClash ps qs decided rest) :
    SigmaClash (p :: ps) (p :: qs) decided rest := by
  induction h with
  | small common ps qs => exact .small (p :: common) ps qs
  | final common ps qs => exact .final (p :: common) ps qs
  | symm _ ih => exact .symm ih

/-- A clash involves a sigma at the end of a word. -/
theorem SigmaClash.mem (h : SigmaClash ps qs decided rest) :
    ('σ', 'ς') ∈ ps ∨ ('σ', 'ς') ∈ qs := by
  induction h with
  | small common ps qs => exact Or.inl (by simp)
  | final common ps qs => exact Or.inl (by simp)
  | symm _ ih => exact ih.symm

theorem compare_append_left (common a b : Text) :
    compare (common ++ a) (common ++ b) = compare a b := by
  induction common with
  | nil => rfl
  | cons c common ih =>
      simp [List.compare_cons_cons, ih]

/-- Of the two comparisons one has the outcome `decided`, and the other the outcome `rest`. -/
theorem SigmaClash.outcomes (h : SigmaClash ps qs decided rest) :
    (compare (ps.map Prod.fst) (qs.map Prod.fst) = rest ∧
      compare (ps.map Prod.snd) (qs.map Prod.snd) = decided) ∨
    (compare (ps.map Prod.fst) (qs.map Prod.fst) = decided ∧
      compare (ps.map Prod.snd) (qs.map Prod.snd) = rest) := by
  have hsmall : compare 'ς' 'σ' = .lt := by decide
  have hfinal : compare 'σ' 'ς' = .gt := by decide
  induction h with
  | small common ps qs =>
      left
      simp [compare_append_left, List.compare_cons_cons, hsmall]
  | final common ps qs =>
      right
      simp [compare_append_left, List.compare_cons_cons, hfinal]
  | @symm ps qs decided rest _ ih =>
      -- Both comparisons are turned over, and with them both outcomes.
      rw [Std.OrientedOrd.eq_swap (a := qs.map Prod.fst),
        Std.OrientedOrd.eq_swap (a := qs.map Prod.snd)]
      rcases ih with ⟨hfst, hsnd⟩ | ⟨hfst, hsnd⟩
      · exact Or.inl ⟨by rw [hfst], by rw [hsnd]⟩
      · exact Or.inr ⟨by rw [hfst], by rw [hsnd]⟩

/-- The two small sigmas are neighbours, so no other letter lies between them. -/
theorem compare_sigma_eq {c : Char} (hsmall : c ≠ 'σ') (hfinal : c ≠ 'ς') :
    compare 'σ' c = compare 'ς' c := by
  have hsmallNat : c.toNat ≠ 'σ'.toNat := fun h => hsmall (Char.toNat_inj.1 h)
  have hfinalNat : c.toNat ≠ 'ς'.toNat := fun h => hfinal (Char.toNat_inj.1 h)
  -- Above the one is above the other: the code points are 963 and 962.
  have hlt : 'σ' < c ↔ 'ς' < c := by
    change 'σ'.toNat < c.toNat ↔ 'ς'.toNat < c.toNat
    change c.toNat ≠ 963 at hsmallNat
    change c.toNat ≠ 962 at hfinalNat
    change 963 < c.toNat ↔ 962 < c.toNat
    omega
  change compareOfLessAndEq 'σ' c = compareOfLessAndEq 'ς' c
  simp [compareOfLessAndEq, hlt, hsmall.symm, hfinal.symm]

/-- A sigma at the end of a word against another character: a clash, or the same outcome in both
forms, and not a tie. -/
theorem clash_or_compare_final_sigma (ps qs : List (Char × Char)) (c : Char) :
    (∃ decided rest, SigmaClash (('σ', 'ς') :: ps) ((c, c) :: qs) decided rest) ∨
      compare 'σ' c = compare 'ς' c ∧ compare 'ς' c ≠ .eq := by
  by_cases hsmall : c = 'σ'
  · subst hsmall
    exact Or.inl ⟨_, _, .small [] ps qs⟩
  · by_cases hfinal : c = 'ς'
    · subst hfinal
      exact Or.inl ⟨_, _, .final [] ps qs⟩
    · right
      refine ⟨compare_sigma_eq hsmall hfinal, ?_⟩
      intro heq
      exact hfinal (Std.LawfulEqOrd.eq_of_compare heq).symm

/-- Where two texts first differ there is a clash, or both forms decide alike. -/
theorem clash_or_compare_heads {p q : Char × Char} (hne : p ≠ q)
    (hp : p.1 = p.2 ∨ p = ('σ', 'ς')) (hq : q.1 = q.2 ∨ q = ('σ', 'ς')) :
    (∃ decided rest, SigmaClash (p :: ps) (q :: qs) decided rest) ∨
      compare p.1 q.1 = compare p.2 q.2 ∧ compare p.2 q.2 ≠ .eq := by
  rcases p with ⟨c, c'⟩
  rcases q with ⟨d, d'⟩
  rcases hp with hp | hp
  · obtain rfl : c = c' := hp
    rcases hq with hq | hq
    · obtain rfl : d = d' := hq
      right
      refine ⟨rfl, ?_⟩
      intro heq
      have hcd : c = d := Std.LawfulEqOrd.eq_of_compare heq
      exact hne (by rw [hcd])
    · cases hq
      -- The other way round, so the clash and the comparisons are turned over.
      rcases clash_or_compare_final_sigma qs ps c with ⟨decided, rest, h⟩ | ⟨hsame, hneq⟩
      · exact Or.inl ⟨_, _, h.symm⟩
      · right
        refine ⟨?_, ?_⟩
        · rw [Std.OrientedOrd.eq_swap, hsame, ← Std.OrientedOrd.eq_swap]
        · rwa [ne_eq, Std.OrientedCmp.eq_comm]
  · cases hp
    rcases hq with hq | hq
    · obtain rfl : d = d' := hq
      exact clash_or_compare_final_sigma ps qs d
    · exact absurd hq.symm hne

theorem then_of_ne_eq {first second : Ordering} (h : first ≠ .eq) :
    first.then second = first := by
  cases first with
  | lt => rfl
  | eq => exact absurd rfl h
  | gt => rfl

/-- Without a clash both forms compare alike. -/
theorem clash_or_compare_eq (hps : ∀ p ∈ ps, p.1 = p.2 ∨ p = ('σ', 'ς'))
    (hqs : ∀ q ∈ qs, q.1 = q.2 ∨ q = ('σ', 'ς')) :
    (∃ decided rest, SigmaClash ps qs decided rest) ∨
      compare (ps.map Prod.fst) (qs.map Prod.fst) =
        compare (ps.map Prod.snd) (qs.map Prod.snd) := by
  induction ps generalizing qs with
  | nil =>
      cases qs with
      | nil => exact Or.inr rfl
      | cons q qs => exact Or.inr rfl
  | cons p ps ih =>
      cases qs with
      | nil => exact Or.inr rfl
      | cons q qs =>
          simp only [List.map_cons, List.compare_cons_cons]
          by_cases heq : p = q
          · -- The first characters agree in both forms, so the rest decides.
            subst heq
            rcases ih (fun r hr => hps r (List.mem_cons_of_mem p hr))
                (fun r hr => hqs r (List.mem_cons_of_mem p hr)) with ⟨decided, rest, h⟩ | hsame
            · exact Or.inl ⟨decided, rest, h.cons p⟩
            · right
              simp [hsame]
          · -- The first characters differ, so they decide, or clash.
            rcases clash_or_compare_heads heq (hps p List.mem_cons_self)
                (hqs q List.mem_cons_self) with hclash | ⟨hsame, hneq⟩
            · exact Or.inl hclash
            · right
              rw [hsame, then_of_ne_eq hneq, then_of_ne_eq hneq]

/-- Two texts compare alike by `foldCase` and by `lowercase` unless they clash. -/
theorem clash_or_compare_foldCase_eq (a b : Text) :
    (∃ decided rest, SigmaClash a.casePairs b.casePairs decided rest) ∨
      compare a.foldCase b.foldCase = compare a.lowercase b.lowercase := by
  simp only [← map_fst_casePairs, ← map_snd_casePairs]
  exact clash_or_compare_eq (fun _ h => casePairsAfter_cases h) fun _ h => casePairsAfter_cases h

/-- The comparisons of two texts that clash. -/
theorem SigmaClash.compare_outcomes {a b : Text}
    (h : SigmaClash a.casePairs b.casePairs decided rest) :
    (compare a.foldCase b.foldCase = rest ∧ compare a.lowercase b.lowercase = decided) ∨
      (compare a.foldCase b.foldCase = decided ∧ compare a.lowercase b.lowercase = rest) := by
  simpa only [map_fst_casePairs, map_snd_casePairs] using h.outcomes

theorem SigmaClash.hasFinalSigma {a b : Text}
    (h : SigmaClash a.casePairs b.casePairs decided rest) : a.HasFinalSigma ∨ b.HasFinalSigma := by
  simpa only [mem_casePairs_iff] using h.mem

end GameShelf.Text
