import GameShelf.Proofs.Plan.Removing
import GameShelf.Proofs.Plan.View

/-!
# Ranges, one position at a time

A range of a view can be added one position after the other, and `all` is the range that covers the
whole view.  A range of the plan itself can be removed one game after the other as well, but by the
same position each time, for behind a game that goes the others move up.

Here no step may fail: `performAll` gives up at the first that does.
-/

set_option autoImplicit false

namespace GameShelf.Plan

open Numeral (natDecimal)

variable {plan : Plan} {text : Text} {view : List Game} {first count : Nat}

/-! ## Steps none of which fails -/

/-- The plan after the steps and their counts added up, or the error of the first step that
fails. -/
def performAll (plan : Plan) : List Step → Except Error Change
  | [] => .ok ⟨plan, 0⟩
  | s :: rest => do
    let change ← s.change plan
    let others ← performAll change.plan rest
    return ⟨others.plan, change.count + others.count⟩

theorem performAll_cons {s : Step} {rest : List Step} {change others : Change}
    (hchange : s.change plan = .ok change) (hothers : change.plan.performAll rest = .ok others) :
    plan.performAll (s :: rest) = .ok ⟨others.plan, change.count + others.count⟩ := by
  rw [performAll, bind_eq_ok_iff]
  refine ⟨change, hchange, ?_⟩
  rw [bind_eq_ok_iff]
  exact ⟨others, hothers, rfl⟩

/-! ## Adding a range -/

theorem trim_natDecimal (n : Nat) : (natDecimal n).trim = natDecimal n :=
  (Numeral.unbroken_of_all_isDigit (Numeral.all_isDigit_natDecimal n)).trim_eq

/-- A position of the view asks for the game at its place. -/
theorem asks_natDecimal {place : Nat} (hplace : place < view.length)
    (hheld : view.length ≤ Selector.maxPosition) (h : Unnamed (natDecimal (place + 1)) view) :
    Asks view (natDecimal (place + 1)).trim ((view.drop place).take 1) := by
  have hpositional : (Selector.parse (natDecimal (place + 1))).IsPositional := by
    rw [Selector.parse_natDecimal]
    trivial
  have hwidth : place + 1 - place = 1 := Nat.add_sub_cancel_left place 1
  have hslice : Selector.Span.slice ⟨place, place⟩ view = (view.drop place).take 1 := by
    rw [Selector.Span.slice, hwidth]
  rw [trim_natDecimal, ← hslice]
  exact .positions h hpositional (Selector.resolve_parse_natDecimal hplace hheld)

/-- Positions of the view that follow each other, added in turn, add their stretch of the view. -/
theorem performAll_add_positions (hview : first + count ≤ view.length)
    (hheld : view.length ≤ Selector.maxPosition)
    (h : ∀ position, first < position → position ≤ first + count →
      Unnamed (natDecimal position) view) :
    plan.performAll ((List.range' (first + 1) count).map fun i => .add (natDecimal i) view) =
      .ok (plan.append ((view.drop first).take count)) := by
  induction count generalizing plan first with
  | zero => simp [performAll, append, Game.fresh]
  | succ count ih =>
      -- The first position takes the first game of the stretch, and the others take the rest.
      have hasks : Asks view (natDecimal (first + 1)).trim ((view.drop first).take 1) :=
        asks_natDecimal (by omega) hheld (h (first + 1) (by omega) (by omega))
      have hadd : Step.change plan (.add (natDecimal (first + 1)) view) =
          .ok (plan.append ((view.drop first).take 1)) :=
        add_of_asks plan hasks
      have hrest : (plan.append ((view.drop first).take 1)).plan.performAll
          ((List.range' (first + 1 + 1) count).map fun i => .add (natDecimal i) view) =
            .ok ((plan.append ((view.drop first).take 1)).plan.append
              ((view.drop (first + 1)).take count)) := by
        refine ih (by omega) ?_
        intro position hlow hhigh
        exact h position (by omega) (by omega)
      have hstretch : (view.drop first).take (count + 1) =
          (view.drop first).take 1 ++ (view.drop (first + 1)).take count := by
        rw [Nat.add_comm count 1, List.take_add, List.drop_drop]
      rw [List.range'_succ, List.map_cons, performAll_cons hadd hrest, hstretch, append_append]

/-- A range and its positions, up to the end of the view, add the same stretch of the view. -/
theorem exists_add_range_and_positions {stop : Nat} (hfirst : first < view.length)
    (hstop : first < stop) (hheld : view.length ≤ Selector.maxPosition)
    (hrange : Unnamed (Selector.writeRange (first + 1) stop) view)
    (hpositions : ∀ position, first < position → position ≤ min stop view.length →
      Unnamed (natDecimal position) view) :
    ∃ change, plan.add (Selector.writeRange (first + 1) stop) view = .ok change ∧
      plan.performAll ((List.range' (first + 1) (min stop view.length - first)).map
        fun position => .add (natDecimal position) view) = .ok change := by
  have hend : first + (min stop view.length - first) = min stop view.length := by omega
  have hadd : plan.add (Selector.writeRange (first + 1) stop) view =
      .ok (plan.append ((view.take stop).drop first)) :=
    add_of_asks plan (asks_writeRange (Nat.le_add_left 1 first) hfirst hheld hstop hrange)
  -- A range that ends beyond the view is cut there, as the positions are.
  have hstretch : (view.take stop).drop first =
      (view.drop first).take (min stop view.length - first) := by
    rw [List.drop_take, List.take_eq_take_iff, List.length_drop]
    omega
  refine ⟨_, hadd, ?_⟩
  rw [hstretch]
  exact performAll_add_positions (by omega) hheld (by rwa [hend])

/-! ## Removing a range -/

/-- What resolves to a stretch of the plan is not `all`, and removes the stretch. -/
theorem remove_of_resolve_parse {span : Selector.Span} (htrim : text.trim = text)
    (hname : Unnamed text plan.games)
    (h : (Selector.parse text).resolve plan.size = .ok (some span)) :
    plan.remove text = .ok (plan.erase span) := by
  have hpositional : (Selector.parse text).IsPositional :=
    Selector.isPositional_of_resolve (h.trans_ne nofun)
  have hall : text.trim.sameIgnoringAsciiCase "all".toList = false := by
    rw [Bool.eq_false_iff, ne_eq, ← Selector.parse_eq_all_iff]
    intro hparse
    rw [hparse] at hpositional
    exact hpositional
  exact remove_of_resolve hall (by rwa [htrim]) (by rwa [htrim])

/-- A stretch of the plan, erased, leaves what is before and behind it. -/
theorem erase_stretch (first count : Nat) (hplan : first + count < plan.size) :
    plan.erase ⟨first, first + count⟩ =
      ⟨⟨plan.games.take first ++ plan.games.drop (first + (count + 1))⟩, count + 1⟩ := by
  have hwidth : first + count + 1 - first = count + 1 := by omega
  rw [erase, Selector.Span.length_slice hplan, hwidth]
  rfl

theorem remove_writeRange {start stop : Nat} (hstart : 1 ≤ start) (hplan : start ≤ plan.size)
    (hheld : plan.size ≤ Selector.maxPosition) (hstop : start ≤ stop)
    (h : Unnamed (Selector.writeRange start stop) plan.games) :
    plan.remove (Selector.writeRange start stop) =
      .ok (plan.erase ⟨start - 1, min stop plan.size - 1⟩) :=
  remove_of_resolve_parse (Selector.unbroken_writeRange start stop).trim_eq h
    (Selector.resolve_parse_writeRange hstart hplan hheld hstop)

/-- A position of the plan, removed again and again, removes the stretch that begins there. -/
theorem performAll_remove_position (hplan : first + count ≤ plan.size)
    (hheld : plan.size ≤ Selector.maxPosition)
    (h : Unnamed (natDecimal (first + 1)) plan.games) :
    plan.performAll (List.replicate count (.remove (natDecimal (first + 1)))) =
      .ok ⟨⟨plan.games.take first ++ plan.games.drop (first + count)⟩, count⟩ := by
  induction count generalizing plan with
  | zero => simp [performAll]
  | succ count ih =>
      -- Behind the game that goes the others move up, so the next one is at its place.
      let rest : Plan := ⟨plan.games.take first ++ plan.games.drop (first + 1)⟩
      have hremove : plan.remove (natDecimal (first + 1)) = .ok ⟨rest, 1⟩ := by
        have hplace : first < plan.size := by omega
        rw [remove_of_resolve_parse (trim_natDecimal _) h
          (Selector.resolve_parse_natDecimal hplace hheld)]
        exact congrArg Except.ok (erase_stretch first 0 hplace)
      have hchange : Step.change plan (.remove (natDecimal (first + 1))) = .ok ⟨rest, 1⟩ :=
        hremove
      have hbefore : (plan.games.take first).length = first :=
        List.length_take_of_le (by rw [size] at hplan; omega)
      have hsize : rest.size + 1 = plan.size := by
        simp only [rest, size, List.length_append, hbefore, List.length_drop] at hplan ⊢
        omega
      have hunnamed : Unnamed (natDecimal (first + 1)) rest.games := by
        intro game hgame
        exact h game ((sublist_and_count_of_remove hremove).1.mem hgame)
      have hothers : rest.performAll (List.replicate count (.remove (natDecimal (first + 1)))) =
          .ok ⟨⟨rest.games.take first ++ rest.games.drop (first + count)⟩, count⟩ :=
        ih (by omega) (by omega) hunnamed
      have htake : rest.games.take first = plan.games.take first :=
        List.take_left' hbefore
      have hdrop : rest.games.drop (first + count) = plan.games.drop (first + (count + 1)) := by
        calc
          rest.games.drop (first + count)
              = rest.games.drop ((plan.games.take first).length + count) := by rw [hbefore]
          _ = (plan.games.drop (first + 1)).drop count := List.drop_length_add_append count
          _ = plan.games.drop (first + (count + 1)) := by
                rw [List.drop_drop, Nat.add_assoc, Nat.add_comm 1 count]
      rw [List.replicate_succ, performAll_cons hchange hothers, htake, hdrop, Nat.add_comm 1 count]

/-- A range and its first position, given as often as the range has positions of the plan, remove
the same stretch. -/
theorem exists_remove_range_and_position {stop : Nat} (hfirst : first < plan.size)
    (hstop : first < stop) (hheld : plan.size ≤ Selector.maxPosition)
    (hrange : Unnamed (Selector.writeRange (first + 1) stop) plan.games)
    (hposition : Unnamed (natDecimal (first + 1)) plan.games) :
    ∃ change, plan.remove (Selector.writeRange (first + 1) stop) = .ok change ∧
      plan.performAll (List.replicate (min stop plan.size - first)
        (.remove (natDecimal (first + 1)))) = .ok change := by
  -- The range has at least its first position, so it is removed at least once.
  obtain ⟨count, hcount⟩ : ∃ count, min stop plan.size = first + count + 1 :=
    ⟨min stop plan.size - first - 1, by omega⟩
  have hwidth : min stop plan.size - first = count + 1 := by omega
  have hremove := remove_writeRange (Nat.le_add_left 1 first) hfirst hheld hstop hrange
  rw [hcount, Nat.add_sub_cancel, Nat.add_sub_cancel,
    erase_stretch first count (by omega)] at hremove
  refine ⟨_, hremove, ?_⟩
  rw [hwidth]
  exact performAll_remove_position (by omega) hheld hposition

/-! ## Ranges, positions and `all` -/

/-- Where no game goes by a text in use, adding a range of a view comes to the same plan and the
same count as adding its positions in turn, up to the end of the range or of the view, and `all` of
a view with games is any range from its first position to its last or beyond.  Removing a range of
the plan comes to the same as removing its first position as often as the range has positions of the
plan.  None of these steps fails. -/
theorem ranges_by_positions (plan : Plan) (view : List Game) :
    (∀ start stop, 1 ≤ start → start ≤ view.length → start ≤ stop →
      view.length ≤ Selector.maxPosition → Unnamed (Selector.writeRange start stop) view →
      (∀ position, start ≤ position → position ≤ min stop view.length →
        Unnamed (natDecimal position) view) →
      ∃ change, plan.add (Selector.writeRange start stop) view = .ok change ∧
        plan.performAll ((List.range' start (min stop view.length - start + 1)).map
          fun position => .add (natDecimal position) view) = .ok change) ∧
    (∀ stop, view ≠ [] → view.length ≤ stop → view.length ≤ Selector.maxPosition →
      Unnamed "all".toList view → Unnamed (Selector.writeRange 1 stop) view →
      ∃ change, plan.add "all".toList view = .ok change ∧
        plan.add (Selector.writeRange 1 stop) view = .ok change) ∧
    (∀ start stop, 1 ≤ start → start ≤ plan.size → start ≤ stop →
      plan.size ≤ Selector.maxPosition → Unnamed (Selector.writeRange start stop) plan.games →
      Unnamed (natDecimal start) plan.games →
      ∃ change, plan.remove (Selector.writeRange start stop) = .ok change ∧
        plan.performAll (List.replicate (min stop plan.size - start + 1)
          (.remove (natDecimal start))) = .ok change) := by
  refine ⟨?_, ?_, ?_⟩
  · intro start stop hstart hview hstop hheld hrange hpositions
    obtain ⟨first, rfl⟩ : ∃ first, start = first + 1 := ⟨start - 1, by omega⟩
    have hcount : min stop view.length - (first + 1) + 1 = min stop view.length - first := by omega
    rw [hcount]
    exact exists_add_range_and_positions hview hstop hheld hrange hpositions
  · intro stop hview hstop hheld hall hrange
    have hlength : 1 ≤ view.length := List.length_pos_iff.2 hview
    -- From the first position to the last or beyond, the stretch is the whole view.
    have hwhole : (view.take stop).drop (1 - 1) = view := List.take_of_length_le hstop
    have hadd := add_of_asks plan
      (asks_writeRange (Nat.le_refl 1) hlength hheld (hlength.trans hstop) hrange)
    rw [hwhole] at hadd
    exact ⟨plan.append view, add_of_asks plan (asks_all hall), hadd⟩
  · intro start stop hstart hplan hstop hheld hrange hposition
    obtain ⟨first, rfl⟩ : ∃ first, start = first + 1 := ⟨start - 1, by omega⟩
    have hcount : min stop plan.size - (first + 1) + 1 = min stop plan.size - first := by omega
    rw [hcount]
    exact exists_remove_range_and_position hplan hstop hheld hrange hposition

/-- A range that ends beyond the view and has one game twice in it, once with either NaN, and a
range of the plan whose games move up to its first position. -/
theorem ranges_by_positions_duplicates :
    let go : Game := ⟨"Go".toList, 1, 2, 2, 30, 180, ⟨0⟩, 23, ⟨0⟩, -2200⟩
    let hex : Game := ⟨"Hex".toList, 2, 2, 2, 20, 60, .quietNaN false, 90, ⟨0⟩, 1942⟩
    let twin : Game := { hex with difficulty := .quietNaN true }
    let chess : Game := ⟨"Chess".toList, 3, 2, 2, 10, 60, ⟨0⟩, 7, ⟨0⟩, 1475⟩
    let azul : Game := ⟨"Azul".toList, 4, 2, 4, 30, 45, ⟨0⟩, 50, ⟨0⟩, 2017⟩
    let plan : Plan := ⟨[chess, go, azul]⟩
    let view : List Game := [go, hex, twin]
    plan.add "2-9".toList view = .ok ⟨⟨[chess, go, azul, hex]⟩, 1⟩ ∧
      plan.performAll [.add "2".toList view, .add "3".toList view] =
        .ok ⟨⟨[chess, go, azul, hex]⟩, 1⟩ ∧
      plan.add "all".toList view = plan.add "1-3".toList view ∧
      plan.performAll [.remove "2".toList, .remove "2".toList] = .ok ⟨⟨[chess]⟩, 2⟩ := by
  intro go hex twin chess azul plan view
  have htwo : natDecimal 2 = "2".toList := by decide +kernel
  have hthree : natDecimal 3 = "3".toList := by decide +kernel
  have hrange : Selector.writeRange 2 9 = "2-9".toList := by decide +kernel
  have hwhole : Selector.writeRange 1 3 = "1-3".toList := by decide +kernel
  have hadd : plan.add "2-9".toList view = .ok ⟨⟨[chess, go, azul, hex]⟩, 1⟩ := by decide +kernel
  have hremove : plan.remove "2-9".toList = .ok ⟨⟨[chess]⟩, 2⟩ := by decide +kernel
  have hpositions : ∀ position, 2 ≤ position → position ≤ min 9 view.length →
      Unnamed (natDecimal position) view := by
    intro position hlow hhigh
    have hthird : position ≤ 3 := hhigh
    obtain rfl | rfl : position = 2 ∨ position = 3 := by omega
    · decide +kernel
    · decide +kernel
  rcases ranges_by_positions plan view with ⟨hadds, hall, hremoves⟩
  rcases hadds 2 9 (by decide) (by decide) (by decide) (by decide) (by decide +kernel)
    hpositions with ⟨added, hadded, heach⟩
  rcases hall 3 (by decide) (by decide) (by decide) (by decide +kernel) (by decide +kernel) with
    ⟨filled, hfilled, hfull⟩
  rcases hremoves 2 9 (by decide) (by decide) (by decide) (by decide) (by decide +kernel)
    (by decide +kernel) with ⟨removed, hremoved, hsame⟩
  -- The ranges tell what the changes are.
  rw [hrange, hadd] at hadded
  rw [hrange, hremove] at hremoved
  cases hadded
  cases hremoved
  rw [hwhole] at hfull
  have hturns : plan.performAll [.add (natDecimal 2) view, .add (natDecimal 3) view] = _ := heach
  have hagain : plan.performAll [.remove (natDecimal 2), .remove (natDecimal 2)] = _ := hsame
  rw [htwo, hthree] at hturns
  rw [htwo] at hagain
  exact ⟨hadd, hturns, hfilled.trans hfull.symm, hagain⟩

end GameShelf.Plan
