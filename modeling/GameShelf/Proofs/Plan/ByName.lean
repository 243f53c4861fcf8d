import GameShelf.Plan.Basic
import GameShelf.Proofs.Csv.Provenance
import GameShelf.Proofs.Game.Distinct
import GameShelf.Proofs.Selector.Reading

/-!
# Adding and removing by name

A text that is the name of a game means the first game of that name, whatever else it might mean:
digits and ranges are names where there is such a game.  Only removal looks for `all` first.  The
texts are trimmed, which loaded names survive, so every loaded game can be added and removed by its
name, except that removing `all` empties the plan.
-/

set_option autoImplicit false

namespace GameShelf

theorem Text.sameIgnoringCase_self (t : Text) : t.sameIgnoringCase t = true := by
  simp [sameIgnoringCase, compareIgnoringCase]

namespace Plan

variable {plan : Plan} {name : Text} {game first : Game} {games before after : List Game}

/-- Of the games that go by the name, `first` is the one that comes first. -/
structure FirstNamed (name : Text) (before : List Game) (first : Game) (after games : List Game) :
    Prop where
  games_eq : games = before ++ first :: after
  named : isNamed name first = true
  not_named : ∀ other ∈ before, isNamed name other = false

/-- The search for a name stops at the first game of that name. -/
theorem find?_isNamed_eq_some_iff :
    games.find? (isNamed name) = some first ↔
      ∃ before after, FirstNamed name before first after games := by
  rw [List.find?_eq_some_iff_append]
  constructor
  · rintro ⟨hnamed, before, after, hgames, hbefore⟩
    refine ⟨before, after, hgames, hnamed, ?_⟩
    intro other hother
    simpa using hbefore other hother
  · rintro ⟨before, after, hgames, hnamed, hbefore⟩
    refine ⟨hnamed, before, after, hgames, ?_⟩
    intro other hother
    simp [hbefore other hother]

/-- No game of the list goes by the name. -/
def Unnamed (name : Text) (games : List Game) : Prop :=
  ∀ game ∈ games, isNamed name game = false

instance (name : Text) (games : List Game) : Decidable (Unnamed name games) :=
  inferInstanceAs (Decidable (∀ game ∈ games, isNamed name game = false))

theorem find?_isNamed_eq_none_iff : games.find? (isNamed name) = none ↔ Unnamed name games := by
  simp [Unnamed]

theorem unnamed_or_exists_firstNamed (name : Text) (games : List Game) :
    Unnamed name games ∨ ∃ before first after, FirstNamed name before first after games := by
  cases hfind : games.find? (isNamed name) with
  | none => exact Or.inl (find?_isNamed_eq_none_iff.1 hfind)
  | some first =>
      rcases find?_isNamed_eq_some_iff.1 hfind with ⟨before, after, h⟩
      exact Or.inr ⟨before, first, after, h⟩

theorem exists_firstNamed (hgame : game ∈ games) (hname : isNamed name game = true) :
    ∃ before first after, FirstNamed name before first after games := by
  rcases unnamed_or_exists_firstNamed name games with hunnamed | hfirst
  · rw [hunnamed game hgame] at hname
    cases hname
  · exact hfirst

theorem FirstNamed.findIdx? (h : FirstNamed name before first after games) :
    games.findIdx? (isNamed name) = some before.length := by
  have hbefore : before.findIdx? (isNamed name) = none :=
    List.findIdx?_eq_none_iff.2 h.not_named
  rw [h.games_eq, List.findIdx?_append, hbefore, List.findIdx?_cons]
  simp [h.named]

theorem FirstNamed.eraseIdx (h : FirstNamed name before first after games) :
    games.eraseIdx before.length = before ++ after := by
  rw [h.games_eq]
  simp [List.eraseIdx_append_of_length_le]

/-! ## Addition and removal -/

theorem add_of_firstNamed {view : List Game} (htrim : name.trim = name)
    (h : FirstNamed name before first after view) :
    plan.add name view = .ok (plan.append [first]) := by
  rw [add, chosen, htrim, find?_isNamed_eq_some_iff.2 ⟨before, after, h⟩]
  rfl

theorem remove_of_all (h : name.trim.sameIgnoringAsciiCase "all".toList = true) :
    plan.remove name = .ok ⟨empty, plan.size⟩ := by
  have hselector : Selector.parse name.trim = .all := by
    rwa [Selector.parse_eq_all_iff, Text.trim_trim]
  simp only [remove, hselector, ↓reduceIte]

theorem parse_trim_ne_all (h : name.trim.sameIgnoringAsciiCase "all".toList = false) :
    Selector.parse name.trim ≠ .all := by
  rw [ne_eq, Selector.parse_eq_all_iff, Text.trim_trim, h]
  exact Bool.false_ne_true

/-- The name is found, so its reading as digits or a range is never looked at. -/
theorem remove_of_firstNamed_trim {text : Text}
    (hall : text.trim.sameIgnoringAsciiCase "all".toList = false)
    (h : FirstNamed text.trim before first after plan.games) :
    plan.remove text = .ok ⟨⟨before ++ after⟩, 1⟩ := by
  simp only [remove, parse_trim_ne_all hall, ↓reduceIte, h.findIdx?, h.eraseIdx]

theorem remove_of_firstNamed (htrim : name.trim = name)
    (hall : name.sameIgnoringAsciiCase "all".toList = false)
    (h : FirstNamed name before first after plan.games) :
    plan.remove name = .ok ⟨⟨before ++ after⟩, 1⟩ :=
  remove_of_firstNamed_trim (by rwa [htrim]) (by rwa [htrim])

theorem append_singleton_cases (plan : Plan) (game : Game) :
    (game.among plan.games = true ∧ plan.append [game] = ⟨plan, 0⟩) ∨
      (game.among plan.games = false ∧ plan.append [game] = ⟨⟨plan.games ++ [game]⟩, 1⟩) := by
  cases hamong : game.among plan.games with
  | true => exact Or.inl ⟨rfl, by simp [append, Game.fresh, hamong]⟩
  | false => exact Or.inr ⟨rfl, by simp [append, Game.fresh, hamong]⟩

theorem among_append_singleton (plan : Plan) (game : Game) :
    game.among (plan.append [game]).plan.games = true := by
  rcases append_singleton_cases plan game with ⟨hamong, happend⟩ | ⟨-, happend⟩
  · rw [happend]
    exact hamong
  · rw [happend]
    simp [Game.among]

/-- A loaded game can be addressed by its name.  Adding the name from a view with the game takes the
first game of that name and leaves the plan as it is if it has this one.  Removing the name takes
the first game of that name from a plan with the game, unless the name is `all`, which empties the
plan. -/
theorem add_and_remove_by_name {bytes : Bytes} (hload : Table.load bytes = .ok games)
    (hgame : game ∈ games) :
    (∀ (plan : Plan) (view : List Game), game ∈ view →
      ∃ before first after change, FirstNamed game.name before first after view ∧
        plan.add game.name view = .ok change ∧ first.among change.plan.games = true ∧
        (first.among plan.games = true ∧ change = ⟨plan, 0⟩ ∨
          first.among plan.games = false ∧ change = ⟨⟨plan.games ++ [first]⟩, 1⟩)) ∧
    (∀ plan : Plan, game ∈ plan.games → game.name.sameIgnoringAsciiCase "all".toList = false →
      ∃ before first after, FirstNamed game.name before first after plan.games ∧
        plan.remove game.name = .ok ⟨⟨before ++ after⟩, 1⟩) ∧
    (∀ plan : Plan, game.name.sameIgnoringAsciiCase "all".toList = true →
      plan.remove game.name = .ok ⟨empty, plan.size⟩) := by
  have htrim : game.name.trim = game.name := Table.trim_name_of_load hload hgame
  have hself : isNamed game.name game = true := Text.sameIgnoringCase_self game.name
  refine ⟨?_, ?_, ?_⟩
  · intro plan view hview
    rcases exists_firstNamed hview hself with ⟨before, first, after, hfirst⟩
    exact ⟨before, first, after, plan.append [first], hfirst, add_of_firstNamed htrim hfirst,
      among_append_singleton plan first, append_singleton_cases plan first⟩
  · intro plan hplan hall
    rcases exists_firstNamed hplan hself with ⟨before, first, after, hfirst⟩
    exact ⟨before, first, after, hfirst, remove_of_firstNamed htrim hall hfirst⟩
  · intro plan hall
    exact remove_of_all (by rwa [htrim])

/-- A name that reads as a range beyond the view. -/
theorem add_and_remove_by_name_range :
    let go : Game := ⟨"Go".toList, 1, 2, 2, 30, 180, ⟨0⟩, 23, ⟨0⟩, -2200⟩
    let range : Game := ⟨"2-6".toList, 2, 2, 6, 20, 30, ⟨0⟩, 90, ⟨0⟩, 1999⟩
    let bytes := Utf8.encode (Table.header ++ "Go,1,2,2,30,180,0,23,0,-2200\n".toList ++
      "\" 2-6 \",2,2,6,20,30,0,90,0,1999\n".toList)
    let plan : Plan := ⟨[go, range]⟩
    Table.load bytes = .ok [go, range] ∧
      (∃ change, empty.add "2-6".toList [go, range] = .ok change ∧ change.count = 1) ∧
      ∃ change, plan.remove "2-6".toList = .ok change ∧ change.count = 1 := by
  intro go range bytes plan
  have hload : Table.load bytes = .ok [go, range] := by decide +kernel
  have hrange : range ∈ [go, range] := by simp
  rcases add_and_remove_by_name hload hrange with ⟨hadd, hremove, -⟩
  refine ⟨hload, ?_, ?_⟩
  · rcases hadd empty [go, range] hrange with
      ⟨before, first, after, change, -, hchange, -, hold | hnew⟩
    · -- The empty plan has no game.
      cases hold.1
    · exact ⟨change, hchange, by rw [hnew.2]⟩
  · rcases hremove plan hrange (by decide) with ⟨before, first, after, -, hchange⟩
    exact ⟨_, hchange, rfl⟩

end Plan
end GameShelf
